/-!
# Failures in a web page

Why a document cannot be shown in a web page. Whatever the page itself throws is passed on as text.
-/

namespace JsonMarkup.Web

/-- Why a document cannot be shown in a web page. -/
inductive Error where
  /-- There is no window, or no page in it. -/
  | domUnavailable
  | rootNotFound (id : String)
  | invalidDocument (message : String)
  /-- A document that has to be shown at once has pending values. -/
  | pending
  | exception (text : String)
deriving DecidableEq, Repr

def Error.message : Error → String
  | .domUnavailable => "DOM is not available"
  | .rootNotFound id => "Failed to find DOM element with id `" ++ id ++ "`"
  | .invalidDocument message => "Invalid JSOML input: " ++ message
  | .pending => "JSOML source is still pending"
  | .exception text => "JavaScript error: " ++ text

/-- A value that the page throws. -/
inductive Thrown where
  | text (content : String)
  | object (content : String)
deriving DecidableEq, Repr

def Thrown.content : Thrown → String
  | .text s => s
  | .object s => "JsValue(" ++ s ++ ")"

/-- The failure that a thrown value amounts to. -/
def Error.ofThrown (v : Thrown) : Error := .exception v.content

end JsonMarkup.Web
