import JsonMarkup.Policy.Basic

/-!
# Why a fragment cannot be rendered

Each cause becomes an error node that carries its wording, in place of the smallest fragment that
owns it.
-/

namespace JsonMarkup

/-- Why a fragment of a document cannot be rendered. -/
inductive RenderError where
  /-- A document, or an entry of a list, is neither a text nor a mapping. -/
  | unsupportedShape (kind : String)
  /-- The value of a tag is a scalar other than a text. -/
  | unsupportedContent (tag kind : String)
  | forbidden (violation : Policy.Violation)
  | invalidTagName (tag : String)
  | badAttribute (name tag : String)
  | unresolved (reason : String)
deriving DecidableEq

def RenderError.message : RenderError → String
  | .unsupportedShape kind =>
    "Cannot render '" ++ kind ++ "'. Expected one of string or mapping"
  | .unsupportedContent tag kind =>
    "Cannot render '" ++ kind ++ "' as content of tag '" ++ tag ++ "'"
  | .forbidden violation => violation.message
  | .invalidTagName tag => "Tag '" ++ tag ++ "' is not a valid element name"
  | .badAttribute name tag =>
    "Attribute '" ++ name ++ "' could not be rendered on tag '" ++ tag ++ "'"
  | .unresolved reason => "Source could not be resolved: " ++ reason

/-- The failure behind a cause: the reason of a pending value that failed. -/
def RenderError.underlying? : RenderError → Option String
  | .unresolved reason => some reason
  | _ => none

end JsonMarkup
