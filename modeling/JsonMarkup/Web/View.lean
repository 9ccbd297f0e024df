import JsonMarkup.Policy.Json
import JsonMarkup.Surface.Mount
import JsonMarkup.Web.Page

/-!
# Views

A view is an element of a page together with the policy under which documents are shown in it. Each
document that is shown replaces the one before in a single call; if anything fails on the way, the
element keeps its children and the view its policy.
-/

namespace JsonMarkup.Web

/-- An element of a page in which documents are shown. -/
structure View where
  root : Element
  policy : Policy

namespace View

/-- A view of the element with an id. -/
def build (id : String) (policy : Policy) : Page.Action View := do
  return ⟨← Page.root id, policy⟩

def new (id : String) : Page.Action View := build id .standard

def replacePolicy (v : View) (policy : Policy) : View := { v with policy }

/-- Show documents under a policy that is given as JSON. Levels below `depthBound` are taken, though
a browser, with words of 32 bits, takes none from `2 ^ 32` on. -/
def setPolicy (v : View) (text : String) : Except Error View :=
  match Policy.read text with
  | .ok policy => .ok (v.replacePolicy policy)
  | .error e => .error (.invalidDocument e.message)

/-- Begin to show a document. -/
def mount (v : View) (source : Source) : Mount Element := .start v.policy v.root source

/-- Show a document that is given as JSON. Nothing can be waited for. -/
def renderJson (v : View) (text : String) : Page.Action Unit :=
  match Source.read text with
  | .error e => throw (.invalidDocument e.message)
  | .ok source => do
    match ← (v.mount source).poll Page.surface with
    | none => return ()
    | some _ => throw .pending

end View

end JsonMarkup.Web
