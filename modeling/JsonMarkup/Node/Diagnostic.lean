import JsonMarkup.Node.Basic

/-!
# Diagnostics

The error nodes of a tree, in document order, each located by the tags of the elements it stands
in.
-/

namespace JsonMarkup

/-- An error node and where it stands. -/
structure Diagnostic where
  /-- Tags of the elements around it, the outermost first. -/
  ancestors : List String
  message : String
deriving DecidableEq

namespace Diagnostic

/-- The tags around it as one text. -/
def path (d : Diagnostic) : String := " > ".intercalate d.ancestors

/-- The diagnostic as a line; nothing stands in front of the message if the path is empty. -/
def text (d : Diagnostic) : String :=
  if d.path = "" then d.message else d.path ++ ": " ++ d.message

end Diagnostic

namespace Node

mutual

/-- The error nodes at and below a node that stands within `ancestors`. -/
def diagnosticsIn (ancestors : List String) : Node → List Diagnostic
  | .text _ => []
  | .error message => [⟨ancestors, message⟩]
  | .element tag _ _ children => diagnosticsInAll (ancestors ++ [tag]) children

/-- The error nodes at and below each of several siblings. -/
def diagnosticsInAll (ancestors : List String) : List Node → List Diagnostic
  | [] => []
  | n :: rest => diagnosticsIn ancestors n ++ diagnosticsInAll ancestors rest

end

/-- The error nodes at and below a node at the top level. -/
def diagnostics (n : Node) : List Diagnostic := diagnosticsIn [] n

end Node

end JsonMarkup
