import JsonMarkup.Fields
import JsonMarkup.Number.Basic

/-!
# JSON trees

A JSON document as a tree. Members of an object stand in document order, and a name may occur more
than once; `Json.collapse` is what remains when each repeated name keeps its first place and its
last value.
-/

namespace JsonMarkup

/-- A JSON document. -/
inductive Json where
  /-- The literal `null`. -/
  | null
  | boolean (value : Bool)
  | number (value : Number)
  | string (value : String)
  | array (items : List Json)
  | object (members : List (String × Json))

namespace Json

instance : Inhabited Json := ⟨.null⟩

def nat (n : Nat) : Json := .number (.integer n)

/-- Members of an object with each repeated name in its first place, with its last value. -/
def collapseMembers {α : Type} (members : List (String × α)) : List (String × α) :=
  (Fields.ofList members).toList

mutual

/-- Collapse the members of every object at every level. -/
def collapse : Json → Json
  | .array items => .array (collapseAll items)
  | .object members => .object (collapseMembers (collapseValues members))
  | j => j

def collapseAll : List Json → List Json
  | [] => []
  | j :: rest => j.collapse :: collapseAll rest

def collapseValues : List (String × Json) → List (String × Json)
  | [] => []
  | (name, j) :: rest => (name, j.collapse) :: collapseValues rest

end

end Json

end JsonMarkup
