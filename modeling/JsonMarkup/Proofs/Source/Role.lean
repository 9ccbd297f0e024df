import JsonMarkup.Render.Step

/-!
# Roles of positions

What becomes of a position of a document depends on what its value is wanted for. The top of a
document and the entries of lists are fragments, tags have contents, and the rest are attributes and
properties of styles. Below a fragment and a content the keys of mappings are tags, each at a depth
that the document alone decides.
-/

namespace JsonMarkup

/-- What the value of a position is wanted for. -/
inductive Role where
  /-- It is a document, or an entry of a list, that stands below `depth` elements. -/
  | fragment (depth : Nat)
  /-- It is the content of a tag that stands below `depth` elements. -/
  | content (depth : Nat)
  | attribute (name : String)
  /-- It is a property of a style. -/
  | property

/-- An entry with this tag stands below `depth` elements in a position, if all tags are let
through. -/
inductive Occurs (tag : String) (depth : Nat) : Role → Source → Prop
  | settled {role : Role} {label : Option String} {yields : Nat} {s : Source} :
    Occurs tag depth role s → Occurs tag depth role (.pending (.deferred label yields s))
  | entry {entries : List (String × Source)} {s : Source} : (tag, s) ∈ entries →
    Occurs tag depth (.fragment depth) (.mapping entries)
  | underEntry {k : Nat} {entries : List (String × Source)} {key : String} {s : Source} :
    (key, s) ∈ entries → Occurs tag depth (.content k) s →
    Occurs tag depth (.fragment k) (.mapping entries)
  | underItem {k : Nat} {items : List Source} {s : Source} : s ∈ items →
    Occurs tag depth (.fragment (k + 1)) s → Occurs tag depth (.content k) (.list items)
  | child {k : Nat} {entries : List (String × Source)} {s : Source} : (tag, s) ∈ entries →
    Render.attributeName? tag = none → depth = k + 1 →
    Occurs tag depth (.content k) (.mapping entries)
  | underChild {k : Nat} {entries : List (String × Source)} {key : String} {s : Source} :
    (key, s) ∈ entries → Render.attributeName? key = none → Occurs tag depth (.content (k + 1)) s →
    Occurs tag depth (.content k) (.mapping entries)

/-- How many elements the tag stands below that a key of a mapping names, if it names a tag. -/
def Role.tagDepth? (key : String) : Role → Option Nat
  | .fragment depth => some depth
  | .content depth => if Render.attributeName? key = none then some (depth + 1) else none
  | .attribute _ | .property => none

/-- The role of a position that is wanted within `depth` elements. -/
def Render.Goal.role (depth : Nat) : Render.Goal → Role
  | .document => .fragment 0
  | .item _ _ => .fragment (depth + 1)
  | .content _ => .content depth
  | .namedValue _ name _ => .attribute name
  | .property _ _ _ _ => .property

end JsonMarkup
