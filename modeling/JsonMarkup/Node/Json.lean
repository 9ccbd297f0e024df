import JsonMarkup.Json.Writer
import JsonMarkup.Node.Basic

/-!
# Output nodes as JSON

The JSON form of output nodes. An element names its parts only where there is something to name:
empty attributes, style and children are left out, and so are absent style text and an empty set of
properties.
-/

namespace JsonMarkup

def Fields.toJson (fs : Fields String) : Json :=
  .object (fs.toList.map fun f => (f.1, .string f.2))

/-- A member that is there only if the condition holds. -/
def memberIf (condition : Bool) (name : String) (value : Json) : List (String × Json) :=
  if condition then [(name, value)] else []

def Style.toJson (s : Style) : Json :=
  .object ((s.text.map fun t => ("text", Json.string t)).toList ++
    memberIf (!s.properties.isEmpty) "properties" s.properties.toJson)

/-- The members of an element whose children are given. -/
def elementMembers (tag : String) (attributes : Fields String) (style : Style)
    (children : List Json) : List (String × Json) :=
  ("tag", .string tag) ::
    (memberIf (!attributes.isEmpty) "attributes" attributes.toJson ++
      memberIf (!style.isEmpty) "style" style.toJson ++
      memberIf (!children.isEmpty) "children" (.array children))

namespace Node

mutual

def toJson : Node → Json
  | .text content => .object [("type", .string "text"), ("text", .string content)]
  | .error message => .object [("type", .string "error"), ("message", .string message)]
  | .element tag attributes style children =>
    .object (("type", .string "element") ::
      elementMembers tag attributes style (toJsonAll children))

def toJsonAll : List Node → List Json
  | [] => []
  | n :: rest => n.toJson :: toJsonAll rest

end

end Node

/-- The JSON form of an element by itself. -/
def Element.toJson (e : Element) : Json :=
  .object (elementMembers e.tag e.attributes e.style (Node.toJsonAll e.children.toList))

end JsonMarkup
