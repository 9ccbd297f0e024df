import JsonMarkup.Css.Style

/-!
# Output nodes

What rendering produces: texts, elements, and error nodes, each of which stands visibly where a
fragment failed. `Node` is the finished tree; `Element` is an element that is still being put
together, and `Element.toNode` finishes it.
-/

namespace JsonMarkup

/-- An output node. -/
inductive Node where
  | text (content : String)
  /-- A diagnostic in place of a fragment that failed. -/
  | error (message : String)
  | element (tag : String) (attributes : Fields String) (style : Style) (children : List Node)

instance : Inhabited Node := ⟨.text ""⟩

/-- An element that is being put together. -/
structure Element where
  tag : String
  /-- Attributes, in first-set order. -/
  attributes : Fields String
  style : Style
  children : Array Node

namespace Element

/-- An element with nothing but its name. -/
def new (tag : String) : Element := ⟨tag, Fields.empty, Style.empty, #[]⟩

instance : Inhabited Element := ⟨new ""⟩

/-- Replace all children by a text; the empty text leaves none. -/
def setText (e : Element) (text : String) : Element :=
  { e with children := if text = "" then #[] else #[.text text] }

def setAttribute (e : Element) (name value : String) : Element :=
  { e with attributes := e.attributes.set name value }

def getAttribute? (e : Element) (name : String) : Option String := e.attributes.get? name

def append (e : Element) (child : Node) : Element :=
  { e with children := e.children.push child }

def toNode (e : Element) : Node := .element e.tag e.attributes e.style e.children.toList

end Element

namespace Node

/-- The node stands for a failed fragment. -/
def isError : Node → Bool
  | .error _ => true
  | _ => false

/-- The element that the node is, if it is one. -/
def asElement? : Node → Option Element
  | .element tag attributes style children => some ⟨tag, attributes, style, children.toArray⟩
  | _ => none

mutual

/-- All text of the node and below it; error nodes count with their message. -/
def textContent : Node → String
  | .text content => content
  | .error message => message
  | .element _ _ _ children => String.join (textContents children)

def textContents : List Node → List String
  | [] => []
  | n :: rest => n.textContent :: textContents rest

end

/-- Tag that an error node is shown as. -/
def errorTag : String := "div"

/-- Style that an error node is shown in. -/
def errorStyle : List (String × String) :=
  [("color", "yellow"), ("background", "red"), ("font-weight", "bold")]

end Node

end JsonMarkup
