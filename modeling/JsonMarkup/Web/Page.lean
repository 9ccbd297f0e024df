import JsonMarkup.Surface.Basic
import JsonMarkup.Web.Error

/-!
# Web pages

A page as far as rendering can tell: what it is asked for and told to do, in order, and what the
nodes are that it has handed out. Creating an element, setting an attribute or a style property and
appending a child may throw; such a call is recorded, and has no other effect if it throws.

A node stands in one place: where it is put, it leaves the place where it stood. How a page reads
what an element was told, such as letter case in names and declarations in a style, is left to it;
here an element is known by its tag and by what it was told, in order.

Only elements of HTML and SVG have an inline style. On others, style text becomes an attribute, and
a style property cannot be set.
-/

namespace JsonMarkup.Web

/-- What an element is, as far as style is concerned. -/
inductive ElementKind where
  | html
  | svg
  | plain
deriving DecidableEq, Repr

/-- An element that is in the page from the start. -/
structure Anchor where
  id : String
  tag : String
  kind : ElementKind
deriving DecidableEq, Repr

/-- What there is before anything is rendered. -/
structure Setting where
  hasWindow : Bool := true
  hasDocument : Bool := true
  anchors : List Anchor := []
  /-- Kinds of elements that are created with certain tags; all others are of HTML. -/
  kinds : List (String × ElementKind) := []

/-- An element that the page has handed out. -/
structure Element where
  number : Nat
  tag : String
  kind : ElementKind
  id : String
deriving DecidableEq, Repr

/-- The name that an element gives as its own: in capitals for an element of HTML. -/
def Element.tagName (e : Element) : String :=
  if e.kind = .html then e.tag.toUpper else e.tag

def Element.hasStyle (e : Element) : Bool := e.kind != .plain

/-- A node that the page has handed out. -/
structure Node where
  number : Nat
deriving DecidableEq, Repr

/-- What a page is asked for or told to do. -/
inductive Call where
  | getElementById (id : String)
  | createElement (tag : String)
  | createTextNode (text : String)
  /-- Replace the content of an element by a text. -/
  | setTextContent (element : Nat) (text : String)
  | setAttribute (element : Nat) (name value : String)
  | setStyleText (element : Nat) (css : String)
  | setStyleProperty (element : Nat) (name value : String)
  | appendChild (parent child : Nat)
  | replaceChildren (element : Nat) (children : List Nat)
deriving DecidableEq, Repr

/-! ## Nodes -/

/-- Something that an element was told about itself. -/
inductive Trait where
  | attribute (name value : String)
  | styleText (css : String)
  | styleProperty (name value : String)
deriving DecidableEq, Repr

/-- Something that stands in an element. -/
inductive Item where
  | node (number : Nat)
  | text (content : String)
  /-- Whatever stood in an element of the page from the start. -/
  | initial
deriving DecidableEq, Repr

/-- What a node is. -/
inductive Held where
  | text (content : String)
  | element (tag : String) (traits : List Trait) (items : List Item)
deriving DecidableEq, Repr

namespace Held

/-- Tell an element something about itself. -/
def tell (trait : Trait) : Held → Held
  | .element tag traits items => .element tag (traits ++ [trait]) items
  | h => h

/-- Change what stands in an element. -/
def fill (f : List Item → List Item) : Held → Held
  | .element tag traits items => .element tag traits (f items)
  | h => h

/-- Without these nodes in it. -/
def without (numbers : List Nat) : Held → Held :=
  fill fun items => items.filter fun item => !(numbers.map .node).contains item

end Held

/-! ## Pages -/

/-- A page. -/
structure Page where
  setting : Setting
  found : List (String × Element) := []
  /-- The nodes that were handed out, in order. -/
  nodes : Array Held := #[]
  /-- What the page was asked for and told to do, last call first. -/
  calls : List Call := []
  /-- What to throw, and after how many calls that could have thrown. -/
  trap : Option (Nat × Thrown) := none

namespace Page

/-- Something done to a page. -/
abbrev Action (α : Type) := EStateM Error Page α

def record (call : Call) : Action Unit := fun p => .ok () { p with calls := call :: p.calls }

/-- Write down a call that may throw. -/
def attempt (call : Call) : Action Unit := fun p =>
  let p := { p with calls := call :: p.calls }
  match p.trap with
  | none => .ok () p
  | some (0, v) => .error (.ofThrown v) { p with trap := none }
  | some (n + 1, v) => .ok () { p with trap := some (n, v) }

def handOut (h : Held) : Action Nat := fun p =>
  .ok p.nodes.size { p with nodes := p.nodes.push h }

def change (k : Nat) (f : Held → Held) : Action Unit :=
  modify fun p => { p with nodes := p.nodes.modify k f }

/-- Take nodes out of the places where they stand. -/
def takeOut (numbers : List Nat) : Action Unit :=
  modify fun p => { p with nodes := p.nodes.map (·.without numbers) }

/-- Find an element by its id. An element has one number, however often it is found. -/
def getElementById (id : String) : Action (Option Element) := do
  record (.getElementById id)
  let p ← get
  match findField? id p.found with
  | some e => return some e
  | none =>
    match p.setting.anchors.find? (·.id = id) with
    | none => return none
    | some a =>
      let e : Element := ⟨← handOut (.element a.tag [] [.initial]), a.tag, a.kind, id⟩
      modify fun p => { p with found := (id, e) :: p.found }
      return some e

/-- Kind of the elements that are created with a tag. -/
def kindOf (p : Page) (tag : String) : ElementKind := (findField? tag p.setting.kinds).getD .html

def createElement (tag : String) : Action Element := do
  attempt (.createElement tag)
  let p ← get
  return ⟨← handOut (.element tag [] []), tag, p.kindOf tag, ""⟩

def createTextNode (text : String) : Action Node := do
  record (.createTextNode text)
  return ⟨← handOut (.text text)⟩

/-- Replace what stands in an element by a text. -/
def setTextContent (e : Element) (text : String) : Action Unit := do
  record (.setTextContent e.number text)
  change e.number (.fill fun _ => if text = "" then [] else [.text text])

def setAttribute (e : Element) (name value : String) : Action Unit := do
  attempt (.setAttribute e.number name value)
  change e.number (.tell (.attribute name value))

/-- Assign the style text of an element. -/
def setStyleText (e : Element) (css : String) : Action Unit :=
  if e.hasStyle then do
    record (.setStyleText e.number css)
    change e.number (.tell (.styleText css))
  else setAttribute e "style" css

/-- Set a style property of an element. -/
def setStyleProperty (e : Element) (name value : String) : Action Unit :=
  if e.hasStyle then do
    attempt (.setStyleProperty e.number name value)
    change e.number (.tell (.styleProperty name value))
  else throw (.exception ("<" ++ e.tagName ++ "> has no inline style"))

/-- Put a node behind what stands in an element. -/
def appendChild (e : Element) (child : Node) : Action Unit := do
  attempt (.appendChild e.number child.number)
  takeOut [child.number]
  change e.number (.fill (· ++ [.node child.number]))

/-- Replace what stands in an element by nodes. -/
def replaceChildren (e : Element) (children : List Node) : Action Unit := do
  let numbers := children.map (·.number)
  record (.replaceChildren e.number numbers)
  takeOut numbers
  change e.number (.fill fun _ => numbers.map .node)

def surface : Surface Page Node Element Error where
  createElement := createElement
  createTextNode := createTextNode
  setTextContent := setTextContent
  setAttribute := setAttribute
  setStyleText := setStyleText
  setStyleProperty := setStyleProperty
  appendChild := appendChild
  replaceChildren := replaceChildren
  intoNode e p := (⟨e.number⟩, p)

/-- The element of the page that documents are to be shown in. -/
def root (id : String) : Action Element := do
  let p ← get
  if !p.setting.hasWindow || !p.setting.hasDocument then throw .domUnavailable
  match ← getElementById id with
  | some e => return e
  | none => throw (.rootNotFound id)

end Page

end JsonMarkup.Web
