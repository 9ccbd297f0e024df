import JsonMarkup.Node.Html

/-!
# Surfaces

A surface is a platform on which output nodes become real nodes: a state, and the few calls that
change it, each of which may fail. What a failing call has done to the state stays done.

`realize` builds one output node on a surface. `mountNodes` builds several, and only then puts them
in the place of the children of a target, so that the target is touched by a single call, the last
one.
-/

namespace JsonMarkup

/-- A platform with state `σ`, handles of nodes `ν` and of elements `η`, and failures `ε`. -/
structure Surface (σ ν η ε : Type) where
  createElement (tag : String) : EStateM ε σ η
  createTextNode (text : String) : EStateM ε σ ν
  /-- Replace the content of an element by a text. -/
  setTextContent (element : η) (text : String) : EStateM ε σ Unit
  setAttribute (element : η) (name value : String) : EStateM ε σ Unit
  /-- Replace the inline style of an element by raw text. -/
  setStyleText (element : η) (css : String) : EStateM ε σ Unit
  /-- Merge a property into the inline style of an element. -/
  setStyleProperty (element : η) (name value : String) : EStateM ε σ Unit
  /-- Put a node behind the children of an element. -/
  appendChild (parent : η) (child : ν) : EStateM ε σ Unit
  replaceChildren (target : η) (children : List ν) : EStateM ε σ Unit
  /-- The node that an element is; this cannot fail. -/
  intoNode (element : η) (state : σ) : ν × σ

namespace Surface

variable {σ ν η ε : Type}

def toNode (S : Surface σ ν η ε) (element : η) : EStateM ε σ ν := fun s =>
  let (node, s) := S.intoNode element s
  .ok node s

/-- Set attributes in order. -/
def setAttributes (S : Surface σ ν η ε) (element : η) : List (String × String) → EStateM ε σ Unit
  | [] => pure ()
  | (name, value) :: rest => do
    S.setAttribute element name value
    S.setAttributes element rest

/-- Merge style properties in order. -/
def setStyleProperties (S : Surface σ ν η ε) (element : η) :
    List (String × String) → EStateM ε σ Unit
  | [] => pure ()
  | (name, value) :: rest => do
    S.setStyleProperty element name value
    S.setStyleProperties element rest

/-- Assign raw style text, if there is some. -/
def setRawStyle (S : Surface σ ν η ε) (element : η) : Option String → EStateM ε σ Unit
  | none => pure ()
  | some css => S.setStyleText element css

mutual

/-- Build a node on a surface. An error node becomes an element in a conspicuous style. -/
def realize (S : Surface σ ν η ε) : Node → EStateM ε σ ν
  | .text content => S.createTextNode content
  | .error message => do
    let element ← S.createElement Node.errorTag
    S.setTextContent element message
    S.setStyleProperties element Node.errorStyle
    S.toNode element
  | .element tag attributes style children => do
    let element ← S.createElement tag
    S.setAttributes element attributes.toList
    S.setRawStyle element style.text
    S.setStyleProperties element style.properties.toList
    S.realizeChildren element children
    S.toNode element

/-- Build nodes one after the other, and put each behind the children of an element. -/
def realizeChildren (S : Surface σ ν η ε) (parent : η) : List Node → EStateM ε σ Unit
  | [] => pure ()
  | child :: rest => do
    let node ← S.realize child
    S.appendChild parent node
    S.realizeChildren parent rest

end

def realizeAll (S : Surface σ ν η ε) : List Node → EStateM ε σ (List ν)
  | [] => pure []
  | n :: rest => do
    let node ← S.realize n
    let nodes ← S.realizeAll rest
    return node :: nodes

/-- Build nodes, and put them in the place of the children of a target. -/
def mountNodes (S : Surface σ ν η ε) (target : η) (nodes : List Node) : EStateM ε σ Unit := do
  let children ← S.realizeAll nodes
  S.replaceChildren target children

end Surface

end JsonMarkup
