import JsonMarkup.Surface.Basic

/-!
# Nodes in memory

A surface without a platform: nodes lie in an array of slots and are named by their place in it.
Slots are only ever added. A call that fails leaves the memory as it was.

Nothing keeps a node from being appended to several elements or to itself; `snapshot` follows the
children lists and says so if it would never come to an end.
-/

namespace JsonMarkup

/-- The name of a node in a memory. -/
structure NodeId where
  index : Nat
deriving DecidableEq, Repr

/-- A node in a memory. -/
inductive Slot where
  | text (content : String)
  | element (tag : String) (attributes : Fields String) (style : Style) (children : List NodeId)

instance : Inhabited Slot := ⟨.text ""⟩

/-- Nodes in memory. -/
structure Memory where
  /-- The nodes, in the order in which they were allocated. -/
  slots : Array Slot

namespace Memory

/-- Why a memory refuses a call. -/
inductive Error where
  | unknownNode (id : NodeId)
  /-- The node is a text where an element is wanted. -/
  | notAnElement (id : NodeId)
  | invalidName (name : String)
deriving DecidableEq

def nodeText (id : NodeId) : String := "node NodeId(" ++ Nat.repr id.index ++ ")"

def Error.message : Error → String
  | .unknownNode id => nodeText id ++ " does not exist"
  | .notAnElement id => nodeText id ++ " is not an element"
  | .invalidName name => "'" ++ name ++ "' is not a valid name"

def empty : Memory := ⟨#[]⟩

instance : Inhabited Memory := ⟨empty⟩

def size (m : Memory) : Nat := m.slots.size

def allocate (m : Memory) (slot : Slot) : NodeId × Memory := (⟨m.size⟩, ⟨m.slots.push slot⟩)

def slot (m : Memory) (id : NodeId) : Except Error Slot :=
  match m.slots[id.index]? with
  | some slot => .ok slot
  | none => .error (.unknownNode id)

def modify (m : Memory) (id : NodeId)
    (f : Fields String → Style → List NodeId → Fields String × Style × List NodeId) :
    Except Error Memory :=
  match m.slot id with
  | .error e => .error e
  | .ok (.text _) => .error (.notAnElement id)
  | .ok (.element tag attributes style children) =>
    let (attributes, style, children) := f attributes style children
    .ok ⟨m.slots.setIfInBounds id.index (.element tag attributes style children)⟩

def children (m : Memory) (id : NodeId) : Except Error (List NodeId) :=
  match m.slot id with
  | .error e => .error e
  | .ok (.text _) => .error (.notAnElement id)
  | .ok (.element _ _ _ children) => .ok children

/-! ## Calls -/

/-- Allocate an element; its tag is not looked at. -/
def createRoot (m : Memory) (tag : String) : NodeId × Memory :=
  m.allocate (.element tag Fields.empty Style.empty [])

def createElement (m : Memory) (tag : String) : Except Error (NodeId × Memory) :=
  if Text.isName tag then .ok (m.createRoot tag) else .error (.invalidName tag)

def createTextNode (m : Memory) (text : String) : NodeId × Memory := m.allocate (.text text)

/-- Replace the content of an element by a text, which is a new node unless it is empty. -/
def setTextContent (m : Memory) (id : NodeId) (text : String) : Except Error Memory :=
  match m.children id with
  | .error e => .error e
  | .ok _ =>
    if text = "" then m.modify id fun a s _ => (a, s, [])
    else
      let (child, m) := m.createTextNode text
      m.modify id fun a s _ => (a, s, [child])

/-- Set an attribute; its name is looked at before the element. -/
def setAttribute (m : Memory) (id : NodeId) (name value : String) : Except Error Memory :=
  if Text.isName name then m.modify id fun a s c => (a.set name value, s, c)
  else .error (.invalidName name)

/-- Replace the style of an element by raw text. -/
def setStyleText (m : Memory) (id : NodeId) (css : String) : Except Error Memory :=
  m.modify id fun a s c => (a, s.setText css, c)

def setStyleProperty (m : Memory) (id : NodeId) (name value : String) : Except Error Memory :=
  m.modify id fun a s c => (a, s.setProperty name value, c)

/-- Put a node behind the children of an element; the node is looked up before the element. -/
def appendChild (m : Memory) (parent child : NodeId) : Except Error Memory :=
  match m.slot child with
  | .error e => .error e
  | .ok _ => m.modify parent fun a s c => (a, s, c ++ [child])

/-- Look nodes up in order. -/
def checkAll (m : Memory) : List NodeId → Except Error Unit
  | [] => .ok ()
  | id :: rest =>
    match m.slot id with
    | .error e => .error e
    | .ok _ => m.checkAll rest

/-- Replace the children of an element; the nodes are looked up before the element. -/
def replaceChildren (m : Memory) (target : NodeId) (children : List NodeId) :
    Except Error Memory :=
  match m.checkAll children with
  | .error e => .error e
  | .ok () => m.modify target fun a s _ => (a, s, children)

/-! ## Snapshots -/

/-- Why there is no snapshot of a node. -/
inductive SnapshotError where
  | refused (error : Error)
  | endless

/-- The tree below a node, down to a number of levels. -/
def snapshotWithin (m : Memory) : Nat → NodeId → Except SnapshotError Node
  | 0, _ => .error .endless
  | levels + 1, id =>
    match m.slot id with
    | .error e => .error (.refused e)
    | .ok (.text content) => .ok (.text content)
    | .ok (.element tag attributes style children) =>
      match children.mapM (m.snapshotWithin levels) with
      | .error e => .error e
      | .ok children => .ok (.element tag attributes style children)

/-- The tree below a node. A chain of children that is longer than there are nodes comes back to
where it was. -/
def snapshot (m : Memory) (id : NodeId) : Except SnapshotError Node :=
  m.snapshotWithin (m.size + 1) id

/-! ## As a surface -/

/-- A call that changes nothing if it fails. -/
def call {α : Type} (f : Memory → Except Error (α × Memory)) : EStateM Error Memory α := fun m =>
  match f m with
  | .ok (a, m') => .ok a m'
  | .error e => .error e m

def update (f : Memory → Except Error Memory) : EStateM Error Memory Unit :=
  call fun m => (f m).map ((), ·)

def surface : Surface Memory NodeId NodeId Error where
  createElement tag := call (·.createElement tag)
  createTextNode text := call fun m => .ok (m.createTextNode text)
  setTextContent id text := update (·.setTextContent id text)
  setAttribute id name value := update (·.setAttribute id name value)
  setStyleText id css := update (·.setStyleText id css)
  setStyleProperty id name value := update (·.setStyleProperty id name value)
  appendChild parent child := update (·.appendChild parent child)
  replaceChildren target children := update (·.replaceChildren target children)
  intoNode id m := (id, m)

end Memory

end JsonMarkup
