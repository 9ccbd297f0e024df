import JsonMarkup.Json.Reader

/-!
# Sources

A markup document is a JSON-shaped tree whose positions need not be known yet: a position holds a
value that can be looked at, or something that has to settle first. A *deferred* position settles by
itself after it has been polled some number of times, to a source that may again be unsettled; a
*failing* one fails in the same way; a *gate* waits for somebody to decide it.

Entries of a mapping are kept in order, and a key may occur more than once.
-/

namespace JsonMarkup

/-- Media type under which documents are delivered. -/
def mediaType : String := "application/json+jsoml"

mutual

/-- A position of a document. -/
inductive Source where
  | ready (value : Value)
  | pending (value : Pending)

/-- Something that has to settle before it can be looked at. -/
inductive Pending where
  /-- Settles to `outcome` after `yields` polls in vain. -/
  | deferred (label : Option String) (yields : Nat) (outcome : Source)
  /-- Fails with `reason` after `yields` polls in vain. -/
  | failing (label : Option String) (yields : Nat) (reason : String)
  /-- Waits until the gate of this number is decided. -/
  | gate (id : Nat)

/-- A value of a document. -/
inductive Value where
  | null
  | boolean (value : Bool)
  | number (value : Number)
  | text (value : String)
  /-- Entries under keys, in order. -/
  | mapping (entries : List (String × Source))
  /-- Entries in order. -/
  | list (items : List Source)

end

instance : Inhabited Value := ⟨.null⟩
instance : Inhabited Source := ⟨.ready .null⟩
instance : Inhabited Pending := ⟨.gate 0⟩

/-- Name of the shape of a value. -/
def Value.kind : Value → String
  | .null => "null"
  | .boolean _ => "boolean"
  | .number _ => "number"
  | .text _ => "string"
  | .mapping _ => "mapping"
  | .list _ => "list"

namespace Source

/-- A text that can be looked at now. -/
def text (s : String) : Source := .ready (.text s)

/-- A mapping that can be looked at now. -/
def mapping (entries : List (String × Source)) : Source := .ready (.mapping entries)

/-- A list that can be looked at now. -/
def list (items : List Source) : Source := .ready (.list items)

/-! ## From JSON -/

/-- The position that a scalar stands for. -/
def ofScalar : Json.Scalar → Source
  | .null => .ready .null
  | .boolean b => .ready (.boolean b)
  | .number n => .ready (.number n)
  | .string s => text s

/-- Build a document while its text is read. -/
def builder : Json.Builder Source := ⟨ofScalar, list, mapping⟩

/-- Read a document of any depth; repeated keys are kept as separate entries. -/
def read (text : String) : Except Json.Error Source := Json.readWith builder none text

mutual

/-- The document that a JSON tree stands for. -/
def ofJson : Json → Source
  | .null => .ready .null
  | .boolean b => .ready (.boolean b)
  | .number n => .ready (.number n)
  | .string s => text s
  | .array items => list (ofJsonItems items)
  | .object members => mapping (ofJsonMembers members)

def ofJsonItems : List Json → List Source
  | [] => []
  | j :: rest => ofJson j :: ofJsonItems rest

def ofJsonMembers : List (String × Json) → List (String × Source)
  | [] => []
  | (key, j) :: rest => (key, ofJson j) :: ofJsonMembers rest

end

end Source

end JsonMarkup
