import JsonMarkup.Node.Basic
import JsonMarkup.Source.Pending

/-!
# State of a rendering

A rendering walks a document depth-first, left to right. It can be left at any point and taken up
again, so all that it still has to do is data: the elements that are open, innermost first, with
what is still to come in each, and what the walk is about to do next.
-/

namespace JsonMarkup.Render

/-- An element that is open, and what is still to come in it. -/
inductive Frame where
  /-- Its content is a list: the entries left of the fragment that is being rendered, and the
  fragments after it. -/
  | spread (element : Element) (entries : List (String × Source)) (items : List Source)
  | members (element : Element) (entries : List (String × Source))

/-- What surrounds the point where the walk is. -/
structure Around where
  /-- The elements that are open, innermost first. -/
  frames : List Frame
  /-- The entries of the document that are still to come. -/
  rest : List (String × Source)

def Around.depth (a : Around) : Nat := a.frames.length

/-- What a value is wanted for. -/
inductive Goal where
  | document
  /-- It is an entry of a list that is the content of `element`; the entries after it. -/
  | item (element : Element) (items : List Source)
  | content (tag : String)
  /-- It is an attribute of `element`, whose content is a mapping; the entries after it. -/
  | namedValue (element : Element) (name : String) (entries : List (String × Source))
  /-- It is a property of the style of `element`; the properties after it, and the entries of the
  element after the style. -/
  | property (element : Element) (name : String) (more : List (String × Source))
      (entries : List (String × Source))

/-- State of a rendering between two steps. -/
inductive State where
  | resolving (goal : Goal) (source : Source) (around : Around)
  /-- A pending value has been started and has not settled. -/
  | awaiting (goal : Goal) (value : Pending) (around : Around)
  | next (around : Around)
  | finished

instance : Inhabited State := ⟨.finished⟩

/-- State of a rendering of a document that has not begun. -/
def State.start (source : Source) : State := .resolving .document source ⟨[], []⟩

def State.isFinished : State → Bool
  | .finished => true
  | _ => false

/-- The gate that the walk waits for. -/
def State.blockedOn? : State → Option Nat
  | .awaiting _ (.gate id) _ => some id
  | _ => none

/-! ## Gates in a state -/

/-- Decide a gate in an open element. -/
def Frame.decide (gate : Nat) (d : Decision) : Frame → Frame
  | .spread element entries items =>
    .spread element (decideEntries gate d entries) (decideItems gate d items)
  | .members element entries => .members element (decideEntries gate d entries)

/-- Decide a gate in what surrounds the walk. -/
def Around.decide (gate : Nat) (d : Decision) (a : Around) : Around :=
  ⟨a.frames.map (·.decide gate d), decideEntries gate d a.rest⟩

/-- Decide a gate in what is still to come after a wanted value. -/
def Goal.decide (gate : Nat) (d : Decision) : Goal → Goal
  | .document => .document
  | .item element items => .item element (decideItems gate d items)
  | .content tag => .content tag
  | .namedValue element name entries => .namedValue element name (decideEntries gate d entries)
  | .property element name more entries =>
    .property element name (decideEntries gate d more) (decideEntries gate d entries)

/-- Decide a gate wherever it stands in what is left to do. -/
def State.decide (gate : Nat) (d : Decision) : State → State
  | .resolving goal source around =>
    .resolving (goal.decide gate d) (source.decide gate d) (around.decide gate d)
  | .awaiting goal value around =>
    .awaiting (goal.decide gate d) (value.decide gate d) (around.decide gate d)
  | .next around => .next (around.decide gate d)
  | .finished => .finished

/-- The gate stands in an open element. -/
def Frame.mentions (gate : Nat) : Frame → Bool
  | .spread _ entries items => entriesMention gate entries || itemsMention gate items
  | .members _ entries => entriesMention gate entries

/-- The gate stands in what surrounds the walk. -/
def Around.mentions (gate : Nat) (a : Around) : Bool :=
  a.frames.any (·.mentions gate) || entriesMention gate a.rest

/-- The gate stands in what is still to come after a wanted value. -/
def Goal.mentions (gate : Nat) : Goal → Bool
  | .document | .content _ => false
  | .item _ items => itemsMention gate items
  | .namedValue _ _ entries => entriesMention gate entries
  | .property _ _ more entries => entriesMention gate more || entriesMention gate entries

/-- The gate stands somewhere in what is left to do. -/
def State.mentions (gate : Nat) : State → Bool
  | .resolving goal source around =>
    goal.mentions gate || source.mentions gate || around.mentions gate
  | .awaiting goal value around =>
    goal.mentions gate || value.mentions gate || around.mentions gate
  | .next around => around.mentions gate
  | .finished => false

/-! ## How much is left -/

/-- A bound on the work left in an open element. -/
def Frame.weight : Frame → Nat
  | .spread _ entries items => entriesWeight entries + itemsWeight items + 1
  | .members _ entries => entriesWeight entries + 1

/-- A bound on the work left in open elements. -/
def framesWeight : List Frame → Nat
  | [] => 0
  | f :: rest => f.weight + framesWeight rest

/-- A bound on the work left around the walk. -/
def Around.weight (a : Around) : Nat := framesWeight a.frames + entriesWeight a.rest

/-- A bound on the work left after a wanted value. -/
def Goal.weight : Goal → Nat
  | .document | .content _ => 0
  | .item _ items => itemsWeight items + 1
  | .namedValue _ _ entries => entriesWeight entries + 1
  | .property _ _ more entries => entriesWeight more + entriesWeight entries + 1

def State.weight : State → Nat
  | .resolving goal source around => goal.weight + source.weight + around.weight + 1
  | .awaiting goal value around => goal.weight + value.weight + around.weight + 1
  | .next around => around.weight
  | .finished => 0

end JsonMarkup.Render
