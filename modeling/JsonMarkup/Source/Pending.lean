import JsonMarkup.Event
import JsonMarkup.Source.Basic

/-!
# Settling

Deciding a gate puts its outcome in its place, wherever it stands in a document; a gate that stands
nowhere any more has been discarded. `Source.resolve` waits until a position holds a value.
-/

namespace JsonMarkup

/-- Reason with which a gate fails that nobody can decide any more. -/
def cancelledReason : String := "cancelled"

def Pending.label : Pending → Option String
  | .deferred label _ _ => label
  | .failing label _ _ => label
  | .gate _ => none

/-- How a decided gate is decided: a document, or a reason why there is none. -/
abbrev Decision := Except String Source

/-- What stands in the place of a decided gate: it settles as soon as it is polled. -/
def Decision.toPending : Decision → Pending
  | .ok s => .deferred none 0 s
  | .error reason => .failing none 0 reason

/-! ## Deciding a gate -/

mutual

def Source.decide (gate : Nat) (d : Decision) : Source → Source
  | .ready v => .ready (v.decide gate d)
  | .pending p => .pending (p.decide gate d)

/-- Decide a gate in a pending value. -/
def Pending.decide (gate : Nat) (d : Decision) : Pending → Pending
  | .deferred label yields outcome => .deferred label yields (outcome.decide gate d)
  | .failing label yields reason => .failing label yields reason
  | .gate id => if id = gate then d.toPending else .gate id

def Value.decide (gate : Nat) (d : Decision) : Value → Value
  | .mapping entries => .mapping (decideEntries gate d entries)
  | .list items => .list (decideItems gate d items)
  | v => v

/-- Decide a gate in the entries of a mapping. -/
def decideEntries (gate : Nat) (d : Decision) : List (String × Source) → List (String × Source)
  | [] => []
  | (key, s) :: rest => (key, s.decide gate d) :: decideEntries gate d rest

/-- Decide a gate in the entries of a list. -/
def decideItems (gate : Nat) (d : Decision) : List Source → List Source
  | [] => []
  | s :: rest => s.decide gate d :: decideItems gate d rest

end

/-- Decide a gate in what another one is decided with. -/
def Decision.decide (gate : Nat) (e : Decision) : Decision → Decision
  | .ok s => .ok (s.decide gate e)
  | .error reason => .error reason

theorem Decision.toPending_decide (gate : Nat) (e d : Decision) :
    (Decision.decide gate e d).toPending = d.toPending.decide gate e := by
  cases d <;> rfl

/-! ## Finding a gate -/

mutual

def Source.mentions (gate : Nat) : Source → Bool
  | .ready v => v.mentions gate
  | .pending p => p.mentions gate

/-- The gate stands in the pending value. -/
def Pending.mentions (gate : Nat) : Pending → Bool
  | .deferred _ _ outcome => outcome.mentions gate
  | .failing _ _ _ => false
  | .gate id => id == gate

def Value.mentions (gate : Nat) : Value → Bool
  | .mapping entries => entriesMention gate entries
  | .list items => itemsMention gate items
  | _ => false

/-- The gate stands in the entries of a mapping. -/
def entriesMention (gate : Nat) : List (String × Source) → Bool
  | [] => false
  | (_, s) :: rest => s.mentions gate || entriesMention gate rest

/-- The gate stands in the entries of a list. -/
def itemsMention (gate : Nat) : List Source → Bool
  | [] => false
  | s :: rest => s.mentions gate || itemsMention gate rest

end

/-! ## Waiting for a value -/

/-- How waiting for a value ends. -/
inductive Resolution where
  | value (value : Value)
  | failure (reason : String)
  /-- Not at all: a gate is in the way. -/
  | blocked (gate : Nat)

mutual

/-- Wait until a position holds a value, and say what happened meanwhile. -/
def Source.resolve : Source → List Event × Resolution
  | .ready v => ([], .value v)
  | .pending p =>
    let (events, r) := p.resolve
    (.started p.label :: events, r)

/-- Wait for a pending value that has been started. -/
def Pending.resolve : Pending → List Event × Resolution
  | .deferred label _ outcome =>
    let (events, r) := outcome.resolve
    (.settled label :: events, r)
  | .failing label _ reason => ([.failed label], .failure reason)
  | .gate id => ([], .blocked id)

end

def Pending.description : String := "Pending(PendingValue(..))"

/-! ## Size -/

mutual

/-- A bound on the work that a document can make. -/
def Source.weight : Source → Nat
  | .ready v => v.weight + 1
  | .pending p => p.weight + 1

/-- A bound on the work that a pending value can make. -/
def Pending.weight : Pending → Nat
  | .deferred _ yields outcome => yields + outcome.weight + 1
  | .failing _ yields _ => yields + 1
  | .gate _ => 1

/-- A bound on the work that a value can make. -/
def Value.weight : Value → Nat
  | .mapping entries => entriesWeight entries + 1
  | .list items => itemsWeight items + 1
  | _ => 1

/-- A bound on the work that the entries of a mapping can make. -/
def entriesWeight : List (String × Source) → Nat
  | [] => 0
  | (_, s) :: rest => s.weight + 2 + entriesWeight rest

/-- A bound on the work that the entries of a list can make. -/
def itemsWeight : List Source → Nat
  | [] => 0
  | s :: rest => s.weight + 2 + itemsWeight rest

end

end JsonMarkup
