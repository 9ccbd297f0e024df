import JsonMarkup.Render.Stream

/-!
# Sessions

A session is a stream together with the gates of its document that can still be decided. Gates are
known by name; a name that is given to a new gate is taken from the old one, which is thereby
cancelled. Each gate can be decided once.
-/

namespace JsonMarkup.Render

/-- Gates that can still be decided, by name. -/
structure Gates where
  held : List (String × Nat) := []
  next : Nat := 0

instance : Inhabited Gates := ⟨{}⟩

namespace Gates

def find? (g : Gates) (name : String) : Option Nat := findField? name g.held

/-- Give up the gate of a name. -/
def release (g : Gates) (name : String) : Gates :=
  { g with held := g.held.filter fun e => e.1 != name }

/-- Make a gate: its number, and the gate that had the name before. -/
def create (g : Gates) (name : String) : Nat × Option Nat × Gates :=
  (g.next, g.find? name, { held := (name, g.next) :: (g.release name).held, next := g.next + 1 })

end Gates

/-- The decision that a gate gets that nobody can decide any more. -/
def cancelled : Decision := .error cancelledReason

def cancelIn (gates : List Nat) (s : Source) : Source :=
  gates.foldl (fun s gate => s.decide gate cancelled) s

/-- A stream and the gates that can still be decided. -/
structure Session where
  stream : Stream
  gates : Gates
  /-- What happened so far, last event first. -/
  happened : List Event

/-- What becomes of a decision. -/
inductive Delivery where
  | sent
  | dropped
  /-- There is no such gate, or it was decided before. -/
  | unknown
deriving DecidableEq, Repr

def Delivery.text : Delivery → String
  | .sent => "sent"
  | .dropped => "gate dropped"
  | .unknown => "no such gate"

namespace Session

/-- The session of a document with its gates. -/
def ofSource (policy : Policy) (source : Source) (gates : Gates) : Session :=
  ⟨.ofSource policy source, gates, []⟩

def poll (s : Session) : Answer × Session :=
  let p := s.stream.poll
  (p.answer,
    { s with
      stream := { s.stream with state := p.state }
      happened := p.events.reverse ++ s.happened })

def log (s : Session) : List String := logLines s.happened.reverse

/-- Give up the gate of a name, and say which it was. -/
def take (s : Session) (name : String) : Option Nat × Session :=
  (s.gates.find? name, { s with gates := s.gates.release name })

/-- Take over the gates after a new document has been made, in which `replaced` lost their
names. -/
def adopt (s : Session) (gates : Gates) (replaced : List Nat) : Session :=
  { s with
    gates
    stream := replaced.foldl (fun stream gate => stream.decide gate cancelled) s.stream }

/-- Decide a gate that has been given up. -/
def deliver (s : Session) (gate : Option Nat) (d : Decision) : Delivery × Session :=
  match gate with
  | none => (.unknown, s)
  | some gate =>
    if s.stream.mentions gate then (.sent, { s with stream := s.stream.decide gate d })
    else (.dropped, s)

/-- Let a gate fail with a reason. -/
def reject (s : Session) (name reason : String) : Delivery × Session :=
  let (gate, s) := s.take name
  s.deliver gate (.error reason)

/-- Cancel a gate, and say whether it could still be decided. -/
def cancel (s : Session) (name : String) : Bool × Session :=
  let (gate, s) := s.take name
  (gate.isSome, (s.deliver gate cancelled).2)

end Session

end JsonMarkup.Render
