import JsonMarkup.Render.Session

/-!
# Courses of a rendering

A course is a stream together with what has been done to it: polls, and gates that were settled,
rejected or cancelled, in any order. Each gate is decided once at most, since whoever decides it
gives it up; what comes later for the same gate has no effect. A gate may be decided before it
stands in the document: a document that is put in its place later brings it along as decided.

`Course.gather` polls as long as nodes come. Where it stops, the rendering has ended or has to wait.
-/

namespace JsonMarkup.Render

/-- What may be done to a stream. -/
inductive Move where
  | poll
  | settle (gate : Nat) (document : Source)
  | reject (gate : Nat) (reason : String)
  | cancel (gate : Nat)

/-- The gate that a move decides, and how. -/
def Move.decision? : Move → Option (Nat × Decision)
  | .poll => none
  | .settle gate document => some (gate, .ok document)
  | .reject gate reason => some (gate, .error reason)
  | .cancel gate => some (gate, cancelled)

def Answer.node? : Answer → Option Node
  | .node n => some n
  | _ => none

/-- A stream and what has been done to it. -/
structure Course where
  stream : Stream
  /-- The answers to the polls so far, in order. -/
  answers : List Answer
  /-- What happened so far, in order. -/
  events : List Event
  /-- The gates decided so far, the last one first, as they were put into the document. -/
  decided : List (Nat × Decision)

/-- A decision in which the gates that were decided before are decided. -/
def replay (decided : List (Nat × Decision)) (d : Decision) : Decision :=
  decided.foldr (fun e d => Decision.decide e.1 e.2 d) d

namespace Course

/-- The course of a rendering that nothing has been done to. -/
def start (policy : Policy) (source : Source) : Course := ⟨.ofSource policy source, [], [], []⟩

def nodes (c : Course) : List Node := c.answers.filterMap Answer.node?

/-- The gate that the walk waits for. -/
def waitsFor? (c : Course) : Option Nat := c.stream.state.blockedOn?

def poll (c : Course) : Course :=
  let p := c.stream.poll
  { c with
    stream := { c.stream with state := p.state }
    answers := c.answers ++ [p.answer]
    events := c.events ++ p.events }

/-- Decide a gate, unless it was decided before. -/
def decide (c : Course) (gate : Nat) (d : Decision) : Course :=
  if gate ∈ c.decided.map Prod.fst then c
  else
    let d := replay c.decided d
    { c with
      stream := c.stream.decide gate d
      decided := (gate, d) :: c.decided }

def move (c : Course) (m : Move) : Course :=
  match m.decision? with
  | none => c.poll
  | some (gate, d) => c.decide gate d

theorem last_poll (c : Course) : c.poll.answers.getLast? = some c.stream.poll.answer :=
  List.getLast?_concat

/-- The last poll has come to the end. -/
def hasEnded (c : Course) : Bool := c.answers.getLast? matches some .ended

theorem hasEnded_iff {c : Course} : c.hasEnded = true ↔ c.answers.getLast? = some .ended := by
  rw [hasEnded]
  split
  · rename_i last
    exact iff_of_true rfl last
  · rename_i other
    exact iff_of_false Bool.false_ne_true other

/-- What is left to do. -/
def weight (c : Course) : Nat := c.stream.state.weight

/-- A poll that yields a node leaves less to do. -/
theorem poll_below {c : Course} {n : Node} (h : c.stream.poll.answer = .node n) :
    c.poll.weight < c.weight := by
  have below : (pollFrom c.stream.policy [] c.stream.state).Below c.weight :=
    pollFrom_below c.stream.policy [] c.stream.state
  rw [Stream.poll] at h
  rwa [Polled.Below, h] at below

/-- Poll until no node comes. -/
def gather (c : Course) : Course :=
  match h : c.stream.poll.answer with
  | .node _ =>
    have := poll_below h
    c.poll.gather
  | _ => c.poll
termination_by c.weight

/-- Gathering that has to wait, but for no gate, leaves less to do. -/
theorem gather_below {c : Course} (going : c.gather.hasEnded = false)
    (free : c.gather.waitsFor? = none) : c.gather.weight < c.weight := by
  fun_induction gather c with
  | case1 c n h below ih => exact Nat.lt_trans (ih going free) below
  | case2 c h =>
    have below : (pollFrom c.stream.policy [] c.stream.state).Below c.weight :=
      pollFrom_below c.stream.policy [] c.stream.state
    have last := c.last_poll
    rw [Stream.poll] at h last
    rw [Polled.Below] at below
    cases answer : (pollFrom c.stream.policy [] c.stream.state).answer with
    | pending =>
      rw [answer] at below
      refine below.resolve_right fun blocked => ?_
      rw [Option.isSome_iff_ne_none] at blocked
      exact blocked free
    | node n => exact absurd answer (h n)
    | ended =>
      rw [answer] at last
      rw [hasEnded_iff.mpr last] at going
      cases going

end Course

/-- The course of a rendering after some moves. -/
def course (policy : Policy) (source : Source) (moves : List Move) : Course :=
  moves.foldl Course.move (.start policy source)

end JsonMarkup.Render
