import JsonMarkup.Node.Html
import JsonMarkup.Render.Progress

/-!
# Renderings as streams of nodes

A `Stream` yields the nodes of a rendering one at a time, whenever it is polled: a poll takes steps
until a node is finished, the end is reached, or a pending value is in the way. `Stream.collect`
polls until the end.

**Main statement.** `pollFrom_below`: a poll that does not end the stream leaves less to do, unless
the stream waits for a gate.
-/

namespace JsonMarkup.Render

/-- What a poll answers. -/
inductive Answer where
  | pending
  | node (node : Node)
  | ended

/-- What comes of a poll. -/
structure Polled where
  answer : Answer
  /-- What happened, in order. -/
  events : List Event
  state : State

/-- Take steps until there is an answer; `done` holds the events so far, last one first. -/
def pollFrom (policy : Policy) (done : List Event) (s : State) : Polled :=
  match h : step policy s with
  | ⟨events, .goOn s'⟩ =>
    have : s'.weight < s.weight := by
      have := step_below policy s
      rwa [h] at this
    pollFrom policy (events.reverse ++ done) s'
  | ⟨events, .suspend s'⟩ => ⟨.pending, (events.reverse ++ done).reverse, s'⟩
  | ⟨events, .yield node s'⟩ => ⟨.node node, (events.reverse ++ done).reverse, s'⟩
  | ⟨events, .stop⟩ => ⟨.ended, (events.reverse ++ done).reverse, .finished⟩
termination_by s.weight

/-- A poll begins with a step. -/
theorem pollFrom_eq (policy : Policy) (done : List Event) (s : State) :
    pollFrom policy done s =
      match step policy s with
      | ⟨events, .goOn s'⟩ => pollFrom policy (events.reverse ++ done) s'
      | ⟨events, .suspend s'⟩ => ⟨.pending, (events.reverse ++ done).reverse, s'⟩
      | ⟨events, .yield node s'⟩ => ⟨.node node, (events.reverse ++ done).reverse, s'⟩
      | ⟨events, .stop⟩ => ⟨.ended, (events.reverse ++ done).reverse, .finished⟩ := by
  rw [pollFrom]
  split <;> rename_i h <;> simp only [h]

/-- A poll leaves less than `n` to do; one that waits for a gate may leave everything. -/
def Polled.Below (n : Nat) (p : Polled) : Prop :=
  match p.answer with
  | .node _ => p.state.weight < n
  | .pending => p.state.weight < n ∨ p.state.blockedOn?.isSome
  | .ended => p.state.isFinished

/-- A poll that does not end the stream leaves less to do, unless the stream waits for a gate. -/
theorem pollFrom_below (policy : Policy) (done : List Event) (s : State) :
    (pollFrom policy done s).Below s.weight := by
  fun_induction pollFrom policy done s with
  | case1 done s events s' h hlt ih =>
    generalize pollFrom policy (events.reverse ++ done) s' = p at ih ⊢
    obtain ⟨answer, events, next⟩ := p
    cases answer with
    | pending => exact ih.imp (fun hw => Nat.lt_trans hw hlt) id
    | node n => exact Nat.lt_trans ih hlt
    | ended => exact ih
  | case2 done s events s' h =>
    have := step_below policy s
    rw [h] at this
    exact this
  | case3 done s events node s' h =>
    have := step_below policy s
    rw [h] at this
    exact this
  | case4 done s events h => rfl

/-- A stream of the nodes of a rendering. -/
structure Stream where
  policy : Policy
  state : State

namespace Stream

def ofSource (policy : Policy) (source : Source) : Stream := ⟨policy, .start source⟩

def poll (s : Stream) : Polled := pollFrom s.policy [] s.state

/-- Nothing will come any more, and nothing is left to do. -/
def isTerminated (s : Stream) : Bool := s.state.isFinished

def decide (s : Stream) (gate : Nat) (d : Decision) : Stream :=
  { s with state := s.state.decide gate d }

/-- A pending value that the gate stands for is still wanted. -/
def mentions (s : Stream) (gate : Nat) : Bool := s.state.mentions gate

def description (s : Stream) : String :=
  "RenderStream \x7b depth: 0, span: _, terminated: " ++
    (if s.isTerminated then "true" else "false") ++ ", .. \x7d"

end Stream

/-- The nodes of a rendering, and what happened. -/
structure Rendering where
  /-- The nodes, in order. -/
  nodes : List Node
  /-- What happened, in order. -/
  events : List Event
  /-- The gate that the rendering stopped at, if it did not reach the end. -/
  blockedOn? : Option Nat

/-- Poll until the end, or until a gate is in the way; `nodes` and `events` are those so far, last
one first. -/
def collectFrom (policy : Policy) (nodes : List Node) (events : List Event) (s : State) :
    Rendering :=
  match h : pollFrom policy [] s with
  | ⟨.node node, more, s'⟩ =>
    have : s'.weight < s.weight := by
      have := pollFrom_below policy [] s
      rwa [h] at this
    collectFrom policy (node :: nodes) (more.reverse ++ events) s'
  | ⟨.pending, more, s'⟩ =>
    if hb : s'.blockedOn?.isSome then
      ⟨nodes.reverse, (more.reverse ++ events).reverse, s'.blockedOn?⟩
    else
      have : s'.weight < s.weight := by
        have := pollFrom_below policy [] s
        rw [h] at this
        exact this.resolve_right hb
      collectFrom policy nodes (more.reverse ++ events) s'
  | ⟨.ended, more, _⟩ => ⟨nodes.reverse, (more.reverse ++ events).reverse, none⟩
termination_by s.weight

/-- Collecting begins with a poll. -/
theorem collectFrom_eq (policy : Policy) (nodes : List Node) (events : List Event) (s : State) :
    collectFrom policy nodes events s =
      match pollFrom policy [] s with
      | ⟨.node node, more, s'⟩ => collectFrom policy (node :: nodes) (more.reverse ++ events) s'
      | ⟨.pending, more, s'⟩ =>
        if s'.blockedOn?.isSome then
          ⟨nodes.reverse, (more.reverse ++ events).reverse, s'.blockedOn?⟩
        else collectFrom policy nodes (more.reverse ++ events) s'
      | ⟨.ended, more, _⟩ => ⟨nodes.reverse, (more.reverse ++ events).reverse, none⟩ := by
  rw [collectFrom]
  split <;> rename_i h <;> simp only [h]
  split <;> rfl

/-- Poll a stream until the end, or until a gate is in the way. -/
def Stream.collect (s : Stream) : Rendering := collectFrom s.policy [] [] s.state

def render (policy : Policy) (source : Source) : Rendering :=
  (Stream.ofSource policy source).collect

def renderNodes (policy : Policy) (source : Source) : List Node := (render policy source).nodes

def renderHtml (policy : Policy) (source : Source) : String :=
  String.join (Node.toHtmlAll (renderNodes policy source))

end JsonMarkup.Render
