import JsonMarkup.Render.Stream

/-!
# The nodes that are still to come

`State.remaining` is the list of nodes that a rendering has yet to yield. Steps, polls and whole
collections are all described by it: each takes off the front what it yields and leaves the rest.

**Main statements.** `remaining_step`, `nodes_collectFrom` and `renderNodes_eq_remaining`.
-/

namespace JsonMarkup.Render

/-- The nodes that come of an outcome, if `rest` says what comes of a state. -/
def Outcome.nodes (rest : State → List Node) : Outcome → List Node
  | .goOn s => rest s
  | .suspend s => rest s
  | .yield node s => node :: rest s
  | .stop => []

/-- The nodes that come of a poll, if `rest` says what comes of a state. -/
def Polled.nodes (rest : State → List Node) (p : Polled) : List Node :=
  match p.answer with
  | .pending => rest p.state
  | .node node => node :: rest p.state
  | .ended => []

/-- What `rest` foretells comes true step by step. -/
def Foretells (policy : Policy) (rest : State → List Node) : Prop :=
  ∀ s, rest s = (step policy s).outcome.nodes rest

/-- What comes true step by step comes true poll by poll. -/
theorem Foretells.poll {policy : Policy} {rest : State → List Node} (h : Foretells policy rest)
    (done : List Event) (s : State) : rest s = (pollFrom policy done s).nodes rest := by
  fun_induction pollFrom policy done s with
  | case1 done s events s' hs _ ih =>
    rw [h s, hs]
    exact ih
  | case2 done s events s' hs =>
    rw [h s, hs]
    rfl
  | case3 done s events node s' hs =>
    rw [h s, hs]
    rfl
  | case4 done s events hs =>
    rw [h s, hs]
    rfl

/-- The nodes that are still to come if no gate is decided any more. -/
def State.remaining (policy : Policy) (s : State) : List Node :=
  have below := step_below policy s
  match h : (step policy s).outcome with
  | .goOn s' =>
    have : s'.weight < s.weight := by rwa [h] at below
    s'.remaining policy
  | .suspend s' =>
    if hb : s'.blockedOn?.isSome then []
    else
      have : s'.weight < s.weight := by
        rw [h] at below
        exact below.resolve_right hb
      s'.remaining policy
  | .yield node s' =>
    have : s'.weight < s.weight := by rwa [h] at below
    node :: s'.remaining policy
  | .stop => []
termination_by s.weight

/-- Nothing comes of a state that waits for a gate. -/
theorem remaining_of_blocked {policy : Policy} {s : State} (h : s.blockedOn?.isSome) :
    s.remaining policy = [] := by
  cases s with
  | awaiting goal value a =>
    cases value with
    | gate id =>
      unfold State.remaining
      simp [step, await, quietly, State.blockedOn?]
    | deferred label yields outcome => simp [State.blockedOn?] at h
    | failing label yields reason => simp [State.blockedOn?] at h
  | resolving goal source a => simp [State.blockedOn?] at h
  | next a => simp [State.blockedOn?] at h
  | finished => simp [State.blockedOn?] at h

/-- The nodes still to come are those that come of the next step. -/
theorem remaining_step (policy : Policy) : Foretells policy (State.remaining policy) := by
  intro s
  have nodes_eq : ∀ {o}, (step policy s).outcome = o →
      o.nodes (State.remaining policy) = (step policy s).outcome.nodes (State.remaining policy) :=
    fun h => by rw [h]
  rw [State.remaining]
  split
  · rename_i h
    exact nodes_eq h
  · rename_i s' h
    refine Eq.trans ?_ (nodes_eq h)
    split
    · rename_i hb
      exact (remaining_of_blocked hb).symm
    · rfl
  · rename_i h
    exact nodes_eq h
  · rename_i h
    exact nodes_eq h

theorem eq_finished_of_isFinished {s : State} (h : s.isFinished = true) : s = .finished := by
  cases s with
  | finished => rfl
  | _ => simp [State.isFinished] at h

theorem remaining_finished (policy : Policy) : State.remaining policy .finished = [] :=
  remaining_step policy .finished

theorem nodes_collectFrom (policy : Policy) (nodes : List Node) (events : List Event) (s : State) :
    (collectFrom policy nodes events s).nodes = nodes.reverse ++ s.remaining policy := by
  fun_induction collectFrom policy nodes events s with
  | case1 nodes events s node more s' hp _ ih =>
    rw [(remaining_step policy).poll [] s, hp, ih]
    simp [Polled.nodes]
  | case2 nodes events s more s' hp hb =>
    rw [(remaining_step policy).poll [] s, hp]
    simp [Polled.nodes, remaining_of_blocked hb]
  | case3 nodes events s more s' hp hb _ ih =>
    rw [(remaining_step policy).poll [] s, hp, ih]
    rfl
  | case4 nodes events s more s' hp =>
    rw [(remaining_step policy).poll [] s, hp]
    simp [Polled.nodes]

/-- Rendering a document collects what is still to come when it begins. -/
theorem renderNodes_eq_remaining (policy : Policy) (source : Source) :
    renderNodes policy source = (State.start source).remaining policy :=
  nodes_collectFrom policy [] [] (State.start source)

end JsonMarkup.Render
