import Mathlib.Data.List.Chain
import Mathlib.Order.WithBot
import JsonMarkup.Proofs.Render.OnDemand

/-!
# The protocol of a stream

A stream works on one task at a time: first it finds out what its document is, then it renders the
entries of the document, one after the other. A task comes to its end with a step that yields a node
or finds the entries of the document (`Outcome.completes`).

**Invariant (`Next`).** A step that does not complete its task leaves the stream at the same task.
A step that does leaves it at one with less behind it, so the task never comes back. Decisions do
not show in what the task is.

**Theorem (`stream_protocol`).** In any run of polls and decisions: no step is taken for a task that
has been completed; what has ended stays ended, and nothing happens in it any more; and a poll that
answers that it is pending keeps the value that it waits for, so that the next poll takes up this
value where it was left.
-/

namespace JsonMarkup.Render

/-! ## Tasks -/

/-- What a stream works on: finding out what its document is, or rendering the entry of the document
behind which there are this many more. -/
inductive Task where
  | document
  | entry (behind : Nat)
deriving DecidableEq

def Goal.task (a : Around) : Goal → Task
  | .document => .document
  | .item _ _ | .content _ | .namedValue _ _ _ | .property _ _ _ _ => .entry a.rest.length

/-- The entry that is open, or else the next one. -/
def Around.task? (a : Around) : Option Task :=
  match a.frames, a.rest with
  | _ :: _, rest => some (.entry rest.length)
  | [], _ :: rest => some (.entry rest.length)
  | [], [] => none

/-- The task that the next step works on. -/
def State.task? : State → Option Task
  | .resolving goal _ a | .awaiting goal _ a => some (goal.task a)
  | .next a => a.task?
  | .finished => none

/-- How many entries are left with this task, which nobody knows before the document is known. -/
def leftWith : Option Task → WithTop Nat
  | some .document => ⊤
  | some (.entry behind) => WithTop.some (behind + 1)
  | none => WithTop.some 0

/-- The step brings its task to an end: it yields a node, or finds the entries of the document. -/
def Outcome.completes : Outcome → Bool
  | .yield _ _ => true
  | .goOn (.next a) => a.frames.isEmpty
  | .goOn _ | .suspend _ | .stop => false

/-- What becomes of a task: less is left once it is completed, and until then it stays. -/
def Outcome.Follows (x : Option Task) (o : Outcome) : Prop :=
  if o.completes then leftWith o.state.task? < leftWith x else o.state.task? = x

theorem leftWith_next (rest : List (String × Source)) :
    leftWith (State.next ⟨[], rest⟩).task? = WithTop.some rest.length := by
  cases rest <;> rfl

variable {policy : Policy}

theorem follows_deliver (node : Node) (a : Around) :
    (deliver node a).Follows (some (.entry a.rest.length)) := by
  obtain ⟨frames, rest⟩ := a
  cases frames with
  | nil =>
    show leftWith (State.next ⟨[], rest⟩).task? < WithTop.some (rest.length + 1)
    rw [leftWith_next]
    exact WithTop.coe_lt_coe.mpr (Nat.lt_succ_self _)
  | cons f outer => cases f <;> rfl

theorem follows_reject (goal : Goal) (error : RenderError) (a : Around) :
    (reject goal error a).outcome.Follows (some (goal.task a)) := by
  cases goal with
  | document => exact WithTop.coe_lt_top (0 : Nat)
  | item element items => rfl
  | _ => exact follows_deliver _ a

theorem follows_enter (tag : String) (value : Source) (a : Around) :
    (enter policy tag value a).outcome.Follows (some (.entry a.rest.length)) := by
  unfold enter
  dsimp only
  split
  · exact follows_deliver _ a
  · split
    · rfl
    · exact follows_deliver _ a

theorem follows_merge (element : Element) (entries props : List (String × Source)) (a : Around) :
    (merge element entries a props).outcome.Follows (some (.entry a.rest.length)) := by
  unfold merge
  split
  · rfl
  · dsimp only
    split
    · exact follows_deliver _ a
    · rfl

theorem follows_apply (element : Element) (name : String) (entries : List (String × Source))
    (a : Around) (value : Value) :
    (apply element name entries a value).outcome.Follows (some (.entry a.rest.length)) :=
  apply_cases (P := fun s => s.outcome.Follows (some (.entry a.rest.length))) (fun _ _ _ => rfl)
    (fun props _ => follows_merge element entries props a)
    (fun error => follows_reject (.namedValue element name entries) error a)

theorem follows_conclude (goal : Goal) (a : Around) (value : Value) :
    (conclude goal a value).outcome.Follows (some (goal.task a)) := by
  have refused := fun error => follows_reject goal error a
  cases goal with
  | document =>
    cases value with
    | text t => exact WithTop.coe_lt_top (0 : Nat)
    | mapping entries =>
      show leftWith (State.next ⟨[], entries⟩).task? < ⊤
      rw [leftWith_next]
      exact WithTop.coe_lt_top _
    | _ => exact refused _
  | item element items => cases value <;> rfl
  | content tag => cases value <;> first | rfl | exact follows_deliver _ a
  | namedValue element name entries => exact follows_apply element name entries a value
  | property element name more entries =>
    rw [conclude]
    split
    · exact follows_merge _ entries more a
    · exact refused _

theorem follows_takeNext (a : Around) : (takeNext policy a).outcome.Follows a.task? := by
  obtain ⟨frames, rest⟩ := a
  cases frames with
  | nil =>
    cases rest with
    | nil => rfl
    | cons e rest => exact follows_enter e.1 e.2 ⟨[], rest⟩
  | cons f outer =>
    cases f with
    | spread element entries items =>
      cases entries with
      | cons e entries => exact follows_enter e.1 e.2 ⟨.spread element entries items :: outer, rest⟩
      | nil =>
        cases items with
        | cons item items => rfl
        | nil => exact follows_deliver _ ⟨outer, rest⟩
    | members element entries =>
      cases entries with
      | cons e entries =>
        dsimp only [takeNext]
        split
        · rfl
        · exact follows_enter e.1 e.2 ⟨.members element entries :: outer, rest⟩
      | nil => exact follows_deliver _ ⟨outer, rest⟩

/-- **A task stays until it is completed, and then it is behind.** -/
theorem follows_step (s : State) : (step policy s).outcome.Follows s.task? := by
  cases s with
  | resolving goal source a =>
    cases source with
    | ready value => exact follows_conclude goal a value
    | pending p => rfl
  | awaiting goal p a =>
    cases p with
    | deferred label yields source => cases yields <;> rfl
    | failing label yields reason =>
      cases yields with
      | zero => exact follows_reject goal (.unresolved reason) a
      | succ yields => rfl
    | gate id => rfl
  | next a => exact follows_takeNext a
  | finished => rfl

theorem task?_decide (gate : Nat) (d : Decision) (s : State) :
    (s.decide gate d).task? = s.task? := by
  have length : ∀ entries : List (String × Source),
      (decideEntries gate d entries).length = entries.length := by
    intro entries
    rw [decideEntries_eq_rewrite, rewriteEntries, List.length_map]
  have goals : ∀ (goal : Goal) (a : Around),
      (goal.decide gate d).task (a.decide gate d) = goal.task a := by
    intro goal a
    cases goal with
    | document => rfl
    | _ => exact congrArg Task.entry (length a.rest)
  cases s with
  | resolving goal source a => exact congrArg some (goals goal a)
  | awaiting goal p a => exact congrArg some (goals goal a)
  | next a =>
    obtain ⟨frames, rest⟩ := a
    cases frames with
    | cons f outer => exact congrArg (some <| Task.entry ·) (length rest)
    | nil =>
      cases rest with
      | nil => rfl
      | cons e rest => exact congrArg (some <| Task.entry ·) (length rest)
  | finished => rfl

/-! ## Steps of a run -/

/-- The step gives the answer of the poll. -/
def Outcome.answers : Outcome → Bool
  | .goOn _ => false
  | .suspend _ | .yield _ _ | .stop => true

/-- The states in which a poll takes its steps, in order. -/
def pollStates (policy : Policy) (s : State) : List State :=
  match h : step policy s with
  | ⟨_, .goOn s'⟩ =>
    have : s'.weight < s.weight := by
      have := step_below policy s
      rwa [h] at this
    s :: pollStates policy s'
  | ⟨_, .suspend _⟩ | ⟨_, .yield _ _⟩ | ⟨_, .stop⟩ => [s]
termination_by s.weight

theorem pollStates_goOn {s t : State} {events : List Event}
    (h : step policy s = ⟨events, .goOn t⟩) : pollStates policy s = s :: pollStates policy t := by
  rw [pollStates]
  split <;> rename_i same <;> rw [h] at same <;> cases same
  rfl

/-- A poll is over with the first step that gives an answer. -/
theorem pollStates_last {s : State} {events : List Event} {o : Outcome}
    (h : step policy s = ⟨events, o⟩) (last : o.answers = true) : pollStates policy s = [s] := by
  rw [pollStates]
  split <;> rename_i same
  · rw [h] at same
    cases same
    cases last
  all_goals rfl

/-- What happens in a poll is what happens in its steps. -/
theorem events_pollFrom (done : List Event) (s : State) :
    (pollFrom policy done s).events =
      done.reverse ++ (pollStates policy s).flatMap fun t => (step policy t).events := by
  fun_induction pollFrom policy done s with
  | case1 done s events s' hs _ ih =>
    rw [ih, pollStates_goOn hs, List.flatMap_cons, hs]
    simp
  | case2 done s events s' hs | case3 done s events node s' hs | case4 done s events hs =>
    rw [pollStates_last hs rfl]
    simp [hs]

/-- A poll begins with a step in the state where it begins. -/
theorem pollFrom_begins (s : State) :
    (step policy s).events <+: (pollFrom policy [] s).events := by
  have first : ∃ later, pollStates policy s = s :: later := by
    rw [pollStates]
    split <;> exact ⟨_, rfl⟩
  obtain ⟨later, states⟩ := first
  rw [events_pollFrom, states, List.flatMap_cons]
  exact List.prefix_append _ _

/-- One state comes after another: what the step made of the task of the one is the task of the
other. -/
def Next (policy : Policy) (s t : State) : Prop :=
  if (step policy s).outcome.completes then leftWith t.task? < leftWith s.task?
  else t.task? = s.task?

theorem next_step (s : State) : Next policy s (step policy s).outcome.state := follows_step s

theorem Next.decide {s t : State} (h : Next policy s t) (gate : Nat) (d : Decision) :
    Next policy s (t.decide gate d) := by
  rw [Next, task?_decide]
  exact h

theorem isChain_concat {R : State → State → Prop} {past : List State} {s t : State}
    (h : (past ++ [s]).IsChain R) (next : R s t) : (past ++ [s] ++ [t]).IsChain R := by
  refine List.isChain_append.mpr ⟨h, List.isChain_singleton t, fun x last y first => ?_⟩
  rw [List.getLast?_concat, Option.mem_some] at last
  rw [List.head?_cons, Option.mem_some] at first
  exact last ▸ first ▸ next

/-- A poll goes on where the steps before it have led. -/
theorem isChain_pollFrom {past : List State} {done : List Event} {s : State}
    (h : (past ++ [s]).IsChain (Next policy)) :
    (past ++ pollStates policy s ++ [(pollFrom policy done s).state]).IsChain (Next policy) := by
  have next : (past ++ [s] ++ [(step policy s).outcome.state]).IsChain (Next policy) :=
    isChain_concat h (next_step s)
  fun_induction pollFrom policy done s generalizing past with
  | case1 done s events s' hs _ ih =>
    rw [hs] at next
    have later := ih next (isChain_concat next (next_step s'))
    rwa [pollStates_goOn hs, ← List.singleton_append, ← List.append_assoc]
  | case2 done s events s' hs | case3 done s events node s' hs | case4 done s events hs =>
    rw [pollStates_last hs rfl]
    rwa [hs] at next

theorem isChain_decide {past : List State} {s : State} (h : (past ++ [s]).IsChain (Next policy))
    (gate : Nat) (d : Decision) : (past ++ [s.decide gate d]).IsChain (Next policy) := by
  obtain ⟨before, -, last⟩ := List.isChain_append.mp h
  refine List.isChain_append.mpr ⟨before, List.isChain_singleton _, fun x hx y hy => ?_⟩
  rw [List.head?_cons, Option.mem_some] at hy
  exact hy ▸ (last x hx s (by rw [List.head?_cons, Option.mem_some])).decide gate d

/-- One state comes later than another: no more is left than there was, and less than that if what
was worked on has been completed. -/
def Later (policy : Policy) (s t : State) : Prop :=
  leftWith t.task? ≤ leftWith s.task? ∧
    ((step policy s).outcome.completes = true → leftWith t.task? < leftWith s.task?)

theorem Later.trans {s t u : State} (h : Later policy s t) (h' : Later policy t u) :
    Later policy s u :=
  ⟨h'.1.trans h.1, fun done => h'.1.trans_lt (h.2 done)⟩

theorem Next.later {s t : State} (h : Next policy s t) : Later policy s t := by
  rw [Next] at h
  split at h
  · exact ⟨h.le, fun _ => h⟩
  · rename_i goesOn
    rw [Later, h]
    exact ⟨le_rfl, fun done => absurd done goesOn⟩

/-- What has been completed is not worked on again. -/
theorem pairwise_of_isChain {states : List State} (h : states.IsChain (Next policy)) :
    states.Pairwise fun s t =>
      (step policy s).outcome.completes = true → t.task? ≠ s.task? := by
  have : Trans (Later policy) (Later policy) (Later policy) := ⟨Later.trans⟩
  refine (h.imp fun _ _ next => next.later).pairwise.imp fun later done same => ?_
  have lower := later.2 done
  rw [same] at lower
  exact lt_irrefl _ lower

/-! ## Runs -/

/-- The states in which a move takes steps. -/
def Course.steps (c : Course) (m : Move) : List State :=
  match m.decision? with
  | none => pollStates c.stream.policy c.stream.state
  | some _ => []

/-- The states in which moves take steps, one move after the other. -/
def trailFrom (c : Course) : List Move → List State
  | [] => []
  | m :: rest => c.steps m ++ trailFrom (c.move m) rest

/-- The states in which a rendering takes steps. -/
def trail (policy : Policy) (source : Source) (moves : List Move) : List State :=
  trailFrom (.start policy source) moves

theorem trail_concat (policy : Policy) (source : Source) (moves : List Move) (m : Move) :
    trail policy source (moves ++ [m]) =
      trail policy source moves ++ (course policy source moves).steps m := by
  have onward : ∀ (moves : List Move) (c : Course),
      trailFrom c (moves ++ [m]) = trailFrom c moves ++ (moves.foldl Course.move c).steps m := by
    intro moves
    induction moves with
    | nil => exact fun c => List.append_nil _
    | cons m' rest ih =>
      intro c
      rw [List.cons_append, trailFrom, ih, trailFrom, List.append_assoc]
      rfl
  exact onward moves _

/-- What has happened in a course are the events of its steps, which follow one upon the other. -/
structure Followed (policy : Policy) (c : Course) (past : List State) : Prop where
  same_policy : c.stream.policy = policy
  events : c.events = past.flatMap fun s => (step policy s).events
  chain : (past ++ [c.stream.state]).IsChain (Next policy)

theorem followed_course (policy : Policy) (source : Source) (moves : List Move) :
    Followed policy (course policy source moves) (trail policy source moves) := by
  induction moves using List.reverseRecOn with
  | nil => exact ⟨rfl, rfl, List.isChain_singleton _⟩
  | append_singleton moves m ih =>
    obtain ⟨same_policy, events, chain⟩ := ih
    rw [course_concat, trail_concat, Course.move, Course.steps]
    cases m.decision? with
    | none =>
      have polled : (course policy source moves).stream.poll =
          pollFrom policy [] (course policy source moves).stream.state := by
        rw [Stream.poll, same_policy]
      refine ⟨same_policy, ?_, ?_⟩
      · dsimp only
        rw [same_policy, List.flatMap_append, ← events, Course.poll, polled]
        exact congrArg (_ ++ ·) (events_pollFrom [] _)
      · dsimp only
        rw [same_policy, Course.poll, polled]
        exact isChain_pollFrom chain
    | some e =>
      dsimp only
      rw [List.append_nil, Course.decide]
      split
      · exact ⟨same_policy, events, chain⟩
      · exact ⟨same_policy, events, isChain_decide chain e.1 _⟩

/-! ## The end -/

def Move.isPoll : Move → Bool
  | .poll => true
  | .settle _ _ | .reject _ _ | .cancel _ => false

section

variable (c : Course) (gate : Nat) (d : Decision)

theorem answers_decide : (c.decide gate d).answers = c.answers := by
  rw [Course.decide]
  split <;> rfl

theorem events_decide : (c.decide gate d).events = c.events := by
  rw [Course.decide]
  split <;> rfl

theorem finished_decide (h : c.stream.state = .finished) :
    (c.decide gate d).stream.state = .finished := by
  rw [Course.decide]
  split
  · exact h
  · exact congrArg (State.decide gate _) h

end

theorem poll_of_finished {c : Course} (h : c.stream.state = .finished) :
    c.stream.poll = ⟨.ended, [], .finished⟩ := by
  rw [Stream.poll, h, pollFrom_eq]
  rfl

/-- Nothing comes of a move after the end. -/
theorem move_of_finished {c : Course} (h : c.stream.state = .finished) (m : Move) :
    (c.move m).stream.state = .finished ∧ (c.move m).events = c.events ∧
      (c.move m).answers = c.answers ++ List.replicate ([m].countP Move.isPoll) .ended := by
  have decided : ∀ gate d, (c.decide gate d).stream.state = .finished ∧
      (c.decide gate d).events = c.events ∧ (c.decide gate d).answers = c.answers ++ [] :=
    fun gate d => ⟨finished_decide c gate d h, events_decide c gate d,
      (answers_decide c gate d).trans (List.append_nil _).symm⟩
  cases m with
  | poll =>
    show c.poll.stream.state = _ ∧ c.poll.events = _ ∧ c.poll.answers = _
    rw [Course.poll, poll_of_finished h]
    exact ⟨rfl, List.append_nil _, rfl⟩
  | settle gate document => exact decided gate (.ok document)
  | reject gate reason => exact decided gate (.error reason)
  | cancel gate => exact decided gate cancelled

/-- Nothing comes of any moves after the end. -/
theorem moves_of_finished (more : List Move) {c : Course} (h : c.stream.state = .finished) :
    (more.foldl Course.move c).stream.state = .finished ∧
      (more.foldl Course.move c).events = c.events ∧
      (more.foldl Course.move c).answers =
        c.answers ++ List.replicate (more.countP Move.isPoll) .ended := by
  induction more generalizing c with
  | nil => exact ⟨h, rfl, (List.append_nil _).symm⟩
  | cons m rest ih =>
    obtain ⟨finished, events, answers⟩ := move_of_finished h m
    obtain ⟨finished', events', answers'⟩ := ih finished
    refine ⟨finished', events'.trans events, ?_⟩
    show _ = c.answers ++ List.replicate (([m] ++ rest).countP Move.isPoll) .ended
    rw [List.countP_append, List.replicate_add, ← List.append_assoc, ← answers, ← answers']
    rfl

/-- A stream that has answered that it has ended is at its end. -/
theorem finished_of_ended {policy : Policy} {source : Source} {moves : List Move}
    (h : .ended ∈ (course policy source moves).answers) :
    (course policy source moves).stream.state = .finished := by
  revert h
  refine course_induction (P := fun c => .ended ∈ c.answers → c.stream.state = .finished) nofun ?_
  intro c ih m _ ended
  rw [Course.move] at ended ⊢
  split at ended
  · rcases List.mem_append.mp ended with before | now
    · show c.stream.poll.state = _
      rw [poll_of_finished (ih before)]
    · have below := pollFrom_below c.stream.policy [] c.stream.state
      have answer : (pollFrom c.stream.policy [] c.stream.state).answer = .ended :=
        (List.mem_singleton.mp now).symm
      rw [Polled.Below, answer] at below
      exact eq_finished_of_isFinished below
  · rename_i gate d _
    rw [answers_decide] at ended
    exact finished_decide c gate d (ih ended)

/-! ## Waiting -/

/-- A poll that answers that it is pending took its last step at the value that it waits for. -/
theorem pollStates_pending {s : State} {done : List Event}
    (h : (pollFrom policy done s).answer = .pending) :
    ∃ goal p q a, (pollStates policy s).getLast? = some (.awaiting goal p a) ∧
      p.polled? = some q ∧ (pollFrom policy done s).state = .awaiting goal q a := by
  fun_induction pollFrom policy done s with
  | case1 done s events s' hs _ ih =>
    obtain ⟨goal, p, q, a, last, polled, left⟩ := ih h
    refine ⟨goal, p, q, a, ?_, polled, left⟩
    rw [pollStates_goOn hs, List.getLast?_cons, last]
    rfl
  | case2 done s events s' hs =>
    have suspended : (step policy s).outcome = .suspend s' := by rw [hs]
    obtain ⟨goal, p, q, a, rfl, polled, rfl, -⟩ := step_suspend suspended
    refine ⟨goal, p, q, a, ?_, polled, rfl⟩
    rw [pollStates_last hs rfl]
    rfl
  | case3 done s events node s' hs => cases h
  | case4 done s events hs => cases h

/-- Decide gates wherever they stand in something, the last one in the list first. -/
def decideAll {α : Type} (decide : Nat → Decision → α → α) (decided : List (Nat × Decision))
    (x : α) : α :=
  decided.foldr (fun e x => decide e.1 e.2 x) x

/-- A course that waits for a pending value: its last step has polled the value in vain, and what
that left of the value stands in the same place, wanted for the same goal. Nothing but decisions has
been done to any of it since. -/
structure Waits (c : Course) (past : List State) (goal : Goal) (p q : Pending) (a : Around) :
    Prop where
  last : past.getLast? = some (.awaiting goal p a)
  left : p.polled? = some q
  kept : ∃ since earlier, c.decided = since ++ earlier ∧
    c.stream.state = .awaiting (decideAll Goal.decide since goal)
      (decideAll Pending.decide since q) (decideAll Around.decide since a)

theorem Waits.decide {c : Course} {past : List State} {goal : Goal} {p q : Pending} {a : Around}
    (h : Waits c past goal p q a) (gate : Nat) (d : Decision) :
    Waits (c.decide gate d) past goal p q a := by
  rw [Course.decide]
  split
  · exact h
  · obtain ⟨since, earlier, split, state⟩ := h.kept
    let d' := replay c.decided d
    exact ⟨h.last, h.left, (gate, d') :: since, earlier, congrArg ((gate, d') :: ·) split,
      congrArg (State.decide gate d') state⟩

/-- While the last answer is that the stream is pending, it waits for a value. -/
theorem waits_of_pending (policy : Policy) (source : Source) {moves : List Move}
    (h : (course policy source moves).answers.getLast? = some .pending) :
    ∃ goal p q a, Waits (course policy source moves) (trail policy source moves) goal p q a := by
  induction moves using List.reverseRecOn with
  | nil => cases h
  | append_singleton moves m ih =>
    rw [course_concat, Course.move] at h ⊢
    rw [trail_concat, Course.steps]
    cases decision : m.decision? with
    | none =>
      rw [decision] at h
      have pending : (pollFrom _ [] _).answer = .pending :=
        Option.some.inj (List.getLast?_concat.symm.trans h)
      obtain ⟨goal, p, q, a, last, left, state⟩ := pollStates_pending pending
      refine ⟨goal, p, q, a, ?_, left, [], _, rfl, state⟩
      dsimp only
      rw [List.getLast?_append, last]
      rfl
    | some e =>
      rw [decision] at h
      dsimp only at h ⊢
      rw [answers_decide] at h
      obtain ⟨goal, p, q, a, waits⟩ := ih h
      refine ⟨goal, p, q, a, ?_⟩
      rw [List.append_nil]
      exact waits.decide e.1 e.2

/-- What a poll does with the value that the stream waits for. One that is still in the way is
polled and left as what is left of it; else the poll begins with its end, and goes on with what it
has settled to. -/
def TakesUp (policy : Policy) (goal : Goal) (p : Pending) (a : Around) (polled : Polled) : Prop :=
  match p.polled? with
  | some q => polled = ⟨.pending, [], .awaiting goal q a⟩
  | none => [p.ending] <+: polled.events ∧
    ∀ label s, p = .deferred label 0 s →
      polled = pollFrom policy [.settled label] (.resolving goal s a)

theorem takesUp_pollFrom (policy : Policy) (goal : Goal) (p : Pending) (a : Around) :
    TakesUp policy goal p a (pollFrom policy [] (.awaiting goal p a)) := by
  have begins : ∀ {e later}, (step policy (.awaiting goal p a)).events = e :: later →
      [e] <+: (pollFrom policy [] (.awaiting goal p a)).events := by
    intro e later h
    have first := @pollFrom_begins policy (.awaiting goal p a)
    rw [h] at first
    exact (List.prefix_append [e] later).trans first
  cases p with
  | deferred label yields s =>
    cases yields with
    | zero =>
      refine ⟨begins rfl, fun label' s' same => ?_⟩
      cases same
      rw [pollFrom_eq]
      rfl
    | succ yields =>
      show pollFrom policy [] _ = _
      rw [pollFrom_eq]
      rfl
  | failing label yields reason =>
    cases yields with
    | zero => exact ⟨begins rfl, nofun⟩
    | succ yields =>
      show pollFrom policy [] _ = _
      rw [pollFrom_eq]
      rfl
  | gate id =>
    show pollFrom policy [] _ = _
    rw [pollFrom_eq]
    rfl

/-! ## The theorem -/

/-- **The protocol of a stream.** For any run of polls and decisions, with the states in which steps
were taken. In turn: what has happened is what happened in these steps; a task that a step completes
is not that of any later step, and one that it does not complete is still that of the next; when a
stream is at its end, polls answer that it has ended, and nothing happens, whatever is done; when a
poll has answered so, the stream is at its end; and while the last answer is that the stream is
pending, the stream is not at its end, what is left of the value that was polled in vain is kept,
and the next poll takes it up. -/
theorem stream_protocol (policy : Policy) (source : Source) (moves : List Move) :
    let c := course policy source moves
    let past := trail policy source moves
    (c.events = past.flatMap fun s => (step policy s).events) ∧
    (past.Pairwise fun s t => (step policy s).outcome.completes = true → t.task? ≠ s.task?) ∧
    ((past ++ [c.stream.state]).IsChain fun s t =>
      (step policy s).outcome.completes = false → t.task? = s.task?) ∧
    (c.stream.isTerminated = true → ∀ more, let c' := course policy source (moves ++ more)
      c'.stream.isTerminated = true ∧ c'.events = c.events ∧
        c'.answers = c.answers ++ List.replicate (more.countP Move.isPoll) .ended) ∧
    (.ended ∈ c.answers → c.stream.isTerminated = true) ∧
    (c.answers.getLast? = some .pending → c.stream.isTerminated = false ∧
      (∃ goal p q a, Waits c past goal p q a) ∧
      ∃ goal p a, c.stream.state = .awaiting goal p a ∧
        TakesUp policy goal p a c.stream.poll) := by
  intro c past
  obtain ⟨same_policy, events, chain⟩ := followed_course policy source moves
  have before := (List.isChain_append.mp chain).1
  refine ⟨events, pairwise_of_isChain before, chain.imp fun s t next goesOn => ?_,
    fun ended more => ?_, fun ended => ?_, fun pending => ?_⟩
  · rwa [Next, goesOn] at next
  · obtain ⟨finished, same, answers⟩ := moves_of_finished more (eq_finished_of_isFinished ended)
    intro c'
    have onward : c' = more.foldl Course.move c := List.foldl_append
    rw [onward]
    exact ⟨congrArg State.isFinished finished, same, answers⟩
  · exact congrArg State.isFinished (finished_of_ended ended)
  · obtain ⟨goal, p, q, a, waits⟩ := waits_of_pending policy source pending
    obtain ⟨since, earlier, -, state⟩ := waits.kept
    refine ⟨congrArg State.isFinished state, ⟨goal, p, q, a, waits⟩, _, _, _, state, ?_⟩
    rw [Stream.poll, same_policy, state]
    exact takesUp_pollFrom policy _ _ _

end JsonMarkup.Render
