import JsonMarkup.Proofs.Render.Rewriting
import JsonMarkup.Proofs.Render.Script
import JsonMarkup.Render.Stream
import Mathlib.Logic.Relation

/-!
# Walks

A walk is a number of steps, together with what they do to pending values and the nodes that they
yield. Each poll of a stream is a walk (`walks_pollFrom`), and walks go along with decisions of
gates (`Walks.decide`), so what has happened in a rendering is always one walk through the document
as it has been decided by then. What a walk does stands at the front of the script of the state
where it begins (`Walks.script`).

**Polls in vain.** Only a step that polls a pending value in vain suspends a rendering
(`step_suspend`), so a poll of the stream that answers that it is pending has polled exactly one in
vain, the one that it is waiting for (`pollFrom_pending`).
-/

namespace JsonMarkup

/-- What is left of a pending value that has been polled in vain. -/
def Pending.polled? : Pending → Option Pending
  | .deferred label (yields + 1) s => some (.deferred label yields s)
  | .failing label (yields + 1) reason => some (.failing label yields reason)
  | .gate id => some (.gate id)
  | _ => none

namespace Render

/-! ## Only waiting suspends -/

def Outcome.suspends : Outcome → Bool
  | .suspend _ => true
  | _ => false

theorem suspends_deliver (node : Node) (a : Around) : (deliver node a).suspends = false := by
  unfold deliver
  split <;> rfl

theorem suspends_reject (goal : Goal) (error : RenderError) (a : Around) :
    (reject goal error a).outcome.suspends = false := by
  cases goal with
  | document => rfl
  | item element items => rfl
  | _ => exact suspends_deliver _ a

theorem suspends_enter (policy : Policy) (tag : String) (value : Source) (a : Around) :
    (enter policy tag value a).outcome.suspends = false := by
  unfold enter
  dsimp only
  split
  · exact suspends_deliver _ a
  · split
    · rfl
    · exact suspends_deliver _ a

theorem suspends_merge (element : Element) (entries props : List (String × Source)) (a : Around) :
    (merge element entries a props).outcome.suspends = false := by
  unfold merge
  split
  · rfl
  · dsimp only
    split
    · exact suspends_deliver _ a
    · rfl

theorem suspends_apply (element : Element) (name : String) (entries : List (String × Source))
    (a : Around) (value : Value) :
    (apply element name entries a value).outcome.suspends = false :=
  apply_cases (P := fun s => s.outcome.suspends = false) (fun _ _ _ => rfl)
    (fun props _ => suspends_merge element entries props a)
    (fun error => suspends_reject (.namedValue element name entries) error a)

theorem suspends_conclude (goal : Goal) (a : Around) (value : Value) :
    (conclude goal a value).outcome.suspends = false := by
  have refused := fun error => suspends_reject goal error a
  cases goal with
  | document => cases value <;> rfl
  | item element items => cases value <;> rfl
  | content tag => cases value <;> first | rfl | exact suspends_deliver _ a
  | namedValue element name entries => exact suspends_apply element name entries a value
  | property element name more entries =>
    rw [conclude]
    split
    · exact suspends_merge _ entries more a
    · exact refused _

theorem suspends_takeNext (policy : Policy) (a : Around) :
    (takeNext policy a).outcome.suspends = false := by
  unfold takeNext
  split
  · split
    · rfl
    · exact suspends_enter policy ..
  · exact suspends_enter policy ..
  · rfl
  · exact suspends_deliver ..
  · split
    · rfl
    · exact suspends_enter policy ..
  · exact suspends_deliver ..

/-- A step that suspends has polled a pending value in vain, and has done nothing else. -/
theorem step_suspend {policy : Policy} {s t : State} (h : (step policy s).outcome = .suspend t) :
    ∃ goal p q a, s = .awaiting goal p a ∧ p.polled? = some q ∧ t = .awaiting goal q a ∧
      (step policy s).events = [] := by
  have suspends : (step policy s).outcome.suspends = true := by rw [h]; rfl
  cases s with
  | resolving goal source a =>
    cases source with
    | ready value => exact absurd suspends (by simp [step, suspends_conclude])
    | pending p => cases h
  | awaiting goal p a =>
    refine ⟨goal, p, ?_⟩
    cases p with
    | deferred label yields source =>
      cases yields with
      | zero => cases h
      | succ yields =>
        cases h
        exact ⟨_, a, rfl, rfl, rfl, rfl⟩
    | failing label yields reason =>
      cases yields with
      | zero => exact absurd suspends (by simp [step, await, suspends_reject])
      | succ yields =>
        cases h
        exact ⟨_, a, rfl, rfl, rfl, rfl⟩
    | gate id =>
      cases h
      exact ⟨_, a, rfl, rfl, rfl, rfl⟩
  | next a => exact absurd suspends (by simp [step, suspends_takeNext])
  | finished => cases h

/-- Polling a pending value in vain leaves a gate a gate. -/
theorem blockedOn?_suspend {policy : Policy} {s t : State}
    (h : (step policy s).outcome = .suspend t) : t.blockedOn? = s.blockedOn? := by
  obtain ⟨goal, p, q, a, rfl, polled, rfl, -⟩ := step_suspend h
  cases p with
  | gate id =>
    cases polled
    rfl
  | deferred label yields source =>
    cases yields with
    | zero => cases polled
    | succ yields =>
      cases polled
      rfl
  | failing label yields reason =>
    cases yields with
    | zero => cases polled
    | succ yields =>
      cases polled
      rfl

/-! ## Walks -/

/-- Steps lead from one state to another, and do this. -/
inductive Walks (policy : Policy) (s : State) : List Mark → State → Prop
  | here : Walks policy s [] s
  | step {ms : List Mark} {t : State} : Walks policy s ms t →
    Walks policy s (ms ++ (step policy t).marks) (step policy t).outcome.state

variable {policy : Policy} {s t : State} {ms : List Mark}

/-- What a walk does stands at the front of the script. -/
theorem Walks.script (h : Walks policy s ms t) : ms ++ t.script policy = s.script policy := by
  induction h with
  | here => rfl
  | @step ms t _ ih =>
    rw [← ih, ← script_step t, List.append_assoc]
    simp [Step.marks, Step.script, Outcome.script]

theorem blockedOn?_decide {gate : Nat} {d : Decision} (free : s.blockedOn? ≠ some gate) :
    (s.decide gate d).blockedOn? = s.blockedOn? := by
  cases s with
  | awaiting goal p a =>
    cases p with
    | gate id =>
      have other : id ≠ gate := fun h => free (congrArg some h)
      have same : (Pending.gate id).decide gate d = .gate id := if_neg other
      rw [State.decide, same]
      rfl
    | _ => rfl
  | _ => rfl

/-- Decisions do not show in what a step does, unless it waits for the gate that is decided. -/
theorem marks_map_decide {gate : Nat} {d : Decision} (free : s.blockedOn? ≠ some gate) :
    ((step policy s).map (State.decide gate d)).marks = (step policy s).marks := by
  rw [Step.marks, Step.marks, Step.map]
  congr 1
  cases h : (step policy s).outcome with
  | suspend t =>
    have still : t.blockedOn? ≠ some gate := by rwa [blockedOn?_suspend h]
    rw [Outcome.map, Outcome.marks, Outcome.marks, blockedOn?_decide still]
  | _ => rfl

theorem state_map_decide (gate : Nat) (d : Decision) (o : Outcome) :
    (o.map (State.decide gate d)).state = o.state.decide gate d := by
  cases o <;> rfl

/-- A walk through a document is one through the document in which a gate has been decided. -/
theorem Walks.decide (h : Walks policy s ms t) (gate : Nat) (d : Decision) :
    Walks policy (s.decide gate d) ms (t.decide gate d) := by
  induction h with
  | here => exact .here
  | @step ms t _ ih =>
    by_cases blocked : t.blockedOn? = some gate
    · -- Where it waits for the gate, a step neither does anything nor leads anywhere.
      cases t with
      | awaiting goal p a =>
        cases p with
        | gate id =>
          show Walks policy _ (ms ++ []) _
          rw [List.append_nil]
          exact ih
        | _ => cases blocked
      | _ => cases blocked
    · have next := Walks.step ih
      rw [step_decide policy blocked, marks_map_decide blocked, Step.map, state_map_decide] at next
      exact next

/-! ## Polls -/

/-- What an answer says about pending values and nodes, if it leaves this state. -/
def Answer.marks (s : State) : Answer → List Mark
  | .pending => if s.blockedOn?.isSome then [] else [.vain]
  | .node _ => [.node]
  | .ended => []

/-- What a poll does. -/
def Polled.marks (p : Polled) : List Mark := pendingMarks p.events ++ p.answer.marks p.state

/-- One more step of a poll, with the events so far in the order in which a poll keeps them. -/
theorem Walks.onward {done events : List Event} {o : Outcome}
    (h : Walks policy s (ms ++ pendingMarks done.reverse) t)
    (ht : Render.step policy t = ⟨events, o⟩) :
    Walks policy s (ms ++ (pendingMarks (events.reverse ++ done).reverse ++ o.marks)) o.state := by
  have next := Walks.step h
  rw [ht] at next
  simpa [Step.marks, pendingMarks] using next

/-- A poll is a walk. -/
theorem walks_pollFrom {done : List Event}
    (h : Walks policy s (ms ++ pendingMarks done.reverse) t) :
    Walks policy s (ms ++ (pollFrom policy done t).marks) (pollFrom policy done t).state := by
  fun_induction pollFrom policy done t with
  | case1 done t events t' ht _ ih =>
    have next := h.onward ht
    rw [Outcome.marks, List.append_nil] at next
    exact ih next
  | case2 done t events t' ht => exact h.onward ht
  | case3 done t events node t' ht => exact h.onward ht
  | case4 done t events ht => exact h.onward ht

/-- Steps lead from one state to another without an answer. -/
def Goes (policy : Policy) : State → State → Prop :=
  Relation.ReflTransGen fun s t => (step policy s).outcome = .goOn t

/-- A poll that answers that it is pending ends with one pending value polled in vain, and has
polled no other one in vain. -/
theorem pollFrom_pending {done : List Event} (h : (pollFrom policy done s).answer = .pending) :
    ∃ goal p q a, Goes policy s (.awaiting goal p a) ∧ p.polled? = some q ∧
      (pollFrom policy done s).state = .awaiting goal q a := by
  fun_induction pollFrom policy done s with
  | case1 done s events s' hs _ ih =>
    obtain ⟨goal, p, q, a, goes, rest⟩ := ih h
    exact ⟨goal, p, q, a, goes.head (by rw [hs]), rest⟩
  | case2 done s events s' hs =>
    have suspended : (step policy s).outcome = .suspend s' := by rw [hs]
    obtain ⟨goal, p, q, a, rfl, polled, rfl, -⟩ := step_suspend suspended
    exact ⟨goal, p, q, a, .refl, polled, rfl⟩
  | case3 done s events node s' hs => cases h
  | case4 done s events hs => cases h

end Render

end JsonMarkup
