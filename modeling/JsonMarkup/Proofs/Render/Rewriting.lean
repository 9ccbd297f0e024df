import JsonMarkup.Render.Step

/-!
# Steps do not look into positions

A step looks at one value and hands the positions in it on as they are. Whatever is put into those
positions, the step does the same.

A `Rewriting` replaces every position by another one, in a document as in what a rendering has left
to do. **Main statements.** Using a value (`conclude_rewrite`) and taking up the next entry
(`takeNext_rewrite`) commute with every rewriting. Deciding a gate is one (`Rewriting.decide`), and
so each step commutes with decisions (`step_decide`), unless it waits for just that gate.
-/

namespace JsonMarkup

/-! ## Replacing positions -/

def rewriteEntries (F : Source → Source) (entries : List (String × Source)) :
    List (String × Source) := entries.map fun e => (e.1, F e.2)

/-- Replace the positions directly in a value. -/
def Value.rewrite (F : Source → Source) : Value → Value
  | .mapping entries => .mapping (rewriteEntries F entries)
  | .list items => .list (items.map F)
  | v => v

namespace Render

def Frame.rewrite (F : Source → Source) : Frame → Frame
  | .spread element entries items => .spread element (rewriteEntries F entries) (items.map F)
  | .members element entries => .members element (rewriteEntries F entries)

/-- Replace the positions in what surrounds the walk. -/
def Around.rewrite (F : Source → Source) (a : Around) : Around :=
  ⟨a.frames.map (·.rewrite F), rewriteEntries F a.rest⟩

/-- Replace the positions in what is still to come after a wanted value. -/
def Goal.rewrite (F : Source → Source) : Goal → Goal
  | .document => .document
  | .item element items => .item element (items.map F)
  | .content tag => .content tag
  | .namedValue element name entries => .namedValue element name (rewriteEntries F entries)
  | .property element name more entries =>
    .property element name (rewriteEntries F more) (rewriteEntries F entries)

/-- A replacement of positions. -/
structure Rewriting where
  source : Source → Source
  /-- What a state becomes that waits for a pending value, with its other positions replaced. -/
  awaiting : Goal → Pending → Around → State

/-- Replace the positions in what is left to do. -/
def State.rewrite (ρ : Rewriting) : State → State
  | .resolving goal s a => .resolving (goal.rewrite ρ.source) (ρ.source s) (a.rewrite ρ.source)
  | .awaiting goal p a => ρ.awaiting (goal.rewrite ρ.source) p (a.rewrite ρ.source)
  | .next a => .next (a.rewrite ρ.source)
  | .finished => .finished

/-- Change the state that an outcome leaves. -/
def Outcome.map (f : State → State) : Outcome → Outcome
  | .goOn s => .goOn (f s)
  | .suspend s => .suspend (f s)
  | .yield node s => .yield node (f s)
  | .stop => .stop

/-- Change the state that a step leaves. -/
def Step.map (f : State → State) (s : Step) : Step := ⟨s.events, s.outcome.map f⟩

/-! ## Steps commute with rewriting -/

variable (ρ : Rewriting)

theorem Around.depth_rewrite (F : Source → Source) (a : Around) :
    (a.rewrite F).depth = a.depth := by
  simp [Around.rewrite, Around.depth]

theorem deliver_rewrite (node : Node) (a : Around) :
    deliver node (a.rewrite ρ.source) = (deliver node a).map (State.rewrite ρ) := by
  obtain ⟨frames, rest⟩ := a
  cases frames with
  | nil => rfl
  | cons f outer => cases f <;> rfl

theorem reject_rewrite (goal : Goal) (error : RenderError) (a : Around) :
    reject (goal.rewrite ρ.source) error (a.rewrite ρ.source) =
      (reject goal error a).map (State.rewrite ρ) := by
  have delivered := congrArg (Render.Step.mk [.substituted error.message])
    (deliver_rewrite ρ (.error error.message) a)
  cases goal with
  | document => rfl
  | item element items => rfl
  | content tag => exact delivered
  | namedValue element name entries => exact delivered
  | property element name more entries => exact delivered

theorem enter_rewrite (policy : Policy) (tag : String) (value : Source) (a : Around) :
    enter policy tag (ρ.source value) (a.rewrite ρ.source) =
      (enter policy tag value a).map (State.rewrite ρ) := by
  have refused := fun error => congrArg
    (fun s : Render.Step => Render.Step.mk (.enteredTag tag a.depth :: s.events) s.outcome)
    (reject_rewrite ρ (.content tag) error a)
  unfold enter
  rw [Around.depth_rewrite]
  dsimp only
  split
  · exact refused _
  · split
    · rfl
    · exact refused _

theorem merge_rewrite (element : Element) (entries props : List (String × Source)) (a : Around) :
    merge element (rewriteEntries ρ.source entries) (a.rewrite ρ.source)
        (rewriteEntries ρ.source props) =
      (merge element entries a props).map (State.rewrite ρ) := by
  cases props with
  | nil => rfl
  | cons p more =>
    obtain ⟨name, value⟩ := p
    simp only [merge, rewriteEntries, List.map_cons]
    split
    · exact reject_rewrite ρ (.property element name more entries) _ a
    · rfl

theorem apply_rewrite (element : Element) (name : String) (entries : List (String × Source))
    (a : Around) (value : Value) :
    apply element name (rewriteEntries ρ.source entries) (a.rewrite ρ.source)
        (value.rewrite ρ.source) = (apply element name entries a value).map (State.rewrite ρ) := by
  have refused := reject_rewrite ρ (.namedValue element name entries)
    (.badAttribute name element.tag) a
  unfold apply
  dsimp only
  split
  · cases value with
    | text text => rfl
    | _ => exact refused
  · split
    · cases value with
      | text css => rfl
      | mapping properties => exact merge_rewrite ρ element entries properties a
      | _ => exact refused
    · cases value with
      | text text =>
        simp only [Value.rewrite]
        split
        · rfl
        · exact refused
      | _ => exact refused

theorem propertyValue?_rewrite (F : Source → Source) (v : Value) :
    propertyValue? (v.rewrite F) = propertyValue? v := by
  cases v <;> rfl

/-- Using a value does not look at the positions in it. -/
theorem conclude_rewrite (goal : Goal) (a : Around) (value : Value) :
    conclude (goal.rewrite ρ.source) (a.rewrite ρ.source) (value.rewrite ρ.source) =
      (conclude goal a value).map (State.rewrite ρ) := by
  have refused := fun error => reject_rewrite ρ goal error a
  cases goal with
  | document =>
    cases value with
    | text text => rfl
    | mapping entries => rfl
    | _ => exact refused _
  | item element items =>
    cases value with
    | text text => rfl
    | mapping entries => rfl
    | _ => exact refused _
  | content tag =>
    cases value with
    | text text => exact congrArg quietly (deliver_rewrite ρ _ a)
    | list items => rfl
    | mapping entries => rfl
    | _ => exact refused _
  | namedValue element name entries => exact apply_rewrite ρ element name entries a value
  | property element name more entries =>
    simp only [conclude, Goal.rewrite, propertyValue?_rewrite]
    split
    · exact merge_rewrite ρ _ entries more a
    · exact refused _

/-- Taking up the next entry does not look at its value. -/
theorem takeNext_rewrite (policy : Policy) (a : Around) :
    takeNext policy (a.rewrite ρ.source) = (takeNext policy a).map (State.rewrite ρ) := by
  obtain ⟨frames, rest⟩ := a
  cases frames with
  | nil =>
    cases rest with
    | nil => rfl
    | cons e rest => exact enter_rewrite ρ policy e.1 e.2 ⟨[], rest⟩
  | cons f outer =>
    cases f with
    | spread element entries items =>
      cases entries with
      | cons e entries =>
        exact enter_rewrite ρ policy e.1 e.2 ⟨.spread element entries items :: outer, rest⟩
      | nil =>
        cases items with
        | cons item items => rfl
        | nil => exact congrArg quietly (deliver_rewrite ρ element.toNode ⟨outer, rest⟩)
    | members element entries =>
      cases entries with
      | cons e entries =>
        simp only [takeNext, Around.rewrite, List.map_cons, Frame.rewrite, rewriteEntries]
        split
        · rfl
        · exact enter_rewrite ρ policy e.1 e.2 ⟨.members element entries :: outer, rest⟩
      | nil => exact congrArg quietly (deliver_rewrite ρ element.toNode ⟨outer, rest⟩)

/-! ## Deciding a gate -/

theorem decideEntries_eq_rewrite (gate : Nat) (d : Decision) (entries : List (String × Source)) :
    decideEntries gate d entries = rewriteEntries (Source.decide gate d) entries := by
  induction entries with
  | nil => rfl
  | cons e rest ih => rw [decideEntries, ih]; rfl

theorem decideItems_eq_map (gate : Nat) (d : Decision) (items : List Source) :
    decideItems gate d items = items.map (Source.decide gate d) := by
  induction items with
  | nil => rfl
  | cons s rest ih => rw [decideItems, ih]; rfl

theorem Value.decide_eq_rewrite (gate : Nat) (d : Decision) (v : Value) :
    v.decide gate d = v.rewrite (Source.decide gate d) := by
  cases v with
  | mapping entries => exact congrArg Value.mapping (decideEntries_eq_rewrite gate d entries)
  | list items => exact congrArg Value.list (decideItems_eq_map gate d items)
  | _ => rfl

theorem Around.decide_eq_rewrite (gate : Nat) (d : Decision) (a : Around) :
    a.decide gate d = a.rewrite (Source.decide gate d) := by
  rw [Around.decide, Around.rewrite, decideEntries_eq_rewrite]
  congr 1
  refine List.map_congr_left fun f _ => ?_
  cases f with
  | spread element entries items =>
    rw [Frame.decide, Frame.rewrite, decideEntries_eq_rewrite, decideItems_eq_map]
  | members element entries => rw [Frame.decide, Frame.rewrite, decideEntries_eq_rewrite]

theorem Goal.decide_eq_rewrite (gate : Nat) (d : Decision) (goal : Goal) :
    goal.decide gate d = goal.rewrite (Source.decide gate d) := by
  cases goal with
  | document => rfl
  | item element items => rw [Goal.decide, Goal.rewrite, decideItems_eq_map]
  | content tag => rfl
  | namedValue element name entries => rw [Goal.decide, Goal.rewrite, decideEntries_eq_rewrite]
  | property element name more entries =>
    rw [Goal.decide, Goal.rewrite, decideEntries_eq_rewrite, decideEntries_eq_rewrite]

/-- Deciding a gate, as a replacement of positions. -/
def Rewriting.decide (gate : Nat) (d : Decision) : Rewriting where
  source := Source.decide gate d
  awaiting goal p a := .awaiting goal (p.decide gate d) a

theorem State.decide_eq_rewrite (gate : Nat) (d : Decision) :
    State.decide gate d = State.rewrite (.decide gate d) := by
  funext s
  cases s with
  | resolving goal source a =>
    rw [State.decide, Goal.decide_eq_rewrite, Around.decide_eq_rewrite]
    rfl
  | awaiting goal value a =>
    rw [State.decide, Goal.decide_eq_rewrite, Around.decide_eq_rewrite]
    rfl
  | next a =>
    rw [State.decide, Around.decide_eq_rewrite]
    rfl
  | finished => rfl

/-- A pending value keeps its label: a gate has none, nor has what stands in its place. -/
theorem Pending.label_decide (gate : Nat) (d : Decision) (p : Pending) :
    (p.decide gate d).label = p.label := by
  cases p with
  | deferred label yields outcome => rfl
  | failing label yields reason => rfl
  | gate id =>
    rw [Pending.decide]
    split
    · cases d <;> rfl
    · rfl

/-- **A step commutes with a decision**, unless it waits for the gate that is decided. -/
theorem step_decide (policy : Policy) {gate : Nat} {d : Decision} {s : State}
    (free : s.blockedOn? ≠ some gate) :
    step policy (s.decide gate d) = (step policy s).map (State.decide gate d) := by
  rw [State.decide_eq_rewrite]
  let ρ := Rewriting.decide gate d
  cases s with
  | resolving goal source a =>
    cases source with
    | ready v =>
      rw [State.rewrite]
      show conclude _ _ (v.decide gate d) = _
      rw [Value.decide_eq_rewrite]
      exact conclude_rewrite ρ goal a v
    | pending p =>
      rw [State.rewrite]
      show Render.Step.mk [.started (p.decide gate d).label] _ = _
      rw [Pending.label_decide]
      rfl
  | awaiting goal value a =>
    cases value with
    | deferred label yields outcome => cases yields <;> rfl
    | failing label yields reason =>
      cases yields with
      | succ yields => rfl
      | zero =>
        exact congrArg
          (fun s : Render.Step => Render.Step.mk (.failed label :: s.events) s.outcome)
          (reject_rewrite ρ goal (.unresolved reason) a)
    | gate id =>
      have other : id ≠ gate := fun h => free (congrArg some h)
      have same : (Pending.gate id).decide gate d = .gate id := if_neg other
      simp only [State.rewrite, Rewriting.decide, same, step, await]
      simp only [Step.map, quietly, Outcome.map, State.rewrite, same]
  | next a => exact takeNext_rewrite ρ policy a
  | finished => rfl

end Render

end JsonMarkup
