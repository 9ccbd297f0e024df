import JsonMarkup.Proofs.Render.Remaining
import JsonMarkup.Proofs.Render.Rewriting
import JsonMarkup.Proofs.Source.Final

/-!
# Final outcomes in the course of a rendering

`State.final Ω` is a state in which every pending value has its final outcome. Deciding a gate in a
state is substitution, as it is in a document, and a rendering never notices the difference between
a pending value and its final outcome.

**Simulation (`foretells_final`).** The nodes that come of a state are those that come of the state
with final outcomes. A step on a value that is ready happens in both, since putting final outcomes
in replaces positions (`State.final_eq_rewrite`) and such a step does not look into them; a step on
a pending value changes nothing in the second.
-/

namespace JsonMarkup.Render

/-! ## Final outcomes in what is left to do -/

/-- The open element with final outcomes in it. -/
def Frame.final (Ω : Outcomes) : Frame → Frame
  | .spread element entries items =>
    .spread element (finalEntries Ω entries) (finalItems Ω items)
  | .members element entries => .members element (finalEntries Ω entries)

/-- The surroundings with final outcomes in them. -/
def Around.final (Ω : Outcomes) (a : Around) : Around :=
  ⟨a.frames.map (·.final Ω), finalEntries Ω a.rest⟩

/-- The goal with final outcomes in what comes after the wanted value. -/
def Goal.final (Ω : Outcomes) : Goal → Goal
  | .document => .document
  | .item element items => .item element (finalItems Ω items)
  | .content tag => .content tag
  | .namedValue element name entries => .namedValue element name (finalEntries Ω entries)
  | .property element name more entries =>
    .property element name (finalEntries Ω more) (finalEntries Ω entries)

/-- The state in which every pending value has its final outcome; one that has been started stands
where it was found. -/
def State.final (Ω : Outcomes) : State → State
  | .resolving goal source a => .resolving (goal.final Ω) (source.final Ω) (a.final Ω)
  | .awaiting goal value a => .resolving (goal.final Ω) (value.final Ω) (a.final Ω)
  | .next a => .next (a.final Ω)
  | .finished => .finished

/-! ## Only the gates in a state matter -/

theorem Frame.final_congr {Ω Ω' : Outcomes} {f : Frame}
    (h : ∀ g, f.mentions g = true → Ω g = Ω' g) : f.final Ω = f.final Ω' := by
  cases f with
  | spread element entries items =>
    simp only [Frame.mentions, Bool.or_eq_true] at h
    rw [Frame.final, Frame.final, finalEntries_congr fun g hg => h g (Or.inl hg),
      finalItems_congr fun g hg => h g (Or.inr hg)]
  | members element entries => rw [Frame.final, Frame.final, finalEntries_congr h]

theorem Around.final_congr {Ω Ω' : Outcomes} {a : Around}
    (h : ∀ g, a.mentions g = true → Ω g = Ω' g) : a.final Ω = a.final Ω' := by
  simp only [Around.mentions, Bool.or_eq_true, List.any_eq_true] at h
  rw [Around.final, Around.final, finalEntries_congr fun g hg => h g (Or.inr hg)]
  congr 1
  refine List.map_congr_left fun f hf => ?_
  exact Frame.final_congr fun g hg => h g (Or.inl ⟨f, hf, hg⟩)

theorem Goal.final_congr {Ω Ω' : Outcomes} {goal : Goal}
    (h : ∀ g, goal.mentions g = true → Ω g = Ω' g) : goal.final Ω = goal.final Ω' := by
  cases goal with
  | document => rfl
  | item element items => rw [Goal.final, Goal.final, finalItems_congr h]
  | content tag => rfl
  | namedValue element name entries => rw [Goal.final, Goal.final, finalEntries_congr h]
  | property element name more entries =>
    simp only [Goal.mentions, Bool.or_eq_true] at h
    rw [Goal.final, Goal.final, finalEntries_congr fun g hg => h g (Or.inl hg),
      finalEntries_congr fun g hg => h g (Or.inr hg)]

theorem State.final_congr {Ω Ω' : Outcomes} {s : State}
    (h : ∀ g, s.mentions g = true → Ω g = Ω' g) : s.final Ω = s.final Ω' := by
  cases s with
  | resolving goal source a =>
    simp only [State.mentions, Bool.or_eq_true] at h
    rw [State.final, State.final, Goal.final_congr fun g hg => h g (Or.inl (Or.inl hg)),
      Source.final_congr fun g hg => h g (Or.inl (Or.inr hg)),
      Around.final_congr fun g hg => h g (Or.inr hg)]
  | awaiting goal value a =>
    simp only [State.mentions, Bool.or_eq_true] at h
    rw [State.final, State.final, Goal.final_congr fun g hg => h g (Or.inl (Or.inl hg)),
      Pending.final_congr fun g hg => h g (Or.inl (Or.inr hg)),
      Around.final_congr fun g hg => h g (Or.inr hg)]
  | next a => rw [State.final, State.final, Around.final_congr h]
  | finished => rfl

/-! ## Deciding a gate is substitution -/

theorem Frame.final_decide (Ω : Outcomes) (gate : Nat) (d : Decision) (f : Frame) :
    (f.decide gate d).final Ω = f.final (Function.update Ω gate (d.final Ω)) := by
  cases f with
  | spread element entries items =>
    rw [Frame.decide, Frame.final, Frame.final, finalEntries_decide, finalItems_decide]
  | members element entries => rw [Frame.decide, Frame.final, Frame.final, finalEntries_decide]

theorem Around.final_decide (Ω : Outcomes) (gate : Nat) (d : Decision) (a : Around) :
    (a.decide gate d).final Ω = a.final (Function.update Ω gate (d.final Ω)) := by
  rw [Around.decide, Around.final, Around.final, finalEntries_decide, List.map_map]
  congr 1
  exact List.map_congr_left fun f _ => Frame.final_decide Ω gate d f

theorem Goal.final_decide (Ω : Outcomes) (gate : Nat) (d : Decision) (goal : Goal) :
    (goal.decide gate d).final Ω = goal.final (Function.update Ω gate (d.final Ω)) := by
  cases goal with
  | document => rfl
  | item element items => rw [Goal.decide, Goal.final, Goal.final, finalItems_decide]
  | content tag => rfl
  | namedValue element name entries =>
    rw [Goal.decide, Goal.final, Goal.final, finalEntries_decide]
  | property element name more entries =>
    rw [Goal.decide, Goal.final, Goal.final, finalEntries_decide, finalEntries_decide]

/-- Deciding a gate in a state is substitution. -/
theorem State.final_decide (Ω : Outcomes) (gate : Nat) (d : Decision) (s : State) :
    (s.decide gate d).final Ω = s.final (Function.update Ω gate (d.final Ω)) := by
  cases s with
  | resolving goal source a =>
    rw [State.decide, State.final, State.final, Goal.final_decide, Source.final_decide,
      Around.final_decide]
  | awaiting goal value a =>
    rw [State.decide, State.final, State.final, Goal.final_decide, Pending.final_decide,
      Around.final_decide]
  | next a => rw [State.decide, State.final, State.final, Around.final_decide]
  | finished => rfl

/-! ## Steps on values that are ready -/

/-- The outcome with final outcomes in what is left to do. -/
def Outcome.final (Ω : Outcomes) : Outcome → Outcome
  | .goOn s => .goOn (s.final Ω)
  | .suspend s => .suspend (s.final Ω)
  | .yield node s => .yield node (s.final Ω)
  | .stop => .stop

variable (Ω : Outcomes)

theorem finalEntries_eq_rewrite (entries : List (String × Source)) :
    finalEntries Ω entries = rewriteEntries (Source.final Ω) entries := by
  induction entries with
  | nil => rfl
  | cons e rest ih => rw [finalEntries, ih]; rfl

theorem finalItems_eq_map (items : List Source) :
    finalItems Ω items = items.map (Source.final Ω) := by
  induction items with
  | nil => rfl
  | cons s rest ih => rw [finalItems, ih]; rfl

theorem Value.final_eq_rewrite (v : Value) : v.final Ω = v.rewrite (Source.final Ω) := by
  cases v with
  | mapping entries => exact congrArg Value.mapping (finalEntries_eq_rewrite Ω entries)
  | list items => exact congrArg Value.list (finalItems_eq_map Ω items)
  | _ => rfl

theorem Around.final_eq_rewrite (a : Around) : a.final Ω = a.rewrite (Source.final Ω) := by
  rw [Around.final, Around.rewrite, finalEntries_eq_rewrite]
  congr 1
  refine List.map_congr_left fun f _ => ?_
  cases f with
  | spread element entries items =>
    rw [Frame.final, Frame.rewrite, finalEntries_eq_rewrite, finalItems_eq_map]
  | members element entries => rw [Frame.final, Frame.rewrite, finalEntries_eq_rewrite]

theorem Goal.final_eq_rewrite (goal : Goal) : goal.final Ω = goal.rewrite (Source.final Ω) := by
  cases goal with
  | document => rfl
  | item element items => rw [Goal.final, Goal.rewrite, finalItems_eq_map]
  | content tag => rfl
  | namedValue element name entries => rw [Goal.final, Goal.rewrite, finalEntries_eq_rewrite]
  | property element name more entries =>
    rw [Goal.final, Goal.rewrite, finalEntries_eq_rewrite, finalEntries_eq_rewrite]

/-- Putting final outcomes in, as a replacement of positions. -/
def Rewriting.final : Rewriting where
  source := Source.final Ω
  awaiting goal p a := .resolving goal (p.final Ω) a

theorem State.final_eq_rewrite : State.final Ω = State.rewrite (.final Ω) := by
  funext s
  cases s with
  | resolving goal source a =>
    rw [State.final, Goal.final_eq_rewrite, Around.final_eq_rewrite]
    rfl
  | awaiting goal value a =>
    rw [State.final, Goal.final_eq_rewrite, Around.final_eq_rewrite]
    rfl
  | next a =>
    rw [State.final, Around.final_eq_rewrite]
    rfl
  | finished => rfl

theorem Outcome.map_final (o : Outcome) : o.map (State.rewrite (.final Ω)) = o.final Ω := by
  rw [← State.final_eq_rewrite]
  cases o <;> rfl

theorem reject_final (goal : Goal) (error : RenderError) (a : Around) :
    (reject (goal.final Ω) error (a.final Ω)).outcome = (reject goal error a).outcome.final Ω := by
  rw [Goal.final_eq_rewrite, Around.final_eq_rewrite, ← Outcome.map_final]
  exact congrArg Step.outcome (reject_rewrite (.final Ω) goal error a)

theorem conclude_final (goal : Goal) (a : Around) (value : Value) :
    (conclude (goal.final Ω) (a.final Ω) (value.final Ω)).outcome =
      (conclude goal a value).outcome.final Ω := by
  rw [Goal.final_eq_rewrite, Around.final_eq_rewrite, Value.final_eq_rewrite, ← Outcome.map_final]
  exact congrArg Step.outcome (conclude_rewrite (.final Ω) goal a value)

theorem takeNext_final (policy : Policy) (a : Around) :
    (takeNext policy (a.final Ω)).outcome = (takeNext policy a).outcome.final Ω := by
  rw [Around.final_eq_rewrite, ← Outcome.map_final]
  exact congrArg Step.outcome (takeNext_rewrite (.final Ω) policy a)

/-! ## Steps on pending values -/

theorem Outcome.nodes_final (rest : State → List Node) (o : Outcome) :
    (o.final Ω).nodes rest = o.nodes fun s => rest (s.final Ω) := by
  cases o <;> rfl

/-- **Simulation.** The nodes that come of a state are those that come of it with final outcomes. -/
theorem foretells_final (policy : Policy) :
    Foretells policy fun s => (s.final Ω).remaining policy := by
  intro s
  -- What the step does with final outcomes is what it does without them.
  have lockstep : (step policy (s.final Ω)).outcome = (step policy s).outcome.final Ω →
      (s.final Ω).remaining policy =
        (step policy s).outcome.nodes fun s => (s.final Ω).remaining policy := by
    intro h
    rw [remaining_step policy (s.final Ω), h, Outcome.nodes_final]
  cases s with
  | resolving goal source a =>
    cases source with
    | ready value => exact lockstep (conclude_final Ω goal a value)
    | pending value => rfl
  | awaiting goal value a =>
    cases value with
    | deferred label yields outcome => cases yields <;> rfl
    | failing label yields reason =>
      cases yields with
      | succ yields => rfl
      | zero =>
        -- The failure comes at once, but it has to be started first.
        have started := remaining_step policy
          (.resolving (goal.final Ω) (.pending (.failing none 0 reason)) (a.final Ω))
        have failed := remaining_step policy
          (.awaiting (goal.final Ω) (.failing none 0 reason) (a.final Ω))
        refine started.trans (failed.trans ?_)
        show (reject (goal.final Ω) (.unresolved reason) (a.final Ω)).outcome.nodes _ =
          (reject goal (.unresolved reason) a).outcome.nodes _
        rw [reject_final, Outcome.nodes_final]
    | gate id => rfl
  | next a => exact lockstep (takeNext_final Ω policy a)
  | finished => exact lockstep rfl

end JsonMarkup.Render
