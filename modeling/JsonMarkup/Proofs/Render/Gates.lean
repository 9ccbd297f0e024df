import JsonMarkup.Proofs.Source.Final
import JsonMarkup.Render.Stream
import Mathlib.Tactic.Tauto

/-!
# Gates in the course of a rendering

**Main statements.** After a decision only the gates of the state and those of the decision may be
left (`State.mentions_decide`), and no step brings in a gate that did not stand in what was left to
do before (`mentions_step`).
-/

namespace JsonMarkup.Render

/-! ## The gates that are left after a decision -/

theorem Frame.mentions_decide {gate g : Nat} {d : Decision} {f : Frame}
    (h : (f.decide gate d).mentions g = true) : LeftBy gate d (f.mentions ·) g := by
  cases f with
  | spread element entries items =>
    rw [Frame.decide, Frame.mentions, Bool.or_eq_true] at h
    rcases h with h | h
    · exact (entriesMention_decide h).mono fun k hk => by simp [Frame.mentions, hk]
    · exact (itemsMention_decide h).mono fun k hk => by simp [Frame.mentions, hk]
  | members element entries => exact entriesMention_decide h

theorem Around.mentions_decide {gate g : Nat} {d : Decision} {a : Around}
    (h : (a.decide gate d).mentions g = true) : LeftBy gate d (a.mentions ·) g := by
  rw [Around.decide, Around.mentions, Bool.or_eq_true] at h
  rcases h with h | h
  · obtain ⟨f', hf', hg⟩ := List.any_eq_true.mp h
    obtain ⟨f, hf, rfl⟩ := List.mem_map.mp hf'
    refine (Frame.mentions_decide hg).mono fun k hk => ?_
    rw [Around.mentions, List.any_eq_true.mpr ⟨f, hf, hk⟩, Bool.true_or]
  · exact (entriesMention_decide h).mono fun k hk => by simp [Around.mentions, hk]

theorem Goal.mentions_decide {gate g : Nat} {d : Decision} {goal : Goal}
    (h : (goal.decide gate d).mentions g = true) : LeftBy gate d (goal.mentions ·) g := by
  cases goal with
  | document => simp [Goal.decide, Goal.mentions] at h
  | item element items => exact itemsMention_decide h
  | content tag => simp [Goal.decide, Goal.mentions] at h
  | namedValue element name entries => exact entriesMention_decide h
  | property element name more entries =>
    rw [Goal.decide, Goal.mentions, Bool.or_eq_true] at h
    rcases h with h | h
    · exact (entriesMention_decide h).mono fun k hk => by simp [Goal.mentions, hk]
    · exact (entriesMention_decide h).mono fun k hk => by simp [Goal.mentions, hk]

/-- After a decision only the gates of the state and those of the decision may be left. -/
theorem State.mentions_decide {gate g : Nat} {d : Decision} {s : State}
    (h : (s.decide gate d).mentions g = true) : LeftBy gate d (s.mentions ·) g := by
  cases s with
  | resolving goal source a =>
    rw [State.decide, State.mentions, Bool.or_eq_true, Bool.or_eq_true] at h
    rcases h with (h | h) | h
    · exact (Goal.mentions_decide h).mono fun k hk => by simp [State.mentions, hk]
    · exact (Source.mentions_decide h).mono fun k hk => by simp [State.mentions, hk]
    · exact (Around.mentions_decide h).mono fun k hk => by simp [State.mentions, hk]
  | awaiting goal value a =>
    rw [State.decide, State.mentions, Bool.or_eq_true, Bool.or_eq_true] at h
    rcases h with (h | h) | h
    · exact (Goal.mentions_decide h).mono fun k hk => by simp [State.mentions, hk]
    · exact (Pending.mentions_decide h).mono fun k hk => by simp [State.mentions, hk]
    · exact (Around.mentions_decide h).mono fun k hk => by simp [State.mentions, hk]
  | next a => exact Around.mentions_decide h
  | finished => simp [State.decide, State.mentions] at h

/-! ## A step brings in no gate -/

/-- The gate stands in what an outcome leaves to do. -/
def Outcome.mentions (gate : Nat) : Outcome → Bool
  | .goOn s | .suspend s | .yield _ s => s.mentions gate
  | .stop => false

theorem Around.mentions_nil {rest : List (String × Source)} {g : Nat} :
    (Around.mk [] rest).mentions g = true ↔ entriesMention g rest = true := by
  simp [Around.mentions]

theorem Around.mentions_cons {f : Frame} {frames : List Frame} {rest : List (String × Source)}
    {g : Nat} : (Around.mk (f :: frames) rest).mentions g = true ↔
      f.mentions g = true ∨ (Around.mk frames rest).mentions g = true := by
  simp only [Around.mentions, List.any_cons, Bool.or_eq_true, or_assoc]

theorem mentions_deliver {node : Node} {a : Around} {g : Nat}
    (h : (deliver node a).mentions g = true) : a.mentions g = true := by
  obtain ⟨frames, rest⟩ := a
  cases frames with
  | nil => exact h
  | cons f outer =>
    rw [Around.mentions_cons]
    cases f with
    | spread element entries items => exact Around.mentions_cons.mp h
    | members element entries => exact Around.mentions_cons.mp h

theorem mentions_reject {goal : Goal} {error : RenderError} {a : Around} {g : Nat}
    (h : (reject goal error a).outcome.mentions g = true) :
    goal.mentions g = true ∨ a.mentions g = true := by
  cases goal with
  | document => simp [reject, Outcome.mentions, State.mentions] at h
  | item element items =>
    refine (Around.mentions_cons.mp h).imp_left fun hg => ?_
    simpa [Frame.mentions, Goal.mentions, entriesMention] using hg
  | content tag => exact Or.inr (mentions_deliver h)
  | namedValue element name entries => exact Or.inr (mentions_deliver h)
  | property element name more entries => exact Or.inr (mentions_deliver h)

theorem mentions_enter {policy : Policy} {tag : String} {value : Source} {a : Around} {g : Nat}
    (h : (enter policy tag value a).outcome.mentions g = true) :
    value.mentions g = true ∨ a.mentions g = true := by
  have refuse : ∀ {error}, (reject (.content tag) error a).outcome.mentions g = true →
      value.mentions g = true ∨ a.mentions g = true :=
    fun h => Or.inr ((mentions_reject h).resolve_left (by simp [Goal.mentions]))
  unfold enter at h
  dsimp only at h
  split at h
  · exact refuse h
  · split at h
    · simpa [Outcome.mentions, State.mentions, Goal.mentions] using h
    · exact refuse h

theorem mentions_resume {element : Element} {entries : List (String × Source)} {a : Around}
    {g : Nat} (h : (resume element entries a).mentions g = true) :
    entriesMention g entries = true ∨ a.mentions g = true :=
  Around.mentions_cons.mp h

theorem mentions_merge {element : Element} {entries props : List (String × Source)} {a : Around}
    {g : Nat} (h : (merge element entries a props).outcome.mentions g = true) :
    entriesMention g props = true ∨ entriesMention g entries = true ∨ a.mentions g = true := by
  cases props with
  | nil => exact Or.inr (mentions_resume h)
  | cons p more =>
    obtain ⟨name, value⟩ := p
    simp only [merge] at h
    split at h
    · have hg := mentions_reject h
      simp only [Goal.mentions, entriesMention, Bool.or_eq_true] at hg ⊢
      tauto
    · simp only [quietly, Outcome.mentions, State.mentions, Goal.mentions, Bool.or_eq_true] at h
      simp only [entriesMention, Bool.or_eq_true]
      tauto

theorem mentions_apply {element : Element} {name : String} {entries : List (String × Source)}
    {a : Around} {value : Value} {g : Nat}
    (h : (apply element name entries a value).outcome.mentions g = true) :
    entriesMention g entries = true ∨ value.mentions g = true ∨ a.mentions g = true := by
  refine apply_cases (P := fun s => s.outcome.mentions g = true →
    entriesMention g entries = true ∨ value.mentions g = true ∨ a.mentions g = true)
    (fun _ _ _ h => (mentions_resume h).imp_right .inr) (fun props mapping h => ?_)
    (fun _ h => (mentions_reject h).imp_right .inr) h
  have hg := mentions_merge h
  rw [mapping, Value.mentions]
  tauto

theorem mentions_conclude {goal : Goal} {a : Around} {value : Value} {g : Nat}
    (h : (conclude goal a value).outcome.mentions g = true) :
    goal.mentions g = true ∨ value.mentions g = true ∨ a.mentions g = true := by
  have refuse : ∀ {error}, (reject goal error a).outcome.mentions g = true →
      goal.mentions g = true ∨ value.mentions g = true ∨ a.mentions g = true :=
    fun h => (mentions_reject h).imp_right Or.inr
  have passOn : ∀ {node}, (deliver node a).mentions g = true →
      goal.mentions g = true ∨ value.mentions g = true ∨ a.mentions g = true :=
    fun h => Or.inr (Or.inr (mentions_deliver h))
  unfold conclude at h
  split at h
  · split at h
    · simp [quietly, Outcome.mentions, State.mentions] at h
    · exact Or.inr (Or.inl (Around.mentions_nil.mp h))
    · exact refuse h
  · split at h
    · have hg := Around.mentions_cons.mp h
      simp only [Frame.mentions, Goal.mentions, entriesMention, Bool.false_or] at hg ⊢
      tauto
    · have hg := Around.mentions_cons.mp h
      simp only [Frame.mentions, Goal.mentions, Value.mentions, Bool.or_eq_true] at hg ⊢
      tauto
    · exact refuse h
  · split at h
    · exact passOn h
    · have hg := Around.mentions_cons.mp h
      simp only [Frame.mentions, Value.mentions, entriesMention, Bool.false_or] at hg ⊢
      tauto
    · exact Or.inr (Around.mentions_cons.mp h)
    · exact refuse h
  · exact mentions_apply h
  · split at h
    · have hg := mentions_merge h
      simp only [Goal.mentions, Bool.or_eq_true]
      tauto
    · exact refuse h

theorem mentions_takeNext {policy : Policy} {a : Around} {g : Nat}
    (h : (takeNext policy a).outcome.mentions g = true) : a.mentions g = true := by
  obtain ⟨frames, rest⟩ := a
  unfold takeNext at h
  dsimp only at h
  split at h
  · split at h
    · simp [quietly, Outcome.mentions] at h
    · have hg := mentions_enter h
      rw [Around.mentions_nil] at hg ⊢
      rwa [entriesMention, Bool.or_eq_true]
  · have hg := mentions_enter h
    simp only [Around.mentions_cons, Frame.mentions, entriesMention, Bool.or_eq_true] at hg ⊢
    tauto
  · simp only [quietly, Outcome.mentions, State.mentions, Goal.mentions, Bool.or_eq_true] at h
    simp only [Around.mentions_cons, Frame.mentions, itemsMention, Bool.or_eq_true]
    tauto
  · exact Around.mentions_cons.mpr (Or.inr (mentions_deliver h))
  · split at h
    · simp only [quietly, Outcome.mentions, State.mentions, Goal.mentions, Bool.or_eq_true] at h
      simp only [Around.mentions_cons, Frame.mentions, entriesMention, Bool.or_eq_true]
      tauto
    · have hg := mentions_enter h
      simp only [Around.mentions_cons, Frame.mentions, entriesMention, Bool.or_eq_true] at hg ⊢
      tauto
  · exact Around.mentions_cons.mpr (Or.inr (mentions_deliver h))

theorem mentions_await {goal : Goal} {a : Around} {value : Pending} {g : Nat}
    (h : (await goal a value).outcome.mentions g = true) :
    goal.mentions g = true ∨ value.mentions g = true ∨ a.mentions g = true := by
  unfold await at h
  split at h
  · simpa [Outcome.mentions, State.mentions, Pending.mentions, or_assoc] using h
  · simpa [quietly, Outcome.mentions, State.mentions, Pending.mentions, or_assoc] using h
  · exact (mentions_reject h).imp_right Or.inr
  · simpa [quietly, Outcome.mentions, State.mentions, Pending.mentions, or_assoc] using h
  · simpa [quietly, Outcome.mentions, State.mentions, Pending.mentions, or_assoc] using h

/-- A step brings in no gate that did not stand in what was left to do. -/
theorem mentions_step {policy : Policy} {s : State} {g : Nat}
    (h : (step policy s).outcome.mentions g = true) : s.mentions g = true := by
  unfold step at h
  split at h
  · rcases mentions_conclude h with hg | hg | hg <;> simp [State.mentions, Source.mentions, hg]
  · simpa [Outcome.mentions, State.mentions, Source.mentions] using h
  · rcases mentions_await h with hg | hg | hg <;> simp [State.mentions, hg]
  · exact mentions_takeNext h
  · simp [quietly, Outcome.mentions] at h

/-- A poll brings in no gate either. -/
theorem mentions_pollFrom {policy : Policy} {done : List Event} {s : State} {g : Nat}
    (h : (pollFrom policy done s).state.mentions g = true) : s.mentions g = true := by
  fun_induction pollFrom policy done s with
  | case1 done s events s' hs _ ih =>
    have left := @mentions_step policy s g
    rw [hs] at left
    exact left (ih h)
  | case2 done s events s' hs =>
    have left := @mentions_step policy s g
    rw [hs] at left
    exact left h
  | case3 done s events node s' hs =>
    have left := @mentions_step policy s g
    rw [hs] at left
    exact left h
  | case4 done s events hs => simp [State.mentions] at h

/-- The gate that the walk waits for stands in what is left to do. -/
theorem mentions_of_blockedOn {s : State} {g : Nat} (h : s.blockedOn? = some g) :
    s.mentions g = true := by
  cases s with
  | awaiting goal value a =>
    cases value with
    | gate id => simp_all [State.blockedOn?, State.mentions, Pending.mentions]
    | deferred label yields outcome => simp [State.blockedOn?] at h
    | failing label yields reason => simp [State.blockedOn?] at h
  | resolving goal source a => simp [State.blockedOn?] at h
  | next a => simp [State.blockedOn?] at h
  | finished => simp [State.blockedOn?] at h

end JsonMarkup.Render
