import JsonMarkup.Source.Pending
import Mathlib.Data.Set.Finite.Basic
import Mathlib.Logic.Function.Basic
import Mathlib.Logic.Relation
import Mathlib.Order.WellFounded

/-!
# Final outcomes

`Source.final Ω` is a document in which every pending position has been replaced by its final
outcome: a value that is ready, or a failure that comes at once. `Ω` says what becomes of the
gates.

**Substitution (`final_decide`).** Deciding a gate first makes the same difference as giving it,
in `Ω`, the final outcome of what it is decided with.

**Existence (`outcomes_of_decided`).** Whatever the gates are decided with, there are outcomes that
agree with it on every gate that does not wait for itself. None does if each gate stands in one
place only (`Owned.grounded`), as when whoever makes a gate gets one pending value to hand on.
-/

namespace JsonMarkup

/-- What becomes of each gate. -/
abbrev Outcomes := Nat → Source

mutual

/-- The document with every pending position replaced by its final outcome. -/
def Source.final (Ω : Outcomes) : Source → Source
  | .ready v => .ready (v.final Ω)
  | .pending p => p.final Ω

/-- The final outcome of a pending value: what it settles to in the end, or a failure that comes
at once. -/
def Pending.final (Ω : Outcomes) : Pending → Source
  | .deferred _ _ outcome => outcome.final Ω
  | .failing _ _ reason => .pending (.failing none 0 reason)
  | .gate id => Ω id

/-- The value with final outcomes in it. -/
def Value.final (Ω : Outcomes) : Value → Value
  | .mapping entries => .mapping (finalEntries Ω entries)
  | .list items => .list (finalItems Ω items)
  | v => v

/-- The entries of a mapping with final outcomes in them. -/
def finalEntries (Ω : Outcomes) : List (String × Source) → List (String × Source)
  | [] => []
  | (key, s) :: rest => (key, s.final Ω) :: finalEntries Ω rest

/-- The entries of a list with final outcomes in them. -/
def finalItems (Ω : Outcomes) : List Source → List Source
  | [] => []
  | s :: rest => s.final Ω :: finalItems Ω rest

end

/-- What becomes of a gate that is decided like this. -/
def Decision.final (Ω : Outcomes) (d : Decision) : Source := d.toPending.final Ω

/-- The gate stands in what is decided. -/
def Decision.mentions (gate : Nat) (d : Decision) : Bool := d.toPending.mentions gate

/-! ## Only the gates in a document matter -/

mutual

theorem Source.final_congr {Ω Ω' : Outcomes} :
    ∀ {s : Source}, (∀ g, s.mentions g = true → Ω g = Ω' g) → s.final Ω = s.final Ω'
  | .ready v, h => by rw [Source.final, Source.final, Value.final_congr (v := v) h]
  | .pending p, h => Pending.final_congr (p := p) h

theorem Pending.final_congr {Ω Ω' : Outcomes} :
    ∀ {p : Pending}, (∀ g, p.mentions g = true → Ω g = Ω' g) → p.final Ω = p.final Ω'
  | .deferred _ _ s, h => Source.final_congr (s := s) h
  | .failing _ _ _, _ => rfl
  | .gate id, h => h id (by simp [Pending.mentions])

theorem Value.final_congr {Ω Ω' : Outcomes} :
    ∀ {v : Value}, (∀ g, v.mentions g = true → Ω g = Ω' g) → v.final Ω = v.final Ω'
  | .null, _ | .boolean _, _ | .number _, _ | .text _, _ => rfl
  | .mapping es, h => by rw [Value.final, Value.final, finalEntries_congr (l := es) h]
  | .list is, h => by rw [Value.final, Value.final, finalItems_congr (l := is) h]

theorem finalEntries_congr {Ω Ω' : Outcomes} :
    ∀ {l : List (String × Source)}, (∀ g, entriesMention g l = true → Ω g = Ω' g) →
      finalEntries Ω l = finalEntries Ω' l
  | [], _ => rfl
  | (_, s) :: rest, h => by
    simp only [entriesMention, Bool.or_eq_true] at h
    rw [finalEntries, finalEntries, Source.final_congr (s := s) fun g hg => h g (Or.inl hg),
      finalEntries_congr (l := rest) fun g hg => h g (Or.inr hg)]

theorem finalItems_congr {Ω Ω' : Outcomes} :
    ∀ {l : List Source}, (∀ g, itemsMention g l = true → Ω g = Ω' g) →
      finalItems Ω l = finalItems Ω' l
  | [], _ => rfl
  | s :: rest, h => by
    simp only [itemsMention, Bool.or_eq_true] at h
    rw [finalItems, finalItems, Source.final_congr (s := s) fun g hg => h g (Or.inl hg),
      finalItems_congr (l := rest) fun g hg => h g (Or.inr hg)]

end

/-! ## Deciding a gate is substitution -/

mutual

/-- **Substitution.** To decide a gate is to give it the final outcome of its decision. -/
theorem Source.final_decide (Ω : Outcomes) (gate : Nat) (d : Decision) :
    ∀ s : Source, (s.decide gate d).final Ω = s.final (Function.update Ω gate (d.final Ω))
  | .ready v => by
    rw [Source.decide, Source.final, Source.final, Value.final_decide Ω gate d v]
  | .pending p => by rw [Source.decide, Source.final, Source.final, Pending.final_decide Ω gate d p]

theorem Pending.final_decide (Ω : Outcomes) (gate : Nat) (d : Decision) :
    ∀ p : Pending, (p.decide gate d).final Ω = p.final (Function.update Ω gate (d.final Ω))
  | .deferred _ _ s => by
    rw [Pending.decide, Pending.final, Pending.final, Source.final_decide Ω gate d s]
  | .failing _ _ _ => rfl
  | .gate id => by
    rw [Pending.decide, Pending.final, Function.update_apply]
    split
    · rfl
    · rfl

theorem Value.final_decide (Ω : Outcomes) (gate : Nat) (d : Decision) :
    ∀ v : Value, (v.decide gate d).final Ω = v.final (Function.update Ω gate (d.final Ω))
  | .null | .boolean _ | .number _ | .text _ => rfl
  | .mapping es => by
    rw [Value.decide, Value.final, Value.final, finalEntries_decide Ω gate d es]
  | .list is => by rw [Value.decide, Value.final, Value.final, finalItems_decide Ω gate d is]

theorem finalEntries_decide (Ω : Outcomes) (gate : Nat) (d : Decision) :
    ∀ es : List (String × Source), finalEntries Ω (decideEntries gate d es) =
      finalEntries (Function.update Ω gate (d.final Ω)) es
  | [] => rfl
  | (_, s) :: rest => by
    rw [decideEntries, finalEntries, finalEntries, Source.final_decide Ω gate d s,
      finalEntries_decide Ω gate d rest]

theorem finalItems_decide (Ω : Outcomes) (gate : Nat) (d : Decision) :
    ∀ is : List Source, finalItems Ω (decideItems gate d is) =
      finalItems (Function.update Ω gate (d.final Ω)) is
  | [] => rfl
  | s :: rest => by
    rw [decideItems, finalItems, finalItems, Source.final_decide Ω gate d s,
      finalItems_decide Ω gate d rest]

end

theorem Decision.final_decide (Ω : Outcomes) (gate : Nat) (e d : Decision) :
    (Decision.decide gate e d).final Ω = d.final (Function.update Ω gate (e.final Ω)) := by
  rw [Decision.final, Decision.toPending_decide, Pending.final_decide]
  rfl

theorem Decision.final_congr {Ω Ω' : Outcomes} {d : Decision}
    (h : ∀ g, d.mentions g = true → Ω g = Ω' g) : d.final Ω = d.final Ω' :=
  Pending.final_congr h

/-! ## The gates that are left after a decision -/

/-- The gates that may stand where `gate` has been decided like `d`: those that stood there before,
`gate` itself excepted, and those that `d` brings along if `gate` stood there. -/
def LeftBy (gate : Nat) (d : Decision) (stands : Nat → Bool) (g : Nat) : Prop :=
  (stands g = true ∧ g ≠ gate) ∨ (stands gate = true ∧ d.mentions g = true)

theorem LeftBy.mono {gate g : Nat} {d : Decision} {stands stands' : Nat → Bool}
    (h : LeftBy gate d stands g) (hle : ∀ k, stands k = true → stands' k = true) :
    LeftBy gate d stands' g :=
  h.imp (And.imp_left (hle g)) (And.imp_left (hle gate))

mutual

theorem Source.mentions_decide {gate g : Nat} {d : Decision} :
    ∀ {s : Source}, (s.decide gate d).mentions g = true → LeftBy gate d (s.mentions ·) g
  | .ready v, h => Value.mentions_decide (v := v) h
  | .pending p, h => Pending.mentions_decide (p := p) h

theorem Pending.mentions_decide {gate g : Nat} {d : Decision} :
    ∀ {p : Pending}, (p.decide gate d).mentions g = true → LeftBy gate d (p.mentions ·) g
  | .deferred _ _ s, h => Source.mentions_decide (s := s) h
  | .failing _ _ _, h => by simp [Pending.decide, Pending.mentions] at h
  | .gate id, h => by
    rw [Pending.decide] at h
    split at h
    · rename_i heq
      exact Or.inr ⟨by simp [Pending.mentions, heq], h⟩
    · rename_i hne
      have hid : id = g := by simpa [Pending.mentions] using h
      exact Or.inl ⟨h, by rwa [← hid]⟩

theorem Value.mentions_decide {gate g : Nat} {d : Decision} :
    ∀ {v : Value}, (v.decide gate d).mentions g = true → LeftBy gate d (v.mentions ·) g
  | .null, h | .boolean _, h | .number _, h | .text _, h => by
    simp [Value.decide, Value.mentions] at h
  | .mapping es, h => entriesMention_decide (l := es) h
  | .list is, h => itemsMention_decide (l := is) h

theorem entriesMention_decide {gate g : Nat} {d : Decision} :
    ∀ {l : List (String × Source)}, entriesMention g (decideEntries gate d l) = true →
      LeftBy gate d (entriesMention · l) g
  | [], h => by simp [decideEntries, entriesMention] at h
  | (_, s) :: rest, h => by
    rw [decideEntries, entriesMention, Bool.or_eq_true] at h
    rcases h with h | h
    · exact (Source.mentions_decide (s := s) h).mono fun k hk => by simp [entriesMention, hk]
    · exact (entriesMention_decide (l := rest) h).mono fun k hk => by simp [entriesMention, hk]

theorem itemsMention_decide {gate g : Nat} {d : Decision} :
    ∀ {l : List Source}, itemsMention g (decideItems gate d l) = true →
      LeftBy gate d (itemsMention · l) g
  | [], h => by simp [decideItems, itemsMention] at h
  | s :: rest, h => by
    rw [decideItems, itemsMention, Bool.or_eq_true] at h
    rcases h with h | h
    · exact (Source.mentions_decide (s := s) h).mono fun k hk => by simp [itemsMention, hk]
    · exact (itemsMention_decide (l := rest) h).mono fun k hk => by simp [itemsMention, hk]

end

theorem Decision.mentions_decide {gate g : Nat} {e d : Decision}
    (h : (Decision.decide gate e d).mentions g = true) : LeftBy gate e (d.mentions ·) g := by
  rw [Decision.mentions, Decision.toPending_decide] at h
  exact Pending.mentions_decide h

/-! ## Outcomes for given decisions -/

/-- What the gates are decided with, for those that are decided at all. -/
abbrev Decisions := Nat → Option Decision

namespace Decisions

/-- The gate `h` stands in what `g` is decided with, so `g` has to wait for `h`. -/
def Feeds (D : Decisions) (h g : Nat) : Prop := ∃ d, D g = some d ∧ d.mentions h = true

/-- No gate that stands somewhere waits for itself, neither directly nor through other gates: each
has a final outcome once all are decided. -/
def Grounded (D : Decisions) (stands : Nat → Bool) : Prop :=
  ∀ g, stands g = true → Acc D.Feeds g

/-- Each gate stands in one place at most, and finitely many gates are decided. -/
structure Owned (D : Decisions) (stands : Nat → Bool) : Prop where
  once : ∀ {h g g'}, D.Feeds h g → D.Feeds h g' → g = g'
  outside : ∀ {h g}, stands h = true → ¬ D.Feeds h g
  finite : {g | D g ≠ none}.Finite

/-- A gate does not wait for itself if none stands in two places. -/
theorem Owned.grounded {D : Decisions} {stands : Nat → Bool} (owned : D.Owned stands) :
    D.Grounded stands := by
  intro g hg
  by_contra waits
  obtain ⟨f, rfl, fed⟩ := not_acc_iff_exists_descending_chain.mp waits
  -- Gates of the chain that are the same stand in the same gate, and the first stands in none.
  have distinct : ∀ i j, f i = f j → i = j := by
    intro i
    induction i with
    | zero =>
      intro j same
      cases j with
      | zero => rfl
      | succ j =>
        rw [same] at hg
        exact absurd (fed j) (owned.outside hg)
    | succ i ih =>
      intro j same
      cases j with
      | zero =>
        rw [← same] at hg
        exact absurd (fed i) (owned.outside hg)
      | succ j =>
        have fed_i := fed i
        rw [same] at fed_i
        rw [ih j (owned.once fed_i (fed j))]
  refine Set.infinite_of_injective_forall_mem distinct (fun n => ?_) owned.finite
  obtain ⟨d, hd, -⟩ := fed n
  simp [hd]

open Classical in
/-- The outcome of a gate that does not wait for itself; `ρ` says what becomes of gates that are
never decided. -/
noncomputable def outcomeOf (D : Decisions) (ρ : Outcomes) {g : Nat} (hg : Acc D.Feeds g) :
    Source :=
  hg.rec fun g _ outcome =>
    match D g with
    | none => ρ g
    | some d => d.final fun h => if fed : D.Feeds h g then outcome h fed else ρ h

open Classical in
noncomputable def outcomes (D : Decisions) (ρ : Outcomes) : Outcomes := fun g =>
  if hg : Acc D.Feeds g then D.outcomeOf ρ hg else ρ g

theorem outcomeOf_eq (D : Decisions) (ρ : Outcomes) {g : Nat} (hg : Acc D.Feeds g) :
    D.outcomeOf ρ hg = match D g with
      | none => ρ g
      | some d => d.final (D.outcomes ρ) := by
  obtain ⟨_, below⟩ := hg
  unfold outcomeOf
  dsimp only
  split
  · rfl
  · rename_i d hd
    refine Decision.final_congr fun k hk => ?_
    have fed : D.Feeds k g := ⟨d, hd, hk⟩
    rw [dif_pos fed, outcomes, dif_pos (below k fed)]
    rfl

/-- A gate that is never decided may be given any outcome. -/
theorem outcomes_of_undecided {D : Decisions} (ρ : Outcomes) {g : Nat} (h : D g = none) :
    D.outcomes ρ g = ρ g := by
  unfold outcomes
  split
  · rename_i hg
    rw [outcomeOf_eq, h]
  · rfl

/-- A decided gate has the final outcome of its decision. -/
theorem outcomes_of_decided {D : Decisions} (ρ : Outcomes) {g : Nat} {d : Decision}
    (hg : Acc D.Feeds g) (h : D g = some d) : D.outcomes ρ g = d.final (D.outcomes ρ) := by
  rw [outcomes, dif_pos hg, outcomeOf_eq, h]

end Decisions

end JsonMarkup
