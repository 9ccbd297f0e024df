import JsonMarkup.Proofs.Render.Course
import JsonMarkup.Proofs.Render.Final
import JsonMarkup.Proofs.Render.Gates

/-!
# Pending values are transparent

However a rendering is polled and whenever its gates are decided, it yields the nodes of the
document in which every pending position has its final outcome.

**Theorem (`nodes_independent_of_schedule`).** There are outcomes `Ω` of the gates, one for all
schedules, such that the nodes yielded at any moment are a prefix of the nodes of the document with
`Ω` in it, and all of them come once the gates in the way have been decided.

The proof keeps `Faithful` along a course: the nodes yielded so far, followed by what comes of the
state with final outcomes, are the nodes of the document with final outcomes. The gates that were
decided matter only through their outcomes, because a decision is substitution.
-/

namespace JsonMarkup.Render

open Relation

variable {D : Decisions} {Ω : Outcomes}

/-! ## Decisions made so far -/

/-- Decisions as a course keeps them: each brings along only gates that its own gate has to wait
for, none of which was decided before, and it has the outcome of its gate. -/
inductive Ledger (D : Decisions) (Ω : Outcomes) : List (Nat × Decision) → Prop
  | nil : Ledger D Ω []
  | cons {gate : Nat} {d : Decision} {decided : List (Nat × Decision)} :
    Ledger D Ω decided →
    (∀ g, d.mentions g = true → TransGen D.Feeds g gate) →
    (Acc D.Feeds gate → ∀ g, d.mentions g = true → g ∉ decided.map Prod.fst) →
    (Acc D.Feeds gate → d.final Ω = Ω gate) → Ledger D Ω ((gate, d) :: decided)

theorem not_transGen_self {g : Nat} (h : Acc D.Feeds g) : ¬ TransGen D.Feeds g g := by
  induction h with
  | intro g _ ih =>
    intro hg
    obtain ⟨k, hgk, hk⟩ := TransGen.tail'_iff.mp hg
    exact ih k hk (TransGen.head' hk hgk)

/-- A replayed decision brings along only gates that those in it have to wait for. -/
theorem Ledger.mentions_replay {decided : List (Nat × Decision)} (L : Ledger D Ω decided)
    {d : Decision} {g : Nat} (h : (replay decided d).mentions g = true) :
    ∃ k, d.mentions k = true ∧ ReflTransGen D.Feeds g k := by
  induction L generalizing g with
  | nil => exact ⟨g, h, .refl⟩
  | cons _ below _ _ ih =>
    rcases Decision.mentions_decide h with ⟨hg, -⟩ | ⟨hgate, hg⟩
    · exact ih hg
    · obtain ⟨k, hk, hle⟩ := ih hgate
      exact ⟨k, hk, (below g hg).to_reflTransGen.trans hle⟩

theorem Ledger.grounded_replay {decided : List (Nat × Decision)} (L : Ledger D Ω decided)
    {d : Decision} (hd : D.Grounded (d.mentions ·)) :
    D.Grounded ((replay decided d).mentions ·) := by
  intro g hg
  obtain ⟨k, hk, hle⟩ := L.mentions_replay hg
  rcases reflTransGen_iff_eq_or_transGen.mp hle with rfl | hlt
  · exact hd _ hk
  · exact (hd k hk).inv_of_transGen hlt

/-- No decided gate is left in a replayed decision. -/
theorem Ledger.not_mem_of_mentions {decided : List (Nat × Decision)} (L : Ledger D Ω decided)
    {d : Decision} (hd : D.Grounded (d.mentions ·)) {g : Nat}
    (h : (replay decided d).mentions g = true) : g ∉ decided.map Prod.fst := by
  induction L generalizing g with
  | nil => exact List.not_mem_nil
  | @cons gate e decided L below fresh _ ih =>
    rw [List.map_cons, List.mem_cons, not_or]
    rcases Decision.mentions_decide h with ⟨hg, hne⟩ | ⟨hgate, hg⟩
    · exact ⟨hne, ih hg⟩
    · have hacc := L.grounded_replay hd gate hgate
      refine ⟨?_, fresh hacc g hg⟩
      rintro rfl
      exact not_transGen_self hacc (below g hg)

theorem Ledger.final_replay {decided : List (Nat × Decision)} (L : Ledger D Ω decided)
    {d : Decision} (hd : D.Grounded (d.mentions ·)) :
    (replay decided d).final Ω = d.final Ω := by
  induction L with
  | nil => rfl
  | @cons gate e decided L _ _ same ih =>
    show (Decision.decide gate e (replay decided d)).final Ω = d.final Ω
    rw [Decision.final_decide, ← ih]
    refine Decision.final_congr fun g hg => ?_
    rw [Function.update_apply]
    split
    · rename_i heq
      subst heq
      exact same (L.grounded_replay hd g hg)
    · rfl

/-! ## What every course keeps -/

/-- The nodes yielded so far, followed by what comes of the state with final outcomes, are the
nodes of `reference`; every gate left has an outcome and is yet to be decided. -/
structure Faithful (policy : Policy) (D : Decisions) (Ω : Outcomes) (reference : List Node)
    (c : Course) : Prop where
  same_policy : c.stream.policy = policy
  ledger : Ledger D Ω c.decided
  grounded : D.Grounded (c.stream.state.mentions ·)
  undecided : ∀ g, c.stream.state.mentions g = true → g ∉ c.decided.map Prod.fst
  nodes : c.nodes ++ (c.stream.state.final Ω).remaining policy = reference

variable {policy : Policy} {reference : List Node} {c : Course}

theorem faithful_start (Ω : Outcomes) (policy : Policy) {source : Source}
    (grounded : D.Grounded (source.mentions ·)) :
    Faithful policy D Ω (renderNodes policy (source.final Ω)) (.start policy source) where
  same_policy := rfl
  ledger := .nil
  grounded := fun g hg => grounded g (by
    simpa [Course.start, Stream.ofSource, State.start, State.mentions, Goal.mentions,
      Around.mentions, entriesMention] using hg)
  undecided := fun g _ => List.not_mem_nil
  nodes := (renderNodes_eq_remaining policy (source.final Ω)).symm

/-- A poll yields what the final outcomes foretell. -/
theorem Course.nodes_poll (Ω : Outcomes) (same : c.stream.policy = policy) :
    c.poll.nodes ++ (c.poll.stream.state.final Ω).remaining policy =
      c.nodes ++ (c.stream.state.final Ω).remaining policy := by
  have foretold := (foretells_final Ω policy).poll [] c.stream.state
  have below := pollFrom_below policy [] c.stream.state
  rw [foretold]
  simp only [Course.nodes, Course.poll, Stream.poll, same, List.filterMap_append, List.append_assoc]
  congr 1
  generalize pollFrom policy [] c.stream.state = p at below ⊢
  obtain ⟨answer, events, state⟩ := p
  cases answer with
  | pending => rfl
  | node n => rfl
  | ended =>
    obtain rfl := eq_finished_of_isFinished below
    exact remaining_finished policy

theorem Faithful.poll (h : Faithful policy D Ω reference c) :
    Faithful policy D Ω reference c.poll where
  same_policy := h.same_policy
  ledger := h.ledger
  grounded := fun g hg => h.grounded g (mentions_pollFrom hg)
  undecided := fun g hg => h.undecided g (mentions_pollFrom hg)
  nodes := (Course.nodes_poll Ω h.same_policy).trans h.nodes

theorem Faithful.decide (h : Faithful policy D Ω reference c) {gate : Nat} {d : Decision}
    (hD : D gate = some d) (hΩ : Acc D.Feeds gate → Ω gate = d.final Ω) :
    Faithful policy D Ω reference (c.decide gate d) := by
  unfold Course.decide
  split
  · exact h
  dsimp only
  have feeds : ∀ {k}, d.mentions k = true → D.Feeds k gate := fun hk => ⟨d, hD, hk⟩
  have hd : Acc D.Feeds gate → D.Grounded (d.mentions ·) :=
    fun hacc k hk => hacc.inv (feeds hk)
  -- What the decision brings along stands below its gate, so nothing of it was decided before.
  have below : ∀ g, (replay c.decided d).mentions g = true → TransGen D.Feeds g gate := by
    intro g hg
    obtain ⟨k, hk, hle⟩ := h.ledger.mentions_replay hg
    exact TransGen.tail' hle (feeds hk)
  have fresh : Acc D.Feeds gate → ∀ g, (replay c.decided d).mentions g = true →
      g ∉ c.decided.map Prod.fst :=
    fun hacc g hg => h.ledger.not_mem_of_mentions (hd hacc) hg
  have same : Acc D.Feeds gate → (replay c.decided d).final Ω = Ω gate := by
    intro hacc
    rw [h.ledger.final_replay (hd hacc), hΩ hacc]
  refine ⟨h.same_policy, .cons h.ledger below fresh same, ?_, ?_, ?_⟩
  · intro g hg
    rcases State.mentions_decide hg with ⟨hold, -⟩ | ⟨hgate, hnew⟩
    · exact h.grounded g hold
    · exact (h.grounded gate hgate).inv_of_transGen (below g hnew)
  · intro g hg
    rw [List.map_cons, List.mem_cons, not_or]
    rcases State.mentions_decide hg with ⟨hold, hne⟩ | ⟨hgate, hnew⟩
    · exact ⟨hne, h.undecided g hold⟩
    · have hacc := h.grounded gate hgate
      refine ⟨?_, fresh hacc g hnew⟩
      rintro rfl
      exact not_transGen_self hacc (below g hnew)
  · -- A decision changes no final outcome.
    rw [← h.nodes]
    show c.nodes ++ ((c.stream.state.decide gate (replay c.decided d)).final Ω).remaining policy = _
    rw [State.final_decide]
    congr 2
    refine State.final_congr fun g hg => ?_
    rw [Function.update_apply]
    split
    · rename_i heq
      subst heq
      exact same (h.grounded g hg)
    · rfl

/-! ## The theorem -/

theorem faithful_course {source : Source} (grounded : D.Grounded (source.mentions ·))
    (hΩ : ∀ g d, Acc D.Feeds g → D g = some d → Ω g = d.final Ω) {moves : List Move}
    (agree : ∀ m ∈ moves, ∀ g d, m.decision? = some (g, d) → D g = some d) :
    Faithful policy D Ω (renderNodes policy (source.final Ω)) (course policy source moves) := by
  refine course_induction (faithful_start Ω policy grounded) fun c hc m hm => ?_
  unfold Course.move
  split
  · exact hc.poll
  · rename_i gate d hmd
    have hD := agree m hm gate d hmd
    exact hc.decide hD fun hacc => hΩ gate d hacc hD

theorem mem_decided_of_decidedBy {policy : Policy} {source : Source} {moves : List Move} {g : Nat}
    (h : DecidedBy moves g) : g ∈ (course policy source moves).decided.map Prod.fst := by
  induction moves using List.reverseRecOn with
  | nil => simp [DecidedBy] at h
  | append_singleton moves m ih =>
    rw [course_concat, Course.move]
    obtain ⟨m', hm', d, hd⟩ := h
    rcases List.mem_append.mp hm' with hm' | hm'
    · have old := ih ⟨m', hm', d, hd⟩
      split
      · exact old
      · unfold Course.decide
        split
        · exact old
        · exact List.mem_cons_of_mem _ old
    · rw [List.mem_singleton] at hm'
      subst hm'
      rw [hd]
      dsimp only
      unfold Course.decide
      split
      · assumption
      · exact List.mem_cons_self

/-- If no poll waits for a gate that is yet to be decided, the end comes after finitely many. -/
theorem Faithful.reaches_end (h : Faithful policy D Ω reference c)
    (free : ∀ n g, (Course.poll^[n] c).waitsFor? = some g → g ∈ c.decided.map Prod.fst) :
    ∃ n, (Course.poll^[n] c).nodes = reference ∧
      (Course.poll^[n] c).answers.getLast? = some .ended := by
  obtain ⟨w, hw⟩ : ∃ w, w = c.stream.state.weight := ⟨_, rfl⟩
  induction w using Nat.strongRecOn generalizing c with
  | ind w ih =>
    have later : c.poll.stream.state.weight < w → ∃ n, (Course.poll^[n] c).nodes = reference ∧
        (Course.poll^[n] c).answers.getLast? = some .ended := by
      intro hlt
      obtain ⟨n, hn⟩ := ih _ hlt h.poll (fun n => free (n + 1)) rfl
      exact ⟨n + 1, hn⟩
    have below := pollFrom_below policy [] c.stream.state
    rw [← hw] at below
    have hp : c.stream.poll = pollFrom policy [] c.stream.state := by
      rw [Stream.poll, h.same_policy]
    rw [← hp] at below
    unfold Polled.Below at below
    split at below
    · exact later below
    · rcases below with hlt | hblocked
      · exact later hlt
      · obtain ⟨g, hg⟩ := Option.isSome_iff_exists.mp hblocked
        exact absurd (free 1 g hg) (h.poll.undecided g (mentions_of_blockedOn hg))
    · rename_i hanswer
      refine ⟨1, ?_, by rw [← hanswer]; exact c.last_poll⟩
      have nodes := h.poll.nodes
      have finished : c.poll.stream.state = .finished := eq_finished_of_isFinished below
      rw [finished, State.final, remaining_finished, List.append_nil] at nodes
      exact nodes

/-- **Pending values are transparent.** Let `D` say what the gates are decided with, where none in
the document has to wait for itself (`Decisions.Owned.grounded`), and `ρ` what may be made of those
that are never decided. There is one assignment `Ω` of final outcomes such that, whatever polls and
decisions of `D` are made and in whatever order, the nodes yielded so far are a prefix of the nodes
of the document with final outcomes in it; and if no further poll waits for a gate that has not been
decided, finitely many of them yield the rest, and then the end. -/
theorem nodes_independent_of_schedule (policy : Policy) (source : Source) (D : Decisions)
    (ρ : Outcomes) (grounded : D.Grounded (source.mentions ·)) :
    ∃ Ω : Outcomes,
      (∀ g, D g = none → Ω g = ρ g) ∧
      (∀ g d, Acc D.Feeds g → D g = some d → Ω g = d.final Ω) ∧
      ∀ moves : List Move,
        (∀ m ∈ moves, ∀ g d, m.decision? = some (g, d) → D g = some d) →
        (course policy source moves).nodes <+: renderNodes policy (source.final Ω) ∧
        ((∀ n g, (course policy source (moves ++ List.replicate n .poll)).waitsFor? = some g →
            DecidedBy moves g) →
          ∃ n, (course policy source (moves ++ List.replicate n .poll)).nodes =
              renderNodes policy (source.final Ω) ∧
            (course policy source (moves ++ List.replicate n .poll)).answers.getLast? =
              some .ended) := by
  have hΩ : ∀ g d, Acc D.Feeds g → D g = some d → D.outcomes ρ g = d.final (D.outcomes ρ) :=
    fun g d hacc h => D.outcomes_of_decided ρ hacc h
  refine ⟨D.outcomes ρ, fun g h => D.outcomes_of_undecided ρ h, hΩ, fun moves agree => ?_⟩
  have faithful : Faithful policy .. := faithful_course grounded hΩ agree
  refine ⟨⟨_, faithful.nodes⟩, fun free => ?_⟩
  obtain ⟨n, hnodes, hlast⟩ := faithful.reaches_end fun n g hg =>
    mem_decided_of_decidedBy (free n g (by rw [course_polls]; exact hg))
  exact ⟨n, by rw [course_polls]; exact hnodes, by rw [course_polls]; exact hlast⟩

/-- A document with a gate and a value that takes two polls in vain. -/
def gateAndDeferred : Source :=
  .mapping [("p", .pending (.gate 0)), ("q", .pending (.deferred none 2 (.text "later")))]

/-- The gate settles to a second one, which fails. -/
def secondGateFails : Decisions
  | 0 => some (.ok (.pending (.gate 1)))
  | 1 => some (.error "lost")
  | _ => none

/-- Whether the second gate fails before or after the first one settles to it, the document renders
as one whose first entry fails at once. -/
theorem nodes_gateAndDeferred :
    secondGateFails.Grounded (gateAndDeferred.mentions ·) ∧
      ∀ moves : List Move,
        (∀ m ∈ moves, ∀ g d, m.decision? = some (g, d) → secondGateFails g = some d) →
        (course .standard gateAndDeferred moves).nodes <+: renderNodes .standard
          (.mapping [("p", .pending (.failing none 0 "lost")), ("q", .text "later")]) := by
  have feeds : ∀ {h g}, secondGateFails.Feeds h g → h = 1 ∧ g = 0 := by
    rintro h (_ | _ | g) ⟨d, ⟨⟩, stands⟩
    · exact ⟨(beq_iff_eq.mp stands).symm, rfl⟩
    · cases stands
  have owned : secondGateFails.Owned (gateAndDeferred.mentions ·) := by
    refine ⟨fun fed fed' => (feeds fed).2.trans (feeds fed').2.symm, ?_, ?_⟩
    · intro h g stands fed
      obtain ⟨rfl, -⟩ := feeds fed
      cases stands
    · refine (Set.toFinite {0, 1}).subset fun g decided => ?_
      match g, decided with
      | 0, _ => exact .inl rfl
      | 1, _ => exact .inr rfl
      | _ + 2, undecided => exact absurd rfl undecided
  have grounded : secondGateFails.Grounded (gateAndDeferred.mentions ·) := owned.grounded
  have first : Acc secondGateFails.Feeds 0 := grounded 0 rfl
  have second : Acc secondGateFails.Feeds 1 := first.inv ⟨_, rfl, rfl⟩
  refine ⟨grounded, fun moves agree => ?_⟩
  obtain ⟨Ω, -, hΩ, all⟩ := nodes_independent_of_schedule .standard gateAndDeferred
    secondGateFails (fun _ => .text "") grounded
  have lost : Ω 0 = .pending (.failing none 0 "lost") := by
    rw [hΩ 0 _ first rfl]
    exact hΩ 1 _ second rfl
  have final : gateAndDeferred.final Ω =
      .mapping [("p", .pending (.failing none 0 "lost")), ("q", .text "later")] := by
    rw [← lost]
    rfl
  rw [← final]
  exact (all moves agree).1

end JsonMarkup.Render
