import JsonMarkup.Proofs.Json.Building
import JsonMarkup.Proofs.Json.Scanning

/-!
# Where a document ends

A reader accepts a text as a whole. A document that is no number shows where it ends, so nothing
but blanks may come after it, and nothing but blanks may be lost from its end.

**Theorems.** `read_more`: a document that goes on is rejected. `read_broken`: a document that is
broken off is rejected.

What is broken off could only be accepted as a number, since any other document would be one that
goes on. But where a number was read, the text began with one (`scan_of_number`), and whatever comes
after it, a text that begins with a number is a number.
-/

namespace JsonMarkup.Json

/-! ## The last token -/

section Positions

variable {α : Type} {b : Builder α} {limit : Option Nat}

namespace Position

/-- Nothing is built from a fault. -/
theorem advance_fault (p : Position α) (e : Error) (isString : Bool) (q : Position α) :
    p.advance b limit (.fault e isString) ≠ .ok q := by
  intro moved
  cases p with
  | firstName stack => cases isString <;> cases moved
  | nextName members stack => cases isString <;> cases moved
  | _ => cases moved

theorem eq_of_finish_done {v w : α} {stack : List (Around α)}
    (h : finish v stack = .done w) : stack = [] ∧ v = w := by
  cases stack with
  | nil =>
    cases h
    exact ⟨rfl, rfl⟩
  | cons around stack => cases around <;> cases h

theorem finish_ne_value (v : α) (stack stack' : List (Around α)) :
    finish v stack ≠ .value stack' := by
  cases stack with
  | nil =>
    intro h
    cases h
  | cons around stack =>
    cases around
    all_goals
      intro h
      cases h

theorem takeName_ne_value (members : List (String × α)) (stack stack' : List (Around α))
    (t : Token) : takeName members stack t ≠ .ok (.value stack') := by
  intro moved
  cases t with
  | scalar s => cases s <;> cases moved
  | fault e isString => cases isString <;> cases moved
  | _ => cases moved

theorem start_ne_value (stack stack' : List (Around α)) (t : Token) :
    start b limit stack t ≠ .ok (.value stack') := by
  intro moved
  cases t with
  | scalar s => exact finish_ne_value _ _ _ (Except.ok.inj moved)
  | listOpen | objectOpen =>
    rw [start] at moved
    split at moved <;> cases moved
  | _ => cases moved

/-- The reader never comes back to where it began. -/
theorem advance_ne_value (p : Position α) (t : Token) :
    p.advance b limit t ≠ .ok (.value []) := by
  intro moved
  cases p with
  | value stack => exact start_ne_value _ _ _ moved
  | firstItem stack =>
    by_cases closes : t = .listClose
    · subst closes
      exact finish_ne_value _ _ _ (Except.ok.inj moved)
    · rw [advance_firstItem _ _ _ closes] at moved
      exact start_ne_value _ _ _ moved
  | nextItem items stack =>
    by_cases closes : t = .listClose
    · subst closes
      cases moved
    · rw [advance_nextItem _ _ _ _ closes] at moved
      exact start_ne_value _ _ _ moved
  | afterItem items stack =>
    cases t
    case listClose => exact finish_ne_value _ _ _ (Except.ok.inj moved)
    all_goals cases moved
  | firstName stack =>
    by_cases closes : t = .objectClose
    · subst closes
      exact finish_ne_value _ _ _ (Except.ok.inj moved)
    · rw [advance_firstName _ _ _ closes] at moved
      exact takeName_ne_value _ _ _ _ moved
  | nextName members stack =>
    by_cases closes : t = .objectClose
    · subst closes
      cases moved
    · rw [advance_nextName _ _ _ _ closes] at moved
      exact takeName_ne_value _ _ _ _ moved
  | afterMember members stack =>
    cases t
    case objectClose => exact finish_ne_value _ _ _ (Except.ok.inj moved)
    all_goals cases moved
  | afterName members name stack => cases t <;> cases moved
  | done v => cases moved

theorem start_done {stack : List (Around α)} {t : Token} {v : α}
    (moved : start b limit stack t = .ok (.done v)) :
    stack = [] ∧ ∃ s, t = .scalar s ∧ b.scalar s = v := by
  cases t with
  | scalar s =>
    obtain ⟨outermost, same⟩ := eq_of_finish_done (Except.ok.inj moved)
    exact ⟨outermost, s, rfl, same⟩
  | listOpen | objectOpen =>
    rw [start] at moved
    split at moved <;> cases moved
  | _ => cases moved

theorem takeName_ne_done (members : List (String × α)) (stack : List (Around α)) (t : Token)
    (v : α) : takeName members stack t ≠ .ok (.done v) := by
  intro moved
  cases t with
  | scalar s => cases s <;> cases moved
  | fault e isString => cases isString <;> cases moved
  | _ => cases moved

/-- A document ends with its only token, with that of an array, or with that of an object. -/
theorem advance_done {p : Position α} {t : Token} {v : α}
    (moved : p.advance b limit t = .ok (.done v)) :
    (p = .value [] ∧ ∃ s, t = .scalar s ∧ b.scalar s = v) ∨
      (t = .listClose ∧ ∃ items, b.list items = v) ∨
        t = .objectClose ∧ ∃ members, b.object members = v := by
  cases p with
  | value stack =>
    obtain ⟨rfl, scalar⟩ := start_done moved
    exact .inl ⟨rfl, scalar⟩
  | firstItem stack =>
    by_cases closes : t = .listClose
    · subst closes
      exact .inr (.inl ⟨rfl, [], (eq_of_finish_done (Except.ok.inj moved)).2⟩)
    · rw [advance_firstItem _ _ _ closes] at moved
      exact absurd (start_done moved).1 (List.cons_ne_nil _ _)
  | nextItem items stack =>
    by_cases closes : t = .listClose
    · subst closes
      cases moved
    · rw [advance_nextItem _ _ _ _ closes] at moved
      exact absurd (start_done moved).1 (List.cons_ne_nil _ _)
  | afterItem items stack =>
    cases t
    case listClose => exact .inr (.inl ⟨rfl, _, (eq_of_finish_done (Except.ok.inj moved)).2⟩)
    all_goals cases moved
  | firstName stack =>
    by_cases closes : t = .objectClose
    · subst closes
      exact .inr (.inr ⟨rfl, [], (eq_of_finish_done (Except.ok.inj moved)).2⟩)
    · rw [advance_firstName _ _ _ closes] at moved
      exact absurd moved (takeName_ne_done _ _ _ _)
  | nextName members stack =>
    by_cases closes : t = .objectClose
    · subst closes
      cases moved
    · rw [advance_nextName _ _ _ _ closes] at moved
      exact absurd moved (takeName_ne_done _ _ _ _)
  | afterMember members stack =>
    cases t
    case objectClose => exact .inr (.inr ⟨rfl, _, (eq_of_finish_done (Except.ok.inj moved)).2⟩)
    all_goals cases moved
  | afterName members name stack => cases t <;> cases moved
  | done w => cases moved

end Position

/-! ## Runs -/

theorem fault_not_mem_of_run {p q : Position α} {ts : List Token} (ran : run b limit p ts = .ok q)
    (e : Error) (isString : Bool) : Token.fault e isString ∉ ts := by
  induction ts generalizing p with
  | nil => exact List.not_mem_nil
  | cons t rest ih =>
    rw [run] at ran
    cases moved : p.advance b limit t with
    | error e =>
      rw [moved] at ran
      cases ran
    | ok p' =>
      rw [moved] at ran
      rw [List.mem_cons, not_or]
      refine ⟨?_, ih ran⟩
      rintro rfl
      exact Position.advance_fault _ _ _ _ moved

theorem run_concat {p q : Position α} {ts : List Token} {t : Token}
    (ran : run b limit p (ts ++ [t]) = .ok q) :
    ∃ p', run b limit p ts = .ok p' ∧ p'.advance b limit t = .ok q := by
  rw [run_append] at ran
  cases before : run b limit p ts with
  | error e =>
    rw [before] at ran
    cases ran
  | ok p' =>
    rw [before] at ran
    dsimp only at ran
    rw [run] at ran
    refine ⟨p', rfl, ?_⟩
    cases moved : p'.advance b limit t with
    | error e =>
      rw [moved] at ran
      cases ran
    | ok q' =>
      rw [moved] at ran
      exact ran

theorem run_done {v : α} {ts : List Token} (some : ts ≠ []) :
    run b limit (.done v) ts = .error .trailingCharacters := by
  cases ts with
  | nil => exact absurd rfl some
  | cons t rest => rfl

theorem readWith_eq_ok {text : String} {v : α} :
    readWith b limit text = .ok v ↔ run b limit (.value []) (scan text) = .ok (.done v) := by
  rw [readWith]
  cases run b limit (.value []) (scan text) with
  | error e => simp
  | ok p => cases p <;> simp [Position.result]

end Positions

/-! ## Documents that go on -/

/-- **A document that goes on is rejected**: only a number could have more digits. -/
theorem read_more {text more : String} {j : Json} (accepted : read text = .ok j)
    (noNumber : ∀ n, j ≠ .number n) (some : ¬Blank more.toList) :
    ∃ e, read (text ++ more) = .error e := by
  have ran := readWith_eq_ok.mp accepted
  have ended : ∀ n, (scanFrom [] text.toList).getLast? ≠ Option.some (.scalar (.number n)) := by
    intro n last
    obtain ⟨front, split⟩ := List.getLast?_eq_some_iff.mp last
    rw [scan, split] at ran
    obtain ⟨p, -, moved⟩ := run_concat ran
    rcases Position.advance_done moved with ⟨-, s, same, value⟩ | ⟨same, -⟩ | ⟨same, -⟩
    · cases same
      exact noNumber n value.symm
    · cases same
    · cases same
  have tokens : scan (text ++ more) = scan text ++ scan more := by
    rw [scan, String.toList_append]
    exact scanFrom_more (fault_not_mem_of_run ran) ended more.toList
  have stuck : run builder none (.done j) (scan more) = .error .trailingCharacters :=
    run_done (scanFrom_ne_nil some)
  refine ⟨.trailingCharacters, ?_⟩
  rw [read, readWith, tokens, run_append, ran]
  dsimp only
  rw [stuck]

/-! ## Documents that are broken off -/

theorem Position.advance_done_number {p : Position Json} {t : Token} {n : Number}
    (moved : p.advance builder none t = .ok (.done (.number n))) :
    p = .value [] ∧ t = .scalar (.number n) := by
  rcases advance_done moved with ⟨atStart, s, rfl, same⟩ | ⟨-, items, same⟩ | ⟨-, members, same⟩
  · cases s <;> cases same
    exact ⟨atStart, rfl⟩
  · cases same
  · cases same

/-- A document that is a number has no other tokens. -/
theorem scan_of_number {text : String} {n : Number} (accepted : read text = .ok (.number n)) :
    scan text = [.scalar (.number n)] := by
  have ran := readWith_eq_ok.mp accepted
  rcases List.eq_nil_or_concat (scan text) with none | ⟨front, t, tokens⟩
  · rw [none] at ran
    cases ran
  · rw [List.concat_eq_append] at tokens
    rw [tokens] at ran ⊢
    obtain ⟨p, before, moved⟩ := run_concat ran
    obtain ⟨rfl, rfl⟩ := Position.advance_done_number moved
    rcases List.eq_nil_or_concat front with rfl | ⟨front, u, rfl⟩
    · rfl
    · rw [List.concat_eq_append] at before
      obtain ⟨p, -, back⟩ := run_concat before
      exact absurd back (Position.advance_ne_value _ _)

/-- **A document that is broken off is rejected**, unless it is a number or only blanks are lost. -/
theorem read_broken {front back : String} {j : Json} (whole : read (front ++ back) = .ok j)
    (noNumber : ∀ n, j ≠ .number n) (some : ¬Blank back.toList) : ∃ e, read front = .error e := by
  cases accepted : read front with
  | error e => exact ⟨e, rfl⟩
  | ok j' =>
    exfalso
    by_cases isNumber : ∃ n, j' = .number n
    · obtain ⟨n, rfl⟩ := isNumber
      obtain ⟨t, ts, tokens, first⟩ := scanFrom_of_number (scan_of_number accepted) back.toList
      rw [← String.toList_append] at tokens
      have ran := readWith_eq_ok.mp whole
      rw [scan, tokens] at ran
      rcases first with ⟨m, rfl⟩ | ⟨e, isString, rfl⟩
      · cases ts with
        | nil =>
          cases ran
          exact noNumber m rfl
        | cons u us => cases ran
      · cases ran
    · obtain ⟨e, rejected⟩ := read_more accepted (fun n h => isNumber ⟨n, h⟩) some
      rw [rejected] at whole
      cases whole

end JsonMarkup.Json
