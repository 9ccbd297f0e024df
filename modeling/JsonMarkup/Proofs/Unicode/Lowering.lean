import JsonMarkup.Unicode.Lowering
import JsonMarkup.Unicode.Uppercase

/-!
# Lower-case forms are final

What the lower-case mapping gives has no other lower-case form, and is no capital unless the mapping
has left it as it was. A capital can be left as it was: some of them, such as those for mathematics,
have no lower-case form.

**Sets as numbers** (`bitsOf`, `bitsOfRanges`). That the forms are apart from the characters that
have one, and from the capitals, is looked up in the tables. A set of code points is the number
whose bits they are, so two sets are compared by one operation on numbers.

**Theorem (`mem_toLower_cases`).** A character of a lower-case form is the character itself, which
has no other form, or it is small (`Small`).
-/

namespace JsonMarkup.Unicode

/-! ## Sets of code points as numbers -/

/-- The number with these bits. -/
def bitsOf (ns : List Nat) : Nat := ns.foldr (fun n bits => 1 <<< n ||| bits) 0

/-- The number with the bits that lie in these ranges. -/
def bitsOfRanges (rs : Ranges) : Nat :=
  rs.foldr (fun r bits => (1 <<< (r.2 + 1 - r.1) - 1) <<< r.1 ||| bits) 0

theorem testBit_bitsOf {ns : List Nat} {n : Nat} (h : n ∈ ns) : (bitsOf ns).testBit n = true := by
  induction ns with
  | nil => cases h
  | cons m rest ih =>
    show (1 <<< m ||| bitsOf rest).testBit n = true
    rw [Nat.testBit_or, Bool.or_eq_true]
    rcases List.mem_cons.mp h with rfl | later
    · left
      simp
    · exact .inr (ih later)

theorem testBit_bitsOfRanges {rs : Ranges} {n : Nat} (h : inRanges rs n = true) :
    (bitsOfRanges rs).testBit n = true := by
  induction rs with
  | nil => cases h
  | cons r rest ih =>
    obtain ⟨lo, hi⟩ := r
    show ((1 <<< (hi + 1 - lo) - 1) <<< lo ||| bitsOfRanges rest).testBit n = true
    rw [Nat.one_shiftLeft, Nat.testBit_or, Bool.or_eq_true]
    by_cases below : n < lo
    · simp [inRanges, below] at h
    · simp only [inRanges, below, if_false, Bool.or_eq_true, decide_eq_true_eq] at h
      rcases h with within | later
      · left
        simp only [Nat.testBit_shiftLeft, Nat.testBit_two_pow_sub_one, Bool.and_eq_true,
          decide_eq_true_eq]
        omega
      · exact .inr (ih later)

/-- Numbers without a common bit. -/
theorem testBit_eq_false_of_land {a b n : Nat} (apart : a &&& b = 0) (h : a.testBit n = true) :
    b.testBit n = false := by
  have common : (a &&& b).testBit n = false := by rw [apart, Nat.zero_testBit]
  rwa [Nat.testBit_and, h, Bool.true_and] at common

section

variable {ns ms : List Nat} {rs : Ranges} {n : Nat}

theorem not_mem_of_apart (apart : bitsOf ns &&& bitsOf ms = 0) (h : n ∈ ns) : n ∉ ms := by
  intro mem
  have absent := testBit_eq_false_of_land apart (testBit_bitsOf h)
  rw [testBit_bitsOf mem] at absent
  cases absent

theorem inRanges_eq_false_of_apart (apart : bitsOf ns &&& bitsOfRanges rs = 0) (h : n ∈ ns) :
    inRanges rs n = false := by
  refine Bool.eq_false_iff.mpr fun within => ?_
  have absent := testBit_eq_false_of_land apart (testBit_bitsOf h)
  rw [testBit_bitsOfRanges within] at absent
  cases absent

end

/-! ## The runs -/

/-- The code points of a run. -/
def CaseRun.members (r : CaseRun) : List Nat :=
  (List.range ((r.last - r.first) / r.step + 1)).map (r.first + r.step * ·)

/-- The lower-case form that a run gives to a code point. -/
def CaseRun.lowered (r : CaseRun) (n : Nat) : Nat := (n + r.offset).toNat

/-- The code points that have a lower-case form. -/
def lowerable : List Nat := lowerRuns.flatMap CaseRun.members

/-- The lower-case forms of all code points that have one. -/
def lowerForms : List Nat := lowerRuns.flatMap fun r => r.members.map r.lowered

theorem lowerByRuns_cases (rs : List CaseRun) (n : Nat) :
    lowerByRuns rs n = n ∨ ∃ r ∈ rs, n ∈ r.members ∧ lowerByRuns rs n = r.lowered n := by
  induction rs with
  | nil => exact .inl rfl
  | cons r rest ih =>
    rw [lowerByRuns]
    split
    · exact .inl rfl
    · rename_i reached
      split
      · rename_i within
        split
        · rename_i onStep
          refine .inr ⟨r, List.mem_cons_self, ?_, rfl⟩
          have steps : r.step * ((n - r.first) / r.step) = n - r.first :=
            Nat.mul_div_cancel' (Nat.dvd_of_mod_eq_zero onStep)
          have most : (n - r.first) / r.step ≤ (r.last - r.first) / r.step :=
            Nat.div_le_div_right (by omega)
          refine List.mem_map.mpr ⟨(n - r.first) / r.step, List.mem_range.mpr (by omega), ?_⟩
          rw [steps]
          omega
        · exact .inl rfl
      · rcases ih with same | ⟨r', mem, member, eq⟩
        · exact .inl same
        · exact .inr ⟨r', List.mem_cons_of_mem _ mem, member, eq⟩

theorem lowerForms_apart_lowerable : bitsOf lowerForms &&& bitsOf lowerable = 0 := by
  decide +kernel

theorem lowerForms_apart_uppercase : bitsOf lowerForms &&& bitsOfRanges uppercase = 0 := by
  decide +kernel

theorem lowerForms_valid : ∀ m ∈ lowerForms, m.isValidChar ∧ m ≠ '-'.toNat := by
  decide +kernel

/-! ## Small characters -/

/-- The character has no other lower-case form, and it is neither a capital nor a dash. -/
structure Small (c : Char) : Prop where
  final : toLower c = [c]
  notUppercase : isUppercase c = false
  notDash : c ≠ '-'

theorem small_of_mem_lowerForms {m : Nat} (h : m ∈ lowerForms) : Small (Char.ofNat m) := by
  obtain ⟨valid, notDash⟩ := lowerForms_valid m h
  have code : (Char.ofNat m).toNat = m := by
    rw [Char.ofNat, dif_pos valid]
    rfl
  have notUppercase : isUppercase (Char.ofNat m) = false := by
    rw [isUppercase, code]
    exact inRanges_eq_false_of_apart lowerForms_apart_uppercase h
  have final : lowerByRuns lowerRuns m = m := by
    refine (lowerByRuns_cases lowerRuns m).resolve_right ?_
    rintro ⟨r, mem, member, -⟩
    have lowerable : m ∈ lowerable := List.mem_flatMap.mpr ⟨r, mem, member⟩
    exact not_mem_of_apart lowerForms_apart_lowerable h lowerable
  refine ⟨?_, notUppercase, ?_⟩
  · -- The dotted capital has no run of its own, but no form is a capital.
    have notDotted : Char.ofNat m ≠ 'İ' := by
      intro same
      rw [same] at notUppercase
      exact absurd notUppercase (by decide +kernel)
    rw [toLower, if_neg notDotted, code, final, ← code, Char.ofNat_toNat]
  · intro same
    rw [same] at code
    exact notDash code.symm

/-- The two characters of the form of a dotted capital, and the sigma at the end of a word. -/
theorem small_of_special : Small 'i' ∧ Small (Char.ofNat 0x307) ∧ Small 'ς' := by
  refine ⟨⟨?_, ?_, ?_⟩, ⟨?_, ?_, ?_⟩, ⟨?_, ?_, ?_⟩⟩ <;> decide +kernel

/-- **Lower-case forms are final.** -/
theorem mem_toLower_cases {c d : Char} (h : d ∈ toLower c) :
    (d = c ∧ toLower c = [c]) ∨ Small d := by
  by_cases dotted : c = 'İ'
  · rw [toLower, if_pos dotted] at h
    rcases List.mem_cons.mp h with rfl | h
    · exact .inr small_of_special.1
    · rw [List.mem_singleton.mp h]
      exact .inr small_of_special.2.1
  · rw [toLower, if_neg dotted, List.mem_singleton] at h
    rcases lowerByRuns_cases lowerRuns c.toNat with same | ⟨r, mem, member, lowered⟩
    · rw [same, Char.ofNat_toNat] at h
      refine .inl ⟨h, ?_⟩
      rw [toLower, if_neg dotted, same, Char.ofNat_toNat]
    · rw [h, lowered]
      refine .inr (small_of_mem_lowerForms ?_)
      exact List.mem_flatMap.mpr ⟨r, mem, List.mem_map_of_mem member⟩

end JsonMarkup.Unicode
