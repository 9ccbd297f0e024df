import Mathlib.Data.List.Basic
import JsonMarkup.Css.PropertyName
import JsonMarkup.Proofs.Unicode.Lowering

/-!
# Property names that are converted again

A name that has been converted may be converted again. Most names stay as they are then: they hold a
dash, or no capital. A capital without a lower-case form is still there in the converted name, and
it can be cut off as a word of its own now that the capitals before it have become small.

**Theorem (`propertyName_idempotent_iff`).** A converted name stays as it is exactly if it is
settled (`Settled`): in style-sheet form, or a single word. It always is if all capitals of the name
have a lower-case form (`settled_of_lowerable`), and it is after a second conversion
(`settled_again`).
-/

namespace JsonMarkup.Css

open Unicode Text

/-! ## Words -/

section

variable {p : Char → Bool} {cs piece word w : List Char} {c : Char} {mode : CaseMode}

/-- The pieces hold the characters between those that end a piece. -/
theorem mem_of_mem_splitWhere (h : piece ∈ splitWhere p cs) (hc : c ∈ piece) :
    c ∈ cs ∧ p c = false := by
  induction cs generalizing piece with
  | nil =>
    rw [List.mem_singleton.mp h] at hc
    cases hc
  | cons x rest ih =>
    have later : ∀ {piece}, piece ∈ splitWhere p rest → c ∈ piece → c ∈ x :: rest ∧ p c = false :=
      fun mem hc => ⟨List.mem_cons_of_mem _ (ih mem hc).1, (ih mem hc).2⟩
    rw [splitWhere] at h
    split at h
    · rcases List.mem_cons.mp h with rfl | h
      · cases hc
      · exact later h hc
    · rename_i plain
      have here : x ∈ x :: rest ∧ p x = false := ⟨List.mem_cons_self, Bool.eq_false_iff.mpr plain⟩
      split at h
      · rw [List.mem_singleton.mp h] at hc
        rwa [List.mem_singleton.mp hc]
      · rename_i first more split
        rcases List.mem_cons.mp h with rfl | h
        · rcases List.mem_cons.mp hc with rfl | hc
          · exact here
          · exact later (split ▸ List.mem_cons_self) hc
        · exact later (split ▸ List.mem_cons_of_mem _ h) hc

theorem splitWhere_eq_singleton (h : ∀ c ∈ cs, p c = false) : splitWhere p cs = [cs] := by
  induction cs with
  | nil => rfl
  | cons x rest ih =>
    rw [List.forall_mem_cons] at h
    rw [splitWhere, h.1, ih h.2]
    rfl

/-- A piece is cut into words without a rest. -/
theorem flatten_wordsFrom (mode : CaseMode) (word : List Char) (c : Char) (cs : List Char) :
    (wordsFrom mode word (c :: cs)).flatten = word ++ c :: cs := by
  induction cs generalizing mode word c with
  | nil => simp [wordsFrom]
  | cons d rest ih =>
    rw [wordsFrom]
    split
    · simp [ih]
    · split
      · simp [ih]
      · simp [ih]

theorem mem_words (h : w ∈ words cs) (hc : c ∈ w) : c ∈ cs ∧ isAlphanumeric c = true := by
  obtain ⟨piece, split, cut⟩ := List.mem_flatMap.mp h
  have inPiece : c ∈ piece := by
    cases piece with
    | nil => cases cut
    | cons x rest =>
      have all : c ∈ (wordsFrom .start [] (x :: rest)).flatten := List.mem_flatten_of_mem cut hc
      rwa [flatten_wordsFrom] at all
  obtain ⟨mem, plain⟩ := mem_of_mem_splitWhere split inPiece
  exact ⟨mem, by simpa using plain⟩

theorem mem_onlyWord (only : words cs = [w]) (hc : c ∈ w) : c ∈ cs ∧ isAlphanumeric c = true :=
  mem_words (only ▸ List.mem_singleton_self w) hc

theorem words_of_alphanumeric (h : ∀ c ∈ cs, isAlphanumeric c = true) :
    words cs = wordsFrom .start [] cs := by
  have plain : ∀ c ∈ cs, (!isAlphanumeric c) = false := fun c hc => by rw [h c hc]; rfl
  rw [words, splitWhere_eq_singleton plain, List.flatMap_singleton]

/-- The only word of a text is its own only word. -/
theorem words_eq_self_of_eq_singleton (h : words cs = [w]) : words w = [w] := by
  have mem : w ∈ words cs := by
    rw [h]
    exact List.mem_singleton_self w
  have alphanumeric : ∀ c ∈ w, isAlphanumeric c = true := fun c hc => (mem_onlyWord h hc).2
  obtain ⟨piece, split, cut⟩ := List.mem_flatMap.mp mem
  have only : wordsFrom .start [] piece = [w] := by
    have among : (wordsFrom .start [] piece).Sublist (words cs) :=
      List.sublist_flatten_of_mem (List.mem_map_of_mem split)
    rw [h] at among
    exact among.eq_of_length_le (List.length_pos_of_mem cut)
  cases piece with
  | nil => cases cut
  | cons c rest =>
    have whole := flatten_wordsFrom .start [] c rest
    rw [only] at whole
    obtain rfl : w = c :: rest := by simpa using whole
    rw [words_of_alphanumeric alphanumeric, only]

/-- Where nothing is cut, no capital follows a small letter. -/
theorem notUppercase_of_uncut {l u : Char} {a b : List Char}
    (uncut : wordsFrom mode word (c :: cs) = [word ++ c :: cs])
    (split : c :: cs = a ++ l :: u :: b) (small : isLowercase l = true) :
    isUppercase u = false := by
  induction cs generalizing mode word c a with
  | nil =>
    have length := congrArg List.length split
    simp at length
    omega
  | cons d rest ih =>
    -- Something comes out of what is behind a cut.
    have more : ∀ mode word, wordsFrom mode word (d :: rest) ≠ [] := by
      intro mode word none
      have all := flatten_wordsFrom mode word d rest
      rw [none] at all
      simp at all
    rw [wordsFrom] at uncut
    split at uncut
    · exact absurd (List.cons.inj uncut).2 (more _ _)
    · rename_i noCut
      split at uncut
      · exact absurd (List.cons.inj uncut).2 (more _ _)
      · cases a with
        | nil =>
          obtain ⟨rfl, behind⟩ := List.cons.inj split
          obtain ⟨rfl, -⟩ := List.cons.inj behind
          have lower : mode.after c = .lower := by rw [CaseMode.after, if_pos small]
          exact Bool.eq_false_iff.mpr fun capital => noCut ⟨lower, capital⟩
        | cons x a =>
          rw [List.append_cons word c (d :: rest)] at uncut
          exact ih uncut (List.cons.inj split).2

theorem isLowercase_of_vendorStarts :
    ∀ v ∈ vendorStarts, ∃ a l, v.toList = a ++ [l] ∧ isLowercase l = true := by
  intro v hv
  have last : (v.toList.getLast?.any isLowercase) = true := by
    have all : vendorStarts.all (·.toList.getLast?.any isLowercase) = true := by decide +kernel
    exact List.all_eq_true.mp all v hv
  obtain ⟨l, found, small⟩ := (Option.any_eq_true _ _).mp last
  obtain ⟨a, split⟩ := List.getLast?_eq_some_iff.mp found
  exact ⟨a, l, split, small⟩

theorem hasVendorStart_iff : hasVendorStart cs = true ↔
    ∃ v ∈ vendorStarts, ∃ u b, cs = v.toList ++ u :: b ∧ isUppercase u = true := by
  rw [hasVendorStart, List.any_eq_true]
  refine exists_congr fun v => and_congr_right fun _ => ?_
  rw [Bool.and_eq_true, ← String.length_toList]
  constructor
  · rintro ⟨begins, goesOn⟩
    obtain ⟨rest, rfl⟩ := List.isPrefixOf_iff_prefix.mp begins
    rw [List.drop_left] at goesOn
    obtain ⟨u, found, capital⟩ := (Option.any_eq_true _ _).mp goesOn
    obtain ⟨b, rfl⟩ := List.head?_eq_some_iff.mp found
    exact ⟨u, b, rfl, capital⟩
  · rintro ⟨u, b, rfl, capital⟩
    refine ⟨List.isPrefixOf_iff_prefix.mpr (List.prefix_append _ _), ?_⟩
    rw [List.drop_left]
    exact capital

/-- A vendor start is cut off from the capital behind it. -/
theorem hasVendorStart_of_words (h : words cs = [cs]) : hasVendorStart cs = false := by
  refine Bool.eq_false_iff.mpr fun vendor => ?_
  obtain ⟨v, hv, u, b, rfl, capital⟩ := hasVendorStart_iff.mp vendor
  obtain ⟨a, l, split, small⟩ := isLowercase_of_vendorStarts v hv
  have alphanumeric : ∀ c ∈ v.toList ++ u :: b, isAlphanumeric c = true :=
    fun c hc => (mem_onlyWord h hc).2
  rw [words_of_alphanumeric alphanumeric] at h
  rw [split, List.append_assoc, List.singleton_append] at h
  obtain ⟨c, cs, whole⟩ := List.exists_cons_of_ne_nil
    (List.append_ne_nil_of_right_ne_nil a (List.cons_ne_nil l (u :: b)))
  rw [whole] at h
  have notCapital := notUppercase_of_uncut h whole.symm small
  rw [capital] at notCapital
  cases notCapital

end

/-! ## Words in lower case -/

section

variable {w : List Char} {d : Char}

theorem mem_lowerWord_cases (h : d ∈ lowerWord w) : (d ∈ w ∧ toLower d = [d]) ∨ Small d := by
  induction w with
  | nil => cases h
  | cons c rest ih =>
    rw [lowerWord] at h
    split at h
    · rw [List.mem_singleton.mp h]
      exact .inr small_of_special.2.2
    · rcases List.mem_append.mp h with here | later
      · rcases mem_toLower_cases here with ⟨rfl, final⟩ | small
        · exact .inl ⟨List.mem_cons_self, final⟩
        · exact .inr small
      · exact (ih later).imp (fun old => ⟨List.mem_cons_of_mem _ old.1, old.2⟩) id

theorem final_of_mem_lowerWord (h : d ∈ lowerWord w) : toLower d = [d] :=
  (mem_lowerWord_cases h).elim (·.2) (·.final)

/-- Only a sigma looks at what is behind it. -/
theorem lowerWord_of_noSigma (h : 'Σ' ∉ w) : lowerWord w = w.flatMap toLower := by
  induction w with
  | nil => rfl
  | cons c rest ih =>
    have notSigma : ¬(c = 'Σ' ∧ rest = []) := by
      rintro ⟨rfl, -⟩
      exact h List.mem_cons_self
    rw [lowerWord, if_neg notSigma, ih fun later => h (List.mem_cons_of_mem c later),
      List.flatMap_cons]

theorem lowerWord_of_final (h : ∀ c ∈ w, toLower c = [c]) : lowerWord w = w := by
  have noSigma : 'Σ' ∉ w := fun sigma => absurd (h 'Σ' sigma) (by decide +kernel)
  rw [lowerWord_of_noSigma noSigma, List.flatMap_congr h, List.flatMap_singleton']

/-- The words of a text: none, or one, or some with dashes between them. -/
theorem kebab_cases (cs : List Char) : (words cs = [] ∧ kebab cs = []) ∨
    (∃ w, words cs = [w] ∧ kebab cs = lowerWord w) ∨ '-' ∈ kebab cs := by
  rw [kebab]
  cases words cs with
  | nil => exact .inl ⟨rfl, rfl⟩
  | cons w rest =>
    cases rest with
    | nil => exact .inr (.inl ⟨w, rfl, by simp⟩)
    | cons w' rest => exact .inr (.inr (by simp [List.intercalate]))

end

/-! ## Converting again -/

/-- The name is in style-sheet form, or a single word. -/
def Settled (cs : List Char) : Prop := isDashed cs = true ∨ words cs = [cs]

section

variable {cs : List Char} {name : String}

theorem isDashed_of_dash (h : '-' ∈ cs) : isDashed cs = true := by
  simp [isDashed, h]

theorem isDashed_of_noCapitals (h : ∀ c ∈ cs, isUppercase c = false) : isDashed cs = true := by
  simp [isDashed, List.any_eq_false.mpr fun c hc => Bool.eq_false_iff.mp (h c hc)]

theorem propertyName_of_isDashed (h : isDashed name.toList = true) : propertyName name = name := by
  have other : name ≠ "cssFloat" := by
    rintro rfl
    exact absurd h (by decide +kernel)
  rw [propertyName, if_neg other, if_pos h]

/-- A converted name is in style-sheet form, or it is a word in lower case. -/
theorem converted_cases (name : String) : isDashed (propertyName name).toList = true ∨
    ∃ w, words name.toList = [w] ∧ (propertyName name).toList = lowerWord w := by
  rw [propertyName]
  split
  · exact .inl (by decide +kernel)
  · split
    · rename_i dashed
      exact .inl dashed
    · split
      · refine .inl (isDashed_of_dash ?_)
        rw [String.toList_ofList]
        exact List.mem_cons_self
      · rw [String.toList_ofList]
        rcases kebab_cases name.toList with ⟨-, none⟩ | one | dash
        · rw [none]
          exact .inl rfl
        · exact .inr one
        · exact .inl (isDashed_of_dash dash)

/-- A name in lower case stays as it is exactly if it is settled. -/
theorem propertyName_eq_self_iff (final : ∀ c ∈ name.toList, toLower c = [c]) :
    propertyName name = name ↔ Settled name.toList := by
  by_cases dashed : isDashed name.toList = true
  · exact iff_of_true (propertyName_of_isDashed dashed) (.inl dashed)
  have other : name ≠ "cssFloat" := by
    rintro rfl
    exact absurd (final 'F' (by decide)) (by decide +kernel)
  have noDash : '-' ∉ name.toList := fun dash => dashed (isDashed_of_dash dash)
  rw [propertyName, if_neg other, if_neg dashed]
  refine ⟨fun same => ?_, fun settled => ?_⟩
  · split at same
    · refine absurd ?_ noDash
      rw [← same, String.toList_ofList]
      exact List.mem_cons_self
    · have same : kebab name.toList = name.toList :=
        String.toList_ofList.symm.trans (congrArg String.toList same)
      rcases kebab_cases name.toList with ⟨-, none⟩ | ⟨w, only, lowered⟩ | dash
      · refine absurd ?_ dashed
        rw [← same, none]
        rfl
      · have inside : ∀ c ∈ w, toLower c = [c] :=
          fun c hc => final c (mem_onlyWord only hc).1
        -- What stands beside the word has been lost, so there was nothing beside it.
        rw [lowered, lowerWord_of_final inside] at same
        rw [same] at only
        exact .inr only
      · rw [same] at dash
        exact absurd dash noDash
  · have only := settled.resolve_left dashed
    rw [hasVendorStart_of_words only, if_neg Bool.false_ne_true, kebab, only]
    simp [lowerWord_of_final final]

/-- **Converted names that stay as they are** are those that are settled. -/
theorem propertyName_idempotent_iff (name : String) :
    propertyName (propertyName name) = propertyName name ↔ Settled (propertyName name).toList := by
  rcases converted_cases name with dashed | ⟨w, -, lowered⟩
  · exact iff_of_true (propertyName_of_isDashed dashed) (.inl dashed)
  · refine propertyName_eq_self_iff ?_
    rw [lowered]
    exact fun c => final_of_mem_lowerWord

/-- A second conversion settles a name. -/
theorem settled_again (name : String) : Settled (propertyName (propertyName name)).toList := by
  rcases converted_cases name with dashed | ⟨w, -, lowered⟩
  · rw [propertyName_of_isDashed dashed]
    exact .inl dashed
  · rcases converted_cases (propertyName name) with dashed | ⟨w', only, loweredAgain⟩
    · exact .inl dashed
    · have final : ∀ c ∈ w', toLower c = [c] := by
        intro c hc
        have mem := (mem_onlyWord only hc).1
        rw [lowered] at mem
        exact final_of_mem_lowerWord mem
      rw [loweredAgain, lowerWord_of_final final]
      exact .inr (words_eq_self_of_eq_singleton only)

/-- A name is settled by its conversion if all its capitals have a lower-case form. -/
theorem settled_of_lowerable
    (h : ∀ c ∈ name.toList, isUppercase c = true → toLower c ≠ [c]) :
    Settled (propertyName name).toList := by
  rcases converted_cases name with dashed | ⟨w, only, lowered⟩
  · exact .inl dashed
  · refine .inl (isDashed_of_noCapitals ?_)
    rw [lowered]
    intro d hd
    rcases mem_lowerWord_cases hd with ⟨mem, final⟩ | small
    · have inName : d ∈ name.toList := (mem_onlyWord only mem).1
      exact Bool.eq_false_iff.mpr fun capital => h d inName capital final
    · exact small.notUppercase

end

end JsonMarkup.Css
