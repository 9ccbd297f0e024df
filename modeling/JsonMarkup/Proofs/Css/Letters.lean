import Mathlib.Data.List.Chain
import JsonMarkup.Css.Style
import JsonMarkup.Proofs.Css.Conversion

/-!
# Letters of property names

A script-style name is made of letters and digits of ASCII. Its style-sheet form is its words in
lower case with dashes between them, and one more dash in front of a vendor's name
(`toList_propertyName`), so dashes are all that is added.

**Theorem (`letters_kept`).** The style-sheet form of a script-style name without its dashes is the
name in lower case. The dashes stand one at a time and not at the end, and there is one at the start
exactly if the name begins with a vendor start and a capital. So two names for one property differ
in the case of letters at most.

The words are what is cut from a name without a rest (`flatten_wordsFrom`), and none of them is
empty (`ne_nil_of_mem_wordsFrom`): a run of capitals is cut before its last one only if there is
another in the word.
-/

namespace JsonMarkup.Css

open Unicode Text

/-! ## Letters and digits of ASCII -/

/-- A letter or digit of ASCII as the tables of all scripts have it. -/
structure Plain (c : Char) : Prop where
  alphanumeric : isAlphanumeric c = true
  uppercase : isUppercase c = c.isUpper
  lowered : toLower c = [c.toLower]
  unchanged : c.isUpper = false → c.toLower = c
  small : c.toLower.isLower = true ∨ c.toLower.isDigit = true

theorem toNat_lt_of_isAlphanum {c : Char} (h : c.isAlphanum = true) : c.toNat < 128 := by
  have ranges : (decide ('A'.val ≤ c.val ∧ c.val ≤ 'Z'.val) ||
      decide ('a'.val ≤ c.val) && decide (c.val ≤ 'z'.val) ||
      decide ('0'.val ≤ c.val) && decide (c.val ≤ '9'.val)) = true := h
  simp only [Bool.or_eq_true, Bool.and_eq_true, decide_eq_true_eq, UInt32.le_iff_toNat_le] at ranges
  change ((65 ≤ c.toNat ∧ c.toNat ≤ 90) ∨ 97 ≤ c.toNat ∧ c.toNat ≤ 122) ∨
    48 ≤ c.toNat ∧ c.toNat ≤ 57 at ranges
  omega

theorem plain_of_isAlphanum {c : Char} (h : c.isAlphanum = true) : Plain c := by
  have table : ∀ n < 128, (Char.ofNat n).isAlphanum = true →
      isAlphanumeric (Char.ofNat n) = true ∧
      isUppercase (Char.ofNat n) = (Char.ofNat n).isUpper ∧
      toLower (Char.ofNat n) = [(Char.ofNat n).toLower] ∧
      ((Char.ofNat n).isUpper = false → (Char.ofNat n).toLower = Char.ofNat n) ∧
      ((Char.ofNat n).toLower.isLower = true ∨ (Char.ofNat n).toLower.isDigit = true) := by
    decide +kernel
  have found := table c.toNat (toNat_lt_of_isAlphanum h)
  rw [Char.ofNat_toNat] at found
  obtain ⟨alphanumeric, uppercase, lowered, unchanged, small⟩ := found h
  exact ⟨alphanumeric, uppercase, lowered, unchanged, small⟩

/-! ## Dashes between words -/

/-- No two neighbours are both dashes, and none stands at an end. -/
structure DashesInside (cs : List Char) : Prop where
  starts : cs.head? ≠ some '-'
  apart : cs.IsChain fun a b => ¬ (a = '-' ∧ b = '-')
  closes : cs.getLast? ≠ some '-'

section

variable {cs a b : List Char} {parts : List (List Char)}

theorem isChain_dashes_iff :
    (cs.IsChain fun a b => ¬ (a = '-' ∧ b = '-')) ↔ ¬ ['-', '-'] <:+: cs := by
  rw [List.isChain_iff_forall_rel_of_append_cons_cons]
  constructor
  · rintro apart ⟨s, t, rfl⟩
    exact apart (List.append_assoc s ['-', '-'] t) ⟨rfl, rfl⟩
  · rintro none a b s t rfl ⟨rfl, rfl⟩
    exact none ⟨s, t, List.append_assoc s ['-', '-'] t⟩

theorem dashesInside_of_noDash (h : '-' ∉ cs) : DashesInside cs where
  starts first := h (List.mem_of_head? first)
  apart := by
    rw [isChain_dashes_iff]
    exact fun within => h (within.subset List.mem_cons_self)
  closes last := h (List.mem_of_getLast? last)

/-- Two texts with a dash between them. -/
theorem DashesInside.join (ha : DashesInside a) (hb : DashesInside b) (notEmptyA : a ≠ [])
    (notEmptyB : b ≠ []) : DashesInside (a ++ '-' :: b) where
  starts := by
    rw [List.head?_append_of_ne_nil a notEmptyA]
    exact ha.starts
  apart := by
    refine ha.apart.append (hb.apart.cons fun y first => ?_) fun x last y first => ?_
    · rintro ⟨-, rfl⟩
      exact hb.starts first
    · rintro ⟨rfl, -⟩
      exact ha.closes last
  closes := by
    rw [List.getLast?_append_of_ne_nil a (List.cons_ne_nil '-' b),
      List.getLast?_cons_of_ne_nil notEmptyB]
    exact hb.closes

theorem intercalate_ne_nil {w : List Char} (h : w ≠ []) :
    ['-'].intercalate (w :: parts) ≠ [] := by
  cases parts with
  | nil => rwa [List.intercalate_singleton]
  | cons w' rest =>
    rw [List.intercalate_cons_cons, List.append_assoc]
    exact List.append_ne_nil_of_left_ne_nil h _

theorem dashesInside_intercalate (h : ∀ w ∈ parts, w ≠ [] ∧ '-' ∉ w) :
    DashesInside (['-'].intercalate parts) := by
  induction parts with
  | nil => exact dashesInside_of_noDash List.not_mem_nil
  | cons w rest ih =>
    rw [List.forall_mem_cons] at h
    obtain ⟨⟨notEmpty, noDash⟩, later⟩ := h
    cases rest with
    | nil =>
      rw [List.intercalate_singleton]
      exact dashesInside_of_noDash noDash
    | cons w' rest =>
      have first := later w' List.mem_cons_self
      rw [List.intercalate_cons_cons, List.append_assoc, List.singleton_append]
      exact (dashesInside_of_noDash noDash).join (ih later) notEmpty (intercalate_ne_nil first.1)

/-- Without the dashes that join them the parts stand one behind the other. -/
theorem filter_intercalate (h : ∀ w ∈ parts, '-' ∉ w) :
    (['-'].intercalate parts).filter (· ≠ '-') = parts.flatten := by
  induction parts with
  | nil => rfl
  | cons w rest ih =>
    rw [List.forall_mem_cons] at h
    obtain ⟨noDash, later⟩ := h
    have kept : w.filter (· ≠ '-') = w := by
      rw [List.filter_eq_self]
      intro c hc
      exact decide_eq_true fun dash => noDash (dash ▸ hc)
    cases rest with
    | nil => rw [List.intercalate_singleton, kept, List.flatten_singleton]
    | cons w' rest =>
      rw [List.intercalate_cons_cons, List.append_assoc, List.filter_append, kept,
        List.singleton_append, List.filter_cons_of_neg (by decide), ih later]
      exact List.flatten_cons.symm

end

/-! ## Words of letters and digits -/

section

variable {cs word w : List Char} {mode : CaseMode}

/-- No word is empty: one is cut off in front of a capital only if a capital has gone into it. -/
theorem ne_nil_of_mem_wordsFrom (started : mode = .upper → word ≠ [])
    (h : w ∈ wordsFrom mode word cs) : w ≠ [] := by
  fun_induction wordsFrom mode word cs with
  | case1 => cases h
  | case2 mode word c =>
    rw [List.mem_singleton.mp h]
    exact List.append_ne_nil_of_right_ne_nil _ (List.cons_ne_nil c [])
  | case3 mode word c d rest cut ih =>
    rcases List.mem_cons.mp h with rfl | later
    · exact List.append_ne_nil_of_right_ne_nil _ (List.cons_ne_nil c [])
    · exact ih nofun later
  | case4 mode word c d rest noCut cut ih =>
    rcases List.mem_cons.mp h with rfl | later
    · exact started cut.1
    · exact ih nofun later
  | case5 mode word c d rest noCut noCut' ih =>
    exact ih (fun _ => List.append_ne_nil_of_right_ne_nil _ (List.cons_ne_nil c [])) h

/-- Without a capital nothing is cut. -/
theorem wordsFrom_of_noCapitals {c : Char} (h : ∀ d ∈ c :: cs, isUppercase d = false) :
    wordsFrom mode word (c :: cs) = [word ++ c :: cs] := by
  induction cs generalizing mode word c with
  | nil => rfl
  | cons d rest ih =>
    rw [List.forall_mem_cons] at h
    have notCapital : ¬ isUppercase d = true := by
      rw [h.2 d List.mem_cons_self]
      exact Bool.false_ne_true
    have notBefore : ¬ isUppercase c = true := by
      rw [h.1]
      exact Bool.false_ne_true
    rw [wordsFrom, if_neg fun cut => notCapital cut.2, if_neg fun cut => notBefore cut.2.1, ih h.2,
      List.append_assoc, List.singleton_append]

theorem lowerWord_of_plain (h : ∀ c ∈ w, Plain c) : lowerWord w = w.map Char.toLower := by
  have noSigma : 'Σ' ∉ w := fun sigma => absurd (h 'Σ' sigma).lowered (by decide +kernel)
  rw [lowerWord_of_noSigma noSigma, List.map_eq_flatMap]
  exact List.flatMap_congr fun c hc => (h c hc).lowered

theorem words_of_plain (h : ∀ c ∈ cs, Plain c) : words cs = wordsFrom .start [] cs :=
  words_of_alphanumeric fun c hc => (h c hc).alphanumeric

theorem map_lowerWord_words (h : ∀ c ∈ cs, Plain c) :
    (words cs).map lowerWord = (words cs).map (List.map Char.toLower) :=
  List.map_congr_left fun _ hw => lowerWord_of_plain fun c hc => h c (mem_words hw hc).1

/-- The words of a plain text are cut from it without a rest. -/
theorem flatten_lowerWords (h : ∀ c ∈ cs, Plain c) :
    ((words cs).map lowerWord).flatten = cs.map Char.toLower := by
  have whole : (words cs).flatten = cs := by
    rw [words_of_plain h]
    cases cs with
    | nil => rfl
    | cons c rest => rw [flatten_wordsFrom, List.nil_append]
  rw [map_lowerWord_words h, ← List.map_flatten, whole]

theorem mem_lowerWords (h : ∀ c ∈ cs, Plain c) (hw : w ∈ (words cs).map lowerWord) :
    w ≠ [] ∧ '-' ∉ w := by
  rw [map_lowerWord_words h] at hw
  obtain ⟨word, mem, rfl⟩ := List.mem_map.mp hw
  constructor
  · have unstarted : CaseMode.start = .upper → ([] : List Char) ≠ [] := nofun
    rw [words_of_plain h] at mem
    exact fun none => ne_nil_of_mem_wordsFrom unstarted mem (List.map_eq_nil_iff.mp none)
  · intro dash
    obtain ⟨c, hc, lowered⟩ := List.mem_map.mp dash
    have small := (h c (mem_words mem hc).1).small
    rw [lowered] at small
    exact absurd small (by decide)

/-- Plain text in lower case is a single word. -/
theorem kebab_of_noCapitals (plain : ∀ c ∈ cs, Plain c) (h : ∀ c ∈ cs, isUppercase c = false) :
    kebab cs = cs := by
  cases cs with
  | nil => rfl
  | cons c rest =>
    have lowered : (c :: rest).map Char.toLower = c :: rest := by
      refine (List.map_congr_left fun d hd => ?_).trans (List.map_id _)
      exact (plain d hd).unchanged ((plain d hd).uppercase ▸ h d hd)
    rw [kebab, words_of_plain plain, wordsFrom_of_noCapitals h, List.nil_append,
      List.map_singleton, List.intercalate_singleton, lowerWord_of_plain plain, lowered]

end

/-! ## Script-style names -/

/-- A name as it is written in a script: letters and digits of ASCII. The one name that has a form
of its own is left out. -/
structure Script (name : String) : Prop where
  ascii : ∀ c ∈ name.toList, c.isAlphanum = true
  other : name ≠ "cssFloat"

section

variable {name a b : String}

theorem Script.plain (script : Script name) : ∀ c ∈ name.toList, Plain c :=
  fun c hc => plain_of_isAlphanum (script.ascii c hc)

theorem Script.noDash (script : Script name) : '-' ∉ name.toList :=
  fun dash => absurd (script.ascii '-' dash) (by decide)

theorem noCapitals_of_isDashed {cs : List Char} (noDash : '-' ∉ cs) (h : isDashed cs = true) :
    ∀ c ∈ cs, isUppercase c = false := by
  have notCustom : ¬ ['-', '-'] <+: cs := fun start => noDash (start.subset List.mem_cons_self)
  simpa [isDashed, noDash, notCustom] using h

/-- **The style-sheet form of a script-style name** is its words in lower case, joined by dashes,
behind one more dash if they begin with a vendor. -/
theorem toList_propertyName (script : Script name) : (propertyName name).toList =
    if hasVendorStart name.toList then '-' :: kebab name.toList else kebab name.toList := by
  rw [propertyName, if_neg script.other]
  by_cases dashed : isDashed name.toList = true
  · have noCapitals := noCapitals_of_isDashed script.noDash dashed
    have noVendor : ¬ hasVendorStart name.toList = true := by
      intro vendor
      obtain ⟨v, -, u, b, split, capital⟩ := hasVendorStart_iff.mp vendor
      rw [noCapitals u (split ▸ List.mem_append_right _ List.mem_cons_self)] at capital
      cases capital
    rw [if_pos dashed, if_neg noVendor, kebab_of_noCapitals script.plain noCapitals]
  · rw [if_neg dashed]
    split
    · rw [String.toList_ofList]
    · rw [String.toList_ofList]

theorem dashesInside_kebab (script : Script name) : DashesInside (kebab name.toList) :=
  dashesInside_intercalate fun _ hw => mem_lowerWords script.plain hw

theorem filter_kebab (script : Script name) :
    (kebab name.toList).filter (· ≠ '-') = name.toList.map Char.toLower := by
  rw [← flatten_lowerWords script.plain]
  exact filter_intercalate fun w hw => (mem_lowerWords script.plain hw).2

/-- Nothing but dashes is put into a script-style name, and nothing is taken out. -/
theorem filter_propertyName (script : Script name) :
    (propertyName name).toList.filter (· ≠ '-') = name.toList.map Char.toLower := by
  rw [toList_propertyName script]
  split
  · rw [List.filter_cons_of_neg (by decide), filter_kebab script]
  · exact filter_kebab script

theorem toLower_eq_ofList_filter (script : Script name) :
    String.ofList ((propertyName name).toList.filter (· ≠ '-')) = name.toLower := by
  show _ = name.map Char.toLower
  rw [filter_propertyName script, ← String.toList_map, String.ofList_toList]

theorem small_of_mem_propertyName (script : Script name) {c : Char}
    (h : c ∈ (propertyName name).toList) : c.isLower = true ∨ c.isDigit = true ∨ c = '-' := by
  by_cases dash : c = '-'
  · exact .inr (.inr dash)
  · have kept : c ∈ (propertyName name).toList.filter (· ≠ '-') :=
      List.mem_filter.mpr ⟨h, decide_eq_true dash⟩
    rw [filter_propertyName script] at kept
    obtain ⟨d, hd, rfl⟩ := List.mem_map.mp kept
    exact (script.plain d hd).small.imp_right .inl

/-- There is no dash beside another one, and none at the end. -/
theorem dashes_propertyName (script : Script name) :
    ¬ ['-', '-'] <:+: (propertyName name).toList ∧
      (propertyName name).toList.getLast? ≠ some '-' := by
  have inside := dashesInside_kebab script
  rw [toList_propertyName script, ← isChain_dashes_iff]
  split
  · rename_i vendor
    -- On its own the dash in front would be the last character, too.
    have notEmpty : kebab name.toList ≠ [] := by
      intro none
      have letters := filter_kebab script
      rw [none] at letters
      rw [List.map_eq_nil_iff.mp letters.symm] at vendor
      exact absurd vendor (by decide)
    refine ⟨inside.apart.cons fun d first => ?_, ?_⟩
    · rintro ⟨-, rfl⟩
      exact inside.starts first
    · rw [List.getLast?_cons_of_ne_nil notEmpty]
      exact inside.closes
  · exact ⟨inside.apart, inside.closes⟩

/-- A dash is put in front exactly of the names that begin with a vendor and a capital. -/
theorem head?_propertyName (script : Script name) : (propertyName name).toList.head? = some '-' ↔
    ∃ v ∈ vendorStarts, ∃ u, u.isUpper = true ∧ v.toList ++ [u] <+: name.toList := by
  have start : (propertyName name).toList.head? = some '-' ↔ hasVendorStart name.toList = true := by
    rw [toList_propertyName script]
    split
    · rename_i vendor
      exact iff_of_true rfl vendor
    · rename_i noVendor
      exact iff_of_false (dashesInside_kebab script).starts noVendor
  rw [start, hasVendorStart_iff]
  refine exists_congr fun v => and_congr_right fun _ => exists_congr fun u => ?_
  constructor
  · rintro ⟨b, split, capital⟩
    have mem : u ∈ name.toList := split ▸ List.mem_append_right _ List.mem_cons_self
    rw [(script.plain u mem).uppercase] at capital
    exact ⟨capital, b, by rw [split, List.append_assoc, List.singleton_append]⟩
  · rintro ⟨capital, b, split⟩
    rw [List.append_assoc, List.singleton_append] at split
    have mem : u ∈ name.toList := split ▸ List.mem_append_right _ List.mem_cons_self
    rw [← (script.plain u mem).uppercase] at capital
    exact ⟨b, split.symm, capital⟩

/-- Names for one property differ in the case of letters at most. -/
theorem toLower_eq_of_propertyName_eq (ha : Script a) (hb : Script b)
    (same : propertyName a = propertyName b) : a.toLower = b.toLower := by
  rw [← toLower_eq_ofList_filter ha, same, toLower_eq_ofList_filter hb]

/-- A style takes one of two names for the other only if they differ in the case of letters at
most. -/
theorem toLower_eq_of_setProperty {s : Style} {v : String} (ha : Script a) (hb : Script b)
    (changed : (s.setProperty a v).property? b ≠ s.property? b) : a.toLower = b.toLower := by
  by_contra differ
  have apart : propertyName b ≠ propertyName a :=
    fun same => differ (toLower_eq_of_propertyName_eq ha hb same.symm)
  exact changed ((Fields.get?_set ..).trans (if_neg apart))

/-! ## The theorem -/

/-- **The letters of a script-style name** are all kept. Its style-sheet form holds small letters,
digits and dashes; the dashes stand apart, none at the end, and one at the start exactly if the name
begins with a vendor and a capital; without them it is the name in lower case. So two
script-style names stand for one property of a style only if they are equal but for the case of
their letters. -/
theorem letters_kept {name : String} (script : Script name) :
    (∀ c ∈ (propertyName name).toList, c.isLower = true ∨ c.isDigit = true ∨ c = '-') ∧
    ¬ ['-', '-'] <:+: (propertyName name).toList ∧
    (propertyName name).toList.getLast? ≠ some '-' ∧
    ((propertyName name).toList.head? = some '-' ↔
      ∃ v ∈ ["Webkit", "webkit", "Moz", "moz", "ms"], ∃ u, u.isUpper = true ∧
        v.toList ++ [u] <+: name.toList) ∧
    String.ofList ((propertyName name).toList.filter (· ≠ '-')) = name.toLower ∧
    ∀ other, Script other →
      (propertyName other = propertyName name → other.toLower = name.toLower) ∧
      ∀ (s : Style) (v : String), (s.setProperty other v).property? name ≠ s.property? name →
        other.toLower = name.toLower := by
  obtain ⟨apart, closes⟩ := dashes_propertyName script
  refine ⟨fun c => small_of_mem_propertyName script, apart, closes, head?_propertyName script,
    toLower_eq_ofList_filter script, fun other scriptOther => ?_⟩
  exact ⟨toLower_eq_of_propertyName_eq scriptOther script,
    fun s v => toLower_eq_of_setProperty scriptOther script⟩

/-- A vendor, an abbreviation in capitals, and a digit before a capital. The abbreviation can be
written in two ways, and both names mean one property. -/
theorem letters_kept_maskImage :
    Script "WebkitMaskURLImage2D" ∧ Script "webkitMaskUrlImage2D" ∧
      propertyName "WebkitMaskURLImage2D" = "-webkit-mask-url-image2-d" ∧
      (∀ c ∈ "-webkit-mask-url-image2-d".toList,
        c.isLower = true ∨ c.isDigit = true ∨ c = '-') ∧
      ¬ ['-', '-'] <:+: "-webkit-mask-url-image2-d".toList ∧
      "-webkit-mask-url-image2-d".toList.getLast? ≠ some '-' ∧
      "-webkit-mask-url-image2-d".toList.head? = some '-' ∧
      String.ofList ("-webkit-mask-url-image2-d".toList.filter (· ≠ '-')) =
        "WebkitMaskURLImage2D".toLower ∧
      propertyName "webkitMaskUrlImage2D" = propertyName "WebkitMaskURLImage2D" ∧
      "webkitMaskUrlImage2D".toLower = "WebkitMaskURLImage2D".toLower := by
  have script : Script "WebkitMaskURLImage2D" := ⟨List.all_eq_true.mp (by decide), by decide⟩
  have other : Script "webkitMaskUrlImage2D" := ⟨List.all_eq_true.mp (by decide), by decide⟩
  have converted : propertyName "WebkitMaskURLImage2D" = "-webkit-mask-url-image2-d" := by
    decide +kernel
  have same : propertyName "webkitMaskUrlImage2D" = propertyName "WebkitMaskURLImage2D" := by
    decide +kernel
  have kept := letters_kept script
  rw [converted] at kept
  obtain ⟨small, apart, closes, vendor, letters, merged⟩ := kept
  have start : "Webkit".toList ++ ['M'] <+: "WebkitMaskURLImage2D".toList := by decide
  refine ⟨script, other, converted, small, apart, closes, vendor.mpr ?_, letters, same, ?_⟩
  · exact ⟨"Webkit", List.mem_cons_self, 'M', rfl, start⟩
  · exact (merged _ other).1 (same.trans converted)

/-- The name that is left out loses letters. -/
example : propertyName "cssFloat" = propertyName "float" := by decide +kernel

end

end JsonMarkup.Css
