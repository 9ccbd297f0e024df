import JsonMarkup.Json.Reader
import Mathlib.Data.List.Basic

/-!
# Scanning a text that goes on

A token is recognised by its own characters, except that a number ends only where the text shows
that it does. So a text whose last token is no number is scanned in the same way whatever comes
after it.

The argument goes through the scanner from the inside out: each function that takes characters off
the front of a text takes the same ones when more is put behind it (`_append`). For the parts of a
number this needs something to be left over.

**Theorem** (`scanFrom_more`). A text that goes on has the tokens that it had.
-/

namespace JsonMarkup.Json

/-! ## Equations of the scanner -/

theorem lowHalf_of {high low : Nat} {rest rest' : List Char}
    (quad : hexQuad rest = .ok (low, rest')) (isLow : 0xDC00 ≤ low ∧ low ≤ 0xDFFF) :
    lowHalf high ('\\' :: 'u' :: rest) =
      .ok (Char.ofNat (0x10000 + (high - 0xD800) * 0x400 + (low - 0xDC00)), rest') := by
  rw [lowHalf, quad]
  exact if_pos isLow

theorem escape_high {n : Nat} {rest rest' : List Char} (quad : hexQuad rest = .ok (n, rest'))
    (isHigh : 0xD800 ≤ n ∧ n ≤ 0xDBFF) : escape ('u' :: rest) = lowHalf n rest' := by
  have noLow : ¬(0xDC00 ≤ n ∧ n ≤ 0xDFFF) := by omega
  rw [escape, quad]
  exact (if_neg noLow).trans (if_pos isHigh)

theorem escape_code {n : Nat} {rest rest' : List Char} (quad : hexQuad rest = .ok (n, rest'))
    (noLow : ¬(0xDC00 ≤ n ∧ n ≤ 0xDFFF)) (noHigh : ¬(0xD800 ≤ n ∧ n ≤ 0xDBFF)) :
    escape ('u' :: rest) = .ok (Char.ofNat n, rest') := by
  rw [escape, quad]
  exact (if_neg noLow).trans (if_neg noHigh)

theorem stringBody_quote (done rest : List Char) :
    stringBody done ('"' :: rest) = .ok (String.ofList done.reverse, rest) := by
  rw [stringBody, if_pos rfl]

theorem stringBody_escape {rest rest' : List Char} {c : Char} (done : List Char)
    (escaped : escape rest = .ok (c, rest')) :
    stringBody done ('\\' :: rest) = stringBody (c :: done) rest' := by
  rw [stringBody, if_neg (by decide), if_pos rfl]
  split <;> simp_all

theorem stringBody_plain {c : Char} (done rest : List Char) (noQuote : c ≠ '"')
    (noEscape : c ≠ '\\') (noControl : ¬c.toNat < 0x20) :
    stringBody done (c :: rest) = stringBody (c :: done) rest := by
  rw [stringBody, if_neg noQuote, if_neg noEscape, if_neg noControl]

theorem scanFrom_blank {c : Char} (done : List Token) (rest : List Char)
    (blank : isSpace c = true) : scanFrom done (c :: rest) = scanFrom done rest := by
  rw [scanFrom, if_pos blank]

theorem scanFrom_punctuation {c : Char} {t : Token} (done : List Token) (rest : List Char)
    (noBlank : isSpace c = false) (sign : punctuation? c = some t) :
    scanFrom done (c :: rest) = scanFrom (t :: done) rest := by
  rw [scanFrom, if_neg (Bool.eq_false_iff.mp noBlank)]
  split <;> simp_all

theorem scanFrom_long {c : Char} {v : Scalar} {rest rest' : List Char} (done : List Token)
    (noBlank : isSpace c = false) (noSign : punctuation? c = none)
    (long : longToken c rest = .ok (v, rest')) :
    scanFrom done (c :: rest) = scanFrom (.scalar v :: done) rest' := by
  rw [scanFrom, if_neg (Bool.eq_false_iff.mp noBlank)]
  split
  · simp_all
  · split <;> simp_all

/-! ## Strings that go on -/

theorem hexQuad_append {cs rest : List Char} {n : Nat} (h : hexQuad cs = .ok (n, rest))
    (more : List Char) : hexQuad (cs ++ more) = .ok (n, rest ++ more) := by
  unfold hexQuad at h
  split at h
  · split at h
    · rename_i ha hb hc hd
      cases h
      simp only [List.cons_append, hexQuad, ha, hb, hc, hd]
    · cases h
  · cases h

theorem lowHalf_append {high : Nat} {cs rest : List Char} {c : Char}
    (h : lowHalf high cs = .ok (c, rest)) (more : List Char) :
    lowHalf high (cs ++ more) = .ok (c, rest ++ more) := by
  unfold lowHalf at h
  split at h
  · cases h
  · cases h
  · rename_i tail
    cases quad : hexQuad tail with
    | error e =>
      rw [quad] at h
      cases h
    | ok p =>
      obtain ⟨low, tail'⟩ := p
      rw [quad] at h
      change (if _ then _ else _) = _ at h
      split at h
      · rename_i isLow
        simp only [Except.ok.injEq, Prod.mk.injEq] at h
        rw [← h.1, ← h.2]
        exact lowHalf_of (hexQuad_append quad more) isLow
      · cases h
  · cases h

theorem escape_append {cs rest : List Char} {c : Char} (h : escape cs = .ok (c, rest))
    (more : List Char) : escape (cs ++ more) = .ok (c, rest ++ more) := by
  unfold escape at h
  split at h
  case h_10 tail =>
    cases quad : hexQuad tail with
    | error e =>
      rw [quad] at h
      cases h
    | ok p =>
      obtain ⟨n, tail'⟩ := p
      rw [quad] at h
      change (if _ then _ else _) = _ at h
      split at h
      · cases h
      · rename_i noLow
        split at h
        · rename_i isHigh
          rw [List.cons_append, escape_high (hexQuad_append quad more) isHigh]
          exact lowHalf_append h more
        · rename_i noHigh
          cases h
          exact escape_code (hexQuad_append quad more) noLow noHigh
  all_goals cases h
  all_goals rfl

theorem stringBody_append {done cs rest : List Char} {s : String}
    (h : stringBody done cs = .ok (s, rest)) (more : List Char) :
    stringBody done (cs ++ more) = .ok (s, rest ++ more) := by
  fun_induction stringBody done cs with
  | case1 => cases h
  | case2 done tail =>
    cases h
    exact stringBody_quote _ _
  | case3 => cases h
  | case4 done tail c tail' escaped _ _ ih =>
    rw [List.cons_append, stringBody_escape done (escape_append escaped more)]
    exact ih h
  | case5 => cases h
  | case6 done c tail noQuote noEscape noControl ih =>
    rw [List.cons_append, stringBody_plain done _ noQuote noEscape noControl]
    exact ih h

/-! ## Numbers that end before a text goes on -/

section Digits

variable {p : Char → Bool} {cs : List Char}

theorem takeWhile_append_of_left (left : cs.dropWhile p ≠ []) (more : List Char) :
    (cs ++ more).takeWhile p = cs.takeWhile p := by
  induction cs with
  | nil => exact absurd rfl left
  | cons c tail ih =>
    by_cases hc : p c = true
    · rw [List.dropWhile_cons_of_pos hc] at left
      rw [List.cons_append, List.takeWhile_cons_of_pos hc, List.takeWhile_cons_of_pos hc, ih left]
    · rw [List.cons_append, List.takeWhile_cons_of_neg hc, List.takeWhile_cons_of_neg hc]

theorem dropWhile_append_of_left (left : cs.dropWhile p ≠ []) (more : List Char) :
    (cs ++ more).dropWhile p = cs.dropWhile p ++ more := by
  rw [List.dropWhile_append, if_neg (by simpa using left)]

end Digits

/-- Read the digits of an exponent after its sign. -/
def exponentDigits (negative : Bool) (ds : List Char) : Except Error (Int × List Char) :=
  if ds.takeWhile Char.isDigit = [] then .error (if ds = [] then .endInValue else .invalidNumber)
  else
    let value : Int := Text.digitsValue (ds.takeWhile Char.isDigit)
    .ok (if negative then -value else value, ds.dropWhile Char.isDigit)

theorem exponentPart_of_noSign {c : Char} (rest : List Char) (noPlus : c ≠ '+')
    (noMinus : c ≠ '-') : exponentPart (c :: rest) = exponentDigits false (c :: rest) := by
  unfold exponentPart
  split
  rename_i sign
  split at sign
  · rename_i same
    exact absurd (List.cons.inj same).1 noPlus
  · rename_i same
    exact absurd (List.cons.inj same).1 noMinus
  · cases sign
    rfl

theorem exponentDigits_append {negative : Bool} {ds rest : List Char} {n : Int}
    (h : exponentDigits negative ds = .ok (n, rest)) (left : rest ≠ []) (more : List Char) :
    exponentDigits negative (ds ++ more) = .ok (n, rest ++ more) := by
  unfold exponentDigits at h
  split at h
  · cases h
  · rename_i some
    cases h
    rw [exponentDigits, takeWhile_append_of_left left, dropWhile_append_of_left left, if_neg some]

theorem exponentPart_append {cs rest : List Char} {n : Int} (h : exponentPart cs = .ok (n, rest))
    (left : rest ≠ []) (more : List Char) :
    exponentPart (cs ++ more) = .ok (n, rest ++ more) := by
  cases cs with
  | nil => cases h
  | cons c tail =>
    by_cases isPlus : c = '+'
    · subst isPlus
      have signed : exponentDigits false tail = .ok (n, rest) := h
      exact exponentDigits_append signed left more
    · by_cases isMinus : c = '-'
      · subst isMinus
        have signed : exponentDigits true tail = .ok (n, rest) := h
        exact exponentDigits_append signed left more
      · rw [exponentPart_of_noSign _ isPlus isMinus] at h
        rw [List.cons_append, exponentPart_of_noSign _ isPlus isMinus]
        exact exponentDigits_append h left more

theorem doubleOf_append {negative : Bool} {d : Decimal} {cs rest : List Char} {n : Number}
    (h : (doubleOf negative d).map (·, cs) = .ok (n, rest)) (more : List Char) :
    (doubleOf negative d).map (·, cs ++ more) = .ok (n, rest ++ more) := by
  cases value : doubleOf negative d with
  | error e =>
    rw [value] at h
    cases h
  | ok m =>
    rw [value] at h
    cases h
    rfl

theorem scaled_append {negative : Bool} {d : Decimal} {cs rest : List Char} {n : Number}
    (h : scaled negative d cs = .ok (n, rest)) (left : rest ≠ []) (more : List Char) :
    scaled negative d (cs ++ more) = .ok (n, rest ++ more) := by
  unfold scaled at h
  split at h
  · rename_i power tail exponent
    have same : rest = tail := doubleOf_length h
    subst same
    rw [scaled, exponentPart_append exponent left more]
    exact doubleOf_append h more
  · cases h

theorem fractionTail_of_noExponent {negative : Bool} {d : Decimal} {c : Char}
    (rest : List Char) (noE : c ≠ 'e') (noBigE : c ≠ 'E') :
    fractionTail negative d (c :: rest) = (doubleOf negative d).map (·, c :: rest) := by
  unfold fractionTail
  split
  · rename_i same
    exact absurd (List.cons.inj same).1 noE
  · rename_i same
    exact absurd (List.cons.inj same).1 noBigE
  · rfl

theorem fractionTail_append {negative : Bool} {d : Decimal} {cs rest : List Char} {n : Number}
    (h : fractionTail negative d cs = .ok (n, rest)) (left : rest ≠ []) (more : List Char) :
    fractionTail negative d (cs ++ more) = .ok (n, rest ++ more) := by
  unfold fractionTail at h
  split at h
  · exact scaled_append h left more
  · exact scaled_append h left more
  · rename_i noE noBigE
    have same : rest = cs := doubleOf_length h
    subst same
    cases rest with
    | nil => exact absurd rfl left
    | cons c tail =>
      have plain : c ≠ 'e' := fun same => noE tail (same ▸ rfl)
      have bigPlain : c ≠ 'E' := fun same => noBigE tail (same ▸ rfl)
      rw [List.cons_append, fractionTail_of_noExponent _ plain bigPlain]
      exact doubleOf_append h more

theorem numberTail_of_integer {negative : Bool} {d : Decimal} {rest : List Char}
    (ends : ∀ c ∈ rest.head?, c ≠ '.' ∧ c ≠ 'e' ∧ c ≠ 'E') :
    numberTail negative d rest =
      match Number.ofInteger negative d with
      | some n => .ok (n, rest)
      | none => .error .numberOutOfRange := by
  unfold numberTail
  split
  · exact absurd rfl (ends '.' rfl).1
  · exact absurd rfl (ends 'e' rfl).2.1
  · exact absurd rfl (ends 'E' rfl).2.2
  · rfl

theorem numberTail_append {negative : Bool} {d : Decimal} {cs rest : List Char} {n : Number}
    (h : numberTail negative d cs = .ok (n, rest)) (left : rest ≠ []) (more : List Char) :
    numberTail negative d (cs ++ more) = .ok (n, rest ++ more) := by
  unfold numberTail at h
  split at h
  · rename_i tail
    dsimp only at h
    split at h
    · cases h
    · rename_i some
      have behind : tail.dropWhile Char.isDigit ≠ [] := by
        intro none
        have short := fractionTail_length h
        rw [none, List.length_nil, Nat.le_zero, List.length_eq_zero_iff] at short
        exact left short
      rw [List.cons_append, numberTail, takeWhile_append_of_left behind,
        dropWhile_append_of_left behind, if_neg some]
      exact fractionTail_append h left more
  · exact scaled_append h left more
  · exact scaled_append h left more
  · rename_i noPoint noE noBigE
    have same : rest = cs := by
      split at h
      · cases h
        rfl
      · cases h
    subst same
    have ends : ∀ c ∈ (rest ++ more).head?, c ≠ '.' ∧ c ≠ 'e' ∧ c ≠ 'E' := by
      cases rest with
      | nil => exact absurd rfl left
      | cons c tail =>
        rintro _ ⟨⟩
        exact ⟨fun e => noPoint tail (e ▸ rfl), fun e => noE tail (e ▸ rfl),
          fun e => noBigE tail (e ▸ rfl)⟩
    rw [numberTail_of_integer ends]
    cases value : Number.ofInteger negative d with
    | none =>
      rw [value] at h
      cases h
    | some m =>
      rw [value] at h
      cases h
      rfl

theorem numberBody_of_digit {negative : Bool} {c : Char} (rest : List Char) (noZero : c ≠ '0')
    (isDigit : c.isDigit = true) :
    numberBody negative (c :: rest) =
      numberTail negative (.ofWhole ((c :: rest).takeWhile Char.isDigit))
        ((c :: rest).dropWhile Char.isDigit) := by
  unfold numberBody
  split
  · rename_i same
    cases same
  · rename_i same
    exact absurd (List.cons.inj same).1 noZero
  · rename_i same
    cases same
    exact if_pos isDigit

theorem numberBody_append {negative : Bool} {cs rest : List Char} {n : Number}
    (h : numberBody negative cs = .ok (n, rest)) (left : rest ≠ []) (more : List Char) :
    numberBody negative (cs ++ more) = .ok (n, rest ++ more) := by
  have behind : ∀ {d : Decimal} {tail : List Char}, numberTail negative d tail = .ok (n, rest) →
      tail ≠ [] := by
    rintro d tail h rfl
    have short := numberTail_length h
    rw [List.length_nil, Nat.le_zero, List.length_eq_zero_iff] at short
    exact left short
  unfold numberBody at h
  split at h
  · cases h
  · rename_i tail
    split at h
    · cases h
    · rename_i noDigit
      have same : (tail ++ more).head? = tail.head? := List.head?_append_of_ne_nil _ (behind h)
      rw [List.cons_append, numberBody, same, if_neg noDigit]
      exact numberTail_append h left more
  · rename_i c tail noZero
    split at h
    · rename_i isDigit
      rw [List.cons_append, numberBody_of_digit _ noZero isDigit, ← List.cons_append,
        takeWhile_append_of_left (behind h), dropWhile_append_of_left (behind h)]
      exact numberTail_append h left more
    · cases h

/-! ## Tokens of a text that goes on -/

theorem literalName_append {es cs rest : List Char} (h : literalName es cs = .ok rest)
    (more : List Char) : literalName es (cs ++ more) = .ok (rest ++ more) := by
  fun_induction literalName es cs with
  | case1 cs =>
    cases h
    rfl
  | case2 => cases h
  | case3 es c cs ih =>
    rw [List.cons_append, literalName, if_pos rfl]
    exact ih h
  | case4 => cases h

theorem plainToken_append {c : Char} {cs rest : List Char} {v : Scalar}
    (h : plainToken c cs = .ok (v, rest)) (ended : rest ≠ [] ∨ ∀ n, v ≠ .number n)
    (more : List Char) : plainToken c (cs ++ more) = .ok (v, rest ++ more) := by
  have literal : ∀ {es : List Char} {w : Scalar}, (literalName es cs).map (w, ·) = .ok (v, rest) →
      (literalName es (cs ++ more)).map (w, ·) = .ok (v, rest ++ more) := by
    intro es w h
    cases name : literalName es cs with
    | error e =>
      rw [name] at h
      cases h
    | ok tail =>
      rw [name] at h
      cases h
      rw [literalName_append name more]
      rfl
  have number : ∀ {negative : Bool} {ds : List Char},
      ((numberBody negative ds).map fun p => (Scalar.number p.1, p.2)) = .ok (v, rest) →
      ((numberBody negative (ds ++ more)).map fun p => (Scalar.number p.1, p.2)) =
        .ok (v, rest ++ more) := by
    intro negative ds h
    cases body : numberBody negative ds with
    | error e =>
      rw [body] at h
      cases h
    | ok p =>
      rw [body] at h
      cases h
      have left : p.2 ≠ [] := ended.resolve_right fun other => other p.1 rfl
      rw [numberBody_append body left more]
      rfl
  unfold plainToken at h ⊢
  split_ifs at h ⊢ with isNull isTrue isFalse isMinus isDigit
  · exact literal h
  · exact literal h
  · exact literal h
  · exact number h
  · rw [← List.cons_append]
    exact number h

theorem longToken_append {c : Char} {cs rest : List Char} {v : Scalar}
    (h : longToken c cs = .ok (v, rest)) (ended : rest ≠ [] ∨ ∀ n, v ≠ .number n)
    (more : List Char) : longToken c (cs ++ more) = .ok (v, rest ++ more) := by
  unfold longToken at h ⊢
  split at h
  · rename_i isString
    rw [if_pos isString]
    split at h
    · rename_i body
      cases h
      rw [stringBody_append body more]
    · cases h
  · rename_i noString
    rw [if_neg noString]
    split at h
    · rename_i plain
      cases h
      rw [plainToken_append plain ended more]
    · cases h

/-- **Tokens of a text that goes on.** Where scanning finds no fault, and no number at the end, it
finds the same tokens again if more comes after them. -/
theorem scanFrom_more {done : List Token} {cs : List Char}
    (clean : ∀ e isString, Token.fault e isString ∉ scanFrom done cs)
    (ended : ∀ n, (scanFrom done cs).getLast? ≠ some (.scalar (.number n))) (more : List Char) :
    scanFrom done (cs ++ more) = scanFrom done cs ++ scanFrom [] more := by
  fun_induction scanFrom done cs with
  | case1 done =>
    have front := scanFrom_append [] done more
    rw [List.nil_append] at front ⊢
    exact front
  | case2 done c rest blank ih =>
    rw [List.cons_append, scanFrom_blank _ _ blank]
    exact ih clean ended
  | case3 done c rest noBlank t sign ih =>
    rw [List.cons_append, scanFrom_punctuation _ _ (Bool.eq_false_iff.mpr noBlank) sign]
    exact ih clean ended
  | case4 done c rest noBlank noSign v rest' long _ ih =>
    have inner : rest' ≠ [] ∨ ∀ n, v ≠ .number n := by
      by_cases atEnd : rest' = []
      · refine .inr fun n isNumber => ended n ?_
        rw [atEnd, scanFrom, isNumber, List.getLast?_reverse, List.head?_cons]
      · exact .inl atEnd
    rw [List.cons_append, scanFrom_long _ (Bool.eq_false_iff.mpr noBlank) noSign
      (longToken_append long inner more)]
    exact ih clean ended
  | case5 done c rest noBlank noSign e isString long =>
    exact absurd (List.mem_reverse.mpr (List.mem_cons_self ..)) (clean e isString)

/-! ## Blanks -/

/-- Nothing but characters that may stand between tokens. -/
def Blank (cs : List Char) : Prop := ∀ c ∈ cs, c = ' ' ∨ c = '\n' ∨ c = '\t' ∨ c = '\r'

theorem isSpace_iff {c : Char} : isSpace c = true ↔ c = ' ' ∨ c = '\n' ∨ c = '\t' ∨ c = '\r' := by
  simp [isSpace, or_assoc]

instance (cs : List Char) : Decidable (Blank cs) :=
  decidable_of_iff (cs.all isSpace = true) (by simp only [List.all_eq_true, isSpace_iff, Blank])

theorem scanFrom_blanks {space : List Char} (blank : Blank space) (done : List Token)
    (rest : List Char) : scanFrom done (space ++ rest) = scanFrom done rest := by
  induction space with
  | nil => rfl
  | cons c space ih =>
    obtain ⟨first, others⟩ := List.forall_mem_cons.mp blank
    rw [List.cons_append, scanFrom_blank _ _ (isSpace_iff.mpr first)]
    exact ih others

/-- The first token of a text is followed by those of the rest. -/
theorem scanFrom_singleton (t : Token) (rest : List Char) :
    scanFrom [t] rest = t :: scanFrom [] rest := by
  have front := scanFrom_append [] [t] rest
  rw [List.nil_append] at front
  exact front

/-- Whatever is not blank has tokens, be it a fault. -/
theorem scanFrom_ne_nil {cs : List Char} (some : ¬Blank cs) : scanFrom [] cs ≠ [] := by
  induction cs with
  | nil => exact absurd (List.forall_mem_nil _) some
  | cons c rest ih =>
    by_cases blank : isSpace c = true
    · rw [scanFrom_blank _ _ blank]
      refine ih fun blanks => some ?_
      exact List.forall_mem_cons.mpr ⟨isSpace_iff.mp blank, blanks⟩
    · rw [scanFrom, if_neg blank]
      split
      · rw [scanFrom_singleton]
        exact List.cons_ne_nil _ _
      · split
        · rw [scanFrom_singleton]
          exact List.cons_ne_nil _ _
        · exact List.cons_ne_nil _ _

/-! ## Numbers that go on -/

theorem punctuation?_ne_scalar {c : Char} {s : Scalar} : punctuation? c ≠ some (.scalar s) := by
  unfold punctuation?
  split
  all_goals
    intro h
    cases h

theorem plainToken_of_number {c : Char} {rest rest' more more' : List Char} {n : Number}
    {v : Scalar} (number : plainToken c rest = .ok (.number n, rest'))
    (plain : plainToken c more = .ok (v, more')) : ∃ m, v = .number m := by
  have literal : ∀ {es cs cs' : List Char} {w v : Scalar},
      (literalName es cs).map (w, ·) = .ok (v, cs') → w = v := by
    intro es cs cs' w v h
    cases name : literalName es cs with
    | error e =>
      rw [name] at h
      cases h
    | ok tail =>
      rw [name] at h
      cases h
      rfl
  have digits : ∀ {negative : Bool} {ds : List Char},
      ((numberBody negative ds).map fun p => (Scalar.number p.1, p.2)) = .ok (v, more') →
      ∃ m, v = .number m := by
    intro negative ds h
    cases body : numberBody negative ds with
    | error e =>
      rw [body] at h
      cases h
    | ok p =>
      rw [body] at h
      cases h
      exact ⟨p.1, rfl⟩
  unfold plainToken at number plain
  split_ifs at number plain with isNull isTrue isFalse isMinus isDigit
  · cases literal number
  · cases literal number
  · cases literal number
  · exact digits plain
  · exact digits plain

/-- A token that begins like a number is one, unless there is a fault in it. -/
theorem longToken_of_number {c : Char} {rest rest' more more' : List Char} {n : Number} {v : Scalar}
    (number : longToken c rest = .ok (.number n, rest'))
    (long : longToken c more = .ok (v, more')) : ∃ m, v = .number m := by
  unfold longToken at number long
  split_ifs at number long with isString
  · split at number <;> cases number
  · split at number
    · rename_i plainNumber
      cases number
      split at long
      · rename_i plain
        cases long
        exact plainToken_of_number plainNumber plain
      · cases long
    · cases number

/-- Behind a number, the digits of a number may go on. -/
theorem scanFrom_of_number {cs : List Char} {n : Number}
    (number : scanFrom [] cs = [.scalar (.number n)]) (more : List Char) :
    ∃ t ts, scanFrom [] (cs ++ more) = t :: ts ∧
      ((∃ m, t = .scalar (.number m)) ∨ ∃ e isString, t = .fault e isString) := by
  induction cs with
  | nil =>
    rw [scanFrom] at number
    cases number
  | cons c rest ih =>
    by_cases blank : isSpace c = true
    · rw [scanFrom_blank _ _ blank] at number
      rw [List.cons_append, scanFrom_blank _ _ blank]
      exact ih number
    · rw [scanFrom, if_neg blank] at number
      rw [List.cons_append, scanFrom, if_neg blank]
      split at number
      · rename_i t sign
        rw [scanFrom_singleton] at number
        obtain ⟨rfl, -⟩ := List.cons.inj number
        exact absurd sign punctuation?_ne_scalar
      · split at number
        · rename_i v rest' long
          rw [scanFrom_singleton] at number
          obtain ⟨same, -⟩ := List.cons.inj number
          cases same
          split
          · rename_i w more' again
            obtain ⟨m, rfl⟩ := longToken_of_number long again
            exact ⟨_, _, scanFrom_singleton _ _, .inl ⟨m, rfl⟩⟩
          · rename_i e isString again
            exact ⟨_, _, rfl, .inr ⟨e, isString, rfl⟩⟩
        · cases number

end JsonMarkup.Json
