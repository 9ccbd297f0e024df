import JsonMarkup.Json.Error
import JsonMarkup.Number.Basic
import JsonMarkup.Text.Digit

/-!
# Tokens of JSON text

`scan` cuts a text into tokens. It never fails: where the text goes wrong it leaves a `fault`, as
its last token, which says what a reader finds wrong that gets so far. A reader that stops earlier,
or that wants no value there, has an error of its own to report.
-/

namespace JsonMarkup.Json

open Text (hexDigit? digitsValue)

/-- A value without parts. -/
inductive Scalar where
  /-- The literal `null`. -/
  | null
  | boolean (value : Bool)
  | number (value : Number)
  | string (value : String)
deriving DecidableEq

/-- A token of JSON text. -/
inductive Token where
  | listOpen
  | listClose
  | objectOpen
  | objectClose
  | colon
  | comma
  | scalar (value : Scalar)
  /-- No token: what is wrong with the text from here on, and whether it began as a string. -/
  | fault (error : Error) (isString : Bool)
deriving DecidableEq

/-! ## Strings -/

/-- Read four hexadecimal digits. They are looked at only if the text goes on for four bytes. -/
def hexQuad : List Char → Except Error (Nat × List Char)
  | a :: b :: c :: d :: rest =>
    match hexDigit? a, hexDigit? b, hexDigit? c, hexDigit? d with
    | some a, some b, some c, some d => .ok (((a * 16 + b) * 16 + c) * 16 + d, rest)
    | _, _, _, _ => .error .invalidEscape
  | short =>
    .error (if 4 ≤ (String.ofList short).utf8ByteSize then .invalidEscape else .endInString)

/-- Read the second half of a surrogate pair, whose first half is `high`. -/
def lowHalf (high : Nat) : List Char → Except Error (Char × List Char)
  | [] => .error .endInString
  | ['\\'] => .error .endInString
  | '\\' :: 'u' :: rest => do
    let (low, rest) ← hexQuad rest
    if 0xDC00 ≤ low ∧ low ≤ 0xDFFF then
      .ok (Char.ofNat (0x10000 + (high - 0xD800) * 0x400 + (low - 0xDC00)), rest)
    else .error .loneSurrogate
  | _ => .error .unexpectedEndOfHexEscape

def escape : List Char → Except Error (Char × List Char)
  | [] => .error .endInString
  | '"' :: rest => .ok ('"', rest)
  | '\\' :: rest => .ok ('\\', rest)
  | '/' :: rest => .ok ('/', rest)
  | 'b' :: rest => .ok (Char.ofNat 8, rest)
  | 'f' :: rest => .ok (Char.ofNat 12, rest)
  | 'n' :: rest => .ok ('\n', rest)
  | 'r' :: rest => .ok ('\r', rest)
  | 't' :: rest => .ok ('\t', rest)
  | 'u' :: rest => do
    let (n, rest) ← hexQuad rest
    if 0xDC00 ≤ n ∧ n ≤ 0xDFFF then .error .loneSurrogate
    else if 0xD800 ≤ n ∧ n ≤ 0xDBFF then lowHalf n rest
    else .ok (Char.ofNat n, rest)
  | _ => .error .invalidEscape

theorem hexQuad_length {cs : List Char} {n : Nat} {rest : List Char}
    (h : hexQuad cs = .ok (n, rest)) : rest.length < cs.length := by
  unfold hexQuad at h
  split at h
  · split at h
    · simp only [Except.ok.injEq, Prod.mk.injEq] at h
      simp [← h.2]
      omega
    · simp at h
  · simp at h

theorem lowHalf_length {high : Nat} {cs : List Char} {c : Char} {rest : List Char}
    (h : lowHalf high cs = .ok (c, rest)) : rest.length < cs.length := by
  unfold lowHalf at h
  split at h
  · simp at h
  · simp at h
  · rename_i tail
    cases hq : hexQuad tail with
    | error e => simp [hq, bind, Except.bind] at h
    | ok p =>
      obtain ⟨low, tail'⟩ := p
      have := hexQuad_length hq
      simp only [hq, bind, Except.bind] at h
      split at h
      · simp only [Except.ok.injEq, Prod.mk.injEq] at h
        simp only [List.length_cons, ← h.2]
        omega
      · simp at h
  · simp at h

theorem escape_length {cs : List Char} {c : Char} {rest : List Char}
    (h : escape cs = .ok (c, rest)) : rest.length < cs.length := by
  unfold escape at h
  split at h
  case h_10 tail =>
    cases hq : hexQuad tail with
    | error e => simp [hq, bind, Except.bind] at h
    | ok p =>
      obtain ⟨n, tail'⟩ := p
      have := hexQuad_length hq
      simp only [hq, bind, Except.bind] at h
      split at h
      · simp at h
      · split at h
        · have := lowHalf_length h
          simp only [List.length_cons]
          omega
        · simp only [Except.ok.injEq, Prod.mk.injEq] at h
          simp only [List.length_cons, ← h.2]
          omega
  all_goals simp at h
  all_goals simp [← h.2]

/-- Read a string after its opening quote; `done` holds its characters so far, last one first. -/
def stringBody (done : List Char) : List Char → Except Error (String × List Char)
  | [] => .error .endInString
  | c :: rest =>
    if c = '"' then .ok (String.ofList done.reverse, rest)
    else if c = '\\' then
      match h : escape rest with
      | .error e => .error e
      | .ok (c, rest') =>
        have := escape_length h
        stringBody (c :: done) rest'
    else if c.toNat < 0x20 then .error .controlCharacter
    else stringBody (c :: done) rest
termination_by cs => cs.length

theorem stringBody_length {done cs : List Char} {s : String} {rest : List Char}
    (h : stringBody done cs = .ok (s, rest)) : rest.length < cs.length := by
  fun_induction stringBody done cs with
  | case1 => simp at h
  | case2 => simp_all
  | case3 => simp at h
  | case4 done tail _ c tail' hesc hlt ih =>
    have := ih h
    simp only [List.length_cons]
    omega
  | case5 => simp at h
  | case6 done c tail _ _ _ ih =>
    have := ih h
    simp only [List.length_cons]
    omega

/-! ## Numbers and literal names -/

def exponentPart (cs : List Char) : Except Error (Int × List Char) :=
  let (negative, cs) :=
    match cs with
    | '+' :: rest => (false, rest)
    | '-' :: rest => (true, rest)
    | rest => (false, rest)
  let digits := cs.takeWhile Char.isDigit
  if digits = [] then .error (if cs = [] then .endInValue else .invalidNumber)
  else
    let value : Int := digitsValue digits
    .ok (if negative then -value else value, cs.dropWhile Char.isDigit)

/-- The double that a decimal literal stands for. -/
def doubleOf (negative : Bool) (d : Decimal) : Except Error Number :=
  match Double.ofDecimal? negative d.digits d.power with
  | some x => .ok (.double x)
  | none => .error .numberOutOfRange

/-- Read the exponent of a number, after its mark. -/
def scaled (negative : Bool) (d : Decimal) (cs : List Char) : Except Error (Number × List Char) :=
  match exponentPart cs with
  | .ok (power, rest) => (doubleOf negative ⟨d.digits, d.power + power⟩).map (·, rest)
  | .error e => .error e

/-- Read what follows the fraction digits of a number that has some. -/
def fractionTail (negative : Bool) (d : Decimal) : List Char → Except Error (Number × List Char)
  | 'e' :: rest => scaled negative d rest
  | 'E' :: rest => scaled negative d rest
  | rest => (doubleOf negative d).map (·, rest)

/-- Read what follows the integral digits of a number, of which `d` is kept. -/
def numberTail (negative : Bool) (d : Decimal) : List Char → Except Error (Number × List Char)
  | '.' :: cs =>
    let fraction := cs.takeWhile Char.isDigit
    let rest := cs.dropWhile Char.isDigit
    if fraction = [] then .error (if rest = [] then .endInValue else .invalidNumber)
    else fractionTail negative (d.withFraction fraction) rest
  | 'e' :: rest => scaled negative d rest
  | 'E' :: rest => scaled negative d rest
  | rest =>
    match Number.ofInteger negative d with
    | some n => .ok (n, rest)
    | none => .error .numberOutOfRange

/-- Read a number after its sign. A zero in front of other digits is refused. -/
def numberBody (negative : Bool) (cs : List Char) : Except Error (Number × List Char) :=
  match cs with
  | [] => .error .endInValue
  | '0' :: rest =>
    if rest.head?.any Char.isDigit then .error .invalidNumber
    else numberTail negative (.ofWhole ['0']) rest
  | c :: _ =>
    if c.isDigit then
      numberTail negative (.ofWhole (cs.takeWhile Char.isDigit)) (cs.dropWhile Char.isDigit)
    else .error .invalidNumber

/-- Read the rest of a literal name. -/
def literalName : List Char → List Char → Except Error (List Char)
  | [], cs => .ok cs
  | _ :: _, [] => .error .endInValue
  | e :: es, c :: cs => if c = e then literalName es cs else .error .expectedIdent

theorem length_dropWhile_le (p : Char → Bool) (cs : List Char) :
    (cs.dropWhile p).length ≤ cs.length :=
  (List.dropWhile_sublist p).length_le

theorem exponentPart_length {cs : List Char} {n : Int} {rest : List Char}
    (h : exponentPart cs = .ok (n, rest)) : rest.length ≤ cs.length := by
  unfold exponentPart at h
  split at h
  rename_i negative tail hsplit
  have htail : tail.length ≤ cs.length := by
    split at hsplit <;> cases hsplit <;> simp
  dsimp only at h
  split at h
  · simp at h
  · simp only [Except.ok.injEq, Prod.mk.injEq] at h
    have := length_dropWhile_le Char.isDigit tail
    rw [← h.2]
    omega

theorem doubleOf_length {negative : Bool} {d : Decimal} {cs rest : List Char} {n : Number}
    (h : (doubleOf negative d).map (·, cs) = .ok (n, rest)) : rest = cs := by
  cases hd : doubleOf negative d with
  | error e => simp [hd, Except.map] at h
  | ok m =>
    simp only [hd, Except.map, Except.ok.injEq, Prod.mk.injEq] at h
    exact h.2.symm

theorem scaled_length {negative : Bool} {d : Decimal} {cs rest : List Char} {n : Number}
    (h : scaled negative d cs = .ok (n, rest)) : rest.length ≤ cs.length := by
  unfold scaled at h
  split at h
  · rename_i power tail he
    have := exponentPart_length he
    rw [doubleOf_length h]
    exact this
  · simp at h

theorem fractionTail_length {negative : Bool} {d : Decimal} {cs rest : List Char} {n : Number}
    (h : fractionTail negative d cs = .ok (n, rest)) : rest.length ≤ cs.length := by
  unfold fractionTail at h
  split at h
  · have := scaled_length h
    simp only [List.length_cons]
    omega
  · have := scaled_length h
    simp only [List.length_cons]
    omega
  · exact Nat.le_of_eq (congrArg List.length (doubleOf_length h))

theorem numberTail_length {negative : Bool} {d : Decimal} {cs rest : List Char} {n : Number}
    (h : numberTail negative d cs = .ok (n, rest)) : rest.length ≤ cs.length := by
  unfold numberTail at h
  split at h
  · rename_i tail
    have hd := length_dropWhile_le Char.isDigit tail
    simp only [List.length_cons]
    dsimp only at h
    split at h
    · simp at h
    · have := fractionTail_length h
      omega
  · have := scaled_length h
    simp only [List.length_cons]
    omega
  · have := scaled_length h
    simp only [List.length_cons]
    omega
  · split at h
    · simp only [Except.ok.injEq, Prod.mk.injEq] at h
      exact Nat.le_of_eq (congrArg List.length h.2.symm)
    · simp at h

theorem numberBody_length {negative : Bool} {cs : List Char} {n : Number} {rest : List Char}
    (h : numberBody negative cs = .ok (n, rest)) : rest.length < cs.length := by
  unfold numberBody at h
  split at h
  · simp at h
  · split at h
    · simp at h
    · have := numberTail_length h
      simp only [List.length_cons]
      omega
  · rename_i c tail _
    split at h
    · rename_i hc
      have := numberTail_length h
      have hd := length_dropWhile_le Char.isDigit tail
      simp only [List.dropWhile_cons, hc, if_true] at this
      simp only [List.length_cons]
      omega
    · simp at h

theorem literalName_length {es cs rest : List Char} (h : literalName es cs = .ok rest) :
    rest.length ≤ cs.length := by
  fun_induction literalName es cs with
  | case1 => simp_all
  | case2 => simp at h
  | case3 es c cs ih =>
    have := ih h
    simp only [List.length_cons]
    omega
  | case4 => simp at h

/-! ## The whole text -/

/-- A character that may stand between tokens. -/
def isSpace (c : Char) : Bool := c == ' ' || c == '\n' || c == '\t' || c == '\r'

/-- A character that is a token by itself. -/
def punctuation? (c : Char) : Option Token :=
  match c with
  | '[' => some .listOpen
  | ']' => some .listClose
  | '\x7b' => some .objectOpen
  | '\x7d' => some .objectClose
  | ':' => some .colon
  | ',' => some .comma
  | _ => none

/-- Read the literal name or number that begins with `c`. -/
def plainToken (c : Char) (rest : List Char) : Except Error (Scalar × List Char) :=
  if c = 'n' then (literalName "ull".toList rest).map (.null, ·)
  else if c = 't' then (literalName "rue".toList rest).map (.boolean true, ·)
  else if c = 'f' then (literalName "alse".toList rest).map (.boolean false, ·)
  else if c = '-' then (numberBody true rest).map fun (n, rest) => (.number n, rest)
  else if c.isDigit then (numberBody false (c :: rest)).map fun (n, rest) => (.number n, rest)
  else .error .expectedValue

/-- Read the token that begins with `c` and is none of the single-character ones. An error says
whether the token is a string. -/
def longToken (c : Char) (rest : List Char) : Except (Error × Bool) (Scalar × List Char) :=
  if c = '"' then
    match stringBody [] rest with
    | .ok (s, rest) => .ok (.string s, rest)
    | .error e => .error (e, true)
  else
    match plainToken c rest with
    | .ok (v, rest) => .ok (v, rest)
    | .error e => .error (e, false)

theorem plainToken_length {c : Char} {cs : List Char} {v : Scalar} {rest : List Char}
    (h : plainToken c cs = .ok (v, rest)) : rest.length < cs.length + 1 := by
  have literal : ∀ {es : List Char} {w : Scalar},
      (literalName es cs).map (w, ·) = .ok (v, rest) → rest.length < cs.length + 1 := by
    intro es w h
    cases hl : literalName es cs with
    | error e => simp [hl, Except.map] at h
    | ok tail =>
      have := literalName_length hl
      simp only [hl, Except.map, Except.ok.injEq, Prod.mk.injEq] at h
      rw [← h.2]
      omega
  have number : ∀ {negative : Bool} {tail : List Char}, tail.length ≤ cs.length + 1 →
      ((numberBody negative tail).map fun (n, rest) => (Scalar.number n, rest)) = .ok (v, rest) →
      rest.length < cs.length + 1 := by
    intro negative tail ht h
    cases hl : numberBody negative tail with
    | error e => simp [hl, Except.map] at h
    | ok p =>
      have := numberBody_length hl
      simp only [hl, Except.map, Except.ok.injEq, Prod.mk.injEq] at h
      rw [← h.2]
      omega
  unfold plainToken at h
  split at h
  · exact literal h
  · split at h
    · exact literal h
    · split at h
      · exact literal h
      · split at h
        · exact number (by omega) h
        · split at h
          · exact number (by simp) h
          · simp at h

theorem longToken_length {c : Char} {cs : List Char} {v : Scalar} {rest : List Char}
    (h : longToken c cs = .ok (v, rest)) : rest.length < cs.length + 1 := by
  unfold longToken at h
  split at h
  · split at h
    · rename_i hs
      have := stringBody_length hs
      simp only [Except.ok.injEq, Prod.mk.injEq] at h
      rw [← h.2]
      omega
    · simp at h
  · split at h
    · rename_i hp
      have := plainToken_length hp
      simp only [Except.ok.injEq, Prod.mk.injEq] at h
      rw [← h.2]
      exact this
    · simp at h

/-- The tokens of a text, after those `done` already, last one first. -/
def scanFrom (done : List Token) : List Char → List Token
  | [] => done.reverse
  | c :: rest =>
    if isSpace c then scanFrom done rest
    else
      match punctuation? c with
      | some t => scanFrom (t :: done) rest
      | none =>
        match h : longToken c rest with
        | .ok (v, rest') =>
          have := longToken_length h
          scanFrom (.scalar v :: done) rest'
        | .error (e, isString) => (.fault e isString :: done).reverse
termination_by cs => cs.length

def scan (text : String) : List Token := scanFrom [] text.toList

/-- Tokens that are done already stand in front. -/
theorem scanFrom_append (done front : List Token) (cs : List Char) :
    scanFrom (done ++ front) cs = front.reverse ++ scanFrom done cs := by
  fun_induction scanFrom done cs with
  | case1 done => simp [scanFrom]
  | case2 done c rest hs ih => rw [scanFrom]; simpa [hs] using ih
  | case3 done c rest hs t ht ih => rw [scanFrom]; simpa [hs, ht] using ih
  | case4 done c rest hs hn v rest' hl _ ih =>
    rw [scanFrom]
    simp only [hs, hn, Bool.false_eq_true, if_false]
    split <;> simp_all
  | case5 done c rest hs hn e isString hl =>
    rw [scanFrom]
    simp only [hs, hn, Bool.false_eq_true, if_false]
    split <;> simp_all

end JsonMarkup.Json
