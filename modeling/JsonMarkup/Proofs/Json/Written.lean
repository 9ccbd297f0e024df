import JsonMarkup.Proofs.Json.Extent
import Mathlib.Data.List.Chain
import Mathlib.Tactic.IntervalCases

/-!
# JSON text as it may be written

A tree has one sequence of tokens but many texts: there may be blanks between the tokens, and in a
string each character may stand for itself or be escaped, in more than one way. `Written` is the
relation between tokens and texts; it says nothing about how a text is read.

**Theorem** (`read_written`). Whatever is written for a tree is read as the tree.

Strings show where they end and signs are single characters, so of all words only a number depends
on what comes after it. It may be followed by anything that cannot belong to it (`Ends`), and what
comes after a number in the tokens of a tree is never another scalar, since the reader would not
accept one there (`separate_of_run`).
-/

namespace JsonMarkup.Json

/-! ## Words -/

/-- A hexadecimal digit of this value, in either case. -/
def HexDigit (n : Nat) (c : Char) : Prop :=
  "0123456789abcdef".toList[n]? = some c ∨ "0123456789ABCDEF".toList[n]? = some c

/-- Four hexadecimal digits of this value. -/
inductive HexQuad : Nat → List Char → Prop
  | digits {k l m n : Nat} {w x y z : Char} (first : HexDigit k w) (second : HexDigit l x)
      (third : HexDigit m y) (fourth : HexDigit n z) :
      HexQuad (((k * 16 + l) * 16 + m) * 16 + n) [w, x, y, z]

/-- Characters that may stand behind a backslash, and what they stand for. -/
def escapes : List (Char × Char) :=
  [('"', '"'), ('\\', '\\'), ('/', '/'), ('b', Char.ofNat 8), ('f', Char.ofNat 12), ('n', '\n'),
    ('r', '\r'), ('t', '\t')]

/-- How a character may be written in a string. -/
inductive CharWord : Char → List Char → Prop
  | itself {c : Char} (noQuote : c ≠ '"') (noEscape : c ≠ '\\') (noControl : 0x20 ≤ c.toNat) :
      CharWord c [c]
  | short {c e : Char} (known : (e, c) ∈ escapes) : CharWord c ['\\', e]
  | code {c : Char} {quad : List Char} (code : HexQuad c.toNat quad) :
      CharWord c ('\\' :: 'u' :: quad)
  /-- The two halves of a surrogate pair. -/
  | pair {c : Char} {high low : Nat} {front back : List Char}
      (isHigh : 0xD800 ≤ high ∧ high ≤ 0xDBFF) (isLow : 0xDC00 ≤ low ∧ low ≤ 0xDFFF)
      (code : c.toNat = 0x10000 + (high - 0xD800) * 0x400 + (low - 0xDC00))
      (first : HexQuad high front) (second : HexQuad low back) :
      CharWord c ('\\' :: 'u' :: (front ++ '\\' :: 'u' :: back))

/-- How characters may be written between quotes. -/
inductive StringWord : List Char → List Char → Prop
  | nil : StringWord [] []
  | cons {c : Char} {cs word body : List Char} (first : CharWord c word)
      (rest : StringWord cs body) : StringWord (c :: cs) (word ++ body)

/-- How a token may be written; numbers are integers that are kept exactly. -/
inductive Word : Token → List Char → Prop
  | listOpen : Word .listOpen ['[']
  | listClose : Word .listClose [']']
  | objectOpen : Word .objectOpen ['\x7b']
  | objectClose : Word .objectClose ['\x7d']
  | colon : Word .colon [':']
  | comma : Word .comma [',']
  | null : Word (.scalar .null) "null".toList
  | isTrue : Word (.scalar (.boolean true)) "true".toList
  | isFalse : Word (.scalar (.boolean false)) "false".toList
  | integer {n : Int} (least : Number.least ≤ n) (bound : n < Number.bound) :
      Word (.scalar (.number (.integer n))) (integerText n).toList
  | string {s : String} {body : List Char} (content : StringWord s.toList body) :
      Word (.scalar (.string s)) ('"' :: (body ++ ['"']))

/-- How tokens may be written, with blanks before, between and after them. -/
inductive Written : List Token → List Char → Prop
  | blanks {space : List Char} (blank : Blank space) : Written [] space
  | word {t : Token} {ts : List Token} {space word rest : List Char} (blank : Blank space)
      (first : Word t word) (others : Written ts rest) : Written (t :: ts) (space ++ (word ++ rest))

/-! ## The tokens of a tree -/

mutual

/-- The tokens of a tree, repeated names included. -/
def tokens : Json → List Token
  | .null => [.scalar .null]
  | .boolean b => [.scalar (.boolean b)]
  | .number n => [.scalar (.number n)]
  | .string s => [.scalar (.string s)]
  | .array items => .listOpen :: ([.comma].intercalate (itemTokens items) ++ [.listClose])
  | .object members =>
    .objectOpen :: ([.comma].intercalate (memberTokens members) ++ [.objectClose])

def itemTokens : List Json → List (List Token)
  | [] => []
  | j :: rest => j.tokens :: itemTokens rest

/-- The tokens of each member of an object. -/
def memberTokens : List (String × Json) → List (List Token)
  | [] => []
  | (name, j) :: rest => (.scalar (.string name) :: .colon :: j.tokens) :: memberTokens rest

end

/-! ## Reading strings -/

theorem hexDigit?_of_hexDigit {n : Nat} {c : Char} (h : HexDigit n c) :
    Text.hexDigit? c = some n := by
  have small : n < 16 := by
    rcases h with h | h
    · exact (List.getElem?_eq_some_iff.mp h).1
    · exact (List.getElem?_eq_some_iff.mp h).1
  rcases h with h | h
  · interval_cases n <;> cases h <;> rfl
  · interval_cases n <;> cases h <;> rfl

theorem hexQuad_of_hexQuad {n : Nat} {quad : List Char} (h : HexQuad n quad) (rest : List Char) :
    hexQuad (quad ++ rest) = .ok (n, rest) := by
  obtain ⟨first, second, third, fourth⟩ := h
  simp only [List.cons_append, List.nil_append, hexQuad, hexDigit?_of_hexDigit first,
    hexDigit?_of_hexDigit second, hexDigit?_of_hexDigit third, hexDigit?_of_hexDigit fourth]

/-- No character has the number of a surrogate. -/
theorem not_surrogate (c : Char) : ¬(0xD800 ≤ c.toNat ∧ c.toNat ≤ 0xDFFF) := by
  rcases c.valid with low | high
  · intro h
    have : c.toNat < 0xD800 := low
    omega
  · intro h
    have : 0xDFFF < c.toNat := high.1
    omega

theorem stringBody_charWord {c : Char} {word : List Char} (h : CharWord c word)
    (done rest : List Char) : stringBody done (word ++ rest) = stringBody (c :: done) rest := by
  cases h with
  | itself noQuote noEscape noControl =>
    exact stringBody_plain done rest noQuote noEscape (Nat.not_lt.mpr noControl)
  | short known =>
    rename_i e
    refine stringBody_escape done ?_
    simp only [escapes, List.mem_cons, Prod.mk.injEq, List.not_mem_nil, or_false] at known
    rcases known with ⟨rfl, rfl⟩ | ⟨rfl, rfl⟩ | ⟨rfl, rfl⟩ | ⟨rfl, rfl⟩ | ⟨rfl, rfl⟩ | ⟨rfl, rfl⟩ |
      ⟨rfl, rfl⟩ | ⟨rfl, rfl⟩ <;> rfl
  | code code =>
    have noSurrogate := not_surrogate c
    refine stringBody_escape done ?_
    have escaped := escape_code (hexQuad_of_hexQuad code rest) (by omega) (by omega)
    rw [Char.ofNat_toNat] at escaped
    exact escaped
  | pair isHigh isLow code first second =>
    rename_i high low front back
    refine stringBody_escape done ?_
    have escaped : escape ('u' :: (front ++ '\\' :: 'u' :: (back ++ rest))) = .ok (c, rest) := by
      rw [escape_high (hexQuad_of_hexQuad first _) isHigh,
        lowHalf_of (hexQuad_of_hexQuad second _) isLow, ← code, Char.ofNat_toNat]
    show escape (('u' :: (front ++ '\\' :: 'u' :: back)) ++ rest) = _
    rw [List.cons_append, List.append_assoc]
    exact escaped

theorem stringBody_stringWord {cs body : List Char} (h : StringWord cs body)
    (done rest : List Char) :
    stringBody done (body ++ '"' :: rest) = .ok (String.ofList (done.reverse ++ cs), rest) := by
  induction h generalizing done with
  | nil => rw [List.nil_append, stringBody_quote, List.append_nil]
  | cons first _ ih =>
    rw [List.append_assoc, stringBody_charWord first, ih, List.reverse_cons, List.append_assoc]
    rfl

/-! ## Reading numbers -/

/-- What comes next cannot belong to a number. -/
def Ends (rest : List Char) : Prop :=
  ∀ c ∈ rest.head?, c.isDigit = false ∧ c ≠ '.' ∧ c ≠ 'e' ∧ c ≠ 'E'

theorem takeWhile_of_all {p : Char → Bool} {ds rest : List Char} (all : ∀ c ∈ ds, p c = true)
    (stop : ∀ c ∈ rest.head?, p c = false) :
    (ds ++ rest).takeWhile p = ds ∧ (ds ++ rest).dropWhile p = rest := by
  have none : rest.takeWhile p = [] ∧ rest.dropWhile p = rest := by
    cases rest with
    | nil => exact ⟨rfl, rfl⟩
    | cons c rest =>
      have other : ¬p c = true := Bool.eq_false_iff.mp (stop c rfl)
      exact ⟨List.takeWhile_cons_of_neg other, List.dropWhile_cons_of_neg other⟩
  rw [List.takeWhile_append_of_pos all, List.dropWhile_append_of_pos all, none.1, none.2,
    List.append_nil]
  exact ⟨rfl, rfl⟩

/-- Only zero has a zero in front. -/
theorem head?_toDigits {m : Nat} (positive : m ≠ 0) : (Nat.toDigits 10 m).head? ≠ some '0' := by
  induction m using Nat.strong_induction_on with
  | _ m ih =>
    rw [Nat.toDigits_eq_if (by decide)]
    split
    · interval_cases m
      · exact absurd rfl positive
      all_goals decide
    · have shorter := ih (m / 10) (by omega) (by omega)
      rw [List.head?_append_of_ne_nil _ Nat.toDigits_ne_nil]
      exact shorter

theorem le_ofDigitChars (cs : List Char) (n : Nat) : n ≤ Nat.ofDigitChars 10 cs n := by
  induction cs generalizing n with
  | nil => exact Nat.le_refl n
  | cons c cs ih =>
    rw [Nat.ofDigitChars_cons]
    exact Nat.le_trans (by omega) (ih _)

/-- Digits of a number that fits 64 bits are all taken. -/
theorem takeDigits_of_lt {n : Nat} {cs : List Char}
    (fits : Nat.ofDigitChars 10 cs n < Number.bound) :
    takeDigits n cs = (Nat.ofDigitChars 10 cs n, 0) := by
  induction cs generalizing n with
  | nil => rfl
  | cons c cs ih =>
    have more : Nat.ofDigitChars 10 (c :: cs) n =
        Nat.ofDigitChars 10 cs (Nat.ofDigitChars 10 [c] n) := rfl
    rw [more] at fits ⊢
    have first : (Nat.ofDigitChars 10 [c] n : Int) < Number.bound :=
      Int.lt_of_le_of_lt (Int.ofNat_le.mpr (le_ofDigitChars cs _)) fits
    rw [takeDigits, if_pos first, ih fits]

theorem ofWhole_toDigits {m : Nat} (fits : m < Number.bound) :
    Decimal.ofWhole (Nat.toDigits 10 m) = ⟨m, 0⟩ := by
  have value : Nat.ofDigitChars 10 (Nat.toDigits 10 m) 0 = m := Nat.ofDigitChars_ten_toDigits
  rw [Decimal.ofWhole, takeDigits_of_lt (by rwa [value]), value]
  rfl

theorem numberBody_toDigits {negative : Bool} {m : Nat} {n : Number} {rest : List Char}
    (fits : m < Number.bound) (value : Number.ofInteger negative ⟨m, 0⟩ = some n)
    (ends : Ends rest) : numberBody negative (Nat.toDigits 10 m ++ rest) = .ok (n, rest) := by
  have tail : numberTail negative (.ofWhole (Nat.toDigits 10 m)) rest = .ok (n, rest) := by
    rw [ofWhole_toDigits fits, numberTail_of_integer fun c hc => (ends c hc).2, value]
  rw [← tail]
  by_cases zero : m = 0
  · subst zero
    have noDigit : ¬rest.head?.any Char.isDigit = true := by
      cases rest with
      | nil => decide
      | cons c rest => simpa using (ends c rfl).1
    rw [Nat.toDigits_zero, List.singleton_append, numberBody, if_neg noDigit]
  · have digits : ∀ c ∈ Nat.toDigits 10 m, c.isDigit = true := fun c hc =>
      Nat.isDigit_of_mem_toDigits (by decide) (by decide) hc
    obtain ⟨taken, dropped⟩ := takeWhile_of_all digits fun c hc => (ends c hc).1
    have first := head?_toDigits zero
    cases text : Nat.toDigits 10 m with
    | nil => exact absurd text Nat.toDigits_ne_nil
    | cons c ds =>
      rw [text] at digits first taken dropped
      have noZero : c ≠ '0' := fun same => first (congrArg some same)
      rw [List.cons_append, numberBody_of_digit _ noZero (digits c (List.mem_cons_self ..)),
        ← List.cons_append, taken, dropped]

theorem ofInteger_of_nat (m : Nat) : Number.ofInteger false ⟨m, 0⟩ = some (.integer m) := by
  have least : Number.least ≤ (m : Int) := by
    have : Number.least ≤ 0 := by decide
    omega
  simp only [Number.ofInteger]
  exact if_neg (by simp; omega)

theorem ofInteger_of_negSucc {m : Nat} (least : Number.least ≤ Int.negSucc m) :
    Number.ofInteger true ⟨m + 1, 0⟩ = some (.integer (Int.negSucc m)) := by
  have value : -((m + 1 : Nat) : Int) = Int.negSucc m := rfl
  simp only [Number.ofInteger, if_true, value]
  exact if_neg (by simp; omega)

/-- A digit begins no token but a number. -/
theorem plain_of_digit {c : Char} (digit : c.isDigit = true) (rest : List Char) :
    isSpace c = false ∧ punctuation? c = none ∧ longToken c rest =
      match numberBody false (c :: rest) with
      | .ok (n, rest) => .ok (.number n, rest)
      | .error e => .error (e, false) := by
  have other : ∀ d : Char, d.isDigit = false → c ≠ d := by
    rintro d noDigit rfl
    rw [digit] at noDigit
    cases noDigit
  refine ⟨?_, ?_, ?_⟩
  · rw [← Bool.not_eq_true, isSpace_iff, not_or, not_or, not_or]
    exact ⟨other _ rfl, other _ rfl, other _ rfl, other _ rfl⟩
  · unfold punctuation?
    split
    any_goals exact absurd rfl (other _ rfl)
    rfl
  · rw [longToken, if_neg (other _ rfl), plainToken, if_neg (other _ rfl), if_neg (other _ rfl),
      if_neg (other _ rfl), if_neg (other _ rfl), if_pos digit]
    cases numberBody false (c :: rest) with
    | ok p => rfl
    | error e => rfl

theorem longToken_integer {n : Int} (least : Number.least ≤ n) (bound : n < Number.bound)
    {rest : List Char} (ends : Ends rest) :
    ∃ c tail, (integerText n).toList ++ rest = c :: tail ∧ isSpace c = false ∧
      punctuation? c = none ∧ longToken c tail = .ok (.number (.integer n), rest) := by
  cases n with
  | ofNat m =>
    have body := numberBody_toDigits bound (ofInteger_of_nat m) ends
    have digits : ∀ c ∈ Nat.toDigits 10 m, c.isDigit = true := fun c hc =>
      Nat.isDigit_of_mem_toDigits (by decide) (by decide) hc
    rw [integerText, Nat.toList_repr]
    cases text : Nat.toDigits 10 m with
    | nil => exact absurd text Nat.toDigits_ne_nil
    | cons c ds =>
      rw [text] at digits body
      have digit : c.isDigit = true := digits c (List.mem_cons_self ..)
      obtain ⟨noSpace, noSign, long⟩ := plain_of_digit digit (ds ++ rest)
      refine ⟨c, ds ++ rest, rfl, noSpace, noSign, ?_⟩
      rw [long, ← List.cons_append, body]
      rfl
  | negSucc m =>
    have fits : ((m + 1 : Nat) : Int) < Number.bound := by
      have : -Number.least < Number.bound := by decide
      omega
    have body := numberBody_toDigits fits (ofInteger_of_negSucc least) ends
    refine ⟨'-', Nat.toDigits 10 (m + 1) ++ rest, ?_, rfl, rfl, ?_⟩
    · rw [integerText, String.toList_append, Nat.toList_repr]
      rfl
    · rw [longToken, if_neg (by decide), plainToken, if_neg (by decide), if_neg (by decide),
        if_neg (by decide), if_pos rfl, body]
      rfl

/-! ## Reading tokens -/

def Token.isScalar : Token → Bool
  | .scalar _ => true
  | _ => false

theorem scanFrom_word {t : Token} {word : List Char} (h : Word t word) {rest : List Char}
    (ends : t.isScalar = true → Ends rest) (done : List Token) :
    scanFrom done (word ++ rest) = scanFrom (t :: done) rest := by
  have literal : ∀ {c : Char} {name : List Char} {v : Scalar}, isSpace c = false →
      punctuation? c = none → longToken c (name ++ rest) = .ok (v, rest) →
      scanFrom done (c :: name ++ rest) = scanFrom (.scalar v :: done) rest := by
    intro c name v noSpace noSign long
    exact scanFrom_long done noSpace noSign long
  cases h with
  | null => exact literal rfl rfl rfl
  | isTrue => exact literal rfl rfl rfl
  | isFalse => exact literal rfl rfl rfl
  | integer least bound =>
    obtain ⟨c, tail, text, noSpace, noSign, long⟩ := longToken_integer least bound (ends rfl)
    rw [text]
    exact scanFrom_long done noSpace noSign long
  | string content =>
    rename_i s body
    have long : longToken '"' (body ++ '"' :: rest) = .ok (.string s, rest) := by
      rw [longToken, if_pos rfl, stringBody_stringWord content, List.reverse_nil, List.nil_append,
        String.ofList_toList]
    rw [List.cons_append, List.append_assoc]
    exact scanFrom_long done rfl rfl long
  | _ => exact scanFrom_punctuation done rest rfl rfl

/-- Blanks, signs and the end of a text end a number. -/
theorem ends_of_written {ts : List Token} {text : List Char} (written : Written ts text)
    (noScalar : ∀ t ∈ ts.head?, t.isScalar = false) : Ends text := by
  have space : ∀ {space rest : List Char}, Blank space → Ends rest → Ends (space ++ rest) := by
    intro space rest blank ends
    cases space with
    | nil => exact ends
    | cons c space =>
      rintro _ ⟨⟩
      rcases (List.forall_mem_cons.mp blank).1 with rfl | rfl | rfl | rfl <;> decide
  cases written with
  | blanks blank =>
    have atEnd : Ends [] := by
      rintro _ ⟨⟩
    have ends := space blank atEnd
    rw [List.append_nil] at ends
    exact ends
  | word blank first others =>
    have noScalar := noScalar _ rfl
    refine space blank ?_
    cases first
    case null => cases noScalar
    case isTrue => cases noScalar
    case isFalse => cases noScalar
    case integer => cases noScalar
    case string => cases noScalar
    all_goals
      rintro _ ⟨⟩
      decide

/-- No scalar comes right after another one. -/
def Separate (ts : List Token) : Prop :=
  ts.IsChain fun t u => t.isScalar = true → u.isScalar = false

theorem scanFrom_written {ts : List Token} {text : List Char} (written : Written ts text)
    (separate : Separate ts) (done : List Token) : scanFrom done text = done.reverse ++ ts := by
  induction written generalizing done with
  | blanks blank =>
    have skipped := scanFrom_blanks blank done []
    rw [List.append_nil] at skipped
    rw [skipped, scanFrom, List.append_nil]
  | word blank first others ih =>
    have next : ∀ t ts, Separate (t :: ts) → t.isScalar = true →
        ∀ u ∈ ts.head?, u.isScalar = false := by
      intro t ts separate isScalar u head
      exact (List.isChain_cons.mp separate).1 u head isScalar
    rw [scanFrom_blanks blank,
      scanFrom_word first fun isScalar => ends_of_written others (next _ _ separate isScalar),
      ih (List.isChain_cons.mp separate).2, List.reverse_cons, List.append_assoc]
    rfl

/-! ## Reading trees -/

namespace Position

variable {α : Type} {b : Builder α} {limit : Option Nat}

/-- Behind a scalar, a reader wants a sign. -/
theorem advance_scalar_scalar {p q : Position α} {s u : Scalar}
    (moved : p.advance b limit (.scalar s) = .ok q) (r : Position α) :
    q.advance b limit (.scalar u) ≠ .ok r := by
  have finished : ∀ {v : α} {stack : List (Around α)},
      (finish v stack).advance b limit (.scalar u) ≠ .ok r := by
    intro v stack again
    cases stack with
    | nil => cases again
    | cons around stack => cases around <;> cases again
  have named : ∀ {members : List (String × α)} {stack : List (Around α)},
      takeName members stack (.scalar s) = .ok q → q.advance b limit (.scalar u) ≠ .ok r := by
    intro members stack moved again
    cases s <;> cases moved
    cases again
  cases p with
  | value stack | firstItem stack | nextItem items stack =>
    cases moved
    exact finished
  | firstName stack | nextName members stack => exact named moved
  | _ => cases moved

end Position

/-- In tokens that are accepted, no scalar comes right after another one. -/
theorem separate_of_run {α : Type} {b : Builder α} {limit : Option Nat} {p q : Position α}
    {ts : List Token} (ran : run b limit p ts = .ok q) : Separate ts := by
  induction ts generalizing p with
  | nil => exact .nil
  | cons t rest ih =>
    rw [run] at ran
    cases moved : p.advance b limit t with
    | error e =>
      rw [moved] at ran
      cases ran
    | ok p' =>
      rw [moved] at ran
      refine List.isChain_cons.mpr ⟨?_, ih ran⟩
      intro u head isScalar
      cases rest with
      | nil => cases head
      | cons w rest =>
        cases head
        cases t <;> cases isScalar
        cases u with
        | scalar v =>
          dsimp only at ran
          rw [run] at ran
          cases again : p'.advance b limit (.scalar v) with
          | error e =>
            rw [again] at ran
            cases ran
          | ok r => exact absurd again (Position.advance_scalar_scalar moved r)
        | _ => rfl

/-- The tokens of a tree begin with one that begins a value. -/
theorem tokens_eq_cons (j : Json) : ∃ t ts, j.tokens = t :: ts ∧ t ≠ .listClose := by
  cases j with
  | _ => exact ⟨_, _, rfl, nofun⟩

/-- Behind the opening bracket of an array an item begins as behind a comma. -/
theorem run_firstItem {α : Type} (b : Builder α) (limit : Option Nat) (stack : List (Around α))
    {t : Token} (ts : List Token) (opens : t ≠ .listClose) :
    run b limit (.firstItem stack) (t :: ts) = run b limit (.nextItem [] stack) (t :: ts) := by
  rw [run, run, Position.advance_firstItem _ _ _ opens, Position.advance_nextItem _ _ _ _ opens]

theorem run_nextItem (done : List Json) (stack : List (Around Json)) (j : Json)
    (rest : List Token) :
    run builder none (.nextItem done stack) (j.tokens ++ rest) =
      run builder none (.value (.list done :: stack)) (j.tokens ++ rest) := by
  obtain ⟨t, ts, tokens, opens⟩ := tokens_eq_cons j
  rw [tokens, List.cons_append, run, run, Position.advance_nextItem _ _ _ _ opens]
  rfl

theorem intercalate_itemTokens (j k : Json) (others : List Json) :
    [Token.comma].intercalate (itemTokens (j :: k :: others)) =
      j.tokens ++ .comma :: [Token.comma].intercalate (itemTokens (k :: others)) := by
  simp [itemTokens, List.intercalate_cons_cons]

theorem intercalate_memberTokens (name : String) (j : Json) (e : String × Json)
    (others : List (String × Json)) :
    [Token.comma].intercalate (memberTokens ((name, j) :: e :: others)) =
      .scalar (.string name) :: .colon ::
        (j.tokens ++ .comma :: [Token.comma].intercalate (memberTokens (e :: others))) := by
  simp [memberTokens, List.intercalate_cons_cons]

theorem itemTokens_eq_cons {items : List Json} (some : items ≠ []) :
    ∃ t ts, [Token.comma].intercalate (itemTokens items) = t :: ts ∧ t ≠ .listClose := by
  cases items with
  | nil => exact absurd rfl some
  | cons j others =>
    obtain ⟨t, ts, tokens, opens⟩ := tokens_eq_cons j
    cases others with
    | nil =>
      rw [itemTokens, itemTokens, List.intercalate_singleton]
      exact ⟨t, ts, tokens, opens⟩
    | cons k others =>
      rw [intercalate_itemTokens, tokens]
      exact ⟨t, _, rfl, opens⟩

theorem memberTokens_eq_cons {members : List (String × Json)} (some : members ≠ []) :
    ∃ name ts,
      [Token.comma].intercalate (memberTokens members) = .scalar (.string name) :: ts := by
  cases members with
  | nil => exact absurd rfl some
  | cons e others =>
    obtain ⟨name, j⟩ := e
    cases others with
    | nil =>
      rw [memberTokens, memberTokens, List.intercalate_singleton]
      exact ⟨name, _, rfl⟩
    | cons e others =>
      rw [intercalate_memberTokens]
      exact ⟨name, _, rfl⟩

mutual

/-- Where a value is wanted, the tokens of a tree are read as the tree. -/
theorem run_tokens (j : Json) (stack : List (Around Json)) (rest : List Token) :
    run builder none (.value stack) (j.tokens ++ rest) =
      run builder none (Position.finish j stack) rest := by
  cases j with
  | array items =>
    by_cases empty : items = []
    · subst empty
      rfl
    · have opened : run builder none (.value stack) ((Json.array items).tokens ++ rest) =
          run builder none (.nextItem [] stack)
            ([.comma].intercalate (itemTokens items) ++ .listClose :: rest) := by
        obtain ⟨t, ts, first, opens⟩ := itemTokens_eq_cons empty
        rw [tokens, List.cons_append, List.append_assoc, first]
        exact run_firstItem _ _ stack _ opens
      rw [opened, run_itemTokens items empty, List.append_nil, run]
      dsimp only [Position.advance]
      rw [List.reverse_reverse]
      rfl
  | object members =>
    by_cases empty : members = []
    · subst empty
      rfl
    · have opened : run builder none (.value stack) ((Json.object members).tokens ++ rest) =
          run builder none (.nextName [] stack)
            ([.comma].intercalate (memberTokens members) ++ .objectClose :: rest) := by
        obtain ⟨name, ts, first⟩ := memberTokens_eq_cons empty
        rw [tokens, List.cons_append, List.append_assoc, first]
        rfl
      rw [opened, run_memberTokens members empty, List.append_nil, run]
      dsimp only [Position.advance]
      rw [List.reverse_reverse]
      rfl
  | _ => rfl

theorem run_itemTokens (items : List Json) (some : items ≠ []) (done : List Json)
    (stack : List (Around Json)) (rest : List Token) :
    run builder none (.nextItem done stack) ([.comma].intercalate (itemTokens items) ++ rest) =
      run builder none (.afterItem (items.reverse ++ done) stack) rest := by
  cases items with
  | nil => exact absurd rfl some
  | cons j others =>
    cases others with
    | nil =>
      rw [itemTokens, itemTokens, List.intercalate_singleton, run_nextItem, run_tokens j]
      rfl
    | cons k others =>
      have item := run_tokens j (.list done :: stack)
        (.comma :: ([.comma].intercalate (itemTokens (k :: others)) ++ rest))
      have more := run_itemTokens (k :: others) (List.cons_ne_nil _ _) (j :: done) stack rest
      rw [intercalate_itemTokens, List.append_assoc, List.cons_append, run_nextItem, item,
        List.reverse_cons, List.append_assoc]
      exact more

theorem run_memberTokens (members : List (String × Json)) (some : members ≠ [])
    (done : List (String × Json)) (stack : List (Around Json)) (rest : List Token) :
    run builder none (.nextName done stack) ([.comma].intercalate (memberTokens members) ++ rest) =
      run builder none (.afterMember (members.reverse ++ done) stack) rest := by
  cases members with
  | nil => exact absurd rfl some
  | cons e others =>
    obtain ⟨name, j⟩ := e
    cases others with
    | nil =>
      rw [memberTokens, memberTokens, List.intercalate_singleton]
      exact run_tokens j (.object done name :: stack) rest
    | cons e others =>
      have value := run_tokens j (.object done name :: stack)
        (.comma :: ([.comma].intercalate (memberTokens (e :: others)) ++ rest))
      have more := run_memberTokens (e :: others) (List.cons_ne_nil _ _) ((name, j) :: done) stack
        rest
      rw [intercalate_memberTokens, List.reverse_cons, List.append_assoc, List.cons_append,
        List.cons_append, List.append_assoc]
      exact value.trans more

end

/-- **What is written for a tree is read as the tree.** -/
theorem read_written {j : Json} {text : String} (written : Written j.tokens text.toList) :
    read text = .ok j := by
  have ran : run builder none (.value []) j.tokens = .ok (.done j) := by
    have whole := run_tokens j [] []
    rw [List.append_nil] at whole
    exact whole
  have scanned : scan text = j.tokens := scanFrom_written written (separate_of_run ran) []
  rw [← scanned] at ran
  exact readWith_eq_ok.mpr ran

end JsonMarkup.Json
