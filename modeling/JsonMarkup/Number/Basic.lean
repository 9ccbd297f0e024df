import JsonMarkup.Number.Shortest

/-!
# Numbers of a document

A number is an integer that fits 64 bits, kept exactly, or a finite double. Its text is the
integer's decimal form, or the shortest digits of the double in the layout `Layout.document`.
-/

namespace JsonMarkup

/-- A number of a document. Readers give `integer` only values from `-2 ^ 63` up to but not
including `2 ^ 64`. -/
inductive Number where
  | integer (value : Int)
  | double (value : Double)
deriving DecidableEq

instance : Inhabited Number := ⟨.integer 0⟩

/-- The least integer that is kept exactly. -/
def Number.least : Int := -(Nat.pow 2 63 : Nat)

/-- The first integer that is too large to be kept exactly. -/
def Number.bound : Int := (Nat.pow 2 64 : Nat)

/-! ## Writing doubles -/

/-- How the digits of a double are laid out. -/
structure Layout where
  /-- Least power of ten of the first digit that is written without an exponent. -/
  positionalFrom : Int
  /-- First power of ten that is written with an exponent again. -/
  positionalBelow : Int
  /-- What stands between the digits and an exponent that is not negative. -/
  exponentMark : String

/-- Documents write magnitudes from `0.00001` to below `10 ^ 16` without an exponent, and exponents
with their sign. -/
def Layout.document : Layout := ⟨-5, 16, "e+"⟩

def Layout.positional : Layout := ⟨-400, 400, "e+"⟩

private def zeros (n : Nat) : String := String.ofList (List.replicate n '0')

/-- Lay out a nonzero decimal. Without an exponent there is always a fraction part. -/
def Layout.decimal (l : Layout) (d : Decimal) : String :=
  let digits := Nat.toDigits 10 d.digits
  let n := digits.length
  let e := d.power + n - 1
  let text := String.ofList
  if l.positionalFrom ≤ e ∧ e < l.positionalBelow then
    if e < 0 then "0." ++ zeros (-e - 1).toNat ++ text digits
    else if n ≤ e.toNat + 1 then text digits ++ zeros (e.toNat + 1 - n) ++ ".0"
    else text (digits.take (e.toNat + 1)) ++ "." ++ text (digits.drop (e.toNat + 1))
  else
    let significand :=
      if n = 1 then text digits else text (digits.take 1) ++ "." ++ text (digits.drop 1)
    significand ++ (if e < 0 then "e-" else l.exponentMark) ++ toString e.natAbs

/-- The text of a double; a negative zero keeps its sign. -/
def Layout.double (l : Layout) (x : Double) : String :=
  (if x.negative then "-" else "") ++
    if x.rank = 0 then "0.0" else l.decimal (Double.shortest x.rank)

/-! ## Writing and reading numbers -/

def integerText (n : Int) : String :=
  match n with
  | .ofNat m => Nat.repr m
  | .negSucc m => "-" ++ Nat.repr (m + 1)

def Number.text : Number → String
  | .integer n => integerText n
  | .double x => Layout.document.double x

/-- Take digits into a significand until 64 bits do not hold the next one, and say how many are
left. -/
def takeDigits (significand : Nat) : List Char → Nat × Nat
  | [] => (significand, 0)
  | c :: cs =>
    let more := Nat.ofDigitChars 10 [c] significand
    if more < Number.bound then takeDigits more cs else (significand, cs.length + 1)

/-- What is kept of the digits in front of a point. Digits that are left count as zeros. -/
def Decimal.ofWhole (digits : List Char) : Decimal :=
  let (significand, left) := takeDigits 0 digits
  ⟨significand, left⟩

/-- What is kept of a decimal and of digits behind its point. Digits that are left do not count. -/
def Decimal.withFraction (d : Decimal) (digits : List Char) : Decimal :=
  let (significand, left) := takeDigits d.digits digits
  ⟨significand, d.power + left - digits.length⟩

/-- The number that an integer literal stands for: exact if it fits, else a double. A negative zero
is a double. -/
def Number.ofInteger (negative : Bool) (d : Decimal) : Option Number :=
  let value : Int := if negative then -d.digits else d.digits
  if d.power ≠ 0 ∨ (negative = true ∧ d.digits = 0) ∨ value < Number.least then
    (Double.ofDecimal? negative d.digits d.power).map .double
  else some (.integer value)

end JsonMarkup
