import JsonMarkup.Number.Double

/-!
# The shortest decimal that a magnitude is nearest to

A decimal stands for the magnitude that it is nearest to. `shortest` gives the fewest significant
digits that stand for a given magnitude, and among those decimals the nearest one, a tie going to
the even digit.

The decimals that stand for a magnitude fill the interval between the midpoints to its neighbours;
the midpoints belong to it if the significand is even. For each number of digits the only candidates
that matter are the two neighbours of the magnitude on that decimal grid.
-/

namespace JsonMarkup

/-- A decimal `digits * 10 ^ power`. -/
structure Decimal where
  digits : Nat
  power : Int
deriving DecidableEq, Repr

namespace Decimal

/-- The same number without zeros at the end of its digits. -/
def strip (fuel : Nat) (d : Decimal) : Decimal :=
  match fuel with
  | 0 => d
  | fuel + 1 =>
    if d.digits ≠ 0 ∧ d.digits % 10 = 0 then strip fuel ⟨d.digits / 10, d.power + 1⟩ else d

end Decimal

namespace Double

/-- What the decimals that stand for one magnitude have in common: they lie between `low / den` and
`high / den`, the ends included or not. -/
structure Span where
  mid : Nat
  low : Nat
  high : Nat
  den : Nat
  closed : Bool

/-- The span of the magnitude of a positive rank. Below a power of two the neighbour is only half
as far away, unless the two share the least exponent. -/
def span (rank : Nat) : Span :=
  let m := significand rank
  let e := exponent rank - 2
  let below := if m = Nat.pow 2 52 ∧ rank ≠ Nat.pow 2 52 then 1 else 2
  let up := Nat.pow 2 e.toNat
  { mid := 4 * m * up, low := (4 * m - below) * up, high := (4 * m + 2) * up,
    den := Nat.pow 2 (-e).toNat, closed := m % 2 = 0 }

/-- The decimal `digits * 10 ^ power` lies in the span. -/
def Span.contains (s : Span) (digits : Nat) (power : Int) : Bool :=
  let v := digits * Nat.pow 10 power.toNat * s.den
  let scale := Nat.pow 10 (-power).toNat
  if s.closed then s.low * scale ≤ v && v ≤ s.high * scale
  else s.low * scale < v && v < s.high * scale

/-- Integral part of the magnitude of a span in units of `10 ^ power`, and whether the next unit is
nearer, a tie counting as nearer when the integral part is odd. -/
def Span.place (s : Span) (power : Int) : Nat × Bool :=
  let num := s.mid * Nat.pow 10 (-power).toNat
  let den := s.den * Nat.pow 10 power.toNat
  let q := num / den
  let r := num % den
  (q, 2 * r > den || (2 * r == den && q % 2 == 1))

def decimalWidth (n : Nat) : Nat := (Nat.toDigits 10 n).length

/-- Power of ten of the first digit of a span's magnitude; magnitudes are at least `10 ^ -324`. -/
def Span.leading (s : Span) : Int :=
  (decimalWidth (s.mid * Nat.pow 10 324 / s.den) : Int) - 325

/-- The first hit on the decimal grids with the given power and finer ones. -/
def Span.firstHit (s : Span) : Nat → Int → Decimal
  | 0, power => ⟨(s.place power).1, power⟩
  | more + 1, power =>
    let (q, up) := s.place power
    let near := if up then q + 1 else q
    let far := if up then q else q + 1
    if s.contains near power then ⟨near, power⟩
    else if s.contains far power then ⟨far, power⟩
    else s.firstHit more (power - 1)

/-- The shortest decimal that stands for the magnitude of a positive rank. Seventeen digits always
suffice. -/
def shortest (rank : Nat) : Decimal :=
  let s := span rank
  (s.firstHit 17 s.leading).strip 20

end Double

end JsonMarkup
