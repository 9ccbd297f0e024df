/-!
# Finite binary floating-point numbers

A finite number with 53 significant bits is kept as a sign and the *rank* of its magnitude among
all such magnitudes in increasing order, zero having rank 0. Neighbouring ranks are neighbouring
numbers, so the representation is unique and rounding is a choice between two ranks.

The magnitude of rank `r` is `significand * 2 ^ exponent`. Quotients are rounded to the nearest
magnitude, ties going to the even significand; whatever is computed with magnitudes is computed
exactly and then rounded like this.
-/

namespace JsonMarkup

/-- Number of finite magnitudes: 2047 blocks of `2 ^ 52`. -/
def Double.ranks : Nat := 2047 * Nat.pow 2 52

/-- A finite binary floating-point number. -/
structure Double where
  negative : Bool
  rank : Nat
  finite : rank < Double.ranks
deriving DecidableEq

namespace Double

instance : Inhabited Double := ⟨false, 0, by decide⟩

/-- Significand of the magnitude of a rank: less than `2 ^ 53`. -/
def significand (rank : Nat) : Nat :=
  if rank < Nat.pow 2 52 then rank else Nat.pow 2 52 + rank % Nat.pow 2 52

/-- Power of two that the significand is multiplied by: at least `-1074`. -/
def exponent (rank : Nat) : Int :=
  if rank < Nat.pow 2 52 then -1074 else (rank / Nat.pow 2 52 : Nat) - 1075

/-- The quotient rounded to the nearest integer, a tie going to the even one. -/
def roundDiv (num den : Nat) : Nat :=
  let q := num / den
  let r := num % den
  if 2 * r > den ∨ (2 * r = den ∧ q % 2 = 1) then q + 1 else q

/-- Rank of the magnitude nearest to `num / den`, as if there were no largest one. -/
def rankOf (num den : Nat) : Nat :=
  if num = 0 then 0
  else
    let guess : Int := (num.log2 : Int) - den.log2
    let fits :=
      if 0 ≤ guess then den * Nat.pow 2 guess.toNat ≤ num
      else den ≤ num * Nat.pow 2 (-guess).toNat
    let e := max ((if fits then guess else guess - 1) - 52) (-1074)
    let m :=
      if 0 ≤ e then roundDiv num (den * Nat.pow 2 e.toNat)
      else roundDiv (num * Nat.pow 2 (-e).toNat) den
    m + (e + 1074).toNat * Nat.pow 2 52

/-! ## Powers of ten -/

/-- The magnitude of a rank is `numerator rank / denominator rank`. -/
def numerator (rank : Nat) : Nat := significand rank * Nat.pow 2 (exponent rank).toNat

def denominator (rank : Nat) : Nat := Nat.pow 2 (-exponent rank).toNat

/-- Rank of the product of two magnitudes. -/
def mul (a b : Nat) : Nat := rankOf (numerator a * numerator b) (denominator a * denominator b)

/-- Rank of the quotient of two magnitudes. -/
def div (a b : Nat) : Nat := rankOf (numerator a * denominator b) (denominator a * numerator b)

/-- Rank of a power of ten. -/
def powerOfTen (n : Nat) : Nat := rankOf (Nat.pow 10 n) 1

/-- The last power of ten that is finite. -/
def lastPower : Nat := 308

def mulPower (rank power : Nat) : Nat :=
  if power ≤ lastPower then mul rank (powerOfTen power)
  else if rank = 0 then 0
  else ranks

/-- Powers past the last one take several quotients. -/
def divPower (rank power : Nat) : Nat :=
  if power ≤ lastPower then div rank (powerOfTen power)
  else if rank = 0 then 0
  else divPower (div rank (powerOfTen lastPower)) (power - lastPower)
termination_by power
decreasing_by
  simp only [lastPower] at *
  omega

/-- The number `digits * 10 ^ power` with the given sign, or `none` if it comes out past the largest
magnitude. The digits, the power and each product or quotient of them are rounded, so the number
that comes out need not be the nearest one. -/
def ofDecimal? (negative : Bool) (digits : Nat) (power : Int) : Option Double :=
  let whole := rankOf digits 1
  let rank :=
    match power with
    | .ofNat n => mulPower whole n
    | .negSucc n => divPower whole (n + 1)
  if h : rank < ranks then some ⟨negative, rank, h⟩ else none

end Double

end JsonMarkup
