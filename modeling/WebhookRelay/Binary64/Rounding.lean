import WebhookRelay.Binary64.Basic
import WebhookRelay.Fault

/-! # Rounding to binary64

A quotient of natural numbers is rounded to the nearest magnitude, a tie going
to the even rank; beyond the finite ranks it becomes an infinity.  Integers,
decimals and products with a power of two are all rounded this way, from their
exact value.
-/

namespace WebhookRelay
namespace Binary64

/-- A quotient rounded to the nearest whole number, a tie going to the even one. -/
def divNearest (num den : Nat) : Nat :=
  let quotient := num / den
  let rest := num % den
  if 2 * rest < den then quotient
  else if den < 2 * rest then quotient + 1
  else quotient + quotient % 2

/-- The rank nearest to `num / den`.  The quotient is taken in units; the
distance between magnitudes at its size is `2 ^ shift` units, and there the
rank is the multiple of that distance plus `shift` times `2 ^ 52`. -/
def nearestRank (num den : Nat) : Nat :=
  let scaled := num * 2 ^ unitExponent
  let shift := (scaled / den).log2 - 52
  divNearest scaled (den * 2 ^ shift) + shift * 2 ^ (52 : Nat)

/-- The number nearest to a signed quotient. -/
def ofRatio (negative : Bool) (num den : Nat) : Binary64 :=
  ofRank negative (nearestRank num den)

/-- The number nearest to an integer, an infinity if that is beyond the range. -/
def ofInt (n : Int) : Binary64 := ofRatio (n < 0) n.natAbs 1

/-- The number nearest to an integer, refused if that is beyond the range. -/
def ofInt? (n : Int) : Except Fault Binary64 :=
  if (ofInt n).isFinite then .ok (ofInt n) else .error .integerTooLarge

/-- A number times `2 ^ k`. -/
def scale (k : Nat) : Binary64 → Binary64
  | finite negative rank => ofRatio negative (units rank * 2 ^ k) (2 ^ unitExponent)
  | x => x

end Binary64

/-- A decimal: a sign and `coefficient * 10 ^ exponent`. -/
structure Decimal where
  negative : Bool
  coefficient : Nat
  exponent : Int
  deriving DecidableEq, Repr

namespace Decimal
open scoped Binary64

/-- The number of digits of the coefficient, none for zero. -/
def length (d : Decimal) : Nat :=
  if d.coefficient = 0 then 0 else (Nat.toDigits 10 d.coefficient).length

/-- The binary64 number nearest to a decimal.  A decimal of more than 310 places
before the point is beyond the range, and one with more than 330 zeros behind it
is nearest to zero, so no power of ten beyond those bounds is computed. -/
def toBinary64 (d : Decimal) : Binary64 :=
  if d.coefficient = 0 then .zero d.negative
  else if 310 < d.length + d.exponent then .infinity d.negative
  else if d.length + d.exponent < -330 then .zero d.negative
  else if 0 ≤ d.exponent then
    .ofRatio d.negative (d.coefficient * 10 ^ d.exponent.toNat) 1
  else .ofRatio d.negative d.coefficient (10 ^ (-d.exponent).toNat)

end Decimal
end WebhookRelay
