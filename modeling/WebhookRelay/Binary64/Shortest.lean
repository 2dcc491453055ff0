import WebhookRelay.Binary64.Rounding

/-! # Shortest decimals

The shortest decimal of a magnitude has the fewest digits among the decimals
that are rounded to it, and of those it is the nearest, a tie going to the even
last digit.

The decimals that are rounded to rank `r` fill the interval between the middles
to both neighbours, ends included exactly when `r` is even.  If a multiple of
`10 ^ k` lies in that interval, then one of the two multiples next to the
magnitude does, so each number of digits needs only two trials.  Seventeen
digits always suffice.
-/

namespace WebhookRelay
namespace Binary64

/-- Twice the magnitude and twice the ends of its interval, all in units: lower
end, magnitude, upper end. -/
def interval (rank : Nat) : Nat × Nat × Nat :=
  (units (rank - 1) + units rank, 2 * units rank, units rank + units (rank + 1))

/-- The multiple of `10 ^ k` nearest to the magnitude among those that are rounded
to it, as the factor of `10 ^ k`. -/
def nearestMultiple? (rank : Nat) (k : Int) : Option Nat :=
  let (low, twice, high) := interval rank
  let step := 2 ^ (unitExponent + 1) * 10 ^ k.toNat
  let stretch := 10 ^ (-k).toNat
  let inside (factor : Nat) : Bool :=
    if rank % 2 = 0 then low * stretch ≤ factor * step && factor * step ≤ high * stretch
    else low * stretch < factor * step && factor * step < high * stretch
  let below := twice * stretch / step
  match inside below, inside (below + 1) with
  | true, true => some (divNearest (twice * stretch) step)
  | true, false => some below
  | false, true => some (below + 1)
  | false, false => none

/-- The number of decimal digits of a natural number, none for zero. -/
def digitCount (n : Nat) : Nat := if n = 0 then 0 else (Nat.toDigits 10 n).length

/-- The exponent of the leading digit of a positive magnitude. -/
def leadingExponent (rank : Nat) : Int :=
  let whole := units rank / 2 ^ unitExponent
  if whole = 0 then
    -(digitCount ((2 ^ unitExponent + units rank - 1) / units rank - 1) : Int)
  else (digitCount whole : Int) - 1

/-- The shortest decimal of a positive magnitude, as the factor of a power of ten
and its exponent.  The exact decimal stands in where no short one is found. -/
def shortest (rank : Nat) : Nat × Int :=
  let top := leadingExponent rank
  let trial (i : Nat) : Option (Nat × Int) :=
    (nearestMultiple? rank (top - i)).map fun factor => (factor, top - i)
  ((List.range 17).findSome? trial).getD (units rank * 5 ^ unitExponent, -(unitExponent : Int))

end Binary64
end WebhookRelay
