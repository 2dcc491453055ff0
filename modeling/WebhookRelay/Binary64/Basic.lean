/-! # Binary64 numbers

A binary64 number is not a number, an infinity, or a signed finite magnitude.
The finite magnitudes are known by their **rank**: rank `0` is zero, and each
further rank is the next larger magnitude.  Every magnitude is a whole number of
`units`, one unit being the least positive magnitude `2 ^ -1074`:

* up to rank `2 ^ 53` consecutive magnitudes are one unit apart;
* after that the distance doubles every `2 ^ 52` ranks.

So a number has one representation, equality of representations is decidable,
and order is the order of signed ranks.  The two zeros are different
representations of equal numbers.
-/

namespace WebhookRelay
namespace Binary64

/-- Powers are those of natural numbers, whatever other instances are at hand. -/
scoped instance (priority := 2000) powNat : Pow Nat Nat := instPowNat

/-- The number of finite magnitudes; also the rank at which the infinities sit. -/
def rankCount : Nat := 2047 * 2 ^ (52 : Nat)

/-- The exponent of the unit: one unit is `2 ^ -unitExponent`. -/
def unitExponent : Nat := 1074

end Binary64

/-- A binary64 number. -/
inductive Binary64 where
  | nan
  | infinity (negative : Bool)
  /-- A sign and the rank of the magnitude. -/
  | finite (negative : Bool) (rank : Fin Binary64.rankCount)
  deriving DecidableEq, Repr

namespace Binary64

/-- The magnitude of a rank, in units. -/
def units (rank : Nat) : Nat :=
  if rank < 2 ^ (53 : Nat) then rank
  else (2 ^ (52 : Nat) + rank % 2 ^ (52 : Nat)) * 2 ^ (rank / 2 ^ (52 : Nat) - 1)

/-- The number of a rank: beyond the finite ranks lies the infinity. -/
def ofRank (negative : Bool) (rank : Nat) : Binary64 :=
  if h : rank < rankCount then .finite negative ⟨rank, h⟩ else .infinity negative

/-- The zero of a sign. -/
def zero (negative : Bool) : Binary64 := ofRank negative 0

def isNaN : Binary64 → Bool
  | nan => true
  | _ => false

def isFinite : Binary64 → Bool
  | finite _ _ => true
  | _ => false

/-- Is the number one of the two zeros? -/
def isZero : Binary64 → Bool
  | finite _ rank => rank.val = 0
  | _ => false

/-- The place of a number in the order: its signed rank.  It has none if it is
not a number. -/
def position? : Binary64 → Option Int
  | nan => none
  | infinity negative => some (if negative then -(rankCount : Int) else rankCount)
  | finite negative rank => some (if negative then -(rank.val : Int) else rank.val)

/-- Equality as numbers: what is not a number equals nothing. -/
def eq (x y : Binary64) : Bool :=
  match x.position?, y.position? with
  | some i, some j => i = j
  | _, _ => false

/-- Strict order: what is not a number is neither below nor above anything. -/
def lt (x y : Binary64) : Bool :=
  match x.position?, y.position? with
  | some i, some j => i < j
  | _, _ => false

/-- Below or equal; false when either side is not a number. -/
def le (x y : Binary64) : Bool :=
  match x.position?, y.position? with
  | some i, some j => i ≤ j
  | _, _ => false

/-- The integer that a number is equal to, if there is one. -/
def toInt? : Binary64 → Option Int
  | finite negative rank =>
    if units rank % 2 ^ unitExponent = 0 then
      let n := units rank / 2 ^ unitExponent
      some (if negative then -(n : Int) else n)
    else none
  | _ => none

theorem units_of_lt {rank : Nat} (h : rank < 2 ^ (53 : Nat)) : units rank = rank := if_pos h

@[simp] theorem units_zero : units 0 = 0 := rfl

/-- The infinity sits where the next magnitude after the finite ones would be. -/
theorem units_rankCount : units rankCount = 2 ^ (1024 + unitExponent) := by decide +kernel

theorem lt_iff_position {x y : Binary64} :
    x.lt y = true ↔ ∃ i j, x.position? = some i ∧ y.position? = some j ∧ i < j := by
  unfold lt
  split
  · simp_all
  · next h => simpa using fun i hi j hj => (h i j hi hj).elim

theorem eq_iff_position {x y : Binary64} :
    x.eq y = true ↔ ∃ i, x.position? = some i ∧ y.position? = some i := by
  unfold eq
  split
  · next i j hi hj => simp [hi, hj, eq_comm]
  · next h => simpa using fun i hi hj => h i i hi hj

end Binary64
end WebhookRelay
