import WebhookRelay.Delivery.Clock
import WebhookRelay.Proofs.Binary64.Scaling

/-! # The pauses that a clock makes

A delivery pauses for the base, twice the base, four times the base, and so on.  The standard
clock counts a pause in nanoseconds, and it rounds their number before it looks whether a word can
hold it.  Numbers of that size are 1024 apart, so the pauses that it makes end 512 nanoseconds
before the words do, after some 292 years (`Clock.standard_eq_none_iff`).

Of pauses that grow all are made if the last one is.  So whether a delivery can pause with a base
is a matter of one product (`Clock.makes_standard_iff`).
-/

namespace WebhookRelay
namespace Clock
open Binary64

/-- The clock makes the first pauses of a delivery: the base times the powers of two. -/
def Makes (clock : Clock) (base : Binary64) (count : Nat) : Prop :=
  ∀ i < count, ∀ wait, base.TimesTwoPow i wait → clock wait = none

/-- Where the pauses of the standard clock end, in nanoseconds. -/
def pauseEnd : Nat := wordEnd - 512

/-- The rank of the number at the end of the words. -/
def endRank : Nat := 1086 * 2 ^ (52 : Nat)

/-- The nanoseconds of a finite pause are rounded from its magnitude. -/
theorem nanoseconds_finite (negative : Bool) (rank : Fin rankCount) :
    nanoseconds (.finite negative rank) =
      ofRank negative (nearestRank (units rank * 10 ^ (9 : Nat)) (2 ^ unitExponent)) := rfl

/-- Nanoseconds are below the end of the words if they are not rounded to it. -/
theorem nearestRank_lt_endRank_iff (rank : Nat) :
    nearestRank (units rank * 10 ^ (9 : Nat)) (2 ^ unitExponent) < endRank ↔
      units rank * 10 ^ (9 : Nat) < pauseEnd * 2 ^ unitExponent := by
  have hends : units (endRank - 1) + units endRank = 2 * (pauseEnd * 2 ^ unitExponent) := by
    decide +kernel
  rw [nearestRank_lt_iff_of_even (Nat.two_pow_pos _) (by decide) (by decide), hends,
    Nat.mul_assoc 2, Nat.mul_lt_mul_left Nat.two_pos, Nat.mul_lt_mul_right (Nat.two_pow_pos _)]

/-- A pause of no nanoseconds is none. -/
theorem nearestRank_nanoseconds_eq_zero_iff (rank : Nat) :
    nearestRank (units rank * 10 ^ (9 : Nat)) (2 ^ unitExponent) = 0 ↔ rank = 0 := by
  constructor
  · intro hzero
    have hunit : 0 < 2 ^ unitExponent := Nat.two_pow_pos unitExponent
    have hhigh := (rounds_nearestRank (units rank * 10 ^ (9 : Nat)) hunit).high
    rw [hzero, show units 0 + units (0 + 1) = 1 from rfl, ← Nat.mul_assoc] at hhigh
    have hless : 2 * (units rank * 10 ^ (9 : Nat)) ≤ 1 := Nat.le_of_mul_le_mul_right hhigh hunit
    exact units_eq_zero_iff.mp (by omega)
  · rintro rfl
    decide +kernel

/-- What the standard clock makes of nanoseconds, by their place in the order. -/
theorem standard_eq_none_iff_position {seconds : Binary64} {place : Int}
    (h : (nanoseconds seconds).position? = some place) :
    standard seconds = none ↔ 0 ≤ place ∧ place < endRank := by
  have hnumber : (nanoseconds seconds).isNaN = false := by
    cases hcounted : nanoseconds seconds with
    | nan => rw [hcounted] at h; cases h
    | _ => rfl
  have hstart : (Binary64.ofInt (-wordEnd)).position? = some (-(endRank : Int)) := by decide +kernel
  have hend : (Binary64.ofInt wordEnd).position? = some (endRank : Int) := by decide +kernel
  have hzero : (zero false).position? = some 0 := by decide +kernel
  have hpos : (0 : Int) < endRank := by decide
  rw [standard]
  simp only [hnumber, le, lt, h, hstart, hend, hzero]
  grind

/-- **What the standard clock makes**: the pauses that are not negative and whose nanoseconds are
not rounded beyond a word. -/
theorem standard_eq_none_iff {seconds : Binary64} :
    standard seconds = none ↔ ∃ negative rank, seconds = .finite negative rank ∧
      (negative = true → rank.val = 0) ∧
      units rank * 10 ^ (9 : Nat) < pauseEnd * 2 ^ unitExponent := by
  cases seconds with
  | nan => exact iff_of_false (by decide) (by rintro ⟨_, _, ⟨⟩, _⟩)
  | infinity negative =>
    refine iff_of_false ?_ (by rintro ⟨_, _, ⟨⟩, _⟩)
    cases negative <;> decide +kernel
  | finite negative rank =>
    have hbound := nearestRank_lt_endRank_iff rank
    have hnone := nearestRank_nanoseconds_eq_zero_iff rank
    have hplace := position?_ofRank negative
      (nearestRank (units rank * 10 ^ (9 : Nat)) (2 ^ unitExponent))
    rw [← nanoseconds_finite] at hplace
    have hend : endRank < rankCount := by decide +kernel
    have hmade : standard (.finite negative rank) = none ↔ (negative = true → rank.val = 0) ∧
        units rank * 10 ^ (9 : Nat) < pauseEnd * 2 ^ unitExponent := by
      rw [standard_eq_none_iff_position hplace, ← hbound, ← hnone]
      cases negative <;> simp [Numeral.signed] <;> omega
    rw [hmade]
    constructor
    · exact fun h => ⟨negative, rank, rfl, h⟩
    · rintro ⟨_, _, ⟨⟩, h⟩
      exact h

/-- **The standard clock makes all pauses of a delivery** if it makes the last one, and none of them
is negative. -/
theorem makes_standard_iff {base : Binary64} {count : Nat} :
    standard.Makes base (count + 1) ↔ ∃ negative rank, base = .finite negative rank ∧
      (negative = true → rank.val = 0) ∧
      units rank * 2 ^ count * 10 ^ (9 : Nat) < pauseEnd * 2 ^ unitExponent := by
  constructor
  · intro hmakes
    have hlast := timesTwoPow_scale count base
    obtain ⟨negative, product, hproduct, hsign, hbound⟩ :=
      standard_eq_none_iff.mp (hmakes count (Nat.lt_succ_self count) _ hlast)
    rw [hproduct] at hlast
    cases hlast with
    | @exact _ rank _ hmagnitude =>
      rw [hmagnitude] at hbound
      refine ⟨negative, rank, rfl, fun hnegative => ?_, hbound⟩
      rw [hsign hnegative, units_zero, eq_comm, Nat.mul_eq_zero] at hmagnitude
      exact units_eq_zero_iff.mp (hmagnitude.resolve_right (Nat.ne_of_gt (Nat.two_pow_pos count)))
  · rintro ⟨negative, rank, rfl, hsign, hbound⟩ i hi wait hwait
    have hgrows : units rank * 2 ^ i ≤ units rank * 2 ^ count :=
      Nat.mul_le_mul_left _ (Nat.pow_le_pow_right Nat.two_pos (Nat.le_of_lt_succ hi))
    cases hwait with
    | @exact _ _ product hmagnitude =>
      refine standard_eq_none_iff.mpr ⟨negative, product, rfl, fun hnegative => ?_, ?_⟩
      · rw [hsign hnegative, units_zero, Nat.zero_mul] at hmagnitude
        exact units_eq_zero_iff.mp hmagnitude
      · rw [hmagnitude]
        exact Nat.lt_of_le_of_lt (Nat.mul_le_mul_right _ hgrows) hbound
    | beyond _ hlarge =>
      have hend : pauseEnd * 2 ^ unitExponent ≤ 2 ^ (1024 + unitExponent) := by decide +kernel
      omega

/-- The standard clock makes any number of pauses of no length. -/
theorem makes_standard_zero (count : Nat) : standard.Makes (zero false) count := by
  cases count with
  | zero => exact fun i hi => absurd hi (Nat.not_lt_zero i)
  | succ count =>
    refine makes_standard_iff.mpr ⟨false, ⟨0, by decide⟩, rfl, nofun, ?_⟩
    rw [units_zero, Nat.zero_mul, Nat.zero_mul]
    decide +kernel

end Clock
end WebhookRelay
