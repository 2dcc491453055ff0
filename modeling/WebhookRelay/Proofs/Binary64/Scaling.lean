import WebhookRelay.Proofs.Binary64.Nearest

/-! # Products with powers of two

A number times a power of two is not rounded: the magnitudes are closed under doubling, and ranks
are not bounded where units are counted.  So the product is exact as long as it is finite, and it
is an infinity from `2 ^ 1024` on.  `TimesTwoPow` says what the product is without saying how it
is computed, and `scale` computes it (`scale_eq_iff`).
-/

namespace WebhookRelay
namespace Binary64

/-- A number is another one times `2 ^ k`.  A finite product has `2 ^ k` times the magnitude, with
the same sign, and one of `2 ^ 1024` or more is an infinity of this sign. -/
inductive TimesTwoPow (k : Nat) : Binary64 → Binary64 → Prop where
  | nan : TimesTwoPow k nan nan
  | infinity (negative : Bool) : TimesTwoPow k (infinity negative) (infinity negative)
  | exact (negative : Bool) {rank product : Fin rankCount}
      (magnitude : units product = units rank * 2 ^ k) :
    TimesTwoPow k (finite negative rank) (finite negative product)
  | beyond (negative : Bool) {rank : Fin rankCount}
      (magnitude : 2 ^ (1024 + unitExponent) ≤ units rank * 2 ^ k) :
    TimesTwoPow k (finite negative rank) (.infinity negative)

/-- Twice a magnitude is a magnitude. -/
theorem exists_units_double (rank : Nat) : ∃ double, units double = units rank * 2 := by
  by_cases hsmall : rank < 2 ^ (52 : Nat)
  · exact ⟨rank * 2, by rw [units_of_lt (by omega), units_of_lt (by omega)]⟩
  · obtain ⟨significand, shift, hlow, hhigh, rfl⟩ : ∃ significand shift,
        2 ^ (52 : Nat) ≤ significand ∧ significand ≤ 2 ^ (53 : Nat) ∧
          rank = significand + shift * 2 ^ (52 : Nat) := by
      by_cases hfirst : rank < 2 ^ (53 : Nat)
      · exact ⟨rank, 0, by omega, by omega, by omega⟩
      · obtain ⟨significand, shift, hlow, hhigh, heq⟩ := exists_significand (Nat.not_lt.mp hfirst)
        exact ⟨significand, shift, hlow, Nat.le_of_lt hhigh, heq⟩
    refine ⟨significand + (shift + 1) * 2 ^ (52 : Nat), ?_⟩
    rw [units_add hlow hhigh, units_add hlow hhigh, Nat.pow_succ, Nat.mul_assoc]

/-- A magnitude times a power of two is a magnitude. -/
theorem exists_units_mul_two_pow (rank k : Nat) :
    ∃ product, units product = units rank * 2 ^ k := by
  induction k with
  | zero => exact ⟨rank, (Nat.mul_one _).symm⟩
  | succ k ih =>
    obtain ⟨product, hproduct⟩ := ih
    obtain ⟨double, hdouble⟩ := exists_units_double product
    exact ⟨double, by rw [hdouble, hproduct, Nat.pow_succ, Nat.mul_assoc]⟩

/-- Scaling computes the product with a power of two. -/
theorem timesTwoPow_scale (k : Nat) (x : Binary64) : TimesTwoPow k x (x.scale k) := by
  cases x with
  | nan => exact .nan
  | infinity negative => exact .infinity negative
  | finite negative rank =>
    obtain ⟨product, hproduct⟩ := exists_units_mul_two_pow rank k
    have hrank : nearestRank (units rank * 2 ^ k) (2 ^ unitExponent) = product :=
      nearestRank_of_units (Nat.two_pow_pos unitExponent) (by rw [hproduct])
    rw [scale, ofRatio, hrank, ofRank]
    split
    · exact .exact negative hproduct
    · rename_i hlarge
      refine .beyond negative ?_
      rw [← hproduct, ← units_rankCount]
      exact units_le_units (Nat.not_lt.mp hlarge)

theorem TimesTwoPow.unique {k : Nat} {x y z : Binary64} (hy : TimesTwoPow k x y)
    (hz : TimesTwoPow k x z) : y = z := by
  have hfinite : ∀ {rank product : Fin rankCount}, units product = units rank * 2 ^ k →
      ¬ 2 ^ (1024 + unitExponent) ≤ units rank * 2 ^ k := by
    intro rank product hproduct hlarge
    rw [← hproduct, ← units_rankCount] at hlarge
    exact Nat.not_lt.mpr hlarge (units_lt_units product.isLt)
  cases hy with
  | nan => cases hz; rfl
  | infinity => cases hz; rfl
  | exact negative hproduct =>
    cases hz with
    | exact _ hother => rw [Fin.ext (units_injective (hproduct.trans hother.symm))]
    | beyond _ hlarge => exact absurd hlarge (hfinite hproduct)
  | beyond negative hlarge =>
    cases hz with
    | exact _ hother => exact absurd hlarge (hfinite hother)
    | beyond => rfl

/-- **Scaling is multiplication** with a power of two. -/
theorem scale_eq_iff {k : Nat} {x y : Binary64} : x.scale k = y ↔ TimesTwoPow k x y := by
  constructor
  · rintro rfl
    exact timesTwoPow_scale k x
  · exact (timesTwoPow_scale k x).unique

end Binary64
end WebhookRelay
