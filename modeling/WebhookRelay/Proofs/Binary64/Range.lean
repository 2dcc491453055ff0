import WebhookRelay.Binary64.Rounding

/-! # The range of binary64

An integer can be turned into a binary64 number unless its magnitude is half a step above
the greatest finite one, or more (`Binary64.ofInt?_eq_error_iff`).

The rank of an integer is read off its binary logarithm: that gives the distance between
magnitudes at its size, and the rounded quotient then lies between `2 ^ 52` and `2 ^ 53`.
Only for a logarithm of 1023 does it depend on the rounding whether the rank is a finite one,
and there the tie goes up, since the greatest finite rank is odd.
-/

namespace WebhookRelay
namespace Binary64

/-- The least magnitude of an integer that is rounded beyond the finite ones. -/
def overflow : Nat := 2 ^ (1024 : Nat) - 2 ^ (970 : Nat)

theorem overflow_le_iff (n : Nat) : overflow ≤ n ↔ 2 ^ (1024 : Nat) ≤ n + 2 ^ (970 : Nat) := by
  unfold overflow
  omega

/-- A quotient is rounded to an even number or above it from half a step below. -/
theorem even_le_divNearest_iff (num k : Nat) {den : Nat} (hden : 0 < den) (hk : k % 2 = 0) :
    k ≤ divNearest num den ↔ 2 * (den * k) ≤ 2 * num + den := by
  have hrest : num % den < den := Nat.mod_lt num hden
  have hsplit : den * (num / den) + num % den = num := Nat.div_add_mod num den
  rw [divNearest]
  generalize num / den = q at hsplit ⊢
  generalize num % den = r at hsplit hrest ⊢
  subst hsplit
  rcases Nat.lt_trichotomy k (q + 1) with hlt | rfl | hgt
  · -- the quotient itself is large enough
    have hle : den * k ≤ den * q := Nat.mul_le_mul_left den (Nat.lt_succ_iff.mp hlt)
    refine iff_of_true ?_ (by omega)
    split
    · omega
    · split <;> omega
  · rw [Nat.mul_add, Nat.mul_one]
    split
    · omega
    · split <;> omega
  · -- the quotient is too small, rounded or not
    have hle : den * (q + 2) ≤ den * k := Nat.mul_le_mul_left den hgt
    rw [Nat.mul_add] at hle
    refine iff_of_false ?_ (by omega)
    split
    · omega
    · split <;> omega

theorem log2_mul_two_pow {n : Nat} (h : n ≠ 0) (k : Nat) : (n * 2 ^ k).log2 = n.log2 + k := by
  have hpow := Nat.two_pow_pos k
  have hne : n * 2 ^ k ≠ 0 := Nat.mul_ne_zero h (Nat.ne_of_gt hpow)
  refine (Nat.log2_eq_iff hne).mpr ⟨?_, ?_⟩
  · rw [Nat.pow_add]
    exact Nat.mul_le_mul_right _ (Nat.log2_self_le h)
  · rw [Nat.add_right_comm, Nat.pow_add]
    exact Nat.mul_lt_mul_of_pos_right Nat.lt_log2_self hpow

/-- The rank of an integer, by its logarithm. -/
theorem nearestRank_one {n : Nat} (h : n ≠ 0) :
    nearestRank n 1 = divNearest (n * 2 ^ unitExponent) (2 ^ (n.log2 + 1022))
      + (n.log2 + 1022) * 2 ^ (52 : Nat) := by
  have hshift : (n * 2 ^ unitExponent / 1).log2 - 52 = n.log2 + 1022 := by
    rw [Nat.div_one, log2_mul_two_pow h]
    rfl
  simp only [nearestRank, hshift, Nat.one_mul]

/-- A number that is not zero, in the units of a distance between magnitudes: from `2 ^ 52`
to below `2 ^ 53` of them. -/
theorem units_of_ne_zero {n : Nat} (h : n ≠ 0) :
    2 ^ (n.log2 + 1022) * 2 ^ (52 : Nat) ≤ n * 2 ^ unitExponent ∧
      n * 2 ^ unitExponent < 2 ^ (n.log2 + 1022) * 2 ^ (53 : Nat) := by
  have hpow : 0 < 2 ^ unitExponent := Nat.two_pow_pos unitExponent
  constructor
  · calc 2 ^ (n.log2 + 1022) * 2 ^ (52 : Nat)
        = 2 ^ n.log2 * 2 ^ unitExponent := by rw [← Nat.pow_add, ← Nat.pow_add]; rfl
      _ ≤ n * 2 ^ unitExponent := Nat.mul_le_mul_right _ (Nat.log2_self_le h)
  · calc n * 2 ^ unitExponent
        < 2 ^ (n.log2 + 1) * 2 ^ unitExponent := Nat.mul_lt_mul_of_pos_right Nat.lt_log2_self hpow
      _ = 2 ^ (n.log2 + 1022) * 2 ^ (53 : Nat) := by
        rw [← Nat.pow_add, ← Nat.pow_add]
        rfl

/-- **The integers of a finite rank** are those below the point of overflow. -/
theorem nearestRank_lt_iff (n : Nat) : nearestRank n 1 < rankCount ↔ n < overflow := by
  by_cases hzero : n = 0
  · subst hzero
    decide +kernel
  · obtain ⟨hlow, hhigh⟩ := units_of_ne_zero hzero
    have hden : 0 < 2 ^ (n.log2 + 1022) := Nat.two_pow_pos _
    rw [nearestRank_one hzero]
    rcases Nat.lt_trichotomy n.log2 1023 with hless | hlog | hmore
    · -- below `2 ^ 1023` the rank is a finite one, even rounded up
      have hrounded : ¬ 2 ^ (53 : Nat) + 2 ≤
          divNearest (n * 2 ^ unitExponent) (2 ^ (n.log2 + 1022)) := by
        rw [even_le_divNearest_iff _ _ hden (by decide), Nat.mul_add]
        omega
      have hover : 2 ^ (n.log2 + 1) ≤ overflow :=
        Nat.le_trans (Nat.pow_le_pow_right Nat.two_pos hless) (by decide +kernel)
      refine iff_of_true ?_ (Nat.lt_of_lt_of_le Nat.lt_log2_self hover)
      rw [rankCount]
      omega
    · -- here the rank is a finite one unless it is rounded up to `2 ^ 53` distances
      rw [hlog] at hden ⊢
      have hrounded :=
        even_le_divNearest_iff (n * 2 ^ unitExponent) (2 ^ (53 : Nat)) hden (by decide)
      have hscale : 2 * (2 ^ (1023 + 1022) * 2 ^ (53 : Nat)) ≤
          2 * (n * 2 ^ unitExponent) + 2 ^ (1023 + 1022) ↔ overflow ≤ n := by
        -- everything is a multiple of the double of a unit
        have hdistance : 2 ^ (1023 + 1022) = 2 * 2 ^ unitExponent * 2 ^ (970 : Nat) := by
          decide +kernel
        have htop : 2 * (2 ^ (1023 + 1022) * 2 ^ (53 : Nat)) =
            2 * 2 ^ unitExponent * 2 ^ (1024 : Nat) := by decide +kernel
        have hpos : 0 < 2 * 2 ^ unitExponent := by decide +kernel
        rw [htop, hdistance, Nat.mul_comm n, ← Nat.mul_assoc, ← Nat.mul_add,
          Nat.mul_le_mul_left_iff hpos, overflow_le_iff]
      rw [rankCount]
      omega
    · -- from `2 ^ 1024` on no rank is a finite one, even rounded down
      have hrounded : 2 ^ (52 : Nat) ≤
          divNearest (n * 2 ^ unitExponent) (2 ^ (n.log2 + 1022)) := by
        rw [even_le_divNearest_iff _ _ hden (by decide)]
        omega
      have hover : overflow ≤ n := by
        have hpow := Nat.pow_le_pow_right Nat.two_pos hmore
        have hself := Nat.log2_self_le hzero
        rw [overflow_le_iff]
        omega
      refine iff_of_false ?_ (Nat.not_lt.mpr hover)
      rw [rankCount]
      omega

/-- **An integer beyond the range** has no binary64 number: the others have one. -/
theorem ofInt?_eq_error_iff {n : Int} {fault : Fault} :
    ofInt? n = .error fault ↔ overflow ≤ n.natAbs ∧ fault = .integerTooLarge := by
  have hfinite : (ofInt n).isFinite = true ↔ n.natAbs < overflow := by
    rw [ofInt, ofRatio, ofRank, ← nearestRank_lt_iff]
    split
    · rename_i hlt
      exact iff_of_true rfl hlt
    · rename_i hge
      exact iff_of_false nofun hge
  rw [ofInt?]
  split
  · rename_i hfin
    refine iff_of_false nofun fun h => ?_
    exact absurd (hfinite.mp hfin) (Nat.not_lt.mpr h.1)
  · rename_i hfin
    rw [hfinite, Nat.not_lt] at hfin
    rw [Except.error.injEq, eq_comm]
    exact (and_iff_right hfin).symm

end Binary64
end WebhookRelay
