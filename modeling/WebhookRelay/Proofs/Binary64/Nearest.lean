import WebhookRelay.Proofs.Binary64.Exact

/-! # Rounding to the nearest magnitude

The quotients that are rounded to a rank fill the interval between the middles to the
magnitudes of its neighbours, and the ends belong to it if and only if the rank is even.
`Rounds` says so without division, and `nearestRank_eq_iff` says that this is what the
rounding does.

One direction is a matter of the distance that the rounding takes from the size of the
quotient (`rounds_nearestRank`): there the rank has a significand between `2 ^ 52` and
`2 ^ 53`, and at both of these the magnitude on one side is at another distance.  The other
direction is that intervals of different ranks have no quotient in common
(`Rounds.unique`).
-/

namespace WebhookRelay
namespace Binary64

/-! ## The order of magnitudes -/

/-- The next rank has a larger magnitude. -/
theorem units_lt_units_succ (rank : Nat) : units rank < units (rank + 1) := by
  by_cases hfirst : rank + 1 < 2 ^ (53 : Nat)
  · rw [units_of_lt hfirst, units_of_lt (by omega)]
    omega
  · by_cases hlast : rank + 1 = 2 ^ (53 : Nat)
    · obtain rfl : rank = 2 ^ (53 : Nat) - 1 := by omega
      decide +kernel
    · have hlarge : 2 ^ (53 : Nat) ≤ rank := by omega
      obtain ⟨significand, shift, hlow, hhigh, rfl⟩ := exists_significand hlarge
      have hnext : significand + shift * 2 ^ (52 : Nat) + 1 =
          (significand + 1) + shift * 2 ^ (52 : Nat) := by omega
      rw [hnext, units_add hlow (by omega), units_add (by omega) (by omega)]
      exact Nat.mul_lt_mul_of_pos_right (Nat.lt_succ_self _) (Nat.two_pow_pos shift)

theorem units_lt_units {rank other : Nat} (h : rank < other) : units rank < units other := by
  induction other with
  | zero => omega
  | succ other ih =>
    rcases Nat.lt_succ_iff_lt_or_eq.mp h with hless | rfl
    · exact Nat.lt_trans (ih hless) (units_lt_units_succ other)
    · exact units_lt_units_succ rank

theorem units_le_units {rank other : Nat} (h : rank ≤ other) : units rank ≤ units other := by
  rcases Nat.lt_or_eq_of_le h with hless | rfl
  · exact Nat.le_of_lt (units_lt_units hless)
  · exact Nat.le_refl _

/-! ## Intervals -/

/-- A quotient lies in the interval of a rank: its double is between the sums of the magnitude
with those of its neighbours, and not at an end if the rank is odd. -/
structure Rounds (num den rank : Nat) : Prop where
  low : (units (rank - 1) + units rank) * den ≤ 2 * (num * 2 ^ unitExponent)
  high : 2 * (num * 2 ^ unitExponent) ≤ (units rank + units (rank + 1)) * den
  low_odd : rank % 2 = 1 → (units (rank - 1) + units rank) * den < 2 * (num * 2 ^ unitExponent)
  high_odd : rank % 2 = 1 → 2 * (num * 2 ^ unitExponent) < (units rank + units (rank + 1)) * den

/-- Of two ranks with a quotient in common the first one is not smaller. -/
theorem Rounds.not_lt {num den rank other : Nat} (hden : 0 < den) (h : Rounds num den rank)
    (hother : Rounds num den other) : ¬ rank < other := by
  intro hlt
  -- the end of the smaller interval does not pass the start of the larger one
  have hlast : units rank ≤ units (other - 1) := units_le_units (by omega)
  have hnext : units (rank + 1) ≤ units other := units_le_units hlt
  have hends : (units rank + units (rank + 1)) * den ≤ (units (other - 1) + units other) * den :=
    Nat.mul_le_mul_right den (Nat.add_le_add hlast hnext)
  by_cases hodd : rank % 2 = 1
  · exact absurd (h.high_odd hodd) (Nat.not_lt.mpr (Nat.le_trans hends hother.low))
  · by_cases hotherOdd : other % 2 = 1
    · exact absurd (hother.low_odd hotherOdd) (Nat.not_lt.mpr (Nat.le_trans h.high hends))
    · -- two even ranks are not next to each other, so there is something between them
      have hbetween : units rank < units (other - 1) := units_lt_units (by omega)
      have hstrict : (units rank + units (rank + 1)) * den <
          (units (other - 1) + units other) * den :=
        Nat.mul_lt_mul_of_pos_right (Nat.add_lt_add_of_lt_of_le hbetween hnext) hden
      exact absurd (Nat.le_trans hother.low h.high) (Nat.not_le.mpr hstrict)

/-- **A quotient lies in the interval of one rank only.** -/
theorem Rounds.unique {num den rank other : Nat} (hden : 0 < den) (h : Rounds num den rank)
    (hother : Rounds num den other) : rank = other :=
  Nat.le_antisymm (Nat.not_lt.mp (hother.not_lt hden h)) (Nat.not_lt.mp (h.not_lt hden hother))

/-- Whether a quotient lies in an interval depends on its value only. -/
theorem Rounds.of_mul_eq {num den other third rank : Nat} (hden : 0 < den) (hthird : 0 < third)
    (h : Rounds num den rank) (heq : num * third = other * den) : Rounds other third rank := by
  have hvalue : 2 * (other * 2 ^ unitExponent) * den = 2 * (num * 2 ^ unitExponent) * third := by
    rw [Nat.mul_assoc, Nat.mul_right_comm, ← heq, Nat.mul_assoc 2, Nat.mul_right_comm num]
  have hbound : ∀ bound : Nat, bound * third * den = bound * den * third := fun bound =>
    Nat.mul_right_comm bound third den
  refine ⟨?_, ?_, fun hodd => ?_, fun hodd => ?_⟩
  · refine Nat.le_of_mul_le_mul_right ?_ hden
    rw [hbound, hvalue]
    exact Nat.mul_le_mul_right third h.low
  · refine Nat.le_of_mul_le_mul_right ?_ hden
    rw [hbound, hvalue]
    exact Nat.mul_le_mul_right third h.high
  · refine Nat.lt_of_mul_lt_mul_right (a := den) ?_
    rw [hbound, hvalue]
    exact Nat.mul_lt_mul_of_pos_right (h.low_odd hodd) hthird
  · refine Nat.lt_of_mul_lt_mul_right (a := den) ?_
    rw [hbound, hvalue]
    exact Nat.mul_lt_mul_of_pos_right (h.high_odd hodd) hthird

/-! ## The rounding -/

/-- A rounded quotient is at most half a step away, and less than that if it is odd. -/
theorem divNearest_spec (num : Nat) {den : Nat} (hden : 0 < den) :
    2 * (divNearest num den * den) ≤ 2 * num + den ∧
      2 * num ≤ 2 * (divNearest num den * den) + den ∧
      (divNearest num den % 2 = 1 → 2 * (divNearest num den * den) < 2 * num + den ∧
        2 * num < 2 * (divNearest num den * den) + den) := by
  have hrest : num % den < den := Nat.mod_lt num hden
  have hsplit : den * (num / den) + num % den = num := Nat.div_add_mod num den
  unfold divNearest
  generalize num / den = q at hsplit ⊢
  generalize num % den = r at hsplit hrest ⊢
  subst hsplit
  rw [Nat.mul_comm den q]
  have hsucc : (q + 1) * den = q * den + den := Nat.succ_mul q den
  dsimp only
  split
  · omega
  · split
    · rw [hsucc]
      omega
    · -- a tie goes to the even one
      by_cases heven : q % 2 = 0
      · rw [heven, Nat.add_zero]
        omega
      · have hodd : q % 2 = 1 := by omega
        rw [hodd, hsucc]
        omega

/-- A significand and a power of two make a magnitude; without a power of two the significand
may be small. -/
theorem units_grid {significand shift : Nat} (hlow : shift ≠ 0 → 2 ^ (52 : Nat) ≤ significand)
    (hhigh : significand ≤ 2 ^ (53 : Nat)) :
    units (significand + shift * 2 ^ (52 : Nat)) = significand * 2 ^ shift := by
  by_cases hsmall : significand < 2 ^ (52 : Nat)
  · obtain rfl : shift = 0 := Classical.byContradiction fun hne => by
      have := hlow hne
      omega
    rw [units_of_lt (by omega)]
    omega
  · exact units_add (Nat.not_lt.mp hsmall) hhigh shift

/-- The magnitude of the next rank is at least one step further. -/
theorem units_grid_succ {significand shift : Nat}
    (hlow : shift ≠ 0 → 2 ^ (52 : Nat) ≤ significand) (hhigh : significand ≤ 2 ^ (53 : Nat)) :
    (significand + 1) * 2 ^ shift ≤ units (significand + shift * 2 ^ (52 : Nat) + 1) := by
  by_cases hlast : significand = 2 ^ (53 : Nat)
  · -- here the steps are twice as long
    have hnext : significand + shift * 2 ^ (52 : Nat) + 1 =
        (2 ^ (52 : Nat) + 1) + (shift + 1) * 2 ^ (52 : Nat) := by omega
    have hstep : 2 ^ (shift + 1) = 2 * 2 ^ shift := Nat.pow_succ'
    rw [hnext, units_add (by omega) (by omega), hstep, ← Nat.mul_assoc, hlast]
    exact Nat.mul_le_mul_right _ (by omega)
  · have hnext : significand + shift * 2 ^ (52 : Nat) + 1 =
        (significand + 1) + shift * 2 ^ (52 : Nat) := by omega
    rw [hnext]
    exact Nat.le_of_eq (units_grid (fun hne => by have := hlow hne; omega) (by omega)).symm

/-- The magnitude of the rank before is one step nearer to zero, unless the significand is the
least one of its power of two. -/
theorem units_grid_pred {significand shift : Nat}
    (hlow : shift ≠ 0 → 2 ^ (52 : Nat) < significand) (hhigh : significand ≤ 2 ^ (53 : Nat)) :
    units (significand + shift * 2 ^ (52 : Nat) - 1) = (significand - 1) * 2 ^ shift := by
  by_cases hzero : significand = 0
  · obtain rfl : shift = 0 := Classical.byContradiction fun hne => by
      have := hlow hne
      omega
    rw [hzero]
    rfl
  · have hbefore : significand + shift * 2 ^ (52 : Nat) - 1 =
        (significand - 1) + shift * 2 ^ (52 : Nat) := by omega
    rw [hbefore, units_grid (fun hne => by have := hlow hne; omega) (by omega)]

/-- A quotient in the steps at its size: below `2 ^ 53` of them, and from `2 ^ 52` on unless
they are the shortest ones. -/
theorem steps_of_shift (scaled : Nat) {den shift : Nat} (hden : 0 < den)
    (hshift : shift = (scaled / den).log2 - 52) :
    (shift ≠ 0 → 2 ^ (52 : Nat) * (den * 2 ^ shift) ≤ scaled) ∧
      scaled < 2 ^ (53 : Nat) * (den * 2 ^ shift) := by
  have hquotient : scaled < (scaled / den + 1) * den := by
    have hsplit := Nat.div_add_mod scaled den
    have hrest := Nat.mod_lt scaled hden
    rw [Nat.succ_mul, Nat.mul_comm]
    omega
  have hsteps : ∀ k : Nat, 2 ^ k * (den * 2 ^ shift) = 2 ^ (k + shift) * den := by
    intro k
    rw [Nat.pow_add, Nat.mul_comm den, Nat.mul_assoc]
  rw [hsteps, hsteps]
  constructor
  · intro hne
    have hzero : scaled / den ≠ 0 := by
      intro hzero
      rw [hzero] at hshift
      exact hne hshift
    have hlog : 2 ^ (52 + shift) ≤ scaled / den :=
      Nat.le_trans (Nat.pow_le_pow_right Nat.two_pos (by omega)) (Nat.log2_self_le hzero)
    calc 2 ^ (52 + shift) * den ≤ scaled / den * den := Nat.mul_le_mul_right den hlog
      _ ≤ scaled := Nat.div_mul_le_self scaled den
  · have hlog : scaled / den + 1 ≤ 2 ^ (53 + shift) :=
      Nat.le_trans (Nat.lt_log2_self (n := scaled / den))
        (Nat.pow_le_pow_right Nat.two_pos (by omega))
    exact Nat.lt_of_lt_of_le hquotient (Nat.mul_le_mul_right den hlog)

/-- **A quotient lies in the interval of the rank to which it is rounded.** -/
theorem rounds_nearestRank (num : Nat) {den : Nat} (hden : 0 < den) :
    Rounds num den (nearestRank num den) := by
  -- the rank has the rounded number of steps as its significand
  have hrank : nearestRank num den =
      divNearest (num * 2 ^ unitExponent)
          (den * 2 ^ ((num * 2 ^ unitExponent / den).log2 - 52)) +
        ((num * 2 ^ unitExponent / den).log2 - 52) * 2 ^ (52 : Nat) := rfl
  generalize hshift : (num * 2 ^ unitExponent / den).log2 - 52 = shift at hrank
  obtain ⟨hbelow, habove⟩ := steps_of_shift (num * 2 ^ unitExponent) hden hshift.symm
  have hstep : 0 < den * 2 ^ shift := Nat.mul_pos hden (Nat.two_pow_pos shift)
  obtain ⟨hlow, hhigh, hodd⟩ := divNearest_spec (num * 2 ^ unitExponent) hstep
  rw [hrank]
  generalize divNearest (num * 2 ^ unitExponent) (den * 2 ^ shift) = m at hlow hhigh hodd
  have hsteps : ∀ k : Nat, k * 2 ^ shift * den = k * (den * 2 ^ shift) := by
    intro k
    rw [Nat.mul_assoc, Nat.mul_comm den]
  generalize den * 2 ^ shift = step at hbelow habove hstep hlow hhigh hodd hsteps
  have hmost : m ≤ 2 ^ (53 : Nat) := by
    refine Nat.le_of_not_lt fun hlt => ?_
    have hmore : (2 ^ (53 : Nat) + 1) * step ≤ m * step := Nat.mul_le_mul_right step hlt
    omega
  have hleast : shift ≠ 0 → 2 ^ (52 : Nat) ≤ m := by
    intro hne
    refine Nat.le_of_not_lt fun hlt => ?_
    have hless : (m + 1) * step ≤ 2 ^ (52 : Nat) * step := Nat.mul_le_mul_right step hlt
    have hsucc : (m + 1) * step = m * step + step := Nat.succ_mul m step
    have := hbelow hne
    omega
  have hself : units (m + shift * 2 ^ (52 : Nat)) * den = m * step := by
    rw [units_grid hleast hmost, hsteps]
  have hnext : m * step + step ≤ units (m + shift * 2 ^ (52 : Nat) + 1) * den := by
    rw [← Nat.succ_mul, ← hsteps]
    exact Nat.mul_le_mul_right den (units_grid_succ hleast hmost)
  have hprevious : units (m + shift * 2 ^ (52 : Nat) - 1) * den + m * step ≤
        2 * (num * 2 ^ unitExponent) ∧ (m % 2 = 1 →
      units (m + shift * 2 ^ (52 : Nat) - 1) * den + m * step <
        2 * (num * 2 ^ unitExponent)) := by
    by_cases hedge : shift ≠ 0 ∧ m = 2 ^ (52 : Nat)
    · -- the quotient is not rounded up, and the magnitude before is nearer than a step
      obtain ⟨hne, hm⟩ := hedge
      have hless : units (m + shift * 2 ^ (52 : Nat) - 1) * den ≤ m * step := by
        rw [← hself]
        exact Nat.mul_le_mul_right den (units_le_units (Nat.sub_le _ _))
      have := hbelow hne
      rw [← hm] at this
      omega
    · have hpred : units (m + shift * 2 ^ (52 : Nat) - 1) * den = (m - 1) * step := by
        rw [units_grid_pred (fun hne => by have := hleast hne; omega) hmost, hsteps]
      rw [hpred]
      by_cases hzero : m = 0
      · rw [hzero]
        omega
      · have hsucc : m * step = (m - 1) * step + step := by
          rw [← Nat.succ_mul, Nat.succ_eq_add_one, Nat.sub_add_cancel (by omega)]
        omega
  have hparity : (m + shift * 2 ^ (52 : Nat)) % 2 = m % 2 := by omega
  refine ⟨?_, ?_, fun h => ?_, fun h => ?_⟩
  · rw [Nat.add_mul, hself]
    exact hprevious.1
  · rw [Nat.add_mul, hself]
    omega
  · rw [hparity] at h
    rw [Nat.add_mul, hself]
    exact hprevious.2 h
  · rw [hparity] at h
    have := (hodd h).2
    rw [Nat.add_mul, hself]
    omega

/-- **What is rounded to a rank**: the quotients in its interval. -/
theorem nearestRank_eq_iff {num den rank : Nat} (hden : 0 < den) :
    nearestRank num den = rank ↔ Rounds num den rank := by
  constructor
  · rintro rfl
    exact rounds_nearestRank num hden
  · exact (rounds_nearestRank num hden).unique hden

/-- What is rounded below an even rank: the quotients below the middle of its magnitude and the
one before it, where the tie goes to the even rank. -/
theorem nearestRank_lt_iff_of_even {num den bound : Nat} (hden : 0 < den) (hbound : 0 < bound)
    (heven : bound % 2 = 0) :
    nearestRank num den < bound ↔
      2 * (num * 2 ^ unitExponent) < (units (bound - 1) + units bound) * den := by
  have h := rounds_nearestRank num hden
  constructor
  · intro hless
    by_cases hlast : nearestRank num den + 1 = bound
    · have hhigh := h.high_odd (by omega)
      rwa [hlast, show nearestRank num den = bound - 1 by omega] at hhigh
    · refine Nat.lt_of_le_of_lt h.high (Nat.mul_lt_mul_of_pos_right ?_ hden)
      exact Nat.add_lt_add (units_lt_units (by omega)) (units_lt_units (by omega))
  · intro hbelow
    refine Nat.not_le.mp fun hge => absurd hbelow (Nat.not_lt.mpr (Nat.le_trans ?_ h.low))
    exact Nat.mul_le_mul_right den
      (Nat.add_le_add (units_le_units (by omega)) (units_le_units hge))

end Binary64
end WebhookRelay
