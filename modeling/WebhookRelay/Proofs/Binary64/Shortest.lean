import WebhookRelay.Binary64.Shortest
import WebhookRelay.Proofs.Binary64.Nearest

/-! # Shortest decimals are rounded back

The decimal that is written for a magnitude lies in the interval of its rank
(`roundsDecimal_shortest`), so it is rounded back to that rank when it is read
(`toBinary64_of_roundsDecimal`).  This does not depend on which of the decimals in the
interval is chosen, nor on whether a short one is found: the one that stands in is exact.

Where a decimal lies does not change when zeros go from its coefficient to its exponent
(`roundsDecimal_shift`).  The two bounds beyond which no power of ten is computed are outside
of all intervals of finite ranks but that of zero.
-/

namespace WebhookRelay
namespace Binary64

/-- The decimal with this coefficient and exponent lies in the interval of a rank. -/
def RoundsDecimal (coefficient : Nat) (exponent : Int) (rank : Nat) : Prop :=
  Rounds (coefficient * 10 ^ exponent.toNat) (10 ^ (-exponent).toNat) rank

theorem ten_pow_pos (n : Nat) : 0 < 10 ^ n := Nat.pow_pos (by omega)

/-! ## The decimal that is written -/

/-- The test for a multiple of `10 ^ k` in the interval of a rank. -/
def isInside (rank : Nat) (k : Int) (factor : Nat) : Bool :=
  let (low, _, high) := interval rank
  let step := 2 ^ (unitExponent + 1) * 10 ^ k.toNat
  let stretch := 10 ^ (-k).toNat
  if rank % 2 = 0 then low * stretch ≤ factor * step && factor * step ≤ high * stretch
  else low * stretch < factor * step && factor * step < high * stretch

theorem isInside_iff {rank factor : Nat} {k : Int} :
    isInside rank k factor = true ↔ RoundsDecimal factor k rank := by
  have hstep : factor * (2 ^ (unitExponent + 1) * 10 ^ k.toNat) =
      2 * (factor * 10 ^ k.toNat * 2 ^ unitExponent) := by
    rw [Nat.pow_succ, Nat.mul_comm (2 ^ unitExponent * 2), ← Nat.mul_assoc, ← Nat.mul_assoc,
      Nat.mul_comm 2]
  unfold isInside interval
  dsimp only
  rw [hstep]
  by_cases heven : rank % 2 = 0
  · rw [if_pos heven, Bool.and_eq_true, decide_eq_true_eq, decide_eq_true_eq]
    exact ⟨fun h => ⟨h.1, h.2, fun hodd => by omega, fun hodd => by omega⟩,
      fun h => ⟨h.low, h.high⟩⟩
  · have hodd : rank % 2 = 1 := by omega
    rw [if_neg heven, Bool.and_eq_true, decide_eq_true_eq, decide_eq_true_eq]
    exact ⟨fun h => ⟨Nat.le_of_lt h.1, Nat.le_of_lt h.2, fun _ => h.1, fun _ => h.2⟩,
      fun h => ⟨h.low_odd hodd, h.high_odd hodd⟩⟩

/-- Rounding takes one of the two whole numbers around a quotient. -/
theorem divNearest_eq_or (num den : Nat) :
    divNearest num den = num / den ∨ divNearest num den = num / den + 1 := by
  unfold divNearest
  dsimp only
  split
  · exact .inl rfl
  · split
    · exact .inr rfl
    · rcases Nat.mod_two_eq_zero_or_one (num / den) with heven | hodd
      · exact .inl (by omega)
      · exact .inr (by omega)

/-- A multiple of a power of ten that is found for a rank lies in its interval. -/
theorem roundsDecimal_nearestMultiple? {rank factor : Nat} {k : Int}
    (h : nearestMultiple? rank k = some factor) : RoundsDecimal factor k rank := by
  rw [← isInside_iff]
  let twice := 2 * units rank * 10 ^ (-k).toNat
  let step := 2 ^ (unitExponent + 1) * 10 ^ k.toNat
  unfold nearestMultiple? at h
  dsimp only at h
  split at h
  · rename_i hbelow habove
    obtain rfl := Option.some.inj h
    rcases divNearest_eq_or twice step with hnearest | hnearest
    · exact (congrArg (isInside rank k) hnearest).trans hbelow
    · exact (congrArg (isInside rank k) hnearest).trans habove
  · rename_i hbelow _
    obtain rfl := Option.some.inj h
    exact hbelow
  · rename_i _ habove
    obtain rfl := Option.some.inj h
    exact habove
  · cases h

/-- A magnitude has an exact decimal. -/
theorem roundsDecimal_exact (rank : Nat) :
    RoundsDecimal (units rank * 5 ^ unitExponent) (-(unitExponent : Int)) rank := by
  have hzero : (-(unitExponent : Int)).toNat = 0 := by omega
  have hdigits : (- -(unitExponent : Int)).toNat = unitExponent := by omega
  unfold RoundsDecimal
  rw [hzero, hdigits, Nat.pow_zero, Nat.mul_one]
  refine (nearestRank_eq_iff (ten_pow_pos _)).mp (nearestRank_of_units (ten_pow_pos _) ?_)
  rw [Nat.mul_assoc, ← Nat.mul_pow]

/-- **The decimal that is written for a magnitude** lies in its interval. -/
theorem roundsDecimal_shortest (rank : Nat) :
    RoundsDecimal (shortest rank).1 (shortest rank).2 rank := by
  unfold shortest
  dsimp only
  cases hfound : (List.range 17).findSome? fun i : Nat => (nearestMultiple? rank
      (leadingExponent rank - i)).map fun factor => (factor, leadingExponent rank - i) with
  | none => exact roundsDecimal_exact rank
  | some decimal =>
    obtain ⟨i, -, htrial⟩ := List.exists_of_findSome?_eq_some hfound
    obtain ⟨factor, hfactor, rfl⟩ := Option.map_eq_some_iff.mp htrial
    exact roundsDecimal_nearestMultiple? hfactor

/-! ## Zeros at the end of the coefficient -/

/-- Zeros at the end of the coefficient may be moved to the exponent. -/
theorem roundsDecimal_shift {coefficient k rank : Nat} {exponent : Int} :
    RoundsDecimal (coefficient * 10 ^ k) exponent rank ↔
      RoundsDecimal coefficient (exponent + k) rank := by
  have hvalue : coefficient * 10 ^ k * 10 ^ exponent.toNat * 10 ^ (-(exponent + k)).toNat =
      coefficient * 10 ^ (exponent + k).toNat * 10 ^ (-exponent).toNat := by
    rw [Nat.mul_assoc, Nat.mul_assoc, Nat.mul_assoc, ← Nat.pow_add, ← Nat.pow_add, ← Nat.pow_add]
    congr 2
    omega
  exact ⟨fun h => h.of_mul_eq (ten_pow_pos _) (ten_pow_pos _) hvalue,
    fun h => h.of_mul_eq (ten_pow_pos _) (ten_pow_pos _) hvalue.symm⟩

/-! ## Reading decimals -/

section Reading

variable {coefficient rank : Nat} {exponent : Int}

/-- Only zero has a decimal without digits in its interval. -/
theorem RoundsDecimal.coefficient_ne_zero (h : RoundsDecimal coefficient exponent rank)
    (hrank : rank ≠ 0) : coefficient ≠ 0 := by
  rintro rfl
  have hlow := h.low
  rw [Nat.zero_mul, Nat.zero_mul, Nat.mul_zero, Nat.le_zero, Nat.mul_eq_zero] at hlow
  have hden := ten_pow_pos (-exponent).toNat
  have hunits : units rank ≠ 0 := fun hzero => hrank (units_eq_zero_iff.mp hzero)
  omega

/-- A decimal in the interval of a finite rank is not beyond the place of the infinities. -/
theorem RoundsDecimal.le_units_rankCount (h : RoundsDecimal coefficient exponent rank)
    (hrank : rank < rankCount) :
    coefficient * 10 ^ exponent.toNat * 2 ^ unitExponent ≤
      units rankCount * 10 ^ (-exponent).toNat := by
  have hself : units rank ≤ units rankCount := units_le_units (Nat.le_of_lt hrank)
  have hnext : units (rank + 1) ≤ units rankCount := units_le_units (Nat.succ_le_of_lt hrank)
  have hhigh : 2 * (coefficient * 10 ^ exponent.toNat * 2 ^ unitExponent) ≤
      2 * (units rankCount * 10 ^ (-exponent).toNat) := by
    rw [← Nat.mul_assoc 2 (units rankCount)]
    exact Nat.le_trans h.high (Nat.mul_le_mul_right _ (by omega))
  exact Nat.le_of_mul_le_mul_left hhigh Nat.two_pos

/-- A decimal in the interval of a positive rank is at least `2 ^ -1075`. -/
theorem RoundsDecimal.two_pow_le (h : RoundsDecimal coefficient exponent rank)
    (hrank : rank ≠ 0) :
    10 ^ (-exponent).toNat ≤ 2 ^ (unitExponent + 1) * (coefficient * 10 ^ exponent.toNat) := by
  have hunits : units rank ≠ 0 := fun hzero => hrank (units_eq_zero_iff.mp hzero)
  calc 10 ^ (-exponent).toNat
      = 1 * 10 ^ (-exponent).toNat := (Nat.one_mul _).symm
    _ ≤ (units (rank - 1) + units rank) * 10 ^ (-exponent).toNat :=
        Nat.mul_le_mul_right _ (by omega)
    _ ≤ 2 * (coefficient * 10 ^ exponent.toNat * 2 ^ unitExponent) := h.low
    _ = 2 ^ (unitExponent + 1) * (coefficient * 10 ^ exponent.toNat) := by
        rw [Nat.pow_succ, Nat.mul_comm _ (2 ^ unitExponent), ← Nat.mul_assoc, Nat.mul_comm 2]

/-- The digits of a number bound it from both sides. -/
theorem length_toDigits_bounds {n : Nat} (h : n ≠ 0) :
    10 ^ ((Nat.toDigits 10 n).length - 1) ≤ n ∧ n < 10 ^ (Nat.toDigits 10 n).length := by
  have hpos : 0 < (Nat.toDigits 10 n).length := Nat.length_toDigits_pos
  refine ⟨?_, (Nat.length_toDigits_le_iff (by omega) hpos).mp (Nat.le_refl _)⟩
  by_cases hone : (Nat.toDigits 10 n).length = 1
  · rw [hone, Nat.sub_self, Nat.pow_zero]
    omega
  · refine Nat.le_of_not_lt fun hlt => ?_
    have := (Nat.length_toDigits_le_iff (n := n) (b := 10) (by omega)
      (k := (Nat.toDigits 10 n).length - 1) (by omega)).mpr hlt
    omega

/-- A decimal with more than `k` places before the point is at least `10 ^ k`. -/
theorem ten_pow_le_of_length {k : Nat} (hne : coefficient ≠ 0)
    (h : k < (Nat.toDigits 10 coefficient).length + exponent) :
    10 ^ k * 10 ^ (-exponent).toNat ≤ coefficient * 10 ^ exponent.toNat :=
  calc 10 ^ k * 10 ^ (-exponent).toNat
      = 10 ^ (k + (-exponent).toNat) := (Nat.pow_add _ _ _).symm
    _ ≤ 10 ^ ((Nat.toDigits 10 coefficient).length - 1 + exponent.toNat) :=
        Nat.pow_le_pow_right (by omega) (by omega)
    _ = 10 ^ ((Nat.toDigits 10 coefficient).length - 1) * 10 ^ exponent.toNat :=
        Nat.pow_add _ _ _
    _ ≤ coefficient * 10 ^ exponent.toNat :=
        Nat.mul_le_mul_right _ (length_toDigits_bounds hne).1

/-- A decimal with at least `k` zeros behind the point is less than `10 ^ -k`. -/
theorem lt_ten_pow_of_length {k : Nat} (hne : coefficient ≠ 0)
    (h : (Nat.toDigits 10 coefficient).length + exponent ≤ -(k : Int)) :
    10 ^ k * (coefficient * 10 ^ exponent.toNat) < 10 ^ (-exponent).toNat :=
  calc 10 ^ k * (coefficient * 10 ^ exponent.toNat)
      = 10 ^ k * coefficient := by
        rw [Int.toNat_of_nonpos (by omega), Nat.pow_zero, Nat.mul_one]
    _ < 10 ^ k * 10 ^ (Nat.toDigits 10 coefficient).length :=
        Nat.mul_lt_mul_of_pos_left (length_toDigits_bounds hne).2 (ten_pow_pos _)
    _ = 10 ^ (k + (Nat.toDigits 10 coefficient).length) := (Nat.pow_add _ _ _).symm
    _ ≤ 10 ^ (-exponent).toNat := Nat.pow_le_pow_right (by omega) (by omega)

theorem units_rankCount_lt : units rankCount < 10 ^ (310 : Nat) * 2 ^ unitExponent := by
  decide +kernel

theorem two_pow_le_ten_pow : 2 ^ (unitExponent + 1) ≤ 10 ^ (330 : Nat) := by decide +kernel

/-- A decimal in the interval of a finite rank has at most 310 places before the point. -/
theorem RoundsDecimal.length_le (h : RoundsDecimal coefficient exponent rank)
    (hrank : rank < rankCount) (hne : coefficient ≠ 0) :
    (Nat.toDigits 10 coefficient).length + exponent ≤ 310 := by
  refine Int.not_lt.mp fun hlong => ?_
  have hsmall := Nat.mul_lt_mul_of_pos_right units_rankCount_lt (ten_pow_pos (-exponent).toNat)
  have hplaces : ((310 : Nat) : Int) < (Nat.toDigits 10 coefficient).length + exponent := hlong
  have hpow := Nat.mul_le_mul_right (2 ^ unitExponent) (ten_pow_le_of_length hne hplaces)
  rw [Nat.mul_right_comm] at hpow
  exact absurd (h.le_units_rankCount hrank) (Nat.not_le.mpr (Nat.lt_of_lt_of_le hsmall hpow))

/-- A decimal in the interval of a positive rank has at most 330 zeros behind the point. -/
theorem RoundsDecimal.le_length (h : RoundsDecimal coefficient exponent rank)
    (hrank : rank ≠ 0) (hne : coefficient ≠ 0) :
    -330 ≤ (Nat.toDigits 10 coefficient).length + exponent := by
  refine Int.not_lt.mp fun hshort => ?_
  have hsmall := Nat.mul_le_mul_right (coefficient * 10 ^ exponent.toNat) two_pow_le_ten_pow
  have hplaces : (Nat.toDigits 10 coefficient).length + exponent ≤ -((330 : Nat) : Int) :=
    Int.le_of_lt hshort
  have hpow := lt_ten_pow_of_length hne hplaces
  exact absurd (Nat.le_trans (h.two_pow_le hrank) hsmall) (Nat.not_le.mpr hpow)

/-- **A decimal in the interval of a positive finite rank is read as the number of that
rank.** -/
theorem toBinary64_of_roundsDecimal (negative : Bool)
    (h : RoundsDecimal coefficient exponent rank) (hrank : rank < rankCount) (hne : rank ≠ 0) :
    Decimal.toBinary64 ⟨negative, coefficient, exponent⟩ = ofRank negative rank := by
  have hcoefficient := h.coefficient_ne_zero hne
  have hlength : (⟨negative, coefficient, exponent⟩ : Decimal).length =
      (Nat.toDigits 10 coefficient).length := if_neg hcoefficient
  have hleast := h.le_length hne hcoefficient
  have hmost := h.length_le hrank hcoefficient
  rw [Decimal.toBinary64, hlength, if_neg hcoefficient, if_neg (by simp only; omega),
    if_neg (by simp only; omega)]
  unfold RoundsDecimal at h
  by_cases hwhole : 0 ≤ exponent
  · rw [if_pos hwhole, ofRatio]
    rw [Int.toNat_of_nonpos (z := -exponent) (by omega), Nat.pow_zero] at h
    rw [(nearestRank_eq_iff Nat.one_pos).mpr h]
  · rw [if_neg hwhole, ofRatio]
    rw [Int.toNat_of_nonpos (z := exponent) (by omega), Nat.pow_zero, Nat.mul_one] at h
    rw [(nearestRank_eq_iff (ten_pow_pos _)).mpr h]

end Reading

end Binary64
end WebhookRelay
