import WebhookRelay.Numeral
import WebhookRelay.Proofs.Binary64.Range

/-! # Exact values of binary64 numbers

A finite number is a whole number of units, and an integer is one too, since a unit is a
negative power of two.  So integers and binary64 numbers have exact values of one kind
(`Extent`), and this module says what the operations on binary64 numbers mean for them.

* Numbers are equal if and only if they have the same exact value; what is not a number has
  none (`Binary64.eq_iff_extent?`).
* A quotient that is a magnitude already is rounded to itself (`Binary64.nearestRank_of_units`).
  So an integer is converted exactly if any number has its value
  (`Binary64.extent?_ofInt_of_extent?`).
* That is the case for all integers up to `2 ^ 53` (`Binary64.extent?_ofInt`); the first one
  after these is not converted exactly.
-/

namespace WebhookRelay

/-- The exact value of a number: a whole number of units, or an infinity. -/
inductive Extent where
  | finite (units : Int)
  | infinite (negative : Bool)
  deriving DecidableEq, Repr

namespace Binary64
open Numeral (signed)

/-! ## Magnitudes -/

/-- A significand and a power of two make the magnitude of this rank. -/
theorem units_add {significand : Nat} (hlow : 2 ^ (52 : Nat) ≤ significand)
    (hhigh : significand ≤ 2 ^ (53 : Nat)) (shift : Nat) :
    units (significand + shift * 2 ^ (52 : Nat)) = significand * 2 ^ shift := by
  by_cases hfirst : significand + shift * 2 ^ (52 : Nat) < 2 ^ (53 : Nat)
  · obtain rfl : shift = 0 := by omega
    rw [units_of_lt hfirst]
    omega
  · rw [units, if_neg hfirst]
    rcases Nat.lt_or_eq_of_le hhigh with hlt | rfl
    · have hrest : (significand + shift * 2 ^ (52 : Nat)) % 2 ^ (52 : Nat) =
          significand - 2 ^ (52 : Nat) := by omega
      have hquotient : (significand + shift * 2 ^ (52 : Nat)) / 2 ^ (52 : Nat) - 1 = shift := by
        omega
      rw [hrest, hquotient, Nat.add_sub_cancel' hlow]
    · -- the significand is too large by one place, so the power of two is the next one
      have hrest : (2 ^ (53 : Nat) + shift * 2 ^ (52 : Nat)) % 2 ^ (52 : Nat) = 0 := by omega
      have hquotient : (2 ^ (53 : Nat) + shift * 2 ^ (52 : Nat)) / 2 ^ (52 : Nat) - 1 =
          1 + shift := by omega
      rw [hrest, hquotient, Nat.add_zero, Nat.pow_add, ← Nat.mul_assoc]
      rfl

/-- A rank beyond the first ones consists of a significand and a power of two. -/
theorem exists_significand {rank : Nat} (h : 2 ^ (53 : Nat) ≤ rank) :
    ∃ significand shift, 2 ^ (52 : Nat) ≤ significand ∧ significand < 2 ^ (53 : Nat) ∧
      rank = significand + shift * 2 ^ (52 : Nat) := by
  refine ⟨2 ^ (52 : Nat) + rank % 2 ^ (52 : Nat), rank / 2 ^ (52 : Nat) - 1, ?_, ?_, ?_⟩
  · omega
  · omega
  · omega

/-- A quotient without a rest is not rounded. -/
theorem divNearest_mul (n : Nat) {den : Nat} (hden : 0 < den) : divNearest (n * den) den = n := by
  rw [divNearest, Nat.mul_mod_left, Nat.mul_div_cancel n hden]
  rw [if_pos (by omega)]

/-- **A quotient that is a magnitude** is rounded to it. -/
theorem nearestRank_of_units {num den rank : Nat} (hden : 0 < den)
    (h : num * 2 ^ unitExponent = units rank * den) : nearestRank num den = rank := by
  simp only [nearestRank, h, Nat.mul_div_cancel _ hden]
  by_cases hfirst : rank < 2 ^ (53 : Nat)
  · -- the distance between magnitudes is one unit here
    have hshift : rank.log2 - 52 = 0 := by
      by_cases hzero : rank = 0
      · rw [hzero]
        rfl
      · have hlog := (Nat.log2_lt hzero).mpr hfirst
        omega
    rw [units_of_lt hfirst, hshift, Nat.pow_zero, Nat.mul_one, divNearest_mul rank hden]
    omega
  · obtain ⟨significand, shift, hlow, hhigh, rfl⟩ := exists_significand (Nat.not_lt.mp hfirst)
    have hlog : (significand * 2 ^ shift).log2 - 52 = shift := by
      have hne : significand ≠ 0 := by omega
      rw [log2_mul_two_pow hne, (Nat.log2_eq_iff hne).mpr ⟨hlow, hhigh⟩]
      omega
    have hpos : 0 < den * 2 ^ shift := Nat.mul_pos hden (Nat.two_pow_pos shift)
    rw [units_add hlow (Nat.le_of_lt hhigh), hlog, Nat.mul_assoc, Nat.mul_comm (2 ^ shift) den,
      divNearest_mul significand hpos]

/-- Different ranks have different magnitudes. -/
theorem units_injective {rank other : Nat} (h : units rank = units other) : rank = other := by
  have hpos : 0 < 2 ^ unitExponent := Nat.two_pow_pos unitExponent
  have hrank : nearestRank (units rank) (2 ^ unitExponent) = rank := nearestRank_of_units hpos rfl
  have hother : nearestRank (units rank) (2 ^ unitExponent) = other :=
    nearestRank_of_units hpos (by rw [h])
  exact hrank.symm.trans hother

theorem units_eq_zero_iff {rank : Nat} : units rank = 0 ↔ rank = 0 := by
  refine ⟨fun h => units_injective (h.trans units_zero.symm), ?_⟩
  rintro rfl
  exact units_zero

/-! ## Signs -/

theorem natAbs_signed (negative : Bool) (m : Nat) : (signed negative m).natAbs = m := by
  cases negative <;> simp [signed]

theorem signed_mul (negative : Bool) (m k : Nat) :
    signed negative (m * k) = signed negative m * (k : Int) := by
  cases negative with
  | false => exact Int.natCast_mul m k
  | true =>
    change -((m * k : Nat) : Int) = -(m : Int) * (k : Int)
    rw [Int.natCast_mul, Int.neg_mul]

theorem signed_natAbs (n : Int) : signed (n < 0) n.natAbs = n := by
  by_cases h : n < 0
  · rw [decide_eq_true h]
    change -(n.natAbs : Int) = n
    omega
  · rw [decide_eq_false h]
    change (n.natAbs : Int) = n
    omega

/-- Signed magnitudes are equal if they are equal with their signs, or both zero. -/
theorem signed_eq_iff {negative other : Bool} {m n : Nat} :
    signed negative m = signed other n ↔ m = n ∧ (negative = other ∨ m = 0) := by
  cases negative <;> cases other <;> simp [signed] <;> omega

/-- Signed ranks are equal if the signed magnitudes are. -/
theorem signed_units_eq_iff {negative other : Bool} {rank third : Nat} :
    signed negative (units rank) = signed other (units third) ↔
      signed negative rank = signed other third := by
  rw [signed_eq_iff, signed_eq_iff, units_eq_zero_iff]
  refine and_congr_left fun _ => ⟨units_injective, ?_⟩
  rintro rfl
  rfl

/-! ## Exact values -/

/-- The exact value of an integer. -/
def extentOfInt (n : Int) : Extent := .finite (n * (2 ^ unitExponent : Nat))

/-- The exact value of a number; what is not a number has none. -/
def extent? : Binary64 → Option Extent
  | nan => none
  | infinity negative => some (.infinite negative)
  | finite negative rank => some (.finite (signed negative (units rank)))

theorem extentOfInt_inj {m n : Int} : extentOfInt m = extentOfInt n ↔ m = n := by
  have hne : ((2 ^ unitExponent : Nat) : Int) ≠ 0 :=
    Int.natCast_ne_zero.mpr (Nat.ne_of_gt (Nat.two_pow_pos unitExponent))
  rw [extentOfInt, extentOfInt, Extent.finite.injEq]
  exact Int.mul_eq_mul_right_iff hne

theorem position?_finite (negative : Bool) (rank : Fin rankCount) :
    (finite negative rank).position? = some (signed negative rank) := rfl

theorem position?_infinity (negative : Bool) :
    (infinity negative).position? = some (signed negative rankCount) := by
  cases negative <;> rfl

/-- All ranks beyond the finite ones are at the place of the infinities. -/
theorem position?_ofRank (negative : Bool) (rank : Nat) :
    (ofRank negative rank).position? = some (signed negative (min rank rankCount)) := by
  rw [ofRank]
  split
  · rename_i hfinite
    rw [position?_finite, Nat.min_eq_left (Nat.le_of_lt hfinite)]
  · rename_i hbeyond
    rw [position?_infinity, Nat.min_eq_right (Nat.not_lt.mp hbeyond)]

/-- No rank is as far from zero as the infinities. -/
theorem signed_rank_ne (negative other : Bool) (rank : Fin rankCount) :
    signed negative rank.val ≠ signed other rankCount := fun h =>
  Nat.ne_of_lt rank.isLt (signed_eq_iff.mp h).1

/-- Equal positions are equal exact values. -/
theorem position?_eq_iff_extent? {x y : Binary64} :
    x.position? = y.position? ↔ x.extent? = y.extent? := by
  cases x with
  | nan => cases y <;> simp [position?, extent?]
  | infinity negative =>
    cases y with
    | nan => simp [position?, extent?]
    | infinity other =>
      have hne : rankCount ≠ 0 := by decide +kernel
      rw [position?_infinity, position?_infinity, Option.some_inj, signed_eq_iff]
      simp [extent?, hne]
    | finite other rank =>
      rw [position?_infinity, position?_finite, Option.some_inj]
      exact iff_of_false (signed_rank_ne other negative rank).symm (by simp [extent?])
  | finite negative rank =>
    cases y with
    | nan => simp [position?, extent?]
    | infinity other =>
      rw [position?_infinity, position?_finite, Option.some_inj]
      exact iff_of_false (signed_rank_ne negative other rank) (by simp [extent?])
    | finite other third =>
      rw [position?_finite, position?_finite, Option.some_inj, ← signed_units_eq_iff]
      simp [extent?]

/-- **Numbers are equal if they have the same exact value.** -/
theorem eq_iff_extent? {x y : Binary64} :
    x.eq y = true ↔ ∃ e, x.extent? = some e ∧ y.extent? = some e := by
  have hsome : ∀ z : Binary64, (∃ i, z.position? = some i) ↔ ∃ e, z.extent? = some e := by
    intro z
    cases z <;> simp [position?, extent?]
  rw [eq_iff_position]
  constructor
  · rintro ⟨i, hx, hy⟩
    obtain ⟨e, he⟩ := (hsome x).mp ⟨i, hx⟩
    exact ⟨e, he, (position?_eq_iff_extent?.mp (hy.trans hx.symm)).trans he⟩
  · rintro ⟨e, hx, hy⟩
    obtain ⟨i, hi⟩ := (hsome x).mpr ⟨e, hx⟩
    exact ⟨i, hi, (position?_eq_iff_extent?.mpr (hy.trans hx.symm)).trans hi⟩

/-- The integer that a number is equal to has the same exact value. -/
theorem toInt?_eq_some_iff {x : Binary64} {n : Int} :
    x.toInt? = some n ↔ x.extent? = some (extentOfInt n) := by
  cases x with
  | nan => exact iff_of_false (by simp [toInt?]) (by simp [extent?])
  | infinity negative =>
    refine iff_of_false (by simp [toInt?]) fun h => ?_
    cases h
  | finite negative rank =>
    have hpos : 0 < 2 ^ unitExponent := Nat.two_pow_pos unitExponent
    have hne : ((2 ^ unitExponent : Nat) : Int) ≠ 0 := Int.natCast_ne_zero.mpr (Nat.ne_of_gt hpos)
    have hwhole : (finite negative rank).toInt? =
        if units rank % 2 ^ unitExponent = 0
          then some (signed negative (units rank / 2 ^ unitExponent)) else none := rfl
    rw [hwhole, extent?, Option.some_inj, extentOfInt, Extent.finite.injEq]
    constructor
    · intro h
      split at h
      · rename_i hrest
        obtain rfl := Option.some.inj h
        rw [← signed_mul, Nat.div_mul_cancel (Nat.dvd_of_mod_eq_zero hrest)]
      · cases h
    · intro h
      have hunits : units rank = n.natAbs * 2 ^ unitExponent := by
        rw [← natAbs_signed negative (units rank), h, Int.natAbs_mul, Int.natAbs_natCast]
      rw [hunits, signed_mul] at h
      rw [hunits, Nat.mul_mod_left, if_pos rfl, Nat.mul_div_cancel _ hpos,
        Int.eq_of_mul_eq_mul_right hne h]

theorem eq_self {x : Binary64} (h : x ≠ nan) : x.eq x = true := by
  cases x with
  | nan => exact absurd rfl h
  | _ => simp [eq, position?]

/-! ## Converting integers -/

theorem ofInt_ne_nan (n : Int) : ofInt n ≠ nan := by
  rw [ofInt, ofRatio, ofRank]
  split <;> simp

/-- The conversion of an integer succeeds if the number nearest to it is a finite one. -/
theorem ofInt?_eq_ok_iff {x : Binary64} {n : Int} :
    ofInt? n = .ok x ↔ (ofInt n).isFinite = true ∧ ofInt n = x := by
  rw [ofInt?]
  split
  · rename_i h
    rw [Except.ok.injEq]
    exact (and_iff_right h).symm
  · rename_i h
    exact iff_of_false (by simp) fun hboth => h hboth.1

/-- An integer is converted exactly if its value is a magnitude. -/
theorem extent?_ofInt_of_units {n : Int} {rank : Nat} (hrank : rank < rankCount)
    (h : n.natAbs * 2 ^ unitExponent = units rank) : (ofInt n).extent? = some (extentOfInt n) := by
  have hnearest : nearestRank n.natAbs 1 = rank :=
    nearestRank_of_units Nat.one_pos (by rw [h, Nat.mul_one])
  rw [ofInt, ofRatio, hnearest, ofRank, dif_pos hrank, extent?, ← h, signed_mul, signed_natAbs,
    extentOfInt]

/-- **An integer is converted exactly** if any number has its value. -/
theorem extent?_ofInt_of_extent? {x : Binary64} {n : Int} (h : x.extent? = some (extentOfInt n)) :
    (ofInt n).extent? = some (extentOfInt n) := by
  cases x with
  | nan => cases h
  | infinity negative => cases h
  | finite negative rank =>
    have hunits : signed negative (units rank) = n * (2 ^ unitExponent : Nat) :=
      Extent.finite.inj (Option.some.inj h)
    refine extent?_ofInt_of_units rank.isLt ?_
    rw [← natAbs_signed negative (units rank), hunits, Int.natAbs_mul, Int.natAbs_natCast]

/-- So its conversion succeeds. -/
theorem ofInt?_of_extent? {x : Binary64} {n : Int} (h : x.extent? = some (extentOfInt n)) :
    ofInt? n = .ok (ofInt n) := by
  have hexact := extent?_ofInt_of_extent? h
  refine ofInt?_eq_ok_iff.mpr ⟨?_, rfl⟩
  cases hnumber : ofInt n with
  | finite negative rank => rfl
  | _ =>
    rw [hnumber] at hexact
    cases hexact

/-- A number up to `2 ^ 53` is a significand once it is shifted far enough. -/
theorem exists_shift {n : Nat} (hzero : n ≠ 0) (h : n ≤ 2 ^ (53 : Nat)) :
    ∃ k : Nat, k ≤ 52 ∧ 2 ^ (52 : Nat) ≤ n * 2 ^ k ∧ n * 2 ^ k ≤ 2 ^ (53 : Nat) := by
  by_cases hlog : n.log2 ≤ 52
  · refine ⟨52 - n.log2, by omega, ?_, ?_⟩
    · calc 2 ^ (52 : Nat) = 2 ^ n.log2 * 2 ^ (52 - n.log2) := by
            rw [← Nat.pow_add, Nat.add_sub_cancel' hlog]
        _ ≤ n * 2 ^ (52 - n.log2) := Nat.mul_le_mul_right _ (Nat.log2_self_le hzero)
    · calc n * 2 ^ (52 - n.log2)
          ≤ 2 ^ (n.log2 + 1) * 2 ^ (52 - n.log2) :=
            Nat.mul_le_mul_right _ (Nat.le_of_lt Nat.lt_log2_self)
        _ = 2 ^ (53 : Nat) := by
            rw [← Nat.pow_add]
            congr 1
            omega
  · -- only `2 ^ 53` itself has so large a logarithm
    have hpow : 2 ^ (53 : Nat) ≤ n :=
      Nat.le_trans (Nat.pow_le_pow_right Nat.two_pos (Nat.lt_of_not_le hlog))
        (Nat.log2_self_le hzero)
    exact ⟨0, by omega, by omega, by omega⟩

/-- **The integers up to `2 ^ 53`** are converted exactly. -/
theorem extent?_ofInt {n : Int} (h : n.natAbs ≤ 2 ^ (53 : Nat)) :
    (ofInt n).extent? = some (extentOfInt n) := by
  by_cases hzero : n.natAbs = 0
  · have hunits : n.natAbs * 2 ^ unitExponent = units 0 := by
      rw [hzero, Nat.zero_mul, units_zero]
    exact extent?_ofInt_of_units (by decide +kernel) hunits
  · obtain ⟨k, hk, hlow, hhigh⟩ := exists_shift hzero h
    have hunits : n.natAbs * 2 ^ unitExponent =
        units (n.natAbs * 2 ^ k + (unitExponent - k) * 2 ^ (52 : Nat)) := by
      have hsplit : unitExponent = k + (unitExponent - k) := by
        rw [unitExponent]
        omega
      rw [units_add hlow hhigh, Nat.mul_assoc, ← Nat.pow_add, ← hsplit]
    refine extent?_ofInt_of_units ?_ hunits
    rw [rankCount, unitExponent]
    omega

/-- After these comes an integer that is converted to the same number as the one before. -/
example : ofInt (2 ^ (53 : Nat) + 1) = ofInt (2 ^ (53 : Nat)) := by decide +kernel

end Binary64
end WebhookRelay
