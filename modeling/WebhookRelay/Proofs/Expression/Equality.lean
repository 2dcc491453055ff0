import WebhookRelay.Proofs.Expression.Comparison

/-! # The two equalities

On operands of one kind, loose and strict equality ought to be the same.  They are on null,
truth values and texts.  Between numbers they differ in two ways, since loose equality
converts integers and strict equality does not.

* An integer may be too large to be converted: then loose equality fails.
* Conversion may **merge** two numbers (`Located.Merged`): then they are loosely equal and not
  strictly equal.

Nothing else goes wrong: operands that can be converted are strictly equal if they are loosely
equal and not merged (`Located.exists_looselyEquals`).  Neither of the two happens without an
integer above `2 ^ 53`.  The main statement puts this together (`Located.equalities_agree`), and
the inputs after it show both.
-/

namespace WebhookRelay

/-- The least magnitude of an integer that is no binary64 number. -/
def Binary64.inexact : Nat := 2 ^ (53 : Nat) + 1

namespace Value

variable {v : Value}

/-- The kinds of operands on which loose equality ought to be strict equality.  Integers and
binary64 numbers are of one kind. -/
inductive Kind where
  | null
  | truth
  | number
  | text

/-- The kind of a value; containers have none. -/
def kind? : Value → Option Kind
  | null => some .null
  | bool _ => some .truth
  | int _ | float _ => some .number
  | text _ | garbled _ => some .text
  | list _ | object _ => none

/-- The value is no integer of this magnitude or a larger one. -/
def Below (bound : Nat) (v : Value) : Prop := ∀ n, v = .int n → n.natAbs < bound

theorem isNumber_of_kind? (h : v.kind? = some .number) : v.isNumber = true := by
  cases v with
  | int _ | float _ => rfl
  | _ => cases h

theorem isNumber_ofWide (s : Wide) : (ofWide s).isNumber = false := by cases s <;> rfl

theorem isPlain_of_isNumber (h : v.isNumber = true) : v.isPlain = true := by
  cases v with
  | int _ | float _ => rfl
  | _ => cases h

/-- Only an integer is too large for anything. -/
theorem kind?_of_not_below {bound : Nat} (h : ¬ v.Below bound) : v.kind? = some .number := by
  cases v with
  | int n => rfl
  | _ => exact absurd nofun h

/-- A conversion fails at integers beyond the range only. -/
theorem toNumber_eq_error_iff {fault : Fault} :
    v.toNumber = .error fault ↔ ¬ v.Below Binary64.overflow ∧ fault = .integerTooLarge := by
  cases v with
  | int n =>
    have hbelow : (int n).Below Binary64.overflow ↔ n.natAbs < Binary64.overflow :=
      ⟨fun h => h n rfl, fun h m hm => Value.int.inj hm ▸ h⟩
    rw [toNumber, Binary64.ofInt?_eq_error_iff, hbelow, Nat.not_lt]
  | _ => exact iff_of_false nofun fun h => h.1 nofun

theorem convertible_iff_below : v.Convertible ↔ v.Below Binary64.overflow := by
  cases hx : v.toNumber with
  | ok x =>
    refine iff_of_true ⟨x, hx⟩ ?_
    by_contra hbelow
    rw [toNumber_eq_error_iff.mpr ⟨hbelow, rfl⟩] at hx
    cases hx
  | error fault =>
    refine iff_of_false ?_ (toNumber_eq_error_iff.mp hx).1
    rintro ⟨x, hok⟩
    rw [hok] at hx
    cases hx

/-- A number has an exact value, unless it is what is not a number. -/
theorem exists_extent? {x : Binary64} (hnumber : v.isNumber = true) (hx : v.toNumber = .ok x)
    (hne : x ≠ .nan) : ∃ e, v.extent? = some e := by
  cases v with
  | int n => exact ⟨_, rfl⟩
  | float y =>
    obtain rfl : y = x := Except.ok.inj hx
    cases y with
    | nan => exact absurd rfl hne
    | _ => exact ⟨_, rfl⟩
  | _ => cases hnumber

/-- **Conversion keeps the exact value** of a number that is no integer above `2 ^ 53`. -/
theorem extent?_of_toNumber {x : Binary64} (hnumber : v.isNumber = true)
    (hbelow : v.Below Binary64.inexact) (hx : v.toNumber = .ok x) : x.extent? = v.extent? := by
  cases v with
  | int n =>
    obtain ⟨-, rfl⟩ := Binary64.ofInt?_eq_ok_iff.mp hx
    exact Binary64.extent?_ofInt (Nat.lt_succ_iff.mp (hbelow n rfl))
  | float y =>
    obtain rfl : y = x := Except.ok.inj hx
    rfl
  | _ => cases hnumber

theorem Below.mono {bound limit : Nat} (h : v.Below bound) (hle : bound ≤ limit) :
    v.Below limit := fun n hn => Nat.lt_of_lt_of_le (h n hn) hle

end Value

namespace Located

variable {a b : Located} {kind : Value.Kind}

/-- Conversion makes two operands of different exact values equal. -/
def Merged (a b : Located) : Prop :=
  a.value.extent? ≠ b.value.extent? ∧
    ∃ x y, a.value.toNumber = .ok x ∧ b.value.toNumber = .ok y ∧ x.eq y = true

theorem Merged.below (h : Merged a b) :
    a.value.Below Binary64.overflow ∧ b.value.Below Binary64.overflow := by
  obtain ⟨-, x, y, hx, hy, -⟩ := h
  exact ⟨Value.convertible_iff_below.mp ⟨x, hx⟩, Value.convertible_iff_below.mp ⟨y, hy⟩⟩

/-! ## Numbers -/

section Numbers

variable (ha : a.value.isNumber = true) (hb : b.value.isNumber = true)
include ha hb

/-- Numbers are loosely equal if they are equal after conversion. -/
theorem looselyEquals_of_numbers : a.looselyEquals b = converted Binary64.eq a b := by
  have hplain := Value.isPlain_of_isNumber ha
  refine looselyEquals_of_not_texts hplain (Value.isPlain_of_isNumber hb) ?_
  rintro ⟨s, t, hs, -⟩
  rw [Value.wide?_eq_some_iff.mp hs, Value.isNumber_ofWide] at ha
  cases ha

/-- Conversion merges no numbers without an integer above `2 ^ 53` among them. -/
theorem not_merged_of_below (hfirst : a.value.Below Binary64.inexact)
    (hsecond : b.value.Below Binary64.inexact) : ¬ Merged a b := by
  rintro ⟨hne, x, y, hx, hy, heq⟩
  obtain ⟨e, hex, hey⟩ := Binary64.eq_iff_extent?.mp heq
  rw [Value.extent?_of_toNumber ha hfirst hx] at hex
  rw [Value.extent?_of_toNumber hb hsecond hy] at hey
  exact hne (hex.trans hey.symm)

/-- **Numbers are strictly equal** if they are equal after conversion and not merged by it. -/
theorem strictlyEquals_iff_not_merged {x y : Binary64} (hx : a.value.toNumber = .ok x)
    (hy : b.value.toNumber = .ok y) :
    a.strictlyEquals b = true ↔ x.eq y = true ∧ ¬ Merged a b := by
  constructor
  · intro hstrictly
    have hloosely := looselyEquals_of_strictlyEquals ⟨x, hx⟩ hstrictly
    rw [looselyEquals_of_numbers ha hb, converted_eq_ok hx hy] at hloosely
    obtain ⟨e, hfirst, hsecond⟩ := (strictlyEquals_iff_extent? ha hb).mp hstrictly
    exact ⟨Except.ok.inj hloosely, fun hmerged => hmerged.1 (hfirst.trans hsecond.symm)⟩
  · rintro ⟨heq, hmerged⟩
    have hsame : a.value.extent? = b.value.extent? :=
      not_not.mp fun hne => hmerged ⟨hne, x, y, hx, hy, heq⟩
    have hne : x ≠ .nan := by
      rintro rfl
      cases heq
    obtain ⟨e, he⟩ := Value.exists_extent? ha hx hne
    exact (strictlyEquals_iff_extent? ha hb).mpr ⟨e, he, hsame.symm.trans he⟩

end Numbers

/-! ## Operands of one kind -/

section Kinds

variable (ha : a.value.kind? = some kind) (hb : b.value.kind? = some kind)
include ha hb

/-- What is no number is compared alike by both equalities. -/
theorem looselyEquals_of_kind_ne_number (h : kind ≠ .number) :
    a.looselyEquals b = .ok (a.strictlyEquals b) := by
  obtain ⟨p, v⟩ := a
  obtain ⟨q, w⟩ := b
  cases kind with
  | null =>
    cases v <;> cases ha
    cases w <;> cases hb
    rfl
  | truth =>
    have hbits : ∀ r s : Bool, (Binary64.ofInt (if r then 1 else 0)).eq
        (Binary64.ofInt (if s then 1 else 0)) = decide (r = s) := by decide +kernel
    cases v with
    | bool r =>
      cases w with
      | bool s => exact congrArg Except.ok (hbits r s)
      | _ => cases hb
    | _ => cases ha
  | number => exact absurd rfl h
  | text => cases v <;> cases ha <;> cases w <;> cases hb <;> rfl

/-- Only numbers have an exact value, so nothing else is merged. -/
theorem Merged.kind_eq_number (h : Merged a b) : kind = .number := by
  by_contra hkind
  have hextent : ∀ v : Value, v.kind? = some kind → v.extent? = none := by
    intro v hv
    cases v with
    | int _ | float _ => exact absurd (Option.some.inj hv).symm hkind
    | _ => rfl
  exact h.1 ((hextent _ ha).trans (hextent _ hb).symm)

/-- Operands that can be converted are strictly equal if they are loosely equal and not
merged. -/
theorem exists_looselyEquals (hfirst : a.value.Convertible) (hsecond : b.value.Convertible) :
    ∃ r, a.looselyEquals b = .ok r ∧ (Merged a b → r = true) ∧
      (a.strictlyEquals b = true ↔ r = true ∧ ¬ Merged a b) := by
  by_cases hkind : kind = .number
  · subst hkind
    have hna := Value.isNumber_of_kind? ha
    have hnb := Value.isNumber_of_kind? hb
    obtain ⟨x, hx⟩ := hfirst
    obtain ⟨y, hy⟩ := hsecond
    refine ⟨x.eq y, ?_, ?_, strictlyEquals_iff_not_merged hna hnb hx hy⟩
    · rw [looselyEquals_of_numbers hna hnb, converted_eq_ok hx hy]
    · rintro ⟨-, x', y', hx', hy', heq⟩
      obtain rfl := Except.ok.inj (hx.symm.trans hx')
      obtain rfl := Except.ok.inj (hy.symm.trans hy')
      exact heq
  · have hmerged : ¬ Merged a b := fun h => hkind (h.kind_eq_number ha hb)
    exact ⟨_, looselyEquals_of_kind_ne_number ha hb hkind, fun h => absurd h hmerged,
      (and_iff_left hmerged).symm⟩

/-- Loose equality fails at an integer beyond the range. -/
theorem looselyEquals_of_not_below
    (h : ¬ (a.value.Below Binary64.overflow ∧ b.value.Below Binary64.overflow)) :
    a.looselyEquals b = .error .integerTooLarge := by
  have hkind : kind = .number := by
    rcases not_and_or.mp h with hfirst | hsecond
    · exact Option.some.inj (ha.symm.trans (Value.kind?_of_not_below hfirst))
    · exact Option.some.inj (hb.symm.trans (Value.kind?_of_not_below hsecond))
  subst hkind
  rw [looselyEquals_of_numbers (Value.isNumber_of_kind? ha) (Value.isNumber_of_kind? hb),
    converted]
  cases hx : a.value.toNumber with
  | error fault =>
    rw [(Value.toNumber_eq_error_iff.mp hx).2]
    rfl
  | ok x =>
    have hsecond : ¬ b.value.Below Binary64.overflow := fun hb =>
      h ⟨Value.convertible_iff_below.mp ⟨x, hx⟩, hb⟩
    rw [Value.toNumber_eq_error_iff.mpr ⟨hsecond, rfl⟩]
    rfl

end Kinds

/-- **The two equalities agree** on operands of one kind if and only if no operand is an
integer beyond the range and conversion does not merge the two.  Beyond the range loose
equality fails, and of merged numbers it says that they are equal and strict equality that
they are not.  Neither happens without an integer above `2 ^ 53`. -/
theorem equalities_agree {a b : Located} {kind : Value.Kind} (ha : a.value.kind? = some kind)
    (hb : b.value.kind? = some kind) :
    (a.looselyEquals b = .ok (a.strictlyEquals b) ↔
      a.value.Below Binary64.overflow ∧ b.value.Below Binary64.overflow ∧ ¬ Merged a b) ∧
    (a.looselyEquals b = .error .integerTooLarge ↔
      ¬ (a.value.Below Binary64.overflow ∧ b.value.Below Binary64.overflow)) ∧
    (a.looselyEquals b = .ok true ∧ a.strictlyEquals b = false ↔ Merged a b) ∧
    (a.value.Below Binary64.inexact → b.value.Below Binary64.inexact →
      a.looselyEquals b = .ok (a.strictlyEquals b)) := by
  -- loose equality yields something in range and fails beyond it
  by_cases hbelow : a.value.Below Binary64.overflow ∧ b.value.Below Binary64.overflow
  · obtain ⟨r, hr, htrue, hstrictly⟩ := exists_looselyEquals ha hb
      (Value.convertible_iff_below.mpr hbelow.1) (Value.convertible_iff_below.mpr hbelow.2)
    have hagree : r = a.strictlyEquals b ↔ ¬ Merged a b := by
      rw [Bool.eq_iff_iff, hstrictly]
      exact ⟨fun h hmerged => (h.mp (htrue hmerged)).2 hmerged, fun h => (and_iff_left h).symm⟩
    rw [hr, Except.ok.injEq, Except.ok.injEq, hagree]
    refine ⟨?_, iff_of_false nofun fun h => h hbelow, ?_, fun hfirst hsecond hmerged => ?_⟩
    · rw [and_iff_right hbelow.1, and_iff_right hbelow.2]
    · rw [← Bool.not_eq_true, hstrictly]
      refine ⟨fun ⟨hloosely, hnot⟩ => ?_, fun h => ⟨htrue h, fun hboth => hboth.2 h⟩⟩
      exact not_not.mp fun hmerged => hnot ⟨hloosely, hmerged⟩
    · obtain rfl := hmerged.kind_eq_number ha hb
      exact not_merged_of_below (Value.isNumber_of_kind? ha) (Value.isNumber_of_kind? hb)
        hfirst hsecond hmerged
  · have hrange : Binary64.inexact ≤ Binary64.overflow := by decide +kernel
    rw [looselyEquals_of_not_below ha hb hbelow]
    refine ⟨iff_of_false nofun fun h => hbelow ⟨h.1, h.2.1⟩, iff_of_true rfl hbelow,
      iff_of_false nofun fun h => hbelow h.below, fun hfirst hsecond => ?_⟩
    exact absurd ⟨hfirst.mono hrange, hsecond.mono hrange⟩ hbelow

/-- `2 ^ 53` as an integer and as a binary64 number are compared alike. -/
theorem equalities_agree_last :
    let a : Located := ⟨[], .int 9007199254740992⟩
    let b : Located := ⟨[], .float (Binary64.ofInt 9007199254740992)⟩
    a.value.kind? = some .number ∧ b.value.kind? = some .number ∧
      a.looselyEquals b = .ok (a.strictlyEquals b) ∧ a.strictlyEquals b = true ∧ ¬ Merged a b := by
  intro a b
  have ha : a.value.kind? = some .number := rfl
  have hb : b.value.kind? = some .number := rfl
  have hfirst : a.value.Below Binary64.inexact := by
    intro n hn
    obtain rfl := Value.int.inj hn
    decide +kernel
  obtain ⟨hagree, -, -, hbelow⟩ := equalities_agree ha hb
  have hsame := hbelow hfirst nofun
  exact ⟨ha, hb, hsame, by decide +kernel, (hagree.mp hsame).2.2⟩

/-- The integers after and at `2 ^ 53` are loosely and not strictly equal.  The first integer
beyond the range is strictly equal to itself, and loose equality fails on it. -/
theorem equalities_disagree :
    let next : Located := ⟨[], .int 9007199254740993⟩
    let last : Located := ⟨[], .int 9007199254740992⟩
    let large : Located := ⟨[], .int Binary64.overflow⟩
    (next.looselyEquals last = .ok true ∧ next.strictlyEquals last = false) ∧
      large.looselyEquals large = .error .integerTooLarge ∧ large.strictlyEquals large = true := by
  decide +kernel

end Located
end WebhookRelay
