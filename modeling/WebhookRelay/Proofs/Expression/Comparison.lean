import Mathlib.Data.Int.Order.Basic
import Mathlib.Data.List.Lex
import WebhookRelay.Expression.Operator
import WebhookRelay.Proofs.Binary64.Exact

/-! # Laws of the comparison operators

Six of the operators compare their operands in ways that differ in detail: strict equality
compares exactly, loose equality and the orders compare after conversion, and texts, null and
containers have rules of their own.  The laws that tie the six together follow from two
descriptions.

* Two operands are strictly equal if and only if both have an **identity** and it is the same
  one (`Located.strictlyEquals_iff_identity?`).  What is not a number has no identity; the
  identity of a number is its exact value, and that of a container is its place.
* Two operands stand in one **order** at most (`Located.order?`), from which the orders and,
  between operands that are neither null nor containers, loose equality are read off.

The main statement is that any two operands that can be converted are compared consistently
(`Operator.consistent_of_convertible`).
-/

namespace WebhookRelay

/-! ## The order of texts -/

namespace Wide

variable {s t : Wide}

theorem codes_injective (h : s.codes = t.codes) : s = t :=
  points_injective (List.map_injective_iff.mpr (fun _ _ => Point.code_injective) h)

theorem lt_iff_codes_lt : s < t ↔ s.codes < t.codes := Iff.rfl

theorem le_iff_codes_le : s ≤ t ↔ s.codes ≤ t.codes := not_lt (a := t.codes)

instance : LinearOrder Wide where
  le_refl _ := le_iff_codes_le.mpr le_rfl
  le_trans s t u := by
    simp only [le_iff_codes_le]
    exact le_trans
  lt_iff_le_not_ge s t := by
    simp only [lt_iff_codes_lt, le_iff_codes_le, lt_iff_le_not_ge]
  le_antisymm s t := by
    simp only [le_iff_codes_le]
    exact fun hst hts => codes_injective (le_antisymm hst hts)
  le_total s t := by
    simp only [le_iff_codes_le]
    exact le_total _ _
  toDecidableLE := inferInstance
  toDecidableEq := inferInstance
  toDecidableLT := inferInstance

end Wide

/-! ## Identities -/

/-- What strict equality looks at. -/
inductive Identity where
  | null
  | truth (b : Bool)
  | number (extent : Extent)
  | text (s : Wide)
  | container (place : Place)
  deriving DecidableEq

namespace Value

/-- The exact value of an integer or a binary64 number. -/
def extent? : Value → Option Extent
  | int n => some (Binary64.extentOfInt n)
  | float x => x.extent?
  | _ => none

/-- Is the value neither null nor a container? -/
def isPlain : Value → Bool
  | null | list _ | object _ => false
  | _ => true

/-- The value can be converted to a binary64 number: it is no integer beyond the range. -/
def Convertible (v : Value) : Prop := ∃ x, v.toNumber = .ok x

end Value

namespace Located

variable {a b c : Located}

/-- The identity of an operand; what is not a number has none. -/
def identity? (a : Located) : Option Identity :=
  match a.value with
  | .null => some .null
  | .bool b => some (.truth b)
  | .int n => some (.number (Binary64.extentOfInt n))
  | .float x => x.extent?.map .number
  | .text s => some (.text s)
  | .garbled s => some (.text (.garbled s))
  | .list _ | .object _ => some (.container a.place)

/-- **Strict equality is having the same identity.** -/
theorem strictlyEquals_iff_identity? :
    a.strictlyEquals b = true ↔ ∃ i, a.identity? = some i ∧ b.identity? = some i := by
  obtain ⟨p, v⟩ := a
  obtain ⟨q, w⟩ := b
  -- one case for each pair of kinds; only numbers of two kinds can be equal across kinds
  cases v <;> cases w <;>
    simp [strictlyEquals, identity?, Value.isContainer, Binary64.toInt?_eq_some_iff,
      Binary64.eq_iff_extent?, Binary64.extentOfInt_inj]
  all_goals exact eq_comm

/-- Strict equality is symmetric. -/
theorem strictlyEquals_comm : a.strictlyEquals b = true ↔ b.strictlyEquals a = true := by
  rw [strictlyEquals_iff_identity?, strictlyEquals_iff_identity?]
  exact exists_congr fun _ => and_comm

/-- Strict equality is transitive, since an operand has one identity at most. -/
theorem strictlyEquals_trans (hab : a.strictlyEquals b = true) (hbc : b.strictlyEquals c = true) :
    a.strictlyEquals c = true := by
  rw [strictlyEquals_iff_identity?] at hab hbc ⊢
  obtain ⟨i, ha, hb⟩ := hab
  obtain ⟨j, hb', hc⟩ := hbc
  obtain rfl : i = j := Option.some.inj (hb.symm.trans hb')
  exact ⟨i, ha, hc⟩

/-- The identity of a number is its exact value. -/
theorem identity?_of_isNumber (h : a.value.isNumber = true) :
    a.identity? = a.value.extent?.map .number := by
  obtain ⟨p, v⟩ := a
  cases v with
  | int _ | float _ => rfl
  | _ => cases h

/-- Two numbers of any kinds are strictly equal if they have the same exact value. -/
theorem strictlyEquals_iff_extent? (ha : a.value.isNumber = true) (hb : b.value.isNumber = true) :
    a.strictlyEquals b = true ↔ ∃ e, a.value.extent? = some e ∧ b.value.extent? = some e := by
  rw [strictlyEquals_iff_identity?, identity?_of_isNumber ha, identity?_of_isNumber hb]
  constructor
  · rintro ⟨i, hi, hj⟩
    obtain ⟨e, hfirst, rfl⟩ := Option.map_eq_some_iff.mp hi
    obtain ⟨other, hsecond, he⟩ := Option.map_eq_some_iff.mp hj
    exact ⟨e, hfirst, by rw [hsecond, Identity.number.inj he]⟩
  · rintro ⟨e, ha, hb⟩
    exact ⟨.number e, by rw [ha, Option.map_some], by rw [hb, Option.map_some]⟩

end Located

/-! ## Orders -/

namespace Binary64

variable {x y : Binary64}

/-- How two numbers are ordered.  What is not a number is in no order with anything. -/
def order? (x y : Binary64) : Option Ordering :=
  match x.position?, y.position? with
  | some i, some j => some (compare i j)
  | _, _ => none

theorem lt_eq_order? : x.lt y = decide (x.order? y = some .lt) := by
  rw [lt, order?]
  cases x.position? <;> cases y.position? <;> simp [compare_lt_iff_lt]

theorem eq_eq_order? : x.eq y = decide (x.order? y = some .eq) := by
  rw [eq, order?]
  cases x.position? <;> cases y.position? <;> simp

theorem le_eq_order? :
    x.le y = (decide (x.order? y = some .lt) || decide (x.order? y = some .eq)) := by
  rw [le, order?]
  cases x.position? <;> cases y.position? <;> simp [compare_lt_iff_lt, le_iff_lt_or_eq]

/-- The order of two numbers from the other side. -/
theorem order?_swap (x y : Binary64) : y.order? x = (x.order? y).map Ordering.swap := by
  rw [order?, order?]
  cases x.position? <;> cases y.position? <;> simp [Int.compare_swap]

theorem gt_eq_order? : y.lt x = decide (x.order? y = some .gt) := by
  rw [lt_eq_order?, order?_swap x y]
  cases x.order? y with
  | none => rfl
  | some o => cases o <;> rfl

theorem ge_eq_order? :
    y.le x = (decide (x.order? y = some .gt) || decide (x.order? y = some .eq)) := by
  rw [le_eq_order?, order?_swap x y]
  cases x.order? y with
  | none => rfl
  | some o => cases o <;> rfl

theorem order?_eq_none_iff : x.order? y = none ↔ x = nan ∨ y = nan := by
  cases x <;> cases y <;> simp [order?, position?]

end Binary64

namespace Value

theorem isContainer_of_isPlain {v : Value} (h : v.isPlain = true) : v.isContainer = false := by
  cases v with
  | list _ | object _ => cases h
  | _ => rfl

/-- Texts are neither null nor containers. -/
theorem isPlain_of_wide? {v : Value} {s : Wide} (h : v.wide? = some s) : v.isPlain = true := by
  cases v with
  | null | list _ | object _ => cases h
  | _ => rfl

/-- Null and containers are converted to what is not a number. -/
theorem toNumber_of_not_plain {v : Value} (h : v.isPlain = false) : v.toNumber = .ok .nan := by
  cases v with
  | null | list _ | object _ => rfl
  | _ => cases h

end Value

namespace Located

variable {a b c : Located}

/-- How two operands are ordered: two texts by their points, all others after conversion. -/
def order? (a b : Located) : Except Fault (Option Ordering) :=
  match a.value.wide?, b.value.wide? with
  | some s, some t => .ok (some (compare s t))
  | _, _ => do
    let x ← a.value.toNumber
    let y ← b.value.toNumber
    .ok (x.order? y)

/-- Are both operands texts? -/
def BothTexts (a b : Located) : Prop :=
  ∃ s t : Wide, a.value.wide? = some s ∧ b.value.wide? = some t

theorem order?_of_texts {s t : Wide} (ha : a.value.wide? = some s) (hb : b.value.wide? = some t) :
    a.order? b = .ok (some (compare s t)) := by
  rw [order?, ha, hb]

/-- A comparison after conversion fails as a conversion fails, and else yields what it says of
the two numbers. -/
def converted {α : Type} (ofNumbers : Binary64 → Binary64 → α) (a b : Located) :
    Except Fault α := do
  let x ← a.value.toNumber
  let y ← b.value.toNumber
  .ok (ofNumbers x y)

theorem converted_eq_ok {α : Type} {ofNumbers : Binary64 → Binary64 → α} {x y : Binary64}
    (hx : a.value.toNumber = .ok x) (hy : b.value.toNumber = .ok y) :
    converted ofNumbers a b = .ok (ofNumbers x y) := by
  rw [converted, hx, hy]
  rfl

theorem map_converted {α β : Type} (ofNumbers : Binary64 → Binary64 → α) (f : α → β) :
    (converted ofNumbers a b).map f = converted (fun x y => f (ofNumbers x y)) a b := by
  rw [converted, converted]
  cases a.value.toNumber with
  | error fault => rfl
  | ok x => cases b.value.toNumber <;> rfl

theorem order?_of_not_texts (h : ¬ BothTexts a b) :
    a.order? b = converted Binary64.order? a b := by
  rw [order?]
  split
  · rename_i s t hs ht
    exact absurd ⟨s, t, hs, ht⟩ h
  · rfl

theorem ordered_of_not_texts (h : ¬ BothTexts a b) (ofTexts : Wide → Wide → Bool)
    (ofNumbers : Binary64 → Binary64 → Bool) :
    ordered ofTexts ofNumbers a b = converted ofNumbers a b := by
  rw [ordered]
  split
  · rename_i s t hs ht
    exact absurd ⟨s, t, hs, ht⟩ h
  · rfl

/-- Two texts are loosely equal if they are the same text. -/
theorem looselyEquals_of_texts {s t : Wide} (ha : a.value.wide? = some s)
    (hb : b.value.wide? = some t) : a.looselyEquals b = .ok (decide (s = t)) := by
  rw [looselyEquals, Value.wide?_eq_some_iff.mp ha, Value.wide?_eq_some_iff.mp hb]
  cases s <;> cases t <;> simp [Value.ofWide]

theorem looselyEquals_of_not_texts (ha : a.value.isPlain = true) (hb : b.value.isPlain = true)
    (h : ¬ BothTexts a b) : a.looselyEquals b = converted Binary64.eq a b := by
  rw [looselyEquals]
  split
  · rename_i hnull _
    rw [hnull] at ha
    cases ha
  · rename_i hnull _
    rw [hnull] at ha
    cases ha
  · rename_i hnull _
    rw [hnull] at hb
    cases hb
  -- the four pairs of texts and garbled texts
  · rename_i hs ht
    exact absurd ⟨_, _, congrArg Value.wide? hs, congrArg Value.wide? ht⟩ h
  · rename_i hs ht
    exact absurd ⟨_, _, congrArg Value.wide? hs, congrArg Value.wide? ht⟩ h
  · rename_i hs ht
    exact absurd ⟨_, _, congrArg Value.wide? hs, congrArg Value.wide? ht⟩ h
  · rename_i hs ht
    exact absurd ⟨_, _, congrArg Value.wide? hs, congrArg Value.wide? ht⟩ h
  · rw [Value.isContainer_of_isPlain ha, Value.isContainer_of_isPlain hb]
    rfl

/-- The four orders are read off the one order of the operands. -/
theorem ordered_eq_map_order? {ofTexts : Wide → Wide → Bool}
    {ofNumbers : Binary64 → Binary64 → Bool} {p : Option Ordering → Bool}
    (htexts : ∀ s t, ofTexts s t = p (some (compare s t)))
    (hnumbers : ∀ x y, ofNumbers x y = p (x.order? y)) :
    ordered ofTexts ofNumbers a b = (a.order? b).map p := by
  by_cases h : BothTexts a b
  · obtain ⟨s, t, hs, ht⟩ := h
    rw [order?_of_texts hs ht, ordered, hs, ht]
    exact congrArg Except.ok (htexts s t)
  · have hfun : ofNumbers = fun x y => p (x.order? y) := funext fun x => funext (hnumbers x)
    rw [ordered_of_not_texts h, order?_of_not_texts h, map_converted, hfun]

/-- Operands that are neither null nor containers are loosely equal if they are in the order
of equals. -/
theorem looselyEquals_eq_map_order? (ha : a.value.isPlain = true) (hb : b.value.isPlain = true) :
    a.looselyEquals b = (a.order? b).map fun o => decide (o = some .eq) := by
  by_cases h : BothTexts a b
  · obtain ⟨s, t, hs, ht⟩ := h
    rw [order?_of_texts hs ht, looselyEquals_of_texts hs ht]
    simp [Except.map]
  · have hconverted := looselyEquals_of_not_texts ha hb h
    have hfun : Binary64.eq = fun x y => decide (x.order? y = some .eq) :=
      funext fun x => funext fun y => Binary64.eq_eq_order?
    rw [hconverted, order?_of_not_texts h, map_converted, hfun]

/-- Null and containers are loosely equal to what they are strictly equal to. -/
theorem looselyEquals_of_not_plain (h : a.value.isPlain = false ∨ b.value.isPlain = false) :
    a.looselyEquals b = .ok (a.strictlyEquals b) := by
  obtain ⟨p, v⟩ := a
  obtain ⟨q, w⟩ := b
  cases v <;> cases w <;> first | rfl | simp [Value.isPlain] at h

/-- Operands that can be converted stand in an order or in none. -/
theorem exists_order? (ha : a.value.Convertible) (hb : b.value.Convertible) :
    ∃ o, a.order? b = .ok o := by
  obtain ⟨x, hx⟩ := ha
  obtain ⟨y, hy⟩ := hb
  by_cases h : BothTexts a b
  · obtain ⟨s, t, hs, ht⟩ := h
    exact ⟨_, order?_of_texts hs ht⟩
  · exact ⟨_, (order?_of_not_texts h).trans (converted_eq_ok hx hy)⟩

/-- The order of two operands from the other side. -/
theorem order?_swap (ha : a.value.Convertible) (hb : b.value.Convertible) {o : Option Ordering}
    (h : a.order? b = .ok o) : b.order? a = .ok (o.map Ordering.swap) := by
  obtain ⟨x, hx⟩ := ha
  obtain ⟨y, hy⟩ := hb
  by_cases htexts : BothTexts a b
  · obtain ⟨s, t, hs, ht⟩ := htexts
    rw [order?_of_texts hs ht] at h
    obtain rfl := Except.ok.inj h
    rw [order?_of_texts ht hs, Option.map_some, ← Std.OrientedCmp.eq_swap]
  · have hswapped : ¬ BothTexts b a := fun ⟨s, t, hs, ht⟩ => htexts ⟨t, s, ht, hs⟩
    rw [order?_of_not_texts htexts, converted_eq_ok hx hy] at h
    obtain rfl := Except.ok.inj h
    rw [order?_of_not_texts hswapped, converted_eq_ok hy hx, Binary64.order?_swap x y]

/-- Operands are in no order if one of them is converted to what is not a number, unless both
are texts. -/
theorem order?_eq_none_iff (ha : a.value.Convertible) (hb : b.value.Convertible) :
    a.order? b = .ok none ↔
      ¬ BothTexts a b ∧ (a.value.toNumber = .ok .nan ∨ b.value.toNumber = .ok .nan) := by
  obtain ⟨x, hx⟩ := ha
  obtain ⟨y, hy⟩ := hb
  by_cases h : BothTexts a b
  · obtain ⟨s, t, hs, ht⟩ := h
    rw [order?_of_texts hs ht]
    exact iff_of_false nofun fun h => h.1 ⟨s, t, hs, ht⟩
  · rw [order?_of_not_texts h, converted_eq_ok hx hy, hx, hy, Except.ok.injEq, Except.ok.injEq,
      Except.ok.injEq, Binary64.order?_eq_none_iff]
    exact (and_iff_right h).symm

/-- Null and containers are in no order with anything. -/
theorem order?_of_not_plain (ha : a.value.Convertible) (hb : b.value.Convertible)
    (h : a.value.isPlain = false ∨ b.value.isPlain = false) : a.order? b = .ok none := by
  refine (order?_eq_none_iff ha hb).mpr ⟨?_, ?_⟩
  · rintro ⟨s, t, hs, ht⟩
    rw [Value.isPlain_of_wide? hs, Value.isPlain_of_wide? ht] at h
    rcases h with h | h <;> cases h
  · exact h.imp Value.toNumber_of_not_plain Value.toNumber_of_not_plain

/-- A comparison after conversion finds equal what is converted to equal numbers. -/
theorem looselyEquals_of_eq {x y : Binary64} (ha : a.value.isPlain = true)
    (hb : b.value.isPlain = true) (htexts : ¬ BothTexts a b) (hx : a.value.toNumber = .ok x)
    (hy : b.value.toNumber = .ok y) (h : x.eq y = true) : a.looselyEquals b = .ok true := by
  rw [looselyEquals_of_not_texts ha hb htexts, converted_eq_ok hx hy, h]

/-- **What is strictly equal is loosely equal**: conversion makes nothing different. -/
theorem looselyEquals_of_strictlyEquals (ha : a.value.Convertible)
    (h : a.strictlyEquals b = true) : a.looselyEquals b = .ok true := by
  obtain ⟨x, hx⟩ := ha
  obtain ⟨p, v⟩ := a
  obtain ⟨q, w⟩ := b
  cases v with
  | null | list _ | object _ => rw [looselyEquals_of_not_plain (Or.inl rfl), h]
  | bool r =>
    cases w with
    | bool s =>
      obtain rfl : r = s := of_decide_eq_true h
      obtain rfl := Except.ok.inj hx
      exact looselyEquals_of_eq rfl rfl nofun rfl rfl (Binary64.eq_self (Binary64.ofInt_ne_nan _))
    | _ => cases h
  | int m =>
    cases w with
    | int n =>
      obtain rfl : m = n := of_decide_eq_true h
      obtain ⟨-, rfl⟩ := Binary64.ofInt?_eq_ok_iff.mp hx
      exact looselyEquals_of_eq rfl rfl nofun hx hx (Binary64.eq_self (Binary64.ofInt_ne_nan _))
    | float y =>
      obtain ⟨-, rfl⟩ := Binary64.ofInt?_eq_ok_iff.mp hx
      have hextent := Binary64.toInt?_eq_some_iff.mp (of_decide_eq_true h)
      have hexact := Binary64.extent?_ofInt_of_extent? hextent
      exact looselyEquals_of_eq rfl rfl nofun hx rfl
        (Binary64.eq_iff_extent?.mpr ⟨_, hexact, hextent⟩)
    | _ => cases h
  | float x =>
    cases w with
    | int n =>
      have hextent := Binary64.toInt?_eq_some_iff.mp (of_decide_eq_true h)
      have hexact := Binary64.extent?_ofInt_of_extent? hextent
      exact looselyEquals_of_eq rfl rfl nofun rfl (Binary64.ofInt?_of_extent? hextent)
        (Binary64.eq_iff_extent?.mpr ⟨_, hextent, hexact⟩)
    | float y => exact looselyEquals_of_eq rfl rfl nofun rfl rfl h
    | _ => cases h
  | text s =>
    cases w with
    | text t => exact congrArg Except.ok h
    | _ => cases h
  | garbled s =>
    cases w with
    | garbled t => exact congrArg Except.ok h
    | _ => cases h

end Located

/-! ## The operators -/

namespace Operator

variable {op : Operator} {a b c : Located} {o : Option Ordering}

/-- The operator yields true for the two operands. -/
def Relates (op : Operator) (a b : Located) : Prop := op.apply a b = .ok (.bool true)

/-- The operators that compare. -/
def comparisons : List Operator :=
  [strictlyEqual, strictlyUnequal, equal, unequal, atLeast, atMost, greater, less]

/-- The operators that ask for an order. -/
def orders : List Operator := [atLeast, atMost, greater, less]

/-- Does an operator accept the order of its operands? -/
def accepts (op : Operator) (o : Option Ordering) : Bool :=
  match op with
  | equal => o = some .eq
  | atLeast => o = some .gt || o = some .eq
  | atMost => o = some .lt || o = some .eq
  | greater => o = some .gt
  | less => o = some .lt
  | _ => false

/-- What an operator yields that asks for an order. -/
theorem apply_of_mem_orders (hop : op ∈ orders) :
    op.apply a b = (a.order? b).map fun o => .bool (op.accepts o) := by
  have hmap : ∀ (ofTexts : Wide → Wide → Bool) (ofNumbers : Binary64 → Binary64 → Bool),
      (∀ s t, ofTexts s t = op.accepts (some (compare s t))) →
      (∀ x y, ofNumbers x y = op.accepts (x.order? y)) →
      (Located.ordered ofTexts ofNumbers a b).map Value.bool =
        (a.order? b).map fun o => .bool (op.accepts o) := by
    intro ofTexts ofNumbers htexts hnumbers
    rw [Located.ordered_eq_map_order? htexts hnumbers]
    cases a.order? b <;> rfl
  cases op with
  | atLeast =>
    refine hmap _ _ (fun s t => ?_) fun x y => Binary64.ge_eq_order?
    simp [accepts, compare_gt_iff_gt, le_iff_lt_or_eq, @eq_comm Wide t s]
  | atMost =>
    refine hmap _ _ (fun s t => ?_) fun x y => Binary64.le_eq_order?
    simp [accepts, compare_lt_iff_lt, le_iff_lt_or_eq]
  | greater =>
    refine hmap _ _ (fun s t => ?_) fun x y => Binary64.gt_eq_order?
    simp [accepts, compare_gt_iff_gt]
  | less =>
    refine hmap _ _ (fun s t => ?_) fun x y => Binary64.lt_eq_order?
    simp [accepts, compare_lt_iff_lt]
  | _ => simp [orders] at hop

/-- What an order operator says is whether it accepts the order of the operands. -/
theorem relates_order_iff (hop : op ∈ orders) (ho : a.order? b = .ok o) :
    op.Relates a b ↔ op.accepts o = true := by
  rw [Relates, apply_of_mem_orders hop, ho, Except.map, Except.ok.injEq, Value.bool.injEq]

/-- Between operands that are neither null nor containers, loose equality is an order operator
too. -/
theorem relates_equal_iff (ha : a.value.isPlain = true) (hb : b.value.isPlain = true)
    (ho : a.order? b = .ok o) : equal.Relates a b ↔ equal.accepts o = true := by
  rw [Relates, apply, Located.looselyEquals_eq_map_order? ha hb, ho, Except.map, Except.map,
    Except.ok.injEq, Value.bool.injEq]
  rfl

theorem relates_strictlyEqual_iff : strictlyEqual.Relates a b ↔ a.strictlyEquals b = true := by
  rw [Relates, apply, Except.ok.injEq, Value.bool.injEq]

/-- Loose equality with null or a container is strict equality. -/
theorem relates_equal_iff_of_not_plain (h : a.value.isPlain = false ∨ b.value.isPlain = false) :
    equal.Relates a b ↔ strictlyEqual.Relates a b := by
  rw [Relates, apply, Located.looselyEquals_of_not_plain h, relates_strictlyEqual_iff, Except.map,
    Except.ok.injEq, Value.bool.injEq]

/-- An order that is looked at from the other side. -/
theorem accepts_swap (o : Option Ordering) :
    greater.accepts (o.map Ordering.swap) = less.accepts o ∧
    atLeast.accepts (o.map Ordering.swap) = atMost.accepts o ∧
    equal.accepts (o.map Ordering.swap) = equal.accepts o := by
  cases o with
  | none => exact ⟨rfl, rfl, rfl⟩
  | some o => cases o <;> exact ⟨rfl, rfl, rfl⟩

theorem not_plain_or {v w : Value} (h : ¬ (v.isPlain = true ∧ w.isPlain = true)) :
    v.isPlain = false ∨ w.isPlain = false := by
  rwa [not_and_or, Bool.not_eq_true, Bool.not_eq_true] at h

/-- What is strictly equal is loosely equal. -/
theorem relates_equal_of_strictlyEqual (ha : a.value.Convertible)
    (h : strictlyEqual.Relates a b) : equal.Relates a b := by
  have hequals := Located.looselyEquals_of_strictlyEquals ha (relates_strictlyEqual_iff.mp h)
  rw [Relates, apply, hequals, Except.map]

/-! ## The laws -/

section Laws

variable (ha : a.value.Convertible) (hb : b.value.Convertible)
include ha hb

/-- Every comparison yields true or false. -/
theorem exists_apply_eq_ok (hop : op ∈ comparisons) : ∃ r, op.apply a b = .ok (.bool r) := by
  obtain ⟨o, ho⟩ := Located.exists_order? ha hb
  have horder : ∀ other ∈ orders, ∃ r, other.apply a b = .ok (.bool r) := by
    intro other hother
    exact ⟨other.accepts o, by rw [apply_of_mem_orders hother, ho, Except.map]⟩
  have hequals : ∃ r, a.looselyEquals b = .ok r := by
    by_cases hplain : a.value.isPlain = true ∧ b.value.isPlain = true
    · exact ⟨_, by rw [Located.looselyEquals_eq_map_order? hplain.1 hplain.2, ho, Except.map]⟩
    · exact ⟨_, Located.looselyEquals_of_not_plain (not_plain_or hplain)⟩
  obtain ⟨r, hr⟩ := hequals
  cases op with
  | strictlyEqual => exact ⟨_, rfl⟩
  | strictlyUnequal => exact ⟨_, rfl⟩
  | equal => exact ⟨r, by rw [apply, hr, Except.map]⟩
  | unequal => exact ⟨!r, by rw [apply, hr, Except.map]⟩
  | atLeast => exact horder _ (by decide)
  | atMost => exact horder _ (by decide)
  | greater => exact horder _ (by decide)
  | less => exact horder _ (by decide)
  | both => exact absurd hop (by decide)
  | either => exact absurd hop (by decide)

theorem relates_equal_comm : equal.Relates a b ↔ equal.Relates b a := by
  by_cases hplain : a.value.isPlain = true ∧ b.value.isPlain = true
  · obtain ⟨o, ho⟩ := Located.exists_order? ha hb
    rw [relates_equal_iff hplain.1 hplain.2 ho,
      relates_equal_iff hplain.2 hplain.1 (Located.order?_swap ha hb ho), (accepts_swap o).2.2]
  · have hnot := not_plain_or hplain
    rw [relates_equal_iff_of_not_plain hnot, relates_equal_iff_of_not_plain hnot.symm,
      relates_strictlyEqual_iff, relates_strictlyEqual_iff, Located.strictlyEquals_comm]

theorem relates_less_iff_greater : less.Relates a b ↔ greater.Relates b a := by
  obtain ⟨o, ho⟩ := Located.exists_order? ha hb
  rw [relates_order_iff (by decide) ho,
    relates_order_iff (by decide) (Located.order?_swap ha hb ho), (accepts_swap o).1]

theorem relates_atMost_iff_atLeast : atMost.Relates a b ↔ atLeast.Relates b a := by
  obtain ⟨o, ho⟩ := Located.exists_order? ha hb
  rw [relates_order_iff (by decide) ho,
    relates_order_iff (by decide) (Located.order?_swap ha hb ho), (accepts_swap o).2.1]

/-- At most one of below, equal and above holds. -/
theorem relates_exclusive : ¬ (less.Relates a b ∧ equal.Relates a b) ∧
    ¬ (less.Relates a b ∧ greater.Relates a b) ∧
    ¬ (equal.Relates a b ∧ greater.Relates a b) := by
  obtain ⟨o, ho⟩ := Located.exists_order? ha hb
  have hless : less.Relates a b ↔ less.accepts o = true := relates_order_iff (by decide) ho
  have hgreater : greater.Relates a b ↔ greater.accepts o = true :=
    relates_order_iff (by decide) ho
  rw [hless, hgreater]
  by_cases hplain : a.value.isPlain = true ∧ b.value.isPlain = true
  · rw [relates_equal_iff hplain.1 hplain.2 ho]
    cases o with
    | none => decide
    | some o => cases o <;> decide
  · -- null and containers are neither below nor above anything
    rw [Located.order?_of_not_plain ha hb (not_plain_or hplain)] at ho
    obtain rfl := Except.ok.inj ho
    exact ⟨nofun, nofun, nofun⟩

variable (hplain : a.value.isPlain = true) (hplain' : b.value.isPlain = true)
include hplain hplain'

/-- Between operands that are neither null nor containers, being in order is being below or
equal, or above or equal. -/
theorem relates_atMost_iff : (atMost.Relates a b ↔ less.Relates a b ∨ equal.Relates a b) ∧
    (atLeast.Relates a b ↔ greater.Relates a b ∨ equal.Relates a b) := by
  obtain ⟨o, ho⟩ := Located.exists_order? ha hb
  have horder : ∀ other ∈ orders, (other.Relates a b ↔ other.accepts o = true) :=
    fun other hother => relates_order_iff hother ho
  rw [horder atMost (by decide), horder less (by decide), horder atLeast (by decide),
    horder greater (by decide), relates_equal_iff hplain hplain' ho, ← Bool.or_eq_true,
    ← Bool.or_eq_true]
  exact ⟨Iff.rfl, Iff.rfl⟩

/-- One of below, equal and above holds between operands in an order, and none otherwise. -/
theorem relates_some_iff : (less.Relates a b ∨ equal.Relates a b ∨ greater.Relates a b) ↔
    Located.BothTexts a b ∨ (a.value.toNumber ≠ .ok .nan ∧ b.value.toNumber ≠ .ok .nan) := by
  obtain ⟨o, ho⟩ := Located.exists_order? ha hb
  have hnone := Located.order?_eq_none_iff ha hb
  have hless : less.Relates a b ↔ less.accepts o = true := relates_order_iff (by decide) ho
  have hgreater : greater.Relates a b ↔ greater.accepts o = true :=
    relates_order_iff (by decide) ho
  have hsome : (less.accepts o = true ∨ equal.accepts o = true ∨ greater.accepts o = true) ↔
      o ≠ none := by
    cases o with
    | none => decide
    | some o => cases o <;> decide
  rw [ho, Except.ok.injEq] at hnone
  rw [hless, hgreater, relates_equal_iff hplain hplain' ho, hsome, ne_eq, hnone,
    not_and_or, not_not, not_or]

end Laws

/-- What the comparisons of two operands have to do with each other. -/
structure Consistent (a b : Located) : Prop where
  /-- Every comparison yields true or false. -/
  yields : ∀ op ∈ comparisons, ∃ r, op.apply a b = .ok (.bool r)
  equal_comm : equal.Relates a b ↔ equal.Relates b a
  strictlyEqual_comm : strictlyEqual.Relates a b ↔ strictlyEqual.Relates b a
  less_iff_greater : less.Relates a b ↔ greater.Relates b a
  atMost_iff_atLeast : atMost.Relates a b ↔ atLeast.Relates b a
  equal_of_strictlyEqual : strictlyEqual.Relates a b → equal.Relates a b
  atMost_iff : a.value.isPlain = true → b.value.isPlain = true →
    (atMost.Relates a b ↔ less.Relates a b ∨ equal.Relates a b) ∧
    (atLeast.Relates a b ↔ greater.Relates a b ∨ equal.Relates a b)
  /-- At most one of below, equal and above holds. -/
  exclusive : ¬ (less.Relates a b ∧ equal.Relates a b) ∧
    ¬ (less.Relates a b ∧ greater.Relates a b) ∧ ¬ (equal.Relates a b ∧ greater.Relates a b)
  /-- One of them holds between two texts and between two numbers after conversion, and none
  holds between other operands that are neither null nor containers. -/
  some_iff : a.value.isPlain = true → b.value.isPlain = true →
    ((less.Relates a b ∨ equal.Relates a b ∨ greater.Relates a b) ↔
      Located.BothTexts a b ∨ (a.value.toNumber ≠ .ok .nan ∧ b.value.toNumber ≠ .ok .nan))

/-- **The comparisons are consistent** for any two operands that can be converted.  Strict
equality is transitive besides, and exact between numbers of both kinds. -/
theorem consistent_of_convertible {a b : Located} (ha : a.value.Convertible)
    (hb : b.value.Convertible) :
    Consistent a b ∧
    (∀ c : Located, strictlyEqual.Relates a b → strictlyEqual.Relates b c →
      strictlyEqual.Relates a c) ∧
    (a.value.isNumber = true → b.value.isNumber = true →
      (strictlyEqual.Relates a b ↔
        ∃ e, a.value.extent? = some e ∧ b.value.extent? = some e)) := by
  refine ⟨?_, fun c hab hbc => ?_, fun hna hnb => ?_⟩
  · exact
      { yields := fun op hop => exists_apply_eq_ok ha hb hop
        equal_comm := relates_equal_comm ha hb
        strictlyEqual_comm := by
          rw [relates_strictlyEqual_iff, relates_strictlyEqual_iff, Located.strictlyEquals_comm]
        less_iff_greater := relates_less_iff_greater ha hb
        atMost_iff_atLeast := relates_atMost_iff_atLeast ha hb
        equal_of_strictlyEqual := relates_equal_of_strictlyEqual ha
        atMost_iff := relates_atMost_iff ha hb
        exclusive := relates_exclusive ha hb
        some_iff := relates_some_iff ha hb }
  · rw [relates_strictlyEqual_iff] at hab hbc ⊢
    exact Located.strictlyEquals_trans hab hbc
  · rw [relates_strictlyEqual_iff]
    exact Located.strictlyEquals_iff_extent? hna hnb

/-- An integer beyond the exact ones is compared consistently with the number before it: the
two are loosely and not strictly equal, and neither is below the other. -/
theorem consistent_of_convertible_rounded :
    let a : Located := ⟨[], .int 9007199254740993⟩
    let b : Located := ⟨[], .float (Binary64.ofInt 9007199254740992)⟩
    a.value.Convertible ∧ b.value.Convertible ∧ Consistent a b ∧
      equal.Relates a b ∧ ¬ less.Relates a b ∧ ¬ strictlyEqual.Relates a b := by
  intro a b
  have ha : a.value.Convertible :=
    ⟨_, Binary64.ofInt?_eq_ok_iff.mpr ⟨by decide +kernel, rfl⟩⟩
  have hb : b.value.Convertible := ⟨_, rfl⟩
  have hconsistent : Consistent a b := (consistent_of_convertible ha hb).1
  have hequals : a.looselyEquals b = .ok true := by decide +kernel
  have hequal : equal.Relates a b := by rw [Relates, apply, hequals, Except.map]
  refine ⟨ha, hb, hconsistent, hequal, fun hless => hconsistent.exclusive.1 ⟨hless, hequal⟩, ?_⟩
  rw [relates_strictlyEqual_iff]
  decide +kernel

end Operator
end WebhookRelay
