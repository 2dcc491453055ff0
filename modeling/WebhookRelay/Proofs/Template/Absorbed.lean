import WebhookRelay.Proofs.Expression.Equality
import WebhookRelay.Proofs.Expression.Term
import WebhookRelay.Proofs.Value.Parts

/-! # Faults that stay inside of expressions

Evaluating an expression has a value whatever happens on the way.  This module says what can
happen: where an expression **stumbles** (`Expression.Stumbles`), and over which fault.

* An operand cannot be read: it is a path that is overlong, or an integer with more digits than
  can be read (`Operand.Unreadable`).
* The operator asks for the number or the truth of an integer beyond the range of binary64
  (`Operator.Overflows`), or its result is such an integer and is asked for its truth.
* The path of the chosen branch, or of an expression that is not conditional, is overlong.

An expression fails in these cases and in no other (`Expression.attempt_eq_error_iff`), and each
time its value is the empty text.  What is left for rendering are the placeholders that are
unfillable; together this is all that can go wrong with a template
(`Template.render_fails_exactly`).  Over a payload whose integers have no more digits than can
be shown there are two kinds of them (`Template.unfillable_iff_of_short`).
-/

namespace WebhookRelay
open Text

theorem Numeral.toNat_eq_error_iff {digits : List Char} {fault : Fault} :
    toNat digits = .error fault ↔
      digitLimit < digits.length ∧ fault = .tooManyDigits digits.length := by
  rw [toNat]
  split
  · rename_i hlimit
    exact iff_of_false ok_ne_error fun h => Nat.not_lt.mpr hlimit h.1
  · rename_i hlimit
    rw [Except.error.injEq, eq_comm]
    exact (and_iff_right (Nat.lt_of_not_le hlimit)).symm

/-- Only an integer beyond the range lacks a truth. -/
theorem Value.truthy_eq_error_iff_below {v : Value} {fault : Fault} :
    v.truthy = .error fault ↔ ¬ v.Below Binary64.overflow ∧ fault = .integerTooLarge := by
  rw [truthy_eq_error_iff, Below]
  simp only [not_forall, Nat.not_lt]
  constructor
  · rintro ⟨n, hn, hlarge, hfault⟩
    exact ⟨⟨n, hn, hlarge⟩, hfault⟩
  · rintro ⟨⟨n, hn, hlarge⟩, hfault⟩
    exact ⟨n, hn, hlarge, hfault⟩

/-! ## Operands -/

namespace Operand

/-- The value of the operand that a text is read as, with its place. -/
def read (text : List Char) (data : Value) : Except Fault Located := do
  (← ofText text).locate data

/-- Why the text of an operand has no value over a payload. -/
inductive Unreadable (data : Value) (text : List Char) : Fault → Prop where
  /-- The operand is a path that cannot be followed. -/
  | path {digits : Nat} (overlong : Path.Overlong data (trim text) digits) :
    Unreadable data text (.tooManyDigits digits)
  /-- The operand is a path without a value that is to stand for an integer. -/
  | standIn (found : Path.resolve data (trim text) = .ok .null) (digits : IsDigits (trim text))
      (long : digitLimit < (trim text).length) :
    Unreadable data text (.tooManyDigits (trim text).length)
  /-- The operand is a negative integer. -/
  | negative {digits : List Char} (form : trim text = '-' :: digits) (isDigits : IsDigits digits)
      (long : digitLimit < digits.length) : Unreadable data text (.tooManyDigits digits.length)

theorem magnitudeReading?_eq_error_iff {negative : Bool} {s : List Char} {fault : Fault} :
    magnitudeReading? negative s = .error fault ↔
      IsDigits s ∧ digitLimit < s.length ∧ fault = .tooManyDigits s.length := by
  by_cases hform : ∃ whole fraction, IsNumber whole fraction ∧ s = numberText whole fraction
  · obtain ⟨whole, fraction, hnumber, rfl⟩ := hform
    rw [magnitudeReading?_numberText hnumber, map_eq_error_iff]
    cases fraction with
    | none =>
      rw [numberReading, map_eq_error_iff, Numeral.toNat_eq_error_iff, numberText]
      exact (and_iff_right hnumber.1).symm
    | some fraction =>
      refine iff_of_false ok_ne_error fun h => ?_
      exact absurd (h.1.2 '.' (List.mem_append_right whole List.mem_cons_self)) (by decide)
  · have hnone : ∀ whole fraction, IsNumber whole fraction → s ≠ numberText whole fraction :=
      fun whole fraction hnumber heq => hform ⟨whole, fraction, hnumber, heq⟩
    rw [magnitudeReading?_eq_none hnone]
    exact iff_of_false ok_ne_error fun h => hnone s none ⟨h.1, by simp⟩ rfl

/-- The text is an integer with an optional minus, and it has so many digits, more than can be
read. -/
def LongInteger (s : List Char) (digits : Nat) : Prop :=
  ∃ number, (s = number ∨ s = '-' :: number) ∧ IsDigits number ∧ digitLimit < number.length ∧
    number.length = digits

theorem numberReading?_eq_error_iff {s : List Char} {fault : Fault} :
    numberReading? s = .error fault ↔ ∃ digits, LongInteger s digits ∧
      fault = .tooManyDigits digits := by
  rw [numberReading?.eq_def]
  split
  · rename_i rest
    rw [magnitudeReading?_eq_error_iff]
    constructor
    · rintro ⟨hdigits, hlong, rfl⟩
      exact ⟨_, ⟨rest, .inr rfl, hdigits, hlong, rfl⟩, rfl⟩
    · rintro ⟨_, ⟨number, rfl | hrest, hdigits, hlong, rfl⟩, rfl⟩
      · exact absurd (hdigits.2 '-' List.mem_cons_self) (by decide)
      · obtain rfl := (List.cons.inj hrest).2
        exact ⟨hdigits, hlong, rfl⟩
  · rename_i hsign
    rw [magnitudeReading?_eq_error_iff]
    constructor
    · rintro ⟨hdigits, hlong, rfl⟩
      exact ⟨_, ⟨s, .inl rfl, hdigits, hlong, rfl⟩, rfl⟩
    · rintro ⟨_, ⟨number, rfl | hrest, hdigits, hlong, rfl⟩, rfl⟩
      · exact ⟨hdigits, hlong, rfl⟩
      · exact absurd hrest (hsign number)

/-- An integer is not quoted. -/
theorem LongInteger.unquote?_eq_none {s : List Char} {digits : Nat} (h : LongInteger s digits) :
    unquote? s = none := by
  obtain ⟨number, hs, hdigits, -⟩ := h
  have hplain : ∀ c ∈ number, isQuote c = false := fun c hc =>
    isQuote_of_isPathChar (isPathChar_of_isDigit (hdigits.2 c hc))
  apply WebhookRelay.unquote?_eq_none
  rcases hs with rfl | rfl
  · exact hplain
  · exact List.forall_mem_cons.mpr ⟨by decide, hplain⟩

/-- Only an integer is refused for its digits. -/
theorem literalReading_eq_error_iff {s : List Char} {fault : Fault} :
    literalReading s = .error fault ↔ ∃ digits, LongInteger s digits ∧
      fault = .tooManyDigits digits := by
  rw [← numberReading?_eq_error_iff, literalReading]
  split
  · rename_i content hquoted
    refine iff_of_false ok_ne_error fun h => ?_
    obtain ⟨digits, hlong, -⟩ := numberReading?_eq_error_iff.mp h
    rw [hlong.unquote?_eq_none] at hquoted
    cases hquoted
  · rw [map_eq_error_iff]

/-- What stands in for a path without a value fails if the path is an integer of too many
digits. -/
theorem fallback_eq_error_iff {path : List Char} (hpath : Path.isPathText path = true)
    {fault : Fault} :
    fallback path = .error fault ↔
      IsDigits path ∧ digitLimit < path.length ∧ fault = .tooManyDigits path.length := by
  rw [fallback, map_eq_error_iff, literalReading_eq_error_iff]
  constructor
  · rintro ⟨_, ⟨number, rfl | rfl, hdigits, hlong, rfl⟩, rfl⟩
    · exact ⟨hdigits, hlong, rfl⟩
    · exact absurd ((isPathText_iff.mp hpath).2 '-' List.mem_cons_self) (by decide)
  · rintro ⟨hdigits, hlong, rfl⟩
    exact ⟨_, ⟨path, .inl rfl, hdigits, hlong, rfl⟩, rfl⟩

theorem isPathText_of_isDigits {s : List Char} (h : IsDigits s) : Path.isPathText s = true :=
  isPathText_iff.mpr ⟨h.1, fun c hc => isPathChar_of_isDigit (h.2 c hc)⟩

/-- A path is looked up first, and what stands in for it is read where it has no value. -/
theorem locate_path_eq_error_iff {path : String} {data : Value} {fault : Fault} :
    locate ⟨path, .path⟩ data = .error fault ↔
      Path.resolve data path.toList = .error fault ∨
        Path.resolve data path.toList = .ok .null ∧ fallback path.toList = .error fault := by
  have hstandIn : ∀ place : Place,
      ((fallback path.toList).map fun v => (⟨place, v⟩ : Located)) = .error fault ↔
        fallback path.toList = .error fault := fun place => map_eq_error_iff
  rw [locate, Path.resolve]
  cases Path.locate data path.toList with
  | error other => simp [bind, Except.bind, Except.map]
  | ok found =>
    cases found with
    | none => exact (hstandIn []).trans (by simp [Except.map])
    | some found =>
      obtain ⟨place, v⟩ := found
      cases v with
      | null => exact (hstandIn place).trans (by simp [Except.map])
      | _ => simp [bind, Except.bind, Except.map]

/-- A text that is no path has a value if it denotes something. -/
theorem locate_ne_error {text : List Char} {data : Value} {reading : Reading}
    (hform : ¬ Path.isPathText text = true) (hreading : literalReading text = .ok reading)
    (fault : Fault) : locate ⟨String.ofList text, reading⟩ data ≠ .error fault := by
  cases reading with
  | path =>
    rw [ne_eq, locate_path_eq_error_iff, String.toList_ofList, Path.resolve_eq_error_iff, fallback,
      map_eq_error_iff, hreading]
    rintro (⟨digits, hoverlong, -⟩ | ⟨-, herror⟩)
    · exact hform hoverlong.1
    · cases herror
  | _ => exact ok_ne_error

section

variable {text : List Char} {data : Value} {fault : Fault}

/-- A path is unreadable where it cannot be followed or has no value and too many digits. -/
theorem read_eq_error_iff_of_path (hform : Path.isPathText (trim text) = true) :
    read text data = .error fault ↔ Unreadable data text fault := by
  rw [read, ofText, if_pos hform]
  change locate ⟨String.ofList (trim text), .path⟩ data = .error fault ↔ _
  rw [locate_path_eq_error_iff, String.toList_ofList, Path.resolve_eq_error_iff,
    fallback_eq_error_iff hform]
  constructor
  · rintro (⟨digits, hoverlong, rfl⟩ | ⟨hnull, hdigits, hlong, rfl⟩)
    · exact .path hoverlong
    · exact .standIn hnull hdigits hlong
  · intro h
    cases h with
    | path hoverlong => exact .inl ⟨_, hoverlong, rfl⟩
    | standIn hnull hdigits hlong => exact .inr ⟨hnull, hdigits, hlong, rfl⟩
    | negative hsign =>
      rw [hsign] at hform
      exact absurd ((isPathText_iff.mp hform).2 '-' List.mem_cons_self) (by decide)

/-- A text that is no path is unreadable only as a negative integer. -/
theorem read_eq_error_iff_of_not_path (hform : ¬ Path.isPathText (trim text) = true) :
    read text data = .error fault ↔ Unreadable data text fault := by
  rw [read, ofText, if_neg hform, bind_eq_error_iff, map_eq_error_iff,
    literalReading_eq_error_iff]
  constructor
  · rintro (⟨_, ⟨number, hnumber | hsign, hdigits, hlong, rfl⟩, rfl⟩ |
      ⟨operand, hoperand, hlocate⟩)
    · rw [hnumber] at hform
      exact absurd (isPathText_of_isDigits hdigits) hform
    · exact .negative hsign hdigits hlong
    · cases hreading : literalReading (trim text) with
      | error other =>
        rw [hreading] at hoperand
        cases hoperand
      | ok reading =>
        rw [hreading] at hoperand
        obtain rfl := Except.ok.inj hoperand
        exact absurd hlocate (locate_ne_error hform hreading fault)
  · intro h
    cases h with
    | path hoverlong => exact absurd hoverlong.1 hform
    | standIn _ hdigits => exact absurd (isPathText_of_isDigits hdigits) hform
    | negative hsign hdigits hlong =>
      exact .inl ⟨_, ⟨_, .inr hsign, hdigits, hlong, rfl⟩, rfl⟩

/-- **An operand has no value** if and only if it is unreadable. -/
theorem read_eq_error_iff : read text data = .error fault ↔ Unreadable data text fault := by
  by_cases hform : Path.isPathText (trim text) = true
  · exact read_eq_error_iff_of_path hform
  · exact read_eq_error_iff_of_not_path hform

end

end Operand

/-! ## Operators -/

namespace Located

variable {a b : Located}

/-- A comparison after conversion fails if one of the operands is beyond the range. -/
theorem converted_eq_error_iff {α : Type} {ofNumbers : Binary64 → Binary64 → α} {fault : Fault} :
    converted ofNumbers a b = .error fault ↔
      ¬ (a.value.Below Binary64.overflow ∧ b.value.Below Binary64.overflow) ∧
        fault = .integerTooLarge := by
  rw [converted, bind_eq_error_iff, Value.toNumber_eq_error_iff]
  constructor
  · rintro (⟨hbelow, hfault⟩ | ⟨x, -, hsecond⟩)
    · exact ⟨fun h => hbelow h.1, hfault⟩
    · rcases bind_eq_error_iff.mp hsecond with hsecond | ⟨y, -, herror⟩
      · obtain ⟨hbelow, hfault⟩ := Value.toNumber_eq_error_iff.mp hsecond
        exact ⟨fun h => hbelow h.2, hfault⟩
      · cases herror
  · rintro ⟨hbelow, rfl⟩
    by_cases hfirst : a.value.Below Binary64.overflow
    · obtain ⟨x, hx⟩ := Value.convertible_iff_below.mpr hfirst
      refine .inr ⟨x, hx, bind_eq_error_iff.mpr (.inl ?_)⟩
      exact Value.toNumber_eq_error_iff.mpr ⟨fun h => hbelow ⟨hfirst, h⟩, rfl⟩
    · exact .inl ⟨hfirst, rfl⟩

/-- Texts are in range. -/
theorem BothTexts.below (h : BothTexts a b) :
    a.value.Below Binary64.overflow ∧ b.value.Below Binary64.overflow := by
  have hbelow : ∀ s : Wide, (Value.ofWide s).Below Binary64.overflow := by
    intro s
    cases s <;> exact nofun
  obtain ⟨s, t, hs, ht⟩ := h
  rw [Value.wide?_eq_some_iff.mp hs, Value.wide?_eq_some_iff.mp ht]
  exact ⟨hbelow s, hbelow t⟩

theorem order?_eq_error_iff {fault : Fault} :
    a.order? b = .error fault ↔
      ¬ (a.value.Below Binary64.overflow ∧ b.value.Below Binary64.overflow) ∧
        fault = .integerTooLarge := by
  by_cases htexts : BothTexts a b
  · refine iff_of_false ?_ fun h => h.1 htexts.below
    obtain ⟨s, t, hs, ht⟩ := htexts
    rw [order?_of_texts hs ht]
    exact ok_ne_error
  · rw [order?_of_not_texts htexts, converted_eq_error_iff]

theorem looselyEquals_eq_error_iff {fault : Fault} :
    a.looselyEquals b = .error fault ↔
      (a.value.isPlain = true ∧ b.value.isPlain = true) ∧
        ¬ (a.value.Below Binary64.overflow ∧ b.value.Below Binary64.overflow) ∧
        fault = .integerTooLarge := by
  by_cases hplain : a.value.isPlain = true ∧ b.value.isPlain = true
  · rw [looselyEquals_eq_map_order? hplain.1 hplain.2, map_eq_error_iff, order?_eq_error_iff]
    exact (and_iff_right hplain).symm
  · rw [looselyEquals_of_not_plain (Operator.not_plain_or hplain)]
    exact iff_of_false ok_ne_error fun h => hplain h.1

end Located

namespace Operator

/-- The operator needs a number or a truth that an operand does not have, since it is an
integer beyond the range of binary64.  Loose equality needs none for null and containers, and
strict equality none at all. -/
def Overflows (op : Operator) (a b : Located) : Prop :=
  match op with
  | strictlyEqual | strictlyUnequal => False
  | equal | unequal =>
    (a.value.isPlain = true ∧ b.value.isPlain = true) ∧
      ¬ (a.value.Below Binary64.overflow ∧ b.value.Below Binary64.overflow)
  | atLeast | atMost | greater | less =>
    ¬ (a.value.Below Binary64.overflow ∧ b.value.Below Binary64.overflow)
  | both | either => ¬ a.value.Below Binary64.overflow

/-- **An operator yields nothing** if and only if it overflows. -/
theorem apply_eq_error_iff {op : Operator} {a b : Located} {fault : Fault} :
    op.apply a b = .error fault ↔ op.Overflows a b ∧ fault = .integerTooLarge := by
  have horder : op ∈ orders → (op.apply a b = .error fault ↔
      ¬ (a.value.Below Binary64.overflow ∧ b.value.Below Binary64.overflow) ∧
        fault = .integerTooLarge) := fun hop => by
    rw [apply_of_mem_orders hop, map_eq_error_iff, Located.order?_eq_error_iff]
  cases op with
  | strictlyEqual | strictlyUnequal => exact iff_of_false ok_ne_error fun h => h.1
  | equal | unequal =>
    rw [apply, map_eq_error_iff, Located.looselyEquals_eq_error_iff, ← and_assoc]
    rfl
  | atLeast => exact horder (by decide)
  | atMost => exact horder (by decide)
  | greater => exact horder (by decide)
  | less => exact horder (by decide)
  | both | either =>
    rw [apply, map_eq_error_iff, Value.truthy_eq_error_iff_below]
    rfl

end Operator

/-! ## Conditions and expressions -/

/-- Where a condition stumbles over a payload.  What comes before has gone well each time. -/
inductive Condition.Stumbles (c : Condition) (data : Value) : Fault → Prop where
  | left {fault : Fault} (unreadable : Operand.Unreadable data c.left fault) : Stumbles c data fault
  | right {fault : Fault} {a : Located} (left : Operand.read c.left data = .ok a)
      (unreadable : Operand.Unreadable data c.right fault) : Stumbles c data fault
  | comparison {a b : Located} (left : Operand.read c.left data = .ok a)
      (right : Operand.read c.right data = .ok b) (overflows : c.operator.Overflows a b) :
    Stumbles c data .integerTooLarge
  /-- The truth of the result is asked for. -/
  | truth {a b : Located} {v : Value} (left : Operand.read c.left data = .ok a)
      (right : Operand.read c.right data = .ok b) (result : c.operator.apply a b = .ok v)
      (large : ¬ v.Below Binary64.overflow) : Stumbles c data .integerTooLarge

/-- **A condition fails** if and only if it stumbles. -/
theorem Condition.holds_eq_error_iff {c : Condition} {data : Value} {fault : Fault} :
    c.holds data = .error fault ↔ c.Stumbles data fault := by
  have hread : c.holds data = (do
      let a ← Operand.read c.left data
      let b ← Operand.read c.right data
      (← c.operator.apply a b).truthy) := by
    simp only [holds, Operand.read, bind_assoc]
  rw [hread]
  constructor
  · intro h
    rcases bind_eq_error_iff.mp h with hleft | ⟨a, ha, h⟩
    · exact .left (Operand.read_eq_error_iff.mp hleft)
    rcases bind_eq_error_iff.mp h with hright | ⟨b, hb, h⟩
    · exact .right ha (Operand.read_eq_error_iff.mp hright)
    rcases bind_eq_error_iff.mp h with happly | ⟨v, hv, h⟩
    · obtain ⟨hoverflows, rfl⟩ := Operator.apply_eq_error_iff.mp happly
      exact .comparison ha hb hoverflows
    · obtain ⟨hlarge, rfl⟩ := Value.truthy_eq_error_iff_below.mp h
      exact .truth ha hb hv hlarge
  · intro h
    refine bind_eq_error_iff.mpr ?_
    cases h with
    | left hunreadable => exact .inl (Operand.read_eq_error_iff.mpr hunreadable)
    | right ha hunreadable =>
      exact .inr ⟨_, ha, bind_eq_error_iff.mpr (.inl (Operand.read_eq_error_iff.mpr hunreadable))⟩
    | comparison ha hb hoverflows =>
      have happly := Operator.apply_eq_error_iff.mpr ⟨hoverflows, rfl⟩
      exact .inr ⟨_, ha, bind_eq_error_iff.mpr (.inr ⟨_, hb, bind_eq_error_iff.mpr (.inl happly)⟩)⟩
    | truth ha hb hv hlarge =>
      have htruth := Value.truthy_eq_error_iff_below.mpr ⟨hlarge, rfl⟩
      exact .inr ⟨_, ha, bind_eq_error_iff.mpr (.inr ⟨_, hb,
        bind_eq_error_iff.mpr (.inr ⟨_, hv, htruth⟩)⟩)⟩

namespace Expression

variable {expression : List Char} {data : Value} {fault : Fault}

theorem pathValue_eq_error_iff {path : List Char} :
    pathValue path data = .error fault ↔
      ∃ digits, Path.Overlong data (trim path) digits ∧ fault = .tooManyDigits digits := by
  rw [pathValue, map_eq_error_iff, Path.resolve_eq_error_iff]

theorem branchValue_eq_error_iff {branch : List Char} :
    branchValue branch data = .error fault ↔ unquote? branch = none ∧
      ∃ digits, Path.Overlong data (trim branch) digits ∧ fault = .tooManyDigits digits := by
  rw [branchValue]
  cases hunquote : unquote? branch with
  | none => exact pathValue_eq_error_iff.trans (and_iff_right rfl).symm
  | some content => exact iff_of_false ok_ne_error fun h => Option.some_ne_none _ h.1

/-- Where an expression stumbles over a payload. -/
inductive Stumbles (data : Value) (expression : List Char) : Fault → Prop where
  /-- The expression is not conditional, and the path that it is cannot be followed. -/
  | path {digits : Nat} (form : Ternary.ofText? expression = none)
      (overlong : Path.Overlong data (trim expression) digits) :
    Stumbles data expression (.tooManyDigits digits)
  | condition {parts : Ternary} {c : Condition} {fault : Fault}
      (form : Ternary.ofText? expression = some parts)
      (split : Condition.ofText? parts.condition = some c) (stumbles : c.Stumbles data fault) :
    Stumbles data expression fault
  /-- The branch that the condition chooses is a path, and it cannot be followed. -/
  | branch {parts : Ternary} {result : Bool} {branch : List Char} {digits : Nat}
      (form : Ternary.ofText? expression = some parts)
      (condition : holds parts.condition data = .ok result)
      (chosen : (if result then parts.whenTrue else parts.whenFalse) = branch)
      (unquoted : unquote? branch = none) (overlong : Path.Overlong data (trim branch) digits) :
    Stumbles data expression (.tooManyDigits digits)

/-- Only a condition with an operator can fail. -/
theorem holds_eq_error_iff {condition : List Char} :
    holds condition data = .error fault ↔
      ∃ c, Condition.ofText? condition = some c ∧ c.Stumbles data fault := by
  rw [holds]
  cases hsplit : Condition.ofText? condition with
  | none => exact iff_of_false ok_ne_error fun ⟨c, hc, _⟩ => nomatch hc
  | some c =>
    rw [Condition.holds_eq_error_iff]
    constructor
    · exact fun h => ⟨c, rfl, h⟩
    · rintro ⟨other, hother, h⟩
      rwa [Option.some.inj hother]

/-- **An expression fails** if and only if it stumbles. -/
theorem attempt_eq_error_iff :
    attempt expression data = .error fault ↔ Stumbles data expression fault := by
  rw [attempt]
  cases hform : Ternary.ofText? expression with
  | none =>
    refine pathValue_eq_error_iff.trans ⟨?_, fun h => ?_⟩
    · rintro ⟨digits, hoverlong, rfl⟩
      exact .path hform hoverlong
    · cases h with
      | path _ hoverlong => exact ⟨_, hoverlong, rfl⟩
      | condition hother | branch hother => cases hform.symm.trans hother
  | some parts =>
    refine bind_eq_error_iff.trans ⟨?_, fun h => ?_⟩
    · rintro (hcondition | ⟨chosen, hcondition, hbranch⟩)
      · obtain ⟨c, hsplit, hstumbles⟩ := holds_eq_error_iff.mp hcondition
        exact .condition hform hsplit hstumbles
      · obtain ⟨hunquoted, digits, hoverlong, rfl⟩ := branchValue_eq_error_iff.mp hbranch
        exact .branch hform hcondition rfl hunquoted hoverlong
    · cases h with
      | path hother => cases hform.symm.trans hother
      | condition hother hsplit hstumbles =>
        obtain rfl := Option.some.inj (hform.symm.trans hother)
        exact .inl (holds_eq_error_iff.mpr ⟨_, hsplit, hstumbles⟩)
      | branch hother hcondition hchosen hunquoted hoverlong =>
        obtain rfl := Option.some.inj (hform.symm.trans hother)
        subst hchosen
        exact .inr ⟨_, hcondition, branchValue_eq_error_iff.mpr ⟨hunquoted, _, hoverlong, rfl⟩⟩

/-- The value of an expression that fails is the empty text. -/
theorem evaluate_of_stumbles (h : Stumbles data expression fault) :
    evaluate expression data = .text "" := by
  rw [evaluate, attempt_eq_error_iff.mpr h]

/-- An expression that does not stumble has the value that was attempted. -/
theorem attempt_of_not_stumbles (h : ∀ cause, ¬ Stumbles data expression cause) :
    attempt expression data = .ok (evaluate expression data) := by
  rw [evaluate]
  cases hattempt : attempt expression data with
  | error cause => exact absurd (attempt_eq_error_iff.mp hattempt) (h cause)
  | ok v => rfl

end Expression

namespace Template

/-- A segment is rendered unless it is an unfillable placeholder. -/
theorem Segment.exists_rendersTo_iff {data : Value} {seg : Segment} :
    (∃ text, seg.RendersTo data text) ↔
      ∀ body, seg = .placeholder body → ∀ cause, ¬ Unfillable data body cause := by
  constructor
  · rintro ⟨text, htext⟩ body rfl cause hbody
    have herror := Segment.render_eq_error_iff.mpr ⟨body, rfl, hbody⟩
    rw [Segment.render_eq_ok_iff.mpr htext] at herror
    cases herror
  · intro h
    cases hrender : seg.render data with
    | ok text => exact ⟨text, Segment.render_eq_ok_iff.mp hrender⟩
    | error cause =>
      obtain ⟨body, hseg, hbody⟩ := Segment.render_eq_error_iff.mp hrender
      exact absurd hbody (h body hseg cause)

/-- What a placeholder is to show is null, a text or a part of the payload. -/
theorem Shows.hasLongInteger_eq_false {data v : Value} {body : List Char} (h : Shows data body v)
    (hdata : data.hasLongInteger = false) : v.hasLongInteger = false := by
  rcases h with ⟨-, hresolve⟩ | ⟨-, rfl, -⟩
  · exact Path.anyPart_of_resolve hdata rfl hresolve
  · exact Expression.anyPart_evaluate hdata rfl (fun _ => rfl) body

/-- **Without integers of too many digits** in the payload, a placeholder is unfillable for one of
two reasons. -/
theorem unfillable_iff_of_short {data : Value} (hdata : data.hasLongInteger = false)
    {body : List Char} {fault : Fault} :
    Unfillable data body fault ↔
      (∃ digits, Path.Overlong data body digits ∧ fault = .tooManyDigits digits) ∨
      (∃ n, Path.isPathText body = false ∧ Expression.evaluate body data = .int n ∧
        Binary64.overflow ≤ n.natAbs ∧ fault = .integerTooLarge) := by
  constructor
  · intro h
    cases h with
    | path hoverlong => exact .inl ⟨_, hoverlong, rfl⟩
    | truth hform hvalue hlarge => exact .inr ⟨_, hform, hvalue, hlarge, rfl⟩
    | long hshows hlong =>
      rw [hshows.hasLongInteger_eq_false hdata] at hlong
      cases hlong
  · rintro (⟨digits, hoverlong, rfl⟩ | ⟨n, hform, hvalue, hlarge, rfl⟩)
    · exact .path hoverlong
    · exact .truth hform hvalue hlarge

/-- **What can go wrong with a template.**  It cannot be rendered if and only if one of its
placeholders is unfillable, and then it fails as the first of these does.  Over a payload without
integers of too many digits, that is a path that cannot be followed or the truth of an integer
beyond the range.  Whatever else goes wrong is absorbed by an expression: one that stumbles has
the empty text as its value, and any other has the value that was attempted. -/
theorem render_fails_exactly (template : String) (data : Value) :
    (∀ fault, render template data = .error fault ↔ ∃ before body after,
      segments template.toList = before ++ .placeholder body :: after ∧
      (∀ other, .placeholder other ∈ before → ∀ cause, ¬ Unfillable data other cause) ∧
      Unfillable data body fault) ∧
    (data.hasLongInteger = false → ∀ body fault, Unfillable data body fault ↔
      (∃ digits, Path.Overlong data body digits ∧ fault = .tooManyDigits digits) ∨
      (∃ n, Path.isPathText body = false ∧ Expression.evaluate body data = .int n ∧
        Binary64.overflow ≤ n.natAbs ∧ fault = .integerTooLarge)) ∧
    ∀ expression,
      (∀ fault, Expression.attempt expression data = .error fault ↔
        Expression.Stumbles data expression fault) ∧
      ((∃ fault, Expression.Stumbles data expression fault) →
        Expression.evaluate expression data = .text "") ∧
      ((∀ fault, ¬ Expression.Stumbles data expression fault) →
        Expression.attempt expression data = .ok (Expression.evaluate expression data)) := by
  refine ⟨fun fault => ?_, fun hdata body fault => unfillable_iff_of_short hdata,
    fun expression => ⟨fun fault => Expression.attempt_eq_error_iff,
    fun ⟨fault, h⟩ => Expression.evaluate_of_stumbles h, Expression.attempt_of_not_stumbles⟩⟩
  have hbefore : ∀ before : List Segment,
      (∀ seg ∈ before, ∃ text, seg.RendersTo data text) ↔
        ∀ other, .placeholder other ∈ before → ∀ cause, ¬ Unfillable data other cause := by
    intro before
    simp only [Segment.exists_rendersTo_iff]
    constructor
    · exact fun h other hother => h _ hother other rfl
    · rintro h seg hseg body rfl
      exact h body hseg
  simp only [render_eq_error_iff, hbefore]

end Template
end WebhookRelay
