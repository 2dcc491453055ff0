import WebhookRelay.Binary64.Rounding
import WebhookRelay.Value

/-! # Truth of values

Two tests decide whether a value counts as true.

* In expressions a value is **truthy** unless it is null, false, a zero, not a
  number or the empty text; every container is truthy.  An integer is looked at
  as a binary64 number, so one beyond the finite range is refused.
* A value counts as **given** unless it is null, false, a zero, or an empty text
  or container.  Here what is not a number counts as given.
-/

namespace WebhookRelay
namespace Value

/-- Does the value count as true in an expression? -/
def truthy : Value → Except Fault Bool
  | null => .ok false
  | bool b => .ok b
  | int n => if n = 0 then .ok false else (Binary64.ofInt? n).map fun _ => true
  | float x => .ok (!x.isZero && !x.isNaN)
  | text s => .ok (s ≠ "")
  | garbled _ => .ok true
  | list _ | object _ => .ok true

/-- Does the value count as given? -/
def isGiven : Value → Bool
  | null => false
  | bool b => b
  | int n => n ≠ 0
  | float x => !x.isZero
  | text s => s ≠ ""
  | garbled _ => true
  | list items => !items.isEmpty
  | object entries => !entries.isEmpty

/-- Only an integer can lack a truth, and only one beyond the range of binary64. -/
theorem truthy_int_eq_error_iff {n : Int} {fault : Fault} :
    (int n).truthy = .error fault ↔ n ≠ 0 ∧ Binary64.ofInt? n = .error fault := by
  simp only [truthy]
  generalize Binary64.ofInt? n = converted
  by_cases h : n = 0
  · simp [h]
  · cases converted <;> simp [h, Except.map]

end Value
end WebhookRelay
