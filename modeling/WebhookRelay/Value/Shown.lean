import WebhookRelay.Json.Writer
import WebhookRelay.Numeral

/-! # How values are shown in notifications

A text is shown as it is and null as nothing.  A number that is equal to an
integer is shown as that integer, whatever its size, so `5.0` and `-0.0` become
`5` and `0`; other numbers keep their own text.  Containers are shown as compact
JSON, where `5.0` stays `5.0`.  An integer of too many digits cannot be shown, nor can
a container that holds one.
-/

namespace WebhookRelay
namespace Value

/-- A binary64 number as it is shown outside of containers. -/
def shownNumber (x : Binary64) : List Char :=
  match x.toInt? with
  | some n => Numeral.ofInt n
  | none => x.text

/-- Is the value an integer of too many digits? -/
def isLongInteger : Value → Bool
  | int n => Numeral.isLong n
  | _ => false

/-- Does an integer of too many digits occur in the value? -/
def hasLongInteger : Value → Bool := anyPart isLongInteger fun _ => false

/-- A value as it is shown in a notification. -/
def shown : Value → Except Fault Wide
  | null => .ok ""
  | text s => .ok s
  | garbled g => .ok (.garbled g)
  | bool b => .ok (if b then "true" else "false")
  | int n => (Numeral.ofInt? n).map fun digits => String.ofList digits
  | float x => .ok (String.ofList (shownNumber x))
  | v => if v.hasLongInteger then .error .integerTooLong else .ok (.ofPoints (Json.write v))

theorem shown_of_isContainer {v : Value} (h : v.isContainer = true) :
    v.shown =
      if v.hasLongInteger then .error .integerTooLong else .ok (.ofPoints (Json.write v)) := by
  cases v with
  | list items => rfl
  | object entries => rfl
  | _ => cases h

/-- **Only an integer of too many digits** keeps a value from being shown. -/
theorem shown_eq_error_iff {v : Value} {fault : Fault} :
    v.shown = .error fault ↔ v.hasLongInteger = true ∧ fault = .integerTooLong := by
  cases v with
  | int n =>
    have hlong : (int n).hasLongInteger = Numeral.isLong n := anyPart_leaf rfl
    rw [shown, Numeral.ofInt?, hlong]
    cases Numeral.isLong n <;> simp [Except.map, eq_comm]
  | list items =>
    rw [shown_of_isContainer rfl]
    cases (list items).hasLongInteger <;> simp [eq_comm]
  | object entries =>
    rw [shown_of_isContainer rfl]
    cases (object entries).hasLongInteger <;> simp [eq_comm]
  | _ => simp [shown, hasLongInteger, anyPart, isLongInteger]

/-- A value without such integers is shown. -/
theorem exists_shown_of_short {v : Value} (h : v.hasLongInteger = false) :
    ∃ text, v.shown = .ok text := by
  cases hshown : v.shown with
  | ok text => exact ⟨text, rfl⟩
  | error fault => rw [(shown_eq_error_iff.mp hshown).1] at h; cases h

end Value
end WebhookRelay
