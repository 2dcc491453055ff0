import Mathlib.Algebra.Group.Int.Defs
import Mathlib.Algebra.Group.Nat.Defs
import WebhookRelay.Expression.Evaluation
import WebhookRelay.Proofs.Template.Faults

/-! # Parts of payloads

What a payload holds at a place is a part of it, and so is what a path or an expression yields,
texts of the template apart.  So whatever occurs in none of the parts of a payload, as an integer
of too many digits or a garbled text, occurs in nothing that a placeholder stands for
(`Path.anyPart_of_resolve`, `Expression.anyPart_evaluate`).
-/

namespace WebhookRelay

/-- An integer has more digits than the limit if it is at least the least such number. -/
theorem Numeral.isLong_iff {n : Int} : isLong n = true ↔ 10 ^ digitLimit ≤ n.natAbs := by
  rw [isLong, decide_eq_true_iff, ← Nat.not_le, ofNat,
    Nat.length_toDigits_le_iff (by decide) (by decide), Nat.not_lt]

variable {ofLeaf : Value → Bool} {ofKey : Wide → Bool}

namespace Value

variable {v w : Value}

theorem anyItem_eq_any (items : List Value) :
    anyItem ofLeaf ofKey items = items.any (anyPart ofLeaf ofKey) := by
  induction items with
  | nil => rw [anyItem, List.any_nil]
  | cons v rest ih => rw [anyItem, List.any_cons, ih]

theorem anyEntry_eq_any (entries : List (Wide × Value)) :
    anyEntry ofLeaf ofKey entries = entries.any fun e => ofKey e.1 || anyPart ofLeaf ofKey e.2 := by
  induction entries with
  | nil => rw [anyEntry, List.any_nil]
  | cons e rest ih => rw [anyEntry, List.any_cons, ih]

/-- A part of what a value holds is a part of the value. -/
theorem anyPart_of_child? {step : Step} (h : v.child? step = some w)
    (hw : anyPart ofLeaf ofKey w = true) : anyPart ofLeaf ofKey v = true := by
  cases v with
  | list items =>
    cases step with
    | key name => cases h
    | index i =>
      have hmem : w ∈ items := List.mem_of_getElem? h
      rw [anyPart, anyItem_eq_any]
      exact List.any_eq_true.mpr ⟨w, hmem, hw⟩
  | object entries =>
    cases step with
    | index i => cases h
    | key name =>
      obtain ⟨before, after, rfl, -⟩ := List.lookup_eq_some_iff.mp h
      have hmem : (name, w) ∈ before ++ (name, w) :: after :=
        List.mem_append_right before List.mem_cons_self
      rw [anyPart, anyEntry_eq_any]
      exact List.any_eq_true.mpr ⟨_, hmem, by rw [hw, Bool.or_true]⟩
  | _ => cases h

end Value

/-- A segment leads to what the value holds under some step. -/
theorem Path.exists_child?_of_advance {segment : List Char} {here there : Located}
    (h : advance segment here = .ok (some there)) :
    ∃ step, here.value.child? step = some there.value := by
  rw [advance] at h
  cases htaken : step? here.value segment with
  | error fault =>
    rw [htaken] at h
    cases h
  | ok taken =>
    rw [htaken] at h
    obtain ⟨step, -, hstep⟩ := Option.bind_eq_some_iff.mp (Except.ok.inj h)
    obtain ⟨v, hv, rfl⟩ := Option.map_eq_some_iff.mp hstep
    exact ⟨step, hv⟩

/-- What segments lead to is a part of what they lead from. -/
theorem Path.anyPart_of_walk {segments : List (List Char)} {here there : Located}
    (h : walk segments here = .ok (some there))
    (hthere : Value.anyPart ofLeaf ofKey there.value = true) :
    Value.anyPart ofLeaf ofKey here.value = true := by
  induction segments generalizing here with
  | nil =>
    obtain rfl := Option.some.inj (Except.ok.inj h)
    exact hthere
  | cons segment rest ih =>
    rw [walk_cons] at h
    split at h
    · cases h
    · cases h
    · rename_i next hadvance
      obtain ⟨step, hchild⟩ := exists_child?_of_advance hadvance
      exact Value.anyPart_of_child? hchild (ih h)

section Free

variable {data v : Value} (hdata : Value.anyPart ofLeaf ofKey data = false)
include hdata

/-- What a path resolves to is null or a part of the payload. -/
theorem Path.anyPart_of_resolve (hnull : ofLeaf .null = false) {path : List Char}
    (h : resolve data path = .ok v) : Value.anyPart ofLeaf ofKey v = false := by
  rw [resolve, locate] at h
  split at h
  · cases hwalk : walk (segments path) ⟨[], data⟩ with
    | error fault =>
      rw [hwalk] at h
      cases h
    | ok found =>
      rw [hwalk] at h
      obtain rfl := Except.ok.inj h
      cases found with
      | none => rwa [Value.anyPart_leaf rfl]
      | some there =>
        rw [Bool.eq_false_iff] at hdata ⊢
        exact fun hthere => hdata (anyPart_of_walk hwalk hthere)
  · obtain rfl := Except.ok.inj h
    rwa [Value.anyPart_leaf rfl]

namespace Expression

variable (hnull : ofLeaf .null = false) (htext : ∀ s, ofLeaf (.text s) = false)
include hnull htext

theorem anyPart_of_pathValue {path : List Char} (h : pathValue path data = .ok v) :
    Value.anyPart ofLeaf ofKey v = false := by
  rw [pathValue] at h
  cases hresolve : Path.resolve data (Text.trim path) with
  | error fault =>
    rw [hresolve] at h
    cases h
  | ok w =>
    have hw := Path.anyPart_of_resolve hdata hnull hresolve
    rw [hresolve] at h
    obtain rfl := Except.ok.inj h
    cases w with
    | null => exact (Value.anyPart_leaf rfl).trans (htext "")
    | _ => exact hw

/-- **An expression yields** a text of its own or a part of the payload. -/
theorem anyPart_evaluate (expression : List Char) :
    Value.anyPart ofLeaf ofKey (evaluate expression data) = false := by
  have hown : ∀ s, Value.anyPart ofLeaf ofKey (.text s) = false := fun s =>
    (Value.anyPart_leaf rfl).trans (htext s)
  rw [evaluate]
  split
  · rename_i v hattempt
    rw [attempt] at hattempt
    split at hattempt
    · exact anyPart_of_pathValue hdata hnull htext hattempt
    · rename_i parts _
      cases hholds : holds parts.condition data with
      | error fault =>
        rw [hholds] at hattempt
        cases hattempt
      | ok chosen =>
        rw [hholds] at hattempt
        have hbranch : branchValue (if chosen then parts.whenTrue else parts.whenFalse) data =
          .ok v := hattempt
        rw [branchValue] at hbranch
        split at hbranch
        · obtain rfl := Except.ok.inj hbranch
          exact hown _
        · exact anyPart_of_pathValue hdata hnull htext hbranch
  · exact hown ""

end Expression
end Free
end WebhookRelay
