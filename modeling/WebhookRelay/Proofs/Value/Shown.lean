import WebhookRelay.Proofs.Json.Compact
import WebhookRelay.Proofs.Json.Numbers
import WebhookRelay.Value.Shown

/-! # Containers are shown faithfully

A list or an object is shown as JSON that reads back as the same value, with its keys in their
order and its integers and binary64 numbers kept apart, without white space outside of quotes
and without control characters (`shown_faithful`).  Garbled texts are no exception: half of a
surrogate pair is written as it is, so what is shown is garbled too.

Reading back is the round trip of `readWithin_write`, by a reader without limits.  What a value
has to keep to there is little here: every binary64 number reads back (`Json.readsBack_float`),
so what is left is the number of digits of integers, and that no object repeats a key
(`Proper`).  The shape of the text is that of all written JSON (`Json.compact_write`).
-/

namespace WebhookRelay
namespace Value

mutual
/-- A value as it can be held: no object has a key twice, and no integer has more digits than
can be read. -/
def Proper : Value → Prop
  | int n => (Numeral.ofNat n.natAbs).length ≤ digitLimit
  | list items => ProperItems items
  | object entries => (entries.map Prod.fst).Nodup ∧ ProperEntries entries
  | _ => True

/-- `Proper` for the items of a list. -/
def ProperItems : List Value → Prop
  | [] => True
  | v :: rest => Proper v ∧ ProperItems rest

/-- `Proper` for the values in an object. -/
def ProperEntries : List (Wide × Value) → Prop
  | [] => True
  | (_, v) :: rest => Proper v ∧ ProperEntries rest
end

mutual
/-- Proper values keep to what a reader without limits asks for. -/
theorem Proper.legible : ∀ (v : Value) (depth : Nat), v.Proper → Json.Legible {} depth v
  | null, depth, _ => by
    rw [Json.Legible]
    trivial
  | bool b, depth, _ => by
    rw [Json.Legible]
    trivial
  | text s, depth, _ => by
    rw [Json.Legible]
    trivial
  | garbled g, depth, _ => by
    rw [Json.Legible]
    exact Json.admitsText_unlimited (.garbled g)
  | int n, depth, h => by
    rw [Proper] at h
    rw [Json.Legible]
    exact Json.readsBack_int h
  | float x, depth, _ => by
    rw [Json.Legible]
    exact Json.readsBack_float x
  | list items, depth, h => by
    rw [Proper] at h
    rw [Json.Legible]
    exact ⟨fun _ => rfl, ProperItems.legible items (depth + 1) h⟩
  | object entries, depth, h => by
    rw [Proper] at h
    rw [Json.Legible]
    exact ⟨fun _ => rfl, h.1, ProperEntries.legible entries (depth + 1) h.2⟩

/-- `Proper.legible` for the items of a list. -/
theorem ProperItems.legible : ∀ (items : List Value) (depth : Nat),
    ProperItems items → Json.LegibleItems {} depth items
  | [], depth, _ => by
    rw [Json.LegibleItems]
    trivial
  | v :: rest, depth, h => by
    rw [ProperItems] at h
    rw [Json.LegibleItems]
    exact ⟨Proper.legible v depth h.1, ProperItems.legible rest depth h.2⟩

/-- `Proper.legible` for the values in an object. -/
theorem ProperEntries.legible : ∀ (entries : List (Wide × Value)) (depth : Nat),
    ProperEntries entries → Json.LegibleEntries {} depth entries
  | [], depth, _ => by
    rw [Json.LegibleEntries]
    trivial
  | (key, v) :: rest, depth, h => by
    rw [ProperEntries] at h
    rw [Json.LegibleEntries]
    exact ⟨Json.admitsText_unlimited key, Proper.legible v depth h.1,
      ProperEntries.legible rest depth h.2⟩
end

mutual
/-- Proper values hold no integer that cannot be shown. -/
theorem Proper.hasLongInteger : ∀ v : Value, v.Proper → v.hasLongInteger = false
  | null, _ => anyPart_leaf rfl
  | bool b, _ => anyPart_leaf rfl
  | text s, _ => anyPart_leaf rfl
  | garbled g, _ => anyPart_leaf rfl
  | float x, _ => anyPart_leaf rfl
  | int n, h => by
    rw [Proper] at h
    have hleaf : (int n).hasLongInteger = Numeral.isLong n := anyPart_leaf rfl
    rw [hleaf, Numeral.isLong, decide_eq_false (Nat.not_lt.mpr h)]
  | list items, h => by
    rw [Proper] at h
    rw [Value.hasLongInteger, anyPart]
    exact ProperItems.hasLongInteger items h
  | object entries, h => by
    rw [Proper] at h
    rw [Value.hasLongInteger, anyPart]
    exact ProperEntries.hasLongInteger entries h.2

/-- `Proper.hasLongInteger` for the items of a list. -/
theorem ProperItems.hasLongInteger : ∀ items : List Value, ProperItems items →
    anyItem isLongInteger (fun _ => false) items = false
  | [], _ => by rw [anyItem]
  | v :: rest, h => by
    rw [ProperItems] at h
    have hfirst := Proper.hasLongInteger v h.1
    rw [Value.hasLongInteger] at hfirst
    rw [anyItem, hfirst, ProperItems.hasLongInteger rest h.2]
    rfl

/-- `Proper.hasLongInteger` for the values in an object. -/
theorem ProperEntries.hasLongInteger : ∀ entries : List (Wide × Value), ProperEntries entries →
    anyEntry isLongInteger (fun _ => false) entries = false
  | [], _ => by rw [anyEntry]
  | (_, v) :: rest, h => by
    rw [ProperEntries] at h
    have hfirst := Proper.hasLongInteger v h.1
    rw [Value.hasLongInteger] at hfirst
    rw [anyEntry, hfirst, ProperEntries.hasLongInteger rest h.2]
    rfl
end

/-- **Containers are shown faithfully.**  A list or an object without overlong integers is
shown, reading its text gives it back, and the text has neither control characters nor anything
but characters that are not blank outside of quotes. -/
theorem shown_faithful {v : Value} (hcontainer : v.isContainer = true) (hproper : v.Proper) :
    ∃ text, v.shown = .ok text ∧ Json.read text.points = .ok v ∧
      (∀ p ∈ text.points, 0x20 ≤ p.code) ∧
      ∀ p ∈ Json.between .outside text.points, ∃ c, p = .char c ∧ Text.isBlank c = false := by
  have hcompact := Json.compact_write v
  refine ⟨.ofPoints (Json.write v), ?_, ?_⟩
  · rw [shown_of_isContainer hcontainer, Proper.hasLongInteger v hproper]
    rfl
  · rw [Wide.points_ofPoints]
    exact ⟨Json.readWithin_write (Proper.legible v 0 hproper), hcompact.uncontrolled, fun p hp =>
      Json.exists_of_isVisible (hcompact.visible p hp)⟩

/-- Numbers that are equal and not the same, numbers that are not finite, a key that has to be
escaped, a garbled text and a garbled key, and empty containers. -/
theorem shown_faithful_nested :
    let half : Garbled := ⟨[.char 'x', .surrogate ⟨0xD83D, by decide⟩], rfl⟩
    let v : Value := object [("\"\\\n", list [int 5, float (.ofInt 5), float (.zero true),
      float (.ofInt 10000000000000000000000), float .nan, float (.infinity true)]),
      ("a b", object [("", text " \x01 "), ("c", list []), ("d", object []), ("e", null)]),
      (.garbled half, garbled half)]
    v.isContainer = true ∧ v.Proper ∧
      ∃ text, v.shown = .ok text ∧ Json.read text.points = .ok v ∧
        (∀ p ∈ text.points, 0x20 ≤ p.code) ∧
        ∀ p ∈ Json.between .outside text.points, ∃ c, p = .char c ∧ Text.isBlank c = false := by
  intro half v
  have hproper : v.Proper := by
    simp only [v, Proper, ProperItems, ProperEntries, and_true, true_and]
    decide
  exact ⟨rfl, hproper, shown_faithful rfl hproper⟩

end Value
end WebhookRelay
