import WebhookRelay.Proofs.Json.RoundTrip

/-! # Where written JSON is Unicode

Written JSON holds half of a surrogate pair if and only if some text or key of the value does
(`any_isSurrogate_write`): everything else that is written is ASCII or a character of a text.
So the Unicode text of a value without garbled texts is the written JSON itself
(`points_text_of_hasGarbled_eq_false`).
-/

namespace WebhookRelay
namespace Json

/-! ## Written values -/

theorem any_isSurrogate_escapePoint (p : Point) :
    (escapePoint p).any Point.isSurrogate = p.isSurrogate := by
  cases p with
  | char c => exact Wide.any_isSurrogate_map (escape c)
  | surrogate s => rfl

theorem any_isSurrogate_flatMap_escapePoint (points : List Point) :
    (points.flatMap escapePoint).any Point.isSurrogate = points.any Point.isSurrogate := by
  rw [List.any_flatMap]
  exact congrArg points.any (funext any_isSurrogate_escapePoint)

theorem any_isSurrogate_quote (s : Wide) :
    (quote s).any Point.isSurrogate = s.isGarbled := by
  rw [quote, List.any_cons, List.any_append, any_isSurrogate_flatMap_escapePoint,
    Wide.isGarbled_eq_any]
  simp

theorem any_isSurrogate_commas (texts : List (List Point)) :
    (commas texts).any Point.isSurrogate = texts.any (·.any Point.isSurrogate) := by
  induction texts with
  | nil => rfl
  | cons first rest ih =>
    cases rest with
    | nil => rw [commas_singleton, List.any_cons, List.any_nil, Bool.or_false]
    | cons second rest =>
      rw [commas_cons_cons, List.any_append, List.any_cons, List.any_cons, ih]
      rfl

mutual
/-- **Written JSON holds half a pair** if and only if the value holds a garbled text. -/
theorem any_isSurrogate_write : ∀ v : Value,
    (write v).any Point.isSurrogate = v.hasGarbled
  | .null => by
    rw [write, Wide.any_isSurrogate_map]
    rfl
  | .bool b => by
    rw [write, Wide.any_isSurrogate_map]
    rfl
  | .int n => by
    rw [write, Wide.any_isSurrogate_map]
    rfl
  | .float x => by
    rw [write, Wide.any_isSurrogate_map]
    rfl
  | .text s => by
    rw [write, any_isSurrogate_quote]
    rfl
  | .garbled g => by
    rw [write, any_isSurrogate_quote]
    rfl
  | .list items => by
    rw [write, List.any_cons, List.any_append, any_isSurrogate_commas,
      any_isSurrogate_writeItems items]
    simp [Value.hasGarbled, Value.anyPart]
  | .object entries => by
    rw [write, List.any_cons, List.any_append, any_isSurrogate_commas,
      any_isSurrogate_writeEntries entries]
    simp [Value.hasGarbled, Value.anyPart]

/-- `any_isSurrogate_write` for the items of a list. -/
theorem any_isSurrogate_writeItems : ∀ items : List Value,
    (writeItems items).any (·.any Point.isSurrogate) =
      Value.anyItem Value.isGarbled Wide.isGarbled items
  | [] => by rw [writeItems, Value.anyItem, List.any_nil]
  | v :: rest => by
    rw [writeItems, Value.anyItem, List.any_cons, any_isSurrogate_write v,
      any_isSurrogate_writeItems rest, Value.hasGarbled]

/-- `any_isSurrogate_write` for the entries of an object. -/
theorem any_isSurrogate_writeEntries : ∀ entries : List (Wide × Value),
    (writeEntries entries).any (·.any Point.isSurrogate) =
      Value.anyEntry Value.isGarbled Wide.isGarbled entries
  | [] => by rw [writeEntries, Value.anyEntry, List.any_nil]
  | (key, v) :: rest => by
    rw [writeEntries, Value.anyEntry, List.any_cons, List.any_append, List.any_cons,
      any_isSurrogate_quote, any_isSurrogate_write v, any_isSurrogate_writeEntries rest,
      Value.hasGarbled, Point.isSurrogate_char, Bool.false_or]
end

/-! ## Written texts -/

/-- Points without half a pair are Unicode as they stand. -/
theorem map_char_flatMap_unicode {points : List Point}
    (h : points.any Point.isSurrogate = false) :
    (points.flatMap unicode).map Point.char = points := by
  induction points with
  | nil => rfl
  | cons p points ih =>
    rw [List.any_cons, Bool.or_eq_false_iff] at h
    rw [List.flatMap_cons, List.map_append, ih h.2]
    cases p with
    | char c => rfl
    | surrogate s => cases h.1

/-- **The text of a value** without garbled texts is the written JSON. -/
theorem points_text_of_hasGarbled_eq_false {v : Value} (h : v.hasGarbled = false) :
    (Wide.text (text v)).points = write v := by
  rw [Wide.points_text, text, String.toList_ofList,
    map_char_flatMap_unicode ((any_isSurrogate_write v).trans h)]

end Json
end WebhookRelay
