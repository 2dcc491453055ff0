/-! # Texts wider than Unicode

JSON can escape half of a surrogate pair without the other half.  What is read from
such an escape is a point of the text like any other, but it is no character, and no
encoding of Unicode can write it.

A text that holds such a point is **garbled**; a text of characters alone is a string.
So a wide text has one form, and two of them are equal when their points are.
-/

namespace WebhookRelay

/-- Half of a surrogate pair, by its code. -/
abbrev Surrogate := { code : Nat // 0xD800 ≤ code ∧ code < 0xE000 }

/-- A point of a wide text. -/
inductive Point where
  | char (c : Char)
  | surrogate (s : Surrogate)
  deriving DecidableEq, Repr

instance : Coe Char Point := ⟨Point.char⟩

namespace Point

/-- The code of a point. -/
def code : Point → Nat
  | char c => c.toNat
  | surrogate s => s.val

/-- The point of a code. -/
def ofCode (code : Nat) : Point :=
  if h : 0xD800 ≤ code ∧ code < 0xE000 then surrogate ⟨code, h⟩ else char (Char.ofNat code)

/-- Is the point half of a surrogate pair? -/
def isSurrogate : Point → Bool
  | char _ => false
  | surrogate _ => true

/-- The character that a point is. -/
def char? : Point → Option Char
  | char c => some c
  | surrogate _ => none

@[simp] theorem isSurrogate_char (c : Char) : (char c).isSurrogate = false := rfl

@[simp] theorem isSurrogate_surrogate (s : Surrogate) : (surrogate s).isSurrogate = true := rfl

@[simp] theorem char?_char (c : Char) : (char c).char? = some c := rfl

@[simp] theorem ofCode_code (p : Point) : ofCode p.code = p := by
  cases p with
  | char c =>
    have hvalid : c.toNat < 0xD800 ∨ 0xDFFF < c.toNat ∧ c.toNat < 0x110000 := c.valid
    rw [ofCode, code, dif_neg (by omega), Char.ofNat_toNat]
  | surrogate s => exact dif_pos s.property

theorem code_injective {p q : Point} (h : p.code = q.code) : p = q := by
  rw [← ofCode_code p, h, ofCode_code]

end Point

/-- The points of a text of which some are no characters. -/
abbrev Garbled := { points : List Point // points.any Point.isSurrogate = true }

/-- A wide text. -/
inductive Wide where
  | text (s : String)
  | garbled (g : Garbled)
  deriving DecidableEq, Repr

instance : Coe String Wide := ⟨Wide.text⟩

namespace Wide

instance : Inhabited Wide := ⟨text ""⟩

/-- The points of a text. -/
def points : Wide → List Point
  | text s => s.toList.map .char
  | garbled g => g.val

/-- The text with these points. -/
def ofPoints (points : List Point) : Wide :=
  if h : points.any Point.isSurrogate = true then garbled ⟨points, h⟩
  else text (String.ofList (points.filterMap Point.char?))

/-- The string that a text is. -/
def string? : Wide → Option String
  | text s => some s
  | garbled _ => none

/-- Is the text garbled? -/
def isGarbled : Wide → Bool
  | text _ => false
  | garbled _ => true

/-- One text behind the other.  Two halves of a pair that meet stay apart. -/
def append : Wide → Wide → Wide
  | text s, text t => text (s ++ t)
  | s, t => ofPoints (s.points ++ t.points)

instance : Append Wide := ⟨append⟩

/-- Texts one behind the other. -/
def join (texts : List Wide) : Wide := texts.foldr (· ++ ·) (text "")

/-- The codes of the points of a text. -/
def codes (s : Wide) : List Nat := s.points.map Point.code

/-- Texts are ordered by the codes of their points, the first difference deciding. -/
instance : LT Wide := ⟨fun s t => s.codes < t.codes⟩

instance : LE Wide := ⟨fun s t => ¬ t < s⟩

instance (s t : Wide) : Decidable (s < t) := inferInstanceAs (Decidable (s.codes < t.codes))

instance (s t : Wide) : Decidable (s ≤ t) := inferInstanceAs (Decidable (¬ t < s))

@[simp] theorem points_text (s : String) : (text s).points = s.toList.map .char := rfl

theorem filterMap_char?_map (s : List Char) :
    (s.map Point.char).filterMap Point.char? = s := by
  rw [List.filterMap_map]
  exact List.filterMap_some

theorem any_isSurrogate_map (s : List Char) :
    (s.map Point.char).any Point.isSurrogate = false := by
  simp

/-- Points without half a pair are characters. -/
theorem map_char_filterMap {points : List Point} (h : points.any Point.isSurrogate = false) :
    (points.filterMap Point.char?).map Point.char = points := by
  induction points with
  | nil => rfl
  | cons p points ih =>
    rw [List.any_cons, Bool.or_eq_false_iff] at h
    cases p with
    | char c => rw [List.filterMap_cons_some (Point.char?_char c), List.map_cons, ih h.2]
    | surrogate s => exact absurd h.1 (by simp)

@[simp] theorem points_ofPoints (points : List Point) : (ofPoints points).points = points := by
  unfold ofPoints
  split
  · rfl
  · rename_i h
    rw [points_text, String.toList_ofList]
    exact map_char_filterMap (Bool.eq_false_iff.mpr h)

@[simp] theorem ofPoints_points (s : Wide) : ofPoints s.points = s := by
  cases s with
  | text s =>
    unfold ofPoints
    rw [dif_neg (by simp), points_text, filterMap_char?_map,
      String.ofList_toList]
  | garbled g => exact dif_pos g.property

theorem points_injective {s t : Wide} (h : s.points = t.points) : s = t := by
  rw [← ofPoints_points s, h, ofPoints_points]

@[simp] theorem text_append_text (s t : String) : text s ++ text t = text (s ++ t) := rfl

@[simp] theorem points_append (s t : Wide) : (s ++ t).points = s.points ++ t.points := by
  cases s with
  | text s =>
    cases t with
    | text t => simp
    | garbled g => exact points_ofPoints _
  | garbled g => exact points_ofPoints _

theorem append_assoc (s t u : Wide) : s ++ t ++ u = s ++ (t ++ u) :=
  points_injective (by simp)

@[simp] theorem empty_append (s : Wide) : text "" ++ s = s := points_injective (by simp)

@[simp] theorem append_empty (s : Wide) : s ++ text "" = s := points_injective (by simp)

/-- A text is garbled if and only if one of its points is half of a pair. -/
theorem isGarbled_eq_any (s : Wide) : s.isGarbled = s.points.any Point.isSurrogate := by
  cases s with
  | text s => exact (any_isSurrogate_map s.toList).symm
  | garbled g => exact g.property.symm

@[simp] theorem isGarbled_append (s t : Wide) :
    (s ++ t).isGarbled = (s.isGarbled || t.isGarbled) := by
  simp only [isGarbled_eq_any, points_append, List.any_append]

@[simp] theorem join_nil : join [] = text "" := rfl

@[simp] theorem join_cons (s : Wide) (texts : List Wide) : join (s :: texts) = s ++ join texts :=
  rfl

end Wide
end WebhookRelay
