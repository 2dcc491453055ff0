/-! # Splitting texts

A text can be split at every occurrence of a separator character, or cut once: at
the first occurrence of a token or a character, or at the last one of a character.
-/

namespace WebhookRelay
namespace Text

/-- The parts between the separators, in order; there is one more part than there
are separators. -/
def splitOn (separator : Char) : List Char → List (List Char)
  | [] => [[]]
  | c :: rest =>
    match splitOn separator rest with
    | [] => [[]]
    | part :: parts => if c = separator then [] :: part :: parts else (c :: part) :: parts

/-- The texts before and after the first occurrence of a token. -/
def cut? (token : List Char) (s : List Char) : Option (List Char × List Char) :=
  if token.isPrefixOf s then some ([], s.drop token.length)
  else match s with
    | [] => none
    | c :: rest => (cut? token rest).map fun (before, after) => (c :: before, after)

/-- The texts before and after the first occurrence of a character; if there is
none, all of the text is before it. -/
def cutChar (c : Char) (s : List Char) : List Char × List Char :=
  (s.takeWhile (· ≠ c), (s.dropWhile (· ≠ c)).drop 1)

/-- The texts before and after the last occurrence of a character; if there is none,
all of the text is after it. -/
def cutLast (c : Char) (s : List Char) : List Char × List Char :=
  ((s.reverse.dropWhile (· ≠ c)).tail.reverse, (s.reverse.takeWhile (· ≠ c)).reverse)

theorem splitOn_ne_nil (separator : Char) (s : List Char) : splitOn separator s ≠ [] := by
  cases s with
  | nil => simp [splitOn]
  | cons c rest =>
    rw [splitOn]
    split
    · simp
    · split <;> simp

/-- Putting the separator back between the parts gives the text again. -/
theorem intercalate_splitOn (separator : Char) (s : List Char) :
    [separator].intercalate (splitOn separator s) = s := by
  induction s with
  | nil => rfl
  | cons c rest ih =>
    rw [splitOn]
    split
    · next h => exact absurd h (splitOn_ne_nil separator rest)
    · next part parts h =>
      rw [h] at ih
      split
      · next hc =>
        subst hc
        rw [← ih]
        simp [List.intercalate, List.intersperse]
      · rw [← ih]
        cases parts <;> simp [List.intercalate, List.intersperse]

/-- A cut loses nothing but the token. -/
theorem append_of_cut? {token s before after : List Char}
    (h : cut? token s = some (before, after)) : s = before ++ token ++ after := by
  induction s generalizing before after with
  | nil =>
    rw [cut?] at h
    split at h
    · next hp =>
      obtain ⟨rfl, rfl⟩ := by simpa using h
      have := List.isPrefixOf_iff_prefix.mp hp
      simp_all
    · simp at h
  | cons c rest ih =>
    rw [cut?] at h
    split at h
    · next hp =>
      obtain ⟨rfl, rfl⟩ := by simpa using h
      obtain ⟨tail, ht⟩ := List.isPrefixOf_iff_prefix.mp hp
      simp [← ht]
    · obtain ⟨p, hp, hq⟩ := Option.map_eq_some_iff.mp h
      obtain ⟨rfl, rfl⟩ := by simpa using hq
      simp [ih hp]

end Text
end WebhookRelay
