/-! # Entries in order

A list of pairs of a key and something under it serves as a dictionary that
remembers the order of its keys.  Looking up finds the first entry of a key;
entering keeps every key at the place where it first came.
-/

namespace WebhookRelay
namespace Entries

variable {κ α : Type} [DecidableEq κ]

/-- Enters something under a key: a known key keeps its place, a new key goes to
the end. -/
def enter (key : κ) (a : α) : List (κ × α) → List (κ × α)
  | [] => [(key, a)]
  | (k, b) :: rest => if k = key then (k, a) :: rest else (k, b) :: enter key a rest

/-- The entries of pairs that are entered one after the other. -/
def ofPairs (pairs : List (κ × α)) : List (κ × α) :=
  pairs.foldl (fun entries pair => enter pair.1 pair.2 entries) []

/-- Looking up goes through the entries from the first one on. -/
theorem lookup_cons_eq_ite (k key : κ) (a : α) (entries : List (κ × α)) :
    ((k, a) :: entries).lookup key = if key = k then some a else entries.lookup key := by
  by_cases h : key = k
  · simp [h]
  · have hbeq : (key == k) = false := beq_eq_false_iff_ne.mpr h
    simp [List.lookup_cons, hbeq, h]

theorem lookup_enter_self (key : κ) (a : α) (entries : List (κ × α)) :
    (enter key a entries).lookup key = some a := by
  induction entries with
  | nil => simp [enter]
  | cons entry rest ih =>
    obtain ⟨k, b⟩ := entry
    by_cases h : k = key
    · simp [enter, h]
    · have h' : (key == k) = false := by simpa using fun e => h e.symm
      simp [enter, h, List.lookup_cons, h', ih]

theorem lookup_enter_of_ne {key other : κ} (h : other ≠ key) (a : α)
    (entries : List (κ × α)) :
    (enter key a entries).lookup other = entries.lookup other := by
  have hne : (other == key) = false := beq_eq_false_iff_ne.mpr h
  induction entries with
  | nil => simp [enter, List.lookup_cons, hne]
  | cons entry rest ih =>
    obtain ⟨k, b⟩ := entry
    by_cases hk : k = key
    · subst hk
      simp [enter, List.lookup_cons, hne]
    · simp [enter, hk, List.lookup_cons, ih]

/-- The keys after entering: the old ones, and a new one at the end. -/
theorem keys_enter (key : κ) (a : α) (entries : List (κ × α)) :
    (enter key a entries).map Prod.fst =
      if key ∈ entries.map Prod.fst then entries.map Prod.fst
      else entries.map Prod.fst ++ [key] := by
  induction entries with
  | nil => simp [enter]
  | cons entry rest ih =>
    obtain ⟨k, b⟩ := entry
    by_cases hk : k = key
    · simp [enter, hk]
    · have hk' : key ≠ k := fun e => hk e.symm
      simp only [enter, hk, if_false, List.map_cons, ih, List.mem_cons, hk', false_or]
      split <;> simp

end Entries
end WebhookRelay
