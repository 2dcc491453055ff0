import WebhookRelay.Entries
import WebhookRelay.Store.Memory

/-! # Memories through their values

A memory is seen through `get?`, the value under each key.  The lemmas say what
each operation does to that view: putting and erasing change one key, the listed
keys are the ones with a value, in ascending order, and a memory is determined by
its values.
-/

namespace WebhookRelay
namespace Memory

/-! ## Lists of entries -/

theorem lookup_insert (key value other : String) (entries : List (String × String)) :
    (insert key value entries).lookup other =
      if other = key then some value else entries.lookup other := by
  induction entries with
  | nil => rw [insert, Entries.lookup_cons_eq_ite]
  | cons head rest ih =>
    obtain ⟨k, v⟩ := head
    rw [insert]
    split
    · rw [Entries.lookup_cons_eq_ite]
    · split
      · rename_i heq
        subst heq
        by_cases h : other = k <;> simp [Entries.lookup_cons_eq_ite, h]
      · rename_i hne
        by_cases h : other = k
        · subst h
          simp [hne]
        · simp [Entries.lookup_cons_eq_ite, h, ih]

theorem lookup_filter_ne (key other : String) (entries : List (String × String)) :
    (entries.filter fun entry => entry.1 ≠ key).lookup other =
      if other = key then none else entries.lookup other := by
  induction entries with
  | nil => simp
  | cons head rest ih =>
    obtain ⟨k, v⟩ := head
    by_cases hk : k = key
    · subst hk
      rw [List.filter_cons_of_neg (by simp), ih]
      by_cases h : other = k <;> simp [Entries.lookup_cons_eq_ite, h]
    · rw [List.filter_cons_of_pos (by simpa using hk), Entries.lookup_cons_eq_ite, ih]
      by_cases h : other = k
      · subst h
        simp [hk]
      · simp [Entries.lookup_cons_eq_ite, h]

/-- In ascending entries each key has one value. -/
theorem mem_iff_lookup {entries : List (String × String)}
    (h : entries.Pairwise fun a b => a.1 < b.1) (key value : String) :
    (key, value) ∈ entries ↔ entries.lookup key = some value := by
  induction entries with
  | nil => simp
  | cons head rest ih =>
    obtain ⟨k, v⟩ := head
    obtain ⟨hhead, hrest⟩ := List.pairwise_cons.mp h
    rw [List.mem_cons, Entries.lookup_cons_eq_ite]
    by_cases hk : key = k
    · subst hk
      have hnot : (key, value) ∉ rest := fun hmem =>
        String.lt_irrefl key (hhead (key, value) hmem)
      simp [hnot, eq_comm]
    · simp [hk, ih hrest]

theorem mem_keys_iff_isSome_lookup (key : String) (entries : List (String × String)) :
    key ∈ entries.map Prod.fst ↔ (entries.lookup key).isSome = true := by
  induction entries with
  | nil => simp
  | cons head rest ih =>
    obtain ⟨k, v⟩ := head
    rw [List.map_cons, List.mem_cons, Entries.lookup_cons_eq_ite, ih]
    by_cases hk : key = k <;> simp [hk]

/-- Ascending entries are determined by which entries there are. -/
theorem eq_of_mem_iff {left right : List (String × String)}
    (hl : left.Pairwise fun a b => a.1 < b.1) (hr : right.Pairwise fun a b => a.1 < b.1)
    (h : ∀ entry, entry ∈ left ↔ entry ∈ right) : left = right := by
  induction left generalizing right with
  | nil =>
    symm
    exact List.eq_nil_iff_forall_not_mem.mpr fun entry hmem => by simpa using (h entry).mpr hmem
  | cons a left ih =>
    cases right with
    | nil => simpa using (h a).mp List.mem_cons_self
    | cons b right =>
      obtain ⟨ha, hleft⟩ := List.pairwise_cons.mp hl
      obtain ⟨hb, hright⟩ := List.pairwise_cons.mp hr
      have hab : a = b := by
        rcases List.mem_cons.mp ((h a).mp List.mem_cons_self) with hab | hab
        · exact hab
        · rcases List.mem_cons.mp ((h b).mpr List.mem_cons_self) with hba | hba
          · exact hba.symm
          · exact absurd (ha b hba) (String.lt_asymm (hb a hab))
      subst hab
      refine congrArg (a :: ·) (ih hleft hright fun entry => ⟨fun hmem => ?_, fun hmem => ?_⟩)
      · rcases List.mem_cons.mp ((h entry).mp (List.mem_cons_of_mem _ hmem)) with rfl | hmem'
        · exact absurd (ha entry hmem) (String.lt_irrefl entry.1)
        · exact hmem'
      · rcases List.mem_cons.mp ((h entry).mpr (List.mem_cons_of_mem _ hmem)) with rfl | hmem'
        · exact absurd (hb entry hmem) (String.lt_irrefl entry.1)
        · exact hmem'

/-! ## Memories -/

@[simp] theorem get?_put (m : Memory) (key value other : String) :
    (m.put key value).get? other = if other = key then some value else m.get? other :=
  lookup_insert key value other m.entries

@[simp] theorem get?_erase (m : Memory) (key other : String) :
    (m.erase key).get? other = if other = key then none else m.get? other :=
  lookup_filter_ne key other m.entries

/-- The listed keys are those with a value that start with the stem. -/
@[simp] theorem mem_keys (m : Memory) (stem key : String) :
    key ∈ m.keys stem ↔ startsWith stem key = true ∧ (m.get? key).isSome = true := by
  rw [keys, List.mem_filter, mem_keys_iff_isSome_lookup, and_comm]
  rfl

/-- The keys are listed in ascending order, each once. -/
theorem pairwise_keys (m : Memory) (stem : String) : (m.keys stem).Pairwise (· < ·) :=
  (List.pairwise_map.mpr m.sorted).filter _

/-- A memory is determined by its values. -/
theorem ext_get? {m other : Memory} (h : ∀ key, m.get? key = other.get? key) : m = other := by
  obtain ⟨left, hl⟩ := m
  obtain ⟨right, hr⟩ := other
  have heq : left = right := eq_of_mem_iff hl hr fun entry => by
    have hvalue : left.lookup entry.1 = right.lookup entry.1 := h entry.1
    rw [mem_iff_lookup hl entry.1 entry.2, mem_iff_lookup hr entry.1 entry.2, hvalue]
  subst heq
  rfl

end Memory
end WebhookRelay
