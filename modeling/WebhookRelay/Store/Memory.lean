import WebhookRelay.Store.Script

/-! # Entries in memory

A memory holds its entries in ascending order of their keys, each key once, so that
two memories with the same entries are equal.  Keys are compared by code points.
-/

namespace WebhookRelay

/-- A key-value store in memory. -/
structure Memory where
  entries : List (String × String)
  sorted : entries.Pairwise fun a b => a.1 < b.1

namespace Memory

/-- Puts an entry at its place; it replaces one with the same key. -/
def insert (key value : String) : List (String × String) → List (String × String)
  | [] => [(key, value)]
  | (k, v) :: rest =>
    if key < k then (key, value) :: (k, v) :: rest
    else if k = key then (key, value) :: rest
    else (k, v) :: insert key value rest

theorem mem_insert {key value : String} {entries : List (String × String)}
    {entry : String × String} (h : entry ∈ insert key value entries) :
    entry = (key, value) ∨ entry ∈ entries := by
  induction entries with
  | nil => exact .inl (by simpa [insert] using h)
  | cons head rest ih =>
    obtain ⟨k, v⟩ := head
    rw [insert] at h
    split at h
    · simpa using h
    · split at h
      · rcases List.mem_cons.mp h with h | h
        · exact .inl h
        · exact .inr (List.mem_cons_of_mem _ h)
      · rcases List.mem_cons.mp h with h | h
        · exact .inr (h ▸ List.mem_cons_self)
        · exact (ih h).imp_right (List.mem_cons_of_mem _)

/-- Inserting keeps the order of the entries. -/
theorem sorted_insert (key value : String) {entries : List (String × String)}
    (h : entries.Pairwise fun a b => a.1 < b.1) :
    (insert key value entries).Pairwise fun a b => a.1 < b.1 := by
  induction entries with
  | nil => simp [insert]
  | cons head rest ih =>
    obtain ⟨k, v⟩ := head
    obtain ⟨hhead, hrest⟩ := List.pairwise_cons.mp h
    rw [insert]
    split
    · rename_i hlt
      refine List.pairwise_cons.mpr ⟨fun entry hmem => ?_, h⟩
      rcases List.mem_cons.mp hmem with rfl | hmem
      · exact hlt
      · exact String.lt_trans hlt (hhead entry hmem)
    · split
      · rename_i heq
        subst heq
        exact List.pairwise_cons.mpr ⟨hhead, hrest⟩
      · rename_i hlt hne
        refine List.pairwise_cons.mpr ⟨fun entry hmem => ?_, ih hrest⟩
        rcases mem_insert hmem with rfl | hmem
        · exact Decidable.byContradiction fun hge =>
            hne (String.le_antisymm (String.not_lt.mp hlt) (String.not_lt.mp hge))
        · exact hhead entry hmem

/-- No entries. -/
def empty : Memory := ⟨[], .nil⟩

/-- The value under a key. -/
def get? (m : Memory) (key : String) : Option String := m.entries.lookup key

/-- Puts a value under a key. -/
def put (m : Memory) (key value : String) : Memory :=
  ⟨insert key value m.entries, sorted_insert key value m.sorted⟩

/-- Removes the entry of a key, if there is one. -/
def erase (m : Memory) (key : String) : Memory :=
  ⟨m.entries.filter (·.1 ≠ key), m.sorted.filter _⟩

/-- The keys that start with a stem, in ascending order. -/
def keys (m : Memory) (stem : String) : List String :=
  (m.entries.map Prod.fst).filter (startsWith stem)

/-- A memory as a backend. -/
def backend : Backend Memory where
  get key m := (m.get? key, m)
  put key value m := m.put key value
  delete key m := m.erase key
  keys stem m := (m.keys stem, m)

/-- A memory as a backend whose list of keys also names some that may be gone. -/
def staleBackend (gone : List String) : Backend Memory :=
  { backend with
    keys := fun stem m =>
      ((m.keys stem ++ gone.filter (startsWith stem)).mergeSort fun a b => decide (a ≤ b), m) }

end Memory
end WebhookRelay
