import WebhookRelay.Entries
import WebhookRelay.Path
import WebhookRelay.Proofs.Text.Scanning

/-! # What paths can tell apart

A segment of a path is a key that is **addressable**: it is not empty, not reserved, and
consists of letters and digits of the basic alphabet and underscores.  What an object holds
under any other key is out of reach, and so is the order of its keys.

Two payloads are **alike** if they become the same, up to the order of keys, once all entries
under other keys are deleted at every depth (`Value.Alike`).  Values that are alike are equal
or both lists or both objects, and a step that a path can take leads from them to values that
are alike again (`Value.Alike.cases`, `Value.Alike.child?`).
-/

namespace WebhookRelay
namespace Value

/-! ## Deleting what no path can name -/

/-- Can a path name the key? -/
def isAddressable : Wide → Bool
  | .text key =>
    key ≠ "" && !(["__proto__", "constructor", "prototype"].contains key) &&
      key.toList.all fun c => c.isAlphanum || c = '_'
  | .garbled _ => false

mutual
/-- A value without the entries, at any depth, whose keys no path can name. -/
def prune : Value → Value
  | list items => list (pruneItems items)
  | object entries => object (pruneEntries entries)
  | v => v

/-- `prune` for the items of a list. -/
def pruneItems : List Value → List Value
  | [] => []
  | v :: rest => prune v :: pruneItems rest

/-- `prune` for the entries of an object. -/
def pruneEntries : List (Wide × Value) → List (Wide × Value)
  | [] => []
  | (key, v) :: rest =>
    if isAddressable key then (key, prune v) :: pruneEntries rest else pruneEntries rest
end

theorem pruneItems_eq_map (items : List Value) : pruneItems items = items.map prune := by
  induction items with
  | nil => rw [pruneItems, List.map_nil]
  | cons v rest ih => rw [pruneItems, ih, List.map_cons]

/-- What is left under a key is what was there, pruned itself. -/
theorem lookup_pruneEntries (key : Wide) (entries : List (Wide × Value)) :
    (pruneEntries entries).lookup key =
      if isAddressable key then (entries.lookup key).map prune else none := by
  induction entries with
  | nil => simp [pruneEntries]
  | cons entry rest ih =>
    obtain ⟨other, v⟩ := entry
    rw [pruneEntries, Entries.lookup_cons_eq_ite]
    by_cases heq : key = other
    · subst heq
      split
      · rw [Entries.lookup_cons_eq_ite, if_pos rfl, if_pos rfl, Option.map_some]
      · rename_i hkey
        rw [ih, if_neg hkey]
    · rw [if_neg heq]
      split
      · rw [Entries.lookup_cons_eq_ite, if_neg heq, ih]
      · exact ih

theorem prune_of_isContainer_eq_false {v : Value} (h : v.isContainer = false) : v.prune = v := by
  cases v with
  | list items => cases h
  | object entries => cases h
  | _ => simp only [prune]

theorem isContainer_prune (v : Value) : v.prune.isContainer = v.isContainer := by
  cases v <;> simp only [prune, isContainer]

/-- Pruning makes neither a scalar nor a container. -/
theorem prune_eq_list {v : Value} {items : List Value} (h : v.prune = .list items) :
    ∃ kept, v = .list kept ∧ items = kept.map prune := by
  cases v with
  | list kept =>
    rw [prune, pruneItems_eq_map] at h
    exact ⟨kept, rfl, (Value.list.inj h).symm⟩
  | _ => simp [prune] at h

theorem prune_eq_object {v : Value} {entries : List (Wide × Value)}
    (h : v.prune = .object entries) : ∃ kept, v = .object kept ∧ entries = pruneEntries kept := by
  cases v with
  | object kept =>
    rw [prune] at h
    exact ⟨kept, rfl, (Value.object.inj h).symm⟩
  | _ => simp [prune] at h

/-! ## The same up to the order of keys -/

/-- Are two values the same, whatever the order of the keys in objects?  Integers and
binary64 numbers differ. -/
inductive Same : Value → Value → Prop where
  | scalar {v : Value} (scalar : v.isContainer = false) : Same v v
  | list {items others : List Value} (length : items.length = others.length)
      (held : ∀ (i : Nat) a b, items[i]? = some a → others[i]? = some b → Same a b) :
    Same (.list items) (.list others)
  | object {entries others : List (Wide × Value)}
      (keys : ∀ key, entries.lookup key = none ↔ others.lookup key = none)
      (held : ∀ key a b, entries.lookup key = some a → others.lookup key = some b → Same a b) :
    Same (.object entries) (.object others)

mutual
theorem same_refl : ∀ v : Value, Same v v
  | .list items => .list rfl fun i a b ha hb => by
    obtain rfl : a = b := Option.some.inj (ha.symm.trans hb)
    exact same_of_mem items a (List.mem_of_getElem? ha)
  | .object entries => .object (fun _ => Iff.rfl) fun key a b ha hb => by
    obtain rfl : a = b := Option.some.inj (ha.symm.trans hb)
    exact same_of_lookup entries key a ha
  | .null | .bool _ | .int _ | .float _ | .text _ | .garbled _ => .scalar rfl

/-- `same_refl` for the items of a list. -/
theorem same_of_mem : ∀ (items : List Value) (a : Value), a ∈ items → Same a a
  | [], _, h => absurd h List.not_mem_nil
  | v :: rest, a, h => by
    rcases List.mem_cons.mp h with heq | h
    · rw [heq]
      exact same_refl v
    · exact same_of_mem rest a h

/-- `same_refl` for the entries of an object. -/
theorem same_of_lookup : ∀ (entries : List (Wide × Value)) (key : Wide) (a : Value),
    entries.lookup key = some a → Same a a
  | [], _, _, h => nomatch h
  | (other, v) :: rest, key, a, h => by
    rw [Entries.lookup_cons_eq_ite] at h
    split at h
    · obtain rfl : v = a := Option.some.inj h
      exact same_refl v
    · exact same_of_lookup rest key a h
end

/-- The order of entries under different keys does not matter to a look-up. -/
theorem lookup_eq_of_perm {entries others : List (Wide × Value)} (h : entries.Perm others)
    (hkeys : (entries.map Prod.fst).Nodup) (key : Wide) :
    entries.lookup key = others.lookup key := by
  induction h with
  | nil => rfl
  | cons entry _ ih =>
    rw [List.map_cons, List.nodup_cons] at hkeys
    rw [Entries.lookup_cons_eq_ite, Entries.lookup_cons_eq_ite, ih hkeys.2]
  | swap first second rest =>
    have hne : second.1 ≠ first.1 := by
      rw [List.map_cons, List.map_cons, List.nodup_cons] at hkeys
      exact fun heq => hkeys.1 (heq ▸ List.mem_cons_self)
    rw [Entries.lookup_cons_eq_ite, Entries.lookup_cons_eq_ite, Entries.lookup_cons_eq_ite,
      Entries.lookup_cons_eq_ite]
    by_cases heq : key = second.1
    · rw [if_pos heq, if_neg fun h => hne (heq.symm.trans h), if_pos heq]
    · rw [if_neg heq, if_neg heq]
  | trans hfirst _ ih ih' =>
    rw [ih hkeys, ih' ((hfirst.map Prod.fst).nodup_iff.mp hkeys)]

/-- Objects with the same entries in another order are the same. -/
theorem same_of_perm {entries others : List (Wide × Value)} (h : entries.Perm others)
    (hkeys : (entries.map Prod.fst).Nodup) : Same (.object entries) (.object others) := by
  refine .object (fun key => by rw [lookup_eq_of_perm h hkeys]) fun key a b ha hb => ?_
  rw [← lookup_eq_of_perm h hkeys, ha] at hb
  obtain rfl := Option.some.inj hb
  exact same_refl a

/-- Are two values the same once everything that no path can name is deleted? -/
def Alike (v w : Value) : Prop := Same v.prune w.prune

theorem alike_of_isContainer_eq_false {v : Value} (h : v.isContainer = false) : Alike v v := by
  rw [Alike, prune_of_isContainer_eq_false h]
  exact .scalar h

/-- Values that are alike are equal, lists of alike items, or objects with alike values under
the keys that a path can name. -/
theorem Alike.cases {v w : Value} (h : Alike v w) :
    (v.isContainer = false ∧ v = w) ∨
    (∃ items others, v = .list items ∧ w = .list others ∧
      ∀ i : Nat, Option.Rel Alike items[i]? others[i]?) ∨
    (∃ entries others, v = .object entries ∧ w = .object others ∧
      ∀ key, isAddressable key = true →
        Option.Rel Alike (entries.lookup key) (others.lookup key)) := by
  rw [Alike] at h
  -- pruning changes no kind, so the cases of the pruned values are those of the values
  generalize hv : v.prune = p at h
  generalize hw : w.prune = q at h
  cases h with
  | scalar hscalar =>
    have hv' : v.isContainer = false := by rw [← isContainer_prune, hv, hscalar]
    have hw' : w.isContainer = false := by rw [← isContainer_prune, hw, hscalar]
    rw [prune_of_isContainer_eq_false hv'] at hv
    rw [prune_of_isContainer_eq_false hw'] at hw
    exact Or.inl ⟨hv', hv.trans hw.symm⟩
  | list hlength hheld =>
    obtain ⟨items, rfl, rfl⟩ := prune_eq_list hv
    obtain ⟨others, rfl, rfl⟩ := prune_eq_list hw
    refine Or.inr (Or.inl ⟨items, others, rfl, rfl, fun i => ?_⟩)
    rw [List.length_map, List.length_map] at hlength
    by_cases hi : i < items.length
    · rw [List.getElem?_eq_getElem hi, List.getElem?_eq_getElem (hlength ▸ hi)]
      refine .some (hheld i _ _ ?_ ?_)
      · rw [List.getElem?_map, List.getElem?_eq_getElem hi, Option.map_some]
      · rw [List.getElem?_map, List.getElem?_eq_getElem (hlength ▸ hi), Option.map_some]
    · rw [List.getElem?_eq_none (Nat.not_lt.mp hi),
        List.getElem?_eq_none (hlength ▸ Nat.not_lt.mp hi)]
      exact .none
  | object hkeys hheld =>
    obtain ⟨entries, rfl, rfl⟩ := prune_eq_object hv
    obtain ⟨others, rfl, rfl⟩ := prune_eq_object hw
    refine Or.inr (Or.inr ⟨entries, others, rfl, rfl, fun key hkey => ?_⟩)
    have hnone := hkeys key
    have hsome := hheld key
    rw [lookup_pruneEntries, lookup_pruneEntries, if_pos hkey, if_pos hkey,
      Option.map_eq_none_iff, Option.map_eq_none_iff] at hnone
    rw [lookup_pruneEntries, lookup_pruneEntries, if_pos hkey, if_pos hkey] at hsome
    cases hentry : entries.lookup key with
    | none =>
      rw [hnone.mp hentry]
      exact .none
    | some a =>
      cases hother : others.lookup key with
      | none => exact absurd (hentry.symm.trans (hnone.mpr hother)) nofun
      | some b => exact .some (hsome _ _ (by rw [hentry, Option.map_some])
          (by rw [hother, Option.map_some]))

/-- Values that are alike are equal or both containers. -/
theorem Alike.eq_or_isContainer {v w : Value} (h : Alike v w) :
    (v.isContainer = false ∧ v = w) ∨ (v.isContainer = true ∧ w.isContainer = true) := by
  rcases h.cases with hscalar | ⟨items, others, rfl, rfl, -⟩ | ⟨entries, others, rfl, rfl, -⟩
  · exact Or.inl hscalar
  · exact Or.inr ⟨rfl, rfl⟩
  · exact Or.inr ⟨rfl, rfl⟩

end Value

namespace Path

/-! ## Segments -/

/-- The segments of a path are addressable keys. -/
theorem isAddressable_of_mem_segments {path segment : List Char} (htext : isPathText path = true)
    (hmem : segment ∈ segments path) (hsegment : isSegment segment = true) :
    Value.isAddressable (.text (String.ofList segment)) = true := by
  rw [isSegment, Bool.and_eq_true] at hsegment
  obtain ⟨hne, hreserved⟩ := hsegment
  rw [isPathText, Bool.and_eq_true, List.all_eq_true] at htext
  have hchars : ∀ c ∈ segment, (c.isAlphanum || c = '_') = true := by
    intro c hc
    -- of the characters of paths only the point stands in no segment
    obtain ⟨hpath, hpoint⟩ := Text.mem_of_mem_splitOn hmem hc
    have hchar := htext.2 c hpath
    rw [isPathChar, Bool.or_eq_true] at hchar
    exact hchar.resolve_right (by simpa using hpoint)
  rw [Value.isAddressable, Bool.and_eq_true, Bool.and_eq_true, String.toList_ofList,
    List.all_eq_true]
  exact ⟨⟨by simpa using hne, hreserved⟩, hchars⟩

variable {v w : Value}

/-- Alike values are left by the same step. -/
theorem step?_eq_of_alike (h : v.Alike w) (segment : List Char) :
    step? v segment = step? w segment := by
  rcases h.cases with ⟨-, rfl⟩ | ⟨items, others, rfl, rfl, -⟩ | ⟨entries, others, rfl, rfl, -⟩
  · rfl
  · rfl
  · rfl

/-- A step that a path can take leads from alike values to alike values. -/
theorem child?_of_alike (h : v.Alike w) {segment : List Char}
    (hsegment : Value.isAddressable (.text (String.ofList segment)) = true) {step : Step}
    (hstep : step? v segment = .ok (some step)) :
    Option.Rel Value.Alike (v.child? step) (w.child? step) := by
  rcases h.cases with ⟨hscalar, rfl⟩ | ⟨items, others, rfl, rfl, hitems⟩ |
    ⟨entries, others, rfl, rfl, hentries⟩
  · cases v with
    | list items => cases hscalar
    | object entries => cases hscalar
    | _ => cases hstep
  · cases step with
    | key name => exact .none
    | index i => exact hitems i
  · obtain rfl : .key (.text (String.ofList segment)) = step :=
      Option.some.inj (Except.ok.inj hstep)
    exact hentries _ hsegment

end Path
end WebhookRelay
