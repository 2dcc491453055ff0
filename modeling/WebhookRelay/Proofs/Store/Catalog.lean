import WebhookRelay.Proofs.Rule.RoundTrip
import WebhookRelay.Store.Memory.Lemmas
import WebhookRelay.Store.RuleStore

/-! # A rule store as a catalog

To its clients a rule store is a catalog: under each id a rule or none.  A memory
represents a catalog when the value under each key with the stem is the JSON of the
rule under the rest of the key (`RuleStore.Represents`); what lies under other keys is
the clients' own.  The section on operations says what each operation of the store does
to a memory that represents a catalog.  None of them can fail there, as a stored rule
reads back.
-/

namespace WebhookRelay

/-! ## Keys with a stem -/

theorem startsWith_append (stem id : String) : startsWith stem (stem ++ id) = true := by
  rw [startsWith, String.toList_append]
  exact List.isPrefixOf_iff_prefix.mpr (List.prefix_append _ _)

theorem exists_eq_append_of_startsWith {stem key : String} (h : startsWith stem key = true) :
    ∃ id, key = stem ++ id := by
  obtain ⟨rest, hrest⟩ := List.isPrefixOf_iff_prefix.mp h
  refine ⟨String.ofList rest, String.toList_inj.mp ?_⟩
  rw [String.toList_append, String.toList_ofList, hrest]

/-- What is in front of two texts does not matter to their order. -/
theorem append_lt_append_iff (stem : String) {a b : String} : stem ++ a < stem ++ b ↔ a < b := by
  change (stem ++ a).toList < (stem ++ b).toList ↔ a.toList < b.toList
  rw [String.toList_append, String.toList_append]
  induction stem.toList with
  | nil => rfl
  | cons c s ih =>
    rw [List.cons_append, List.cons_append, List.cons_lt_cons_iff, ih]
    simp

/-! ## What reading leaves -/

namespace RuleStore

/-- Getting leaves the memory as it is. -/
theorem run_get_snd (store : RuleStore) (id : String) (m : Memory) :
    ((store.get id).run Memory.backend m).2 = m := by
  simp only [get, Script.run, Memory.backend]
  cases m.get? (store.key id) <;> rfl

/-- Deleting what is not there leaves the memory as it is. -/
theorem run_delete_snd (store : RuleStore) (id : String) (m : Memory)
    (h : ((store.delete id).run Memory.backend m).1 = false) :
    ((store.delete id).run Memory.backend m).2 = m := by
  simp only [delete, Script.run, Memory.backend] at h ⊢
  cases hvalue : m.get? (store.key id) with
  | none => rfl
  | some text =>
    rw [hvalue] at h
    exact absurd h Bool.noConfusion

/-- Listing leaves the memory as it is. -/
theorem run_list_snd (store : RuleStore) (m : Memory) :
    (store.list.run Memory.backend m).2 = m := by
  have hread : ∀ keys : List String, ((read keys).run Memory.backend m).2 = m := by
    intro keys
    induction keys with
    | nil => rfl
    | cons key keys ih =>
      rw [read, Script.run]
      simp only [Memory.backend]
      split
      · exact ih
      · split
        · rfl
        · rw [Script.run_map]
          exact ih
  exact hread _

end RuleStore

/-! ## Catalogs -/

/-- The rules that there are, each under its id. -/
abbrev Catalog := String → Option Rule

namespace Catalog

/-- No rules. -/
def empty : Catalog := fun _ => none

/-- A rule comes in place of the one with its id. -/
def put (c : Catalog) (rule : Rule) : Catalog :=
  fun id => if id = rule.id.val then some rule else c id

/-- The rule with an id goes. -/
def erase (c : Catalog) (id : String) : Catalog := fun other => if other = id then none else c other

/-- The rules of a catalog in ascending order of their ids, which leaves no choice. -/
structure Lists (c : Catalog) (rules : List Rule) : Prop where
  ascending : rules.Pairwise fun a b => a.id.val < b.id.val
  mem_iff : ∀ rule, rule ∈ rules ↔ c rule.id.val = some rule

theorem Lists.nodup {c : Catalog} {rules : List Rule} (h : c.Lists rules) : rules.Nodup := by
  refine h.ascending.imp ?_
  rintro a _ hlt rfl
  exact String.lt_irrefl a.id.val hlt

theorem Lists.unique {c : Catalog} {rules others : List Rule} (h : c.Lists rules)
    (hothers : c.Lists others) : rules = others := by
  have hperm : rules.Perm others :=
    (List.perm_ext_iff_of_nodup h.nodup hothers.nodup).mpr fun rule =>
      (h.mem_iff rule).trans (hothers.mem_iff rule).symm
  exact hperm.eq_of_pairwise (fun a b _ _ hab hba => absurd hba (String.lt_asymm hab))
    h.ascending hothers.ascending

end Catalog

/-- What a memory holds, as seen by the clients of a store and of its backend. -/
structure View where
  rules : Catalog
  /-- The values under keys that do not start with the stem of the store. -/
  others : String → Option String

namespace RuleStore

/-- A memory holds the rules of a view under their keys, the other entries of the view,
and nothing else. -/
structure Represents (store : RuleStore) (m : Memory) (v : View) : Prop where
  rules : ∀ id, m.get? (store.key id) = (v.rules id).map Rule.toJson
  ids : ∀ id rule, v.rules id = some rule → rule.id.val = id
  others : ∀ key, startsWith store.stem key = false → m.get? key = v.others key

variable {store : RuleStore} {m : Memory} {v : View}

theorem key_inj {a b : String} : store.key a = store.key b ↔ a = b :=
  String.append_right_inj store.stem

theorem ne_key {key : String} (h : startsWith store.stem key = false) (id : String) :
    key ≠ store.key id := by
  rintro rfl
  exact absurd (startsWith_append store.stem id) (by rw [key] at h; simp [h])

/-- A memory without keys of the store represents the empty catalog. -/
theorem represents_of_fresh (h : ∀ key, startsWith store.stem key = true → m.get? key = none) :
    store.Represents m ⟨.empty, m.get?⟩ where
  rules id := h _ (startsWith_append store.stem id)
  ids _ _ hrule := nomatch hrule
  others _ _ := rfl

/-- A memory is determined by what it represents. -/
theorem Represents.eq {other : Memory} (h : store.Represents m v)
    (hother : store.Represents other v) : m = other := by
  refine Memory.ext_get? fun key => ?_
  cases hkey : startsWith store.stem key with
  | false => rw [h.others key hkey, hother.others key hkey]
  | true =>
    obtain ⟨id, rfl⟩ := exists_eq_append_of_startsWith hkey
    exact (h.rules id).trans (hother.rules id).symm

/-- Without other entries a memory holds the listed rules under their keys, in their order. -/
theorem Represents.entries_eq (h : store.Represents m v) (hothers : ∀ key, v.others key = none)
    {rules : List Rule} (hrules : v.rules.Lists rules) :
    m.entries = rules.map fun rule => (store.key rule.id.val, rule.toJson) := by
  refine Memory.eq_of_mem_iff m.sorted ?_ fun (key, value) => ?_
  · refine List.pairwise_map.mpr (hrules.ascending.imp ?_)
    exact (append_lt_append_iff store.stem).mpr
  · rw [Memory.mem_iff_lookup m.sorted, List.mem_map]
    change m.get? key = some value ↔ _
    constructor
    · intro hvalue
      cases hkey : startsWith store.stem key with
      | false => exact absurd ((h.others key hkey).symm.trans hvalue) (hothers key ▸ nofun)
      | true =>
        obtain ⟨id, rfl⟩ := exists_eq_append_of_startsWith hkey
        obtain ⟨rule, hrule, hjson⟩ := Option.map_eq_some_iff.mp ((h.rules id).symm.trans hvalue)
        have hid := h.ids id rule hrule
        exact ⟨rule, (hrules.mem_iff rule).mpr (hid ▸ hrule),
          Prod.ext (congrArg store.key hid) hjson⟩
    · rintro ⟨rule, hmem, heq⟩
      obtain ⟨rfl, rfl⟩ := Prod.mk.inj heq
      rw [h.rules, (hrules.mem_iff rule).mp hmem]
      rfl

/-! ## Operations -/

/-- Putting a rule puts it in the catalog. -/
theorem Represents.put (h : store.Represents m v) (rule : Rule) :
    store.Represents ((store.put rule).run Memory.backend m).2 { v with rules := v.rules.put rule }
    where
  rules id := by
    change (m.put (store.key rule.id.val) rule.toJson).get? (store.key id) = _
    simp only [Memory.get?_put, key_inj, h.rules, Catalog.put]
    split <;> rfl
  ids id other hother := by
    simp only [Catalog.put] at hother
    split at hother
    · rename_i hid
      cases hother
      exact hid.symm
    · exact h.ids id other hother
  others key hkey := by
    change (m.put (store.key rule.id.val) rule.toJson).get? key = _
    rw [Memory.get?_put, if_neg (ne_key hkey _), h.others key hkey]

/-- An entry that is none of the store's is put among the others. -/
theorem Represents.put_other (h : store.Represents m v) {key : String}
    (hkey : startsWith store.stem key = false) (value : String) :
    store.Represents (m.put key value)
      { v with others := fun other => if other = key then some value else v.others other } where
  rules id := by rw [Memory.get?_put, if_neg (ne_key hkey id).symm, h.rules]
  ids := h.ids
  others other hother := by rw [Memory.get?_put, h.others other hother]

/-- An entry that is none of the store's is erased from the others. -/
theorem Represents.erase_other (h : store.Represents m v) {key : String}
    (hkey : startsWith store.stem key = false) :
    store.Represents (m.erase key)
      { v with others := fun other => if other = key then none else v.others other } where
  rules id := by rw [Memory.get?_erase, if_neg (ne_key hkey id).symm, h.rules]
  ids := h.ids
  others other hother := by rw [Memory.get?_erase, h.others other hother]

/-- Getting answers what the catalog has under an id. -/
theorem Represents.run_get (h : store.Represents m v) (id : String) :
    (store.get id).run Memory.backend m = (.ok (v.rules id), m) := by
  have hget : (Memory.backend.get (store.key id) m) = ((v.rules id).map Rule.toJson, m) :=
    congrArg (·, m) (h.rules id)
  rw [get, Script.run, hget]
  cases v.rules id with
  | none => rfl
  | some rule =>
    simp only [Option.map_some, Script.run, Rule.ofJson_toJson]
    rfl

/-- Erasing the key of an id takes its rule from the catalog. -/
theorem Represents.erase (h : store.Represents m v) (id : String) :
    store.Represents (m.erase (store.key id)) { v with rules := v.rules.erase id } where
  rules other := by
    simp only [Memory.get?_erase, key_inj, h.rules, Catalog.erase]
    split <;> rfl
  ids other rule hrule := by
    simp only [Catalog.erase] at hrule
    split at hrule
    · cases hrule
    · exact h.ids other rule hrule
  others key hkey := by rw [Memory.get?_erase, if_neg (ne_key hkey _), h.others key hkey]

/-- Deleting answers whether the catalog has a rule under an id, and erases it. -/
theorem Represents.run_delete (h : store.Represents m v) (id : String) :
    (store.delete id).run Memory.backend m =
      ((v.rules id).isSome, if (v.rules id).isSome then m.erase (store.key id) else m) := by
  have hget : (Memory.backend.get (store.key id) m) = ((v.rules id).map Rule.toJson, m) :=
    congrArg (·, m) (h.rules id)
  rw [delete, Script.run, hget]
  cases v.rules id <;> rfl

/-- Whatever was there, no rule is under an id once it is deleted. -/
theorem Represents.delete (h : store.Represents m v) (id : String) :
    store.Represents ((store.delete id).run Memory.backend m).2
      { v with rules := v.rules.erase id } := by
  rw [h.run_delete]
  cases hrule : v.rules id with
  | some rule => exact h.erase id
  | none =>
    have hsame : v.rules.erase id = v.rules := by
      funext other
      rw [Catalog.erase]
      split
      · rename_i hother
        rw [hother, hrule]
      · rfl
    rw [hsame]
    exact h

/-- Reading keys of rules that there are gives these rules, in the order of the keys. -/
theorem Represents.run_read (h : store.Represents m v) (keys : List String)
    (hkeys : ∀ key ∈ keys, ∃ rule, v.rules rule.id.val = some rule ∧ key = store.key rule.id.val) :
    ∃ rules : List Rule, (read keys).run Memory.backend m = (.ok rules, m) ∧
      rules.map (fun rule => store.key rule.id.val) = keys ∧
      ∀ rule ∈ rules, v.rules rule.id.val = some rule := by
  induction keys with
  | nil => exact ⟨[], rfl, rfl, fun _ hrule => absurd hrule List.not_mem_nil⟩
  | cons key keys ih =>
    obtain ⟨rule, hrule, rfl⟩ := hkeys key List.mem_cons_self
    obtain ⟨rules, hrun, hmap, hrules⟩ := ih fun key hkey => hkeys key (List.mem_cons_of_mem _ hkey)
    refine ⟨rule :: rules, ?_, by rw [List.map_cons, hmap], ?_⟩
    · have hget : (Memory.backend.get (store.key rule.id.val) m) = (some rule.toJson, m) :=
        congrArg (·, m) ((h.rules _).trans (congrArg _ hrule))
      rw [read, Script.run, hget]
      simp only [Rule.ofJson_toJson]
      rw [Script.map, Script.run_bind, hrun]
      rfl
    · intro other hother
      rcases List.mem_cons.mp hother with rfl | hother
      · exact hrule
      · exact hrules other hother

/-- Listing answers the rules of the catalog in ascending order of their ids. -/
theorem Represents.run_list (h : store.Represents m v) :
    ∃ rules, v.rules.Lists rules ∧ store.list.run Memory.backend m = (.ok rules, m) := by
  -- whatever has the stem is the key of a rule
  have hkeys : ∀ key ∈ m.keys store.stem,
      ∃ rule, v.rules rule.id.val = some rule ∧ key = store.key rule.id.val := by
    intro key hkey
    obtain ⟨hstem, hvalue⟩ := (Memory.mem_keys m store.stem key).mp hkey
    obtain ⟨id, rfl⟩ := exists_eq_append_of_startsWith hstem
    change (m.get? (store.key id)).isSome = true at hvalue
    rw [h.rules, Option.isSome_map] at hvalue
    obtain ⟨rule, hrule⟩ := Option.isSome_iff_exists.mp hvalue
    have hid := h.ids id rule hrule
    exact ⟨rule, hid ▸ hrule, congrArg store.key hid.symm⟩
  obtain ⟨rules, hrun, hmap, hrules⟩ := h.run_read _ hkeys
  refine ⟨rules, ⟨?_, fun rule => ⟨hrules rule, fun hrule => ?_⟩⟩, hrun⟩
  · have hascending := Memory.pairwise_keys m store.stem
    rw [← hmap, List.pairwise_map] at hascending
    exact hascending.imp (append_lt_append_iff store.stem).mp
  · have hkey : store.key rule.id.val ∈ m.keys store.stem := by
      rw [Memory.mem_keys, h.rules, hrule]
      exact ⟨startsWith_append _ _, rfl⟩
    rw [← hmap] at hkey
    obtain ⟨other, hother, heq⟩ := List.mem_map.mp hkey
    have hid : other.id.val = rule.id.val := key_inj.mp heq
    have hsame := (hrules other hother).symm.trans ((congrArg v.rules hid).trans hrule)
    exact Option.some.inj hsame ▸ hother

end RuleStore
end WebhookRelay
