import WebhookRelay.Proofs.Json.Unicode
import WebhookRelay.Rule.Codec

/-! # Stored rules read back

What a rule is written as is read back as that rule (`Rule.ofJson_toJson`).  Two things
have to be seen.  The object of a rule keeps to the limits of reading: it is two deep, no
key comes twice, and there are neither numbers nor garbled texts in it.  And the checks
find in that object what was put there: a template that is left out is found to be missing,
whatever the others are.
-/

namespace WebhookRelay

namespace Mapping

/-- The optional templates that are defined, with their keys. -/
def defined (options : List (String × Option String)) : List (String × String) :=
  options.filterMap fun (key, template) => template.map fun t => (key, t)

theorem keys_defined_sublist (options : List (String × Option String)) :
    ((defined options).map Prod.fst).Sublist (options.map Prod.fst) := by
  induction options with
  | nil => exact .slnil
  | cons option options ih =>
    obtain ⟨key, template⟩ := option
    cases template with
    | none => exact ih.cons key
    | some t => exact ih.cons_cons key

/-- Looking for a template that is left out finds none, since no other has its key. -/
theorem lookup_defined {options : List (String × Option String)} {key : String}
    {template : Option String} (hkeys : (options.map Prod.fst).Nodup)
    (hmem : (key, template) ∈ options) : (defined options).lookup key = template := by
  induction options with
  | nil => exact absurd hmem List.not_mem_nil
  | cons option options ih =>
    obtain ⟨k, other⟩ := option
    obtain ⟨hk, hrest⟩ := List.nodup_cons.mp hkeys
    rcases List.mem_cons.mp hmem with heq | hlater
    · obtain ⟨rfl, rfl⟩ := Prod.mk.inj heq
      cases template with
      | none =>
        refine List.lookup_eq_none_iff.mpr fun entry hentry => ?_
        refine bne_iff_ne.mpr fun heq => hk ?_
        rw [heq]
        exact (keys_defined_sublist options).subset (List.mem_map_of_mem hentry)
      | some t => exact List.lookup_cons_self
    · have hkey : key ∈ options.map Prod.fst := List.mem_map_of_mem hlater
      have hne : key ≠ k := fun heq => hk (heq ▸ hkey)
      cases other with
      | none => exact ih hrest hlater
      | some t =>
        rw [← ih hrest hlater]
        exact (Entries.lookup_cons_eq_ite k key t _).trans (if_neg hne)

/-- Templates are listed with their keys in one order, some of them left out. -/
theorem keys_templates_sublist (m : Mapping) :
    (m.templates.map Prod.fst).Sublist ["title", "body", "group", "icon", "url", "sound"] :=
  ((keys_defined_sublist m.options).cons_cons "body").cons_cons "title"

/-- Texts under keys keep to all limits. -/
theorem legibleEntries_texts (limits : Json.Limits) (depth : Nat) (texts : List (String × String)) :
    Json.LegibleEntries limits depth (texts.map fun (key, t) => (Wide.text key, .text t)) := by
  induction texts with
  | nil => rw [List.map_nil, Json.LegibleEntries]; trivial
  | cons text texts ih =>
    rw [List.map_cons, Json.LegibleEntries, Json.Legible]
    exact ⟨Json.admitsText_text limits text.1, trivial, ih⟩

/-- Texts under keys are not garbled. -/
theorem anyEntry_isGarbled_texts (texts : List (String × String)) :
    Value.anyEntry Value.isGarbled Wide.isGarbled
      (texts.map fun (key, t) => (Wide.text key, .text t)) = false := by
  induction texts with
  | nil => rw [List.map_nil, Value.anyEntry]
  | cons text texts ih =>
    rw [List.map_cons, Value.anyEntry, ih, Value.anyPart_leaf rfl]
    rfl

/-- The object of a mapping can be read back one deep. -/
theorem legible_toValue (m : Mapping) : Json.Legible Rule.readLimits 1 m.toValue := by
  have hkeys : (m.templates.map fun (key, t) => (Wide.text key, Value.text t)).map Prod.fst =
      (m.templates.map Prod.fst).map Wide.text := by rw [List.map_map, List.map_map]; rfl
  have hnodup : (m.templates.map Prod.fst).Nodup :=
    List.Sublist.nodup m.keys_templates_sublist (by decide)
  rw [toValue, Json.Legible, hkeys]
  exact ⟨fun _ => by decide, List.Pairwise.map _ (fun _ _ hne h => hne (Wide.text.inj h)) hnodup,
    legibleEntries_texts _ _ _⟩

/-- The object of a mapping holds no garbled text. -/
theorem hasGarbled_toValue (m : Mapping) : m.toValue.hasGarbled = false := by
  rw [toValue, Value.hasGarbled, Value.anyPart]
  exact anyEntry_isGarbled_texts m.templates

end Mapping

namespace Check

/-- A text that is not empty passes the check for a required text. -/
theorem required_eq_ok {path : List String} {object : Value} {key : String} {s : Filled}
    (h : object.field? key = some (.text s.val)) : required path object key = .ok s := by
  rw [required, h]
  exact dif_pos s.property

/-- A text or nothing passes the check for an optional text. -/
theorem optional_eq_ok {path : List String} {object : Value} {key : String} {s : Option String}
    (h : object.field? key = s.map Value.text) : optional path object key = .ok s := by
  rw [optional, h]
  cases s <;> rfl

end Check

namespace Mapping

theorem lookup_texts (key : String) (texts : List (String × String)) :
    (texts.map fun (key, t) => (Wide.text key, Value.text t)).lookup (Wide.text key) =
      (texts.lookup key).map Value.text := by
  induction texts with
  | nil => rfl
  | cons text texts ih =>
    rw [List.map_cons, Entries.lookup_cons_eq_ite, Entries.lookup_cons_eq_ite, ih]
    by_cases heq : key = text.1
    · rw [if_pos heq, if_pos (congrArg Wide.text heq), Option.map_some]
    · rw [if_neg heq, if_neg fun h => heq (Wide.text.inj h)]

/-- Under the key of an optional template there is that template. -/
theorem field?_toValue {m : Mapping} {key : String} {template : Option String}
    (h : (key, template) ∈ m.options) : m.toValue.field? key = template.map .text := by
  have hkeys : (m.options.map Prod.fst).Nodup := by
    change ["group", "icon", "url", "sound"].Nodup
    decide
  have hkey : key ∈ ["group", "icon", "url", "sound"] := List.mem_map_of_mem (f := Prod.fst) h
  -- the templates that are always there do not hide the optional ones
  have htitle : key ≠ "title" := by
    rintro rfl
    exact absurd hkey (by decide)
  have hbody : key ≠ "body" := by
    rintro rfl
    exact absurd hkey (by decide)
  change (m.templates.map fun (key, t) => (Wide.text key, Value.text t)).lookup (key : Wide) = _
  rw [lookup_texts, templates, Entries.lookup_cons_eq_ite, if_neg htitle,
    Entries.lookup_cons_eq_ite, if_neg hbody]
  exact congrArg (Option.map Value.text) (lookup_defined hkeys h)

/-- In the object of a mapping the checks find the mapping. -/
theorem ofObject_toValue (path : List String) (m : Mapping) :
    ofObject path m.toValue = .ok m := by
  have htitle : m.toValue.field? "title" = some (.text m.title.val) := rfl
  have hbody : m.toValue.field? "body" = some (.text m.body.val) := rfl
  have hgroup : m.toValue.field? "group" = m.group.map .text :=
    field?_toValue (by simp [options])
  have hicon : m.toValue.field? "icon" = m.icon.map .text := field?_toValue (by simp [options])
  have hurl : m.toValue.field? "url" = m.url.map .text := field?_toValue (by simp [options])
  have hsound : m.toValue.field? "sound" = m.sound.map .text :=
    field?_toValue (by simp [options])
  simp only [ofObject, Check.required_eq_ok htitle, Check.required_eq_ok hbody,
    Check.optional_eq_ok hgroup, Check.optional_eq_ok hicon, Check.optional_eq_ok hurl,
    Check.optional_eq_ok hsound]
  rfl

end Mapping

namespace Rule

/-- The value of a rule is that rule. -/
theorem ofValue_toValue (r : Rule) : ofValue r.toValue = .ok r := by
  have hmapping : Mapping.ofField r.toValue "mapping" = .ok r.mapping :=
    Mapping.ofObject_toValue ["mapping"] r.mapping
  have hid : r.toValue.field? "id" = some (.text r.id.val) := rfl
  have hname : r.toValue.field? "name" = some (.text r.name.val) := rfl
  have hendpoint : r.toValue.field? "barkUrl" = some (.text r.endpoint.val) := rfl
  change ofObject r.toValue = .ok r
  simp only [ofObject, Check.required_eq_ok hid, Check.required_eq_ok hname, hmapping,
    Check.required_eq_ok hendpoint]
  rfl

/-- The object of a rule keeps to the limits of reading. -/
theorem legible_toValue (r : Rule) : Json.Legible readLimits 0 r.toValue := by
  have hkeys : (["id", "name", "mapping", "barkUrl"].map Wide.text).Nodup := by decide
  simp only [toValue, Json.Legible, Json.LegibleEntries, Json.admitsText_text, true_and, and_true]
  exact ⟨fun _ => by decide, hkeys, r.mapping.legible_toValue⟩

/-- The object of a rule holds no garbled text. -/
theorem hasGarbled_toValue (r : Rule) : r.toValue.hasGarbled = false := by
  have hmapping : Value.anyPart Value.isGarbled Wide.isGarbled r.mapping.toValue = false :=
    r.mapping.hasGarbled_toValue
  rw [toValue, Value.hasGarbled, Value.anyPart]
  simp only [Value.anyEntry, hmapping, Value.anyPart, Value.isGarbled, Wide.isGarbled,
    Bool.or_self]

/-- What is written of a rule is read as its object. -/
theorem readWithin_toJson (r : Rule) :
    Json.readWithin readLimits (Wide.text r.toJson).points = .ok r.toValue := by
  rw [toJson, Json.points_text_of_hasGarbled_eq_false r.hasGarbled_toValue]
  exact Json.readWithin_write r.legible_toValue

/-- **A stored rule reads back** as the rule that was stored. -/
theorem ofJson_toJson (r : Rule) : ofJson r.toJson = .ok r := by
  rw [ofJson, readWithin_toJson]
  exact congrArg (Except.mapError RuleError.invalid) r.ofValue_toValue

end Rule
end WebhookRelay
