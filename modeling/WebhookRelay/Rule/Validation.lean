import WebhookRelay.Rule.Basic

/-! # Checking rules

A value is a rule when it is an object with non-empty texts `id`, `name` and
`barkUrl` and an object `mapping` with non-empty texts `title` and `body`; the
other templates may be missing, null or texts.  None of these texts may be garbled.
Further keys do not matter.

Every offending field is reported, in the order in which the fields of a rule are
listed.
-/

namespace WebhookRelay

/-- What is wrong with a field. -/
inductive Defect where
  | missing
  | notText
  | emptyText
  /-- The text is garbled. -/
  | garbledText
  /-- An object of this name was expected. -/
  | notObject (name : String)
  deriving DecidableEq, Repr

/-- A field of a rule that is not as it should be. -/
structure FieldError where
  /-- The keys that lead to the field. -/
  location : List String
  defect : Defect
  /-- The value that was found; for a missing field the object that lacks it. -/
  found : Value

/-- The outcome of a check: a result, or all errors. -/
abbrev Check (α : Type) := Except (List FieldError) α

namespace Check

variable {α β : Type}

/-- Two checks of which neither hides the errors of the other. -/
def both (first : Check α) (second : Check β) : Check (α × β) :=
  match first, second with
  | .ok a, .ok b => .ok (a, b)
  | .ok _, .error errors => .error errors
  | .error errors, .ok _ => .error errors
  | .error errors, .error more => .error (errors ++ more)

/-- A required text: it is there and it is not empty. -/
def required (path : List String) (object : Value) (key : String) : Check Filled :=
  match object.field? key with
  | none => .error [⟨path ++ [key], .missing, object⟩]
  | some (.text s) =>
    if h : s ≠ "" then .ok ⟨s, h⟩ else .error [⟨path ++ [key], .emptyText, .text s⟩]
  | some (.garbled g) => .error [⟨path ++ [key], .garbledText, .garbled g⟩]
  | some v => .error [⟨path ++ [key], .notText, v⟩]

/-- An optional text: it may be missing or null. -/
def optional (path : List String) (object : Value) (key : String) : Check (Option String) :=
  match object.field? key with
  | none | some .null => .ok none
  | some (.text s) => .ok (some s)
  | some (.garbled g) => .error [⟨path ++ [key], .garbledText, .garbled g⟩]
  | some v => .error [⟨path ++ [key], .notText, v⟩]

end Check

namespace Mapping

/-- The mapping in an object that is found under these keys. -/
def ofObject (path : List String) (object : Value) : Check Mapping :=
  let required := Check.required path object
  let optional := Check.optional path object
  ((required "title").both ((required "body").both ((optional "group").both
    ((optional "icon").both ((optional "url").both (optional "sound")))))).map
      fun (title, body, group, icon, url, sound) => ⟨title, body, group, icon, url, sound⟩

/-- The mapping under a key of an object. -/
def ofField (object : Value) (key : String) : Check Mapping :=
  match object.field? key with
  | none => .error [⟨[key], .missing, object⟩]
  | some (.object entries) => ofObject [key] (.object entries)
  | some v => .error [⟨[key], .notObject "RuleMapping", v⟩]

end Mapping

namespace Rule

/-- The rule in an object. -/
def ofObject (object : Value) : Check Rule :=
  let required := Check.required [] object
  ((required "id").both ((required "name").both ((Mapping.ofField object "mapping").both
    (required "barkUrl")))).map
      fun (id, name, mapping, endpoint) => ⟨id, name, mapping, endpoint⟩

/-- The rule that a value is. -/
def ofValue : Value → Check Rule
  | .object entries => ofObject (.object entries)
  | v => .error [⟨[], .notObject "Rule", v⟩]

end Rule

/-! ## Wording -/

/-- How a rule came in; the wording of errors depends on it. -/
inductive Channel where
  /-- As a value. -/
  | value
  /-- As JSON text. -/
  | text
  /-- In the body of a request. -/
  | request
  deriving DecidableEq, Repr

namespace Defect

/-- The code of a defect. -/
def code (channel : Channel) : Defect → String
  | missing => "missing"
  | notText => "string_type"
  | emptyText => "string_too_short"
  | garbledText => "string_unicode"
  | notObject _ =>
    match channel with
    | .value | .text => "model_type"
    | .request => "model_attributes_type"

/-- The wording of a defect. -/
def message (channel : Channel) : Defect → String
  | missing => "Field required"
  | notText => "Input should be a valid string"
  | emptyText => "String should have at least 1 character"
  | garbledText =>
    "Input should be a valid string, unable to parse raw data as a unicode string"
  | notObject name =>
    match channel with
    | .value => "Input should be a valid dictionary or instance of " ++ name
    | .text => "Input should be an object"
    | .request => "Input should be a valid dictionary or object to extract fields from"

end Defect

namespace FieldError

/-- An error as a value: its code, its location below further keys, its wording. -/
def toValue (channel : Channel) (above : List String) (e : FieldError) : Value :=
  .object [("type", .text (e.defect.code channel)),
    ("loc", .list ((above ++ e.location).map .text)),
    ("msg", .text (e.defect.message channel))]

end FieldError
end WebhookRelay
