import WebhookRelay.Json.Reader
import WebhookRelay.Json.Writer
import WebhookRelay.Rule.Validation

/-! # Rules as JSON

A rule is written as a compact object with its fields in their order; templates
that it does not define are left out.  Reading accepts every JSON text whose value
is a rule, as long as what it ignores is neither nested too deeply nor too long nor
garbled.
-/

namespace WebhookRelay

/-- Why a text is not a rule. -/
inductive RuleError where
  /-- The text is not JSON within the limits. -/
  | unreadable
  /-- The value is no rule. -/
  | invalid (errors : List FieldError)

namespace Mapping

/-- A mapping as an object. -/
def toValue (m : Mapping) : Value :=
  .object (m.templates.map fun (key, t) => (Wide.text key, .text t))

end Mapping

namespace Rule

/-- A rule as an object. -/
def toValue (r : Rule) : Value :=
  .object [("id", .text r.id.val), ("name", .text r.name.val), ("mapping", r.mapping.toValue),
    ("barkUrl", .text r.endpoint.val)]

/-- A rule as JSON text. -/
def toJson (r : Rule) : String := Json.text r.toValue

/-- The limits of reading a rule: two hundred containers around a place, as many
characters before the point or exponent of a numeral as an integer has digits, and no
garbled texts. -/
def readLimits : Json.Limits :=
  { nesting := some 200, whole := some digitLimit, garbled := false }

/-- The rule that a JSON text is. -/
def ofJson (s : String) : Except RuleError Rule :=
  match Json.readWithin readLimits (Wide.text s).points with
  | .ok v => (ofValue v).mapError .invalid
  | .error _ => .error .unreadable

end Rule
end WebhookRelay
