import WebhookRelay.Value

/-! # Rules

A rule tells how a payload becomes a notification: templates for its title and
body and, if the rule defines them, for its group, icon, link and sound, and the
endpoint to which it is delivered.  The required texts of a rule are not empty.
-/

namespace WebhookRelay

/-- A text that is not empty. -/
abbrev Filled := { s : String // s ≠ "" }

/-- The templates of a rule. -/
structure Mapping where
  title : Filled
  body : Filled
  group : Option String
  icon : Option String
  url : Option String
  sound : Option String
  deriving DecidableEq

/-- A forwarding rule. -/
structure Rule where
  id : Filled
  name : Filled
  mapping : Mapping
  /-- Where notifications of the rule are delivered. -/
  endpoint : Filled
  deriving DecidableEq

namespace Mapping

/-- The optional templates with the keys of their parameters, in order. -/
def options (m : Mapping) : List (String × Option String) :=
  [("group", m.group), ("icon", m.icon), ("url", m.url), ("sound", m.sound)]

/-- The templates that a mapping defines with the keys of their parameters, in
order. -/
def templates (m : Mapping) : List (String × String) :=
  ("title", m.title.val) :: ("body", m.body.val) ::
    m.options.filterMap fun (key, template) => template.map fun t => (key, t)

end Mapping
end WebhookRelay
