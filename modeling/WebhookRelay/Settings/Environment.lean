import WebhookRelay.Binary64.Text
import WebhookRelay.Text.Spelling

/-! # Settings from the environment

A setting is read from an environment variable and has a default for when the
variable is not set.  A variable that is set counts, even if it is empty.
-/

namespace WebhookRelay

/-- The environment variables that are set. -/
abbrev Environment := List (String × String)

/-- Why settings cannot be read. -/
inductive SettingsError where
  /-- This text should have been a number. -/
  | notNumber (text : String)
  /-- This text should have been an integer. -/
  | notInteger (text : String)
  | refused (fault : Fault)
  /-- There is no log level of this name. -/
  | unknownLevel (name : String)
  deriving DecidableEq, Repr

namespace SettingsError

/-- The most characters of a spelled text that is shown when it is no integer. -/
def shownLimit : Nat := 200

/-- The wording of an error. -/
def message : SettingsError → String
  | notNumber text =>
    "could not convert string to float: " ++ String.ofList (Text.spell text.toList)
  | notInteger text =>
    "invalid literal for int() with base 10: "
      ++ String.ofList ((Text.spell text.toList).take shownLimit)
  | refused fault => fault.message
  | unknownLevel name => "Unknown level: " ++ String.ofList (Text.spell name.toList)

end SettingsError

namespace Environment

/-- A setting that is a text. -/
def text (env : Environment) (name default : String) : String := (env.lookup name).getD default

/-- A setting that is a number. -/
def number (env : Environment) (name default : String) : Except SettingsError Binary64 :=
  let text := env.text name default
  match Binary64.ofFreeText? text.toList with
  | some x => .ok x
  | none => .error (.notNumber text)

/-- A setting that is an integer. -/
def integer (env : Environment) (name default : String) : Except SettingsError Int :=
  let text := env.text name default
  match Numeral.readInt text.toList with
  | .ok n => .ok n
  | .error .malformed => .error (.notInteger text)
  | .error (.refused fault) => .error (.refused fault)

end Environment
end WebhookRelay
