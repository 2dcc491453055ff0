import WebhookRelay.Settings.Environment
import WebhookRelay.Text.LowerCase
import WebhookRelay.Text.UpperCase

/-! # Settings of the server

Where the server listens and how much is logged.  A log level is known by its name
and has a rank; messages of a lower rank are left out.
-/

namespace WebhookRelay

/-- A log level. -/
structure LogLevel where
  name : String
  rank : Nat
  deriving DecidableEq, Repr

namespace LogLevel

/-- The log levels; some have two names. -/
def all : List LogLevel :=
  [⟨"CRITICAL", 50⟩, ⟨"FATAL", 50⟩, ⟨"ERROR", 40⟩, ⟨"WARNING", 30⟩, ⟨"WARN", 30⟩, ⟨"INFO", 20⟩,
   ⟨"DEBUG", 10⟩, ⟨"NOTSET", 0⟩]

/-- The level of a name. -/
def ofName? (name : String) : Option LogLevel := all.find? (·.name = name)

end LogLevel

/-- The settings of the server. -/
structure ServerSettings where
  level : LogLevel
  host : String
  port : Int
  deriving DecidableEq, Repr

namespace ServerSettings

/-- Reads the settings; the port is checked before the log level. -/
def ofEnvironment (env : Environment) : Except SettingsError ServerSettings := do
  let name := String.ofList (Text.upper (env.text "LOG_LEVEL" "INFO").toList)
  let port ← env.integer "PORT" "8000"
  match LogLevel.ofName? name with
  | some level => return ⟨level, env.text "HOST" "0.0.0.0", port⟩
  | none => throw (.unknownLevel name)

/-- The name of the log level as the server takes it. -/
def levelOption (s : ServerSettings) : String :=
  String.ofList (Text.lower s.level.name.toList)

end ServerSettings
end WebhookRelay
