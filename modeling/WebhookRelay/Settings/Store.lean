import WebhookRelay.Settings.Environment
import WebhookRelay.Store.RuleStore
import WebhookRelay.Store.Statement
import WebhookRelay.Text.LowerCase

/-! # Settings of the rule store

Rules are kept in memory or in a database.  Without a choice the database is taken
if there is a URL for it.  Opening the store refuses unknown choices, and a database
without a URL; it makes sure that the table of the database exists.
-/

namespace WebhookRelay

/-- The settings of the rule store. -/
structure StoreSettings where
  databaseUrl : String
  /-- The name of the chosen kind of backend, in lower case. -/
  backend : String
  /-- What the keys of the store start with. -/
  stem : String
  deriving DecidableEq, Repr

/-- The kinds of backends. -/
inductive BackendKind where
  | memory
  | database (url : String)
  deriving DecidableEq, Repr

/-- Why a store cannot be opened. -/
inductive OpenError where
  | missingUrl
  | unknownBackend (name : String)
  deriving DecidableEq, Repr

namespace OpenError

/-- The wording of an error. -/
def message : OpenError → String
  | missingUrl => "RULE_STORE_BACKEND=postgres requires DATABASE_URL"
  | unknownBackend name => "Unknown RULE_STORE_BACKEND: " ++ name

end OpenError

namespace BackendKind

/-- What opening a backend of a kind does with the database. -/
def prepare {σ : Type} (db : Database σ) (s : Database.Session σ) :
    BackendKind → Database.Session σ
  | memory => s
  | database url => db.ensureTable url s

end BackendKind

namespace StoreSettings

/-- Reads the settings. -/
def ofEnvironment (env : Environment) : StoreSettings :=
  let url := env.text "DATABASE_URL" ""
  let name := env.text "RULE_STORE_BACKEND" (if url.isEmpty then "memory" else "postgres")
  { databaseUrl := url
    backend := String.ofList (Text.lower name.toList)
    stem := env.text "RULE_KEY_PREFIX" "rule:" }

/-- The kind of backend that is opened. -/
def kind (s : StoreSettings) : Except OpenError BackendKind :=
  if s.backend = "postgres" then
    if s.databaseUrl.isEmpty then .error .missingUrl else .ok (.database s.databaseUrl)
  else if s.backend = "memory" then .ok .memory
  else .error (.unknownBackend s.backend)

/-- The store that is opened. -/
def store (s : StoreSettings) : RuleStore := { stem := s.stem }

end StoreSettings
end WebhookRelay
