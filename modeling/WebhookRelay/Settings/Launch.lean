import WebhookRelay.Settings.Delivery
import WebhookRelay.Settings.Server
import WebhookRelay.Settings.Store

/-! # Launching the service

All settings together.  They are read in the order delivery, store, server; the
first variable that is wrong, or a store that cannot be opened, keeps the service
from starting.
-/

namespace WebhookRelay

/-- All settings of the service. -/
structure Launch where
  delivery : DeliverySettings
  store : StoreSettings
  /-- The backend that the settings of the store choose. -/
  backend : BackendKind
  server : ServerSettings

/-- Why the service does not start. -/
inductive LaunchError where
  | settings (error : SettingsError)
  | opening (error : OpenError)
  deriving DecidableEq, Repr

namespace LaunchError

/-- The wording of an error. -/
def message : LaunchError → String
  | settings error => error.message
  | opening error => error.message

end LaunchError

namespace Launch

/-- The variables that hold settings. -/
def variableNames : List String :=
  ["BARK_TIMEOUT_SECONDS", "BARK_MAX_ATTEMPTS", "BARK_RETRY_BACKOFF_BASE", "DATABASE_URL",
   "RULE_STORE_BACKEND", "RULE_KEY_PREFIX", "LOG_LEVEL", "HOST", "PORT"]

/-- Reads all settings. -/
def ofEnvironment (env : Environment) : Except LaunchError Launch := do
  let delivery ← (DeliverySettings.ofEnvironment env).mapError .settings
  let store := StoreSettings.ofEnvironment env
  let server ← (ServerSettings.ofEnvironment env).mapError .settings
  let backend ← store.kind.mapError .opening
  return ⟨delivery, store, backend, server⟩

/-- A launch in words. -/
def description (l : Launch) : List String :=
  let kept :=
    match l.backend with
    | .memory => "in memory"
    | .database _ => "in a database"
  ["listening on " ++ l.server.host ++ ", port " ++ String.ofList (Numeral.ofInt l.server.port),
   "log level " ++ l.server.level.name,
   "rules " ++ kept ++ " under " ++ l.store.stem,
   "attempts " ++ toString l.delivery.attempts ++ ", each up to "
     ++ String.ofList l.delivery.timeout.text ++ " seconds, first pause "
     ++ String.ofList l.delivery.backoff.text ++ " seconds"]

end Launch
end WebhookRelay
