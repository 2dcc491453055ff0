import WebhookRelay.Settings.Environment

/-! # Settings of the delivery

How long an attempt may take, how many attempts a delivery makes and how long the
first pause between them is, in seconds.  There is always one attempt.
-/

namespace WebhookRelay

/-- The settings of the delivery. -/
structure DeliverySettings where
  timeout : Binary64
  attempts : Nat
  /-- The pause after the first failed attempt. -/
  backoff : Binary64
  one_le_attempts : 1 ≤ attempts

namespace DeliverySettings

/-- Reads the settings; the first variable that is wrong decides the error. -/
def ofEnvironment (env : Environment) : Except SettingsError DeliverySettings := do
  let timeout ← env.number "BARK_TIMEOUT_SECONDS" "5"
  let attempts ← env.integer "BARK_MAX_ATTEMPTS" "1"
  let backoff ← env.number "BARK_RETRY_BACKOFF_BASE" "0.5"
  return ⟨timeout, max 1 attempts.toNat, backoff, Nat.le_max_left _ _⟩

end DeliverySettings
end WebhookRelay
