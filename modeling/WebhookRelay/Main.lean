import WebhookRelay.Settings.Launch

/-! # Command line

Reads the settings from the environment and tells with which of them the service
starts, or why it does not start.
-/

open WebhookRelay

/-- The variables that are set, among those that hold settings. -/
def readEnvironment : IO Environment :=
  Launch.variableNames.filterMapM fun name => do
    return (← IO.getEnv name).map fun value => (name, value)

def main : IO UInt32 := do
  match Launch.ofEnvironment (← readEnvironment) with
  | .ok launch =>
    for line in launch.description do
      IO.println line
    return 0
  | .error error =>
    IO.eprintln error.message
    return 1
