import WebhookRelay.Delivery.Retry
import WebhookRelay.Rule.Notification
import WebhookRelay.Service.Answer
import WebhookRelay.Settings.Delivery
import WebhookRelay.Settings.Store
import WebhookRelay.Store.Memory
import WebhookRelay.Value.Spelling

/-! # The service

The service answers one request after the other.  Saving, reading and deleting
rules work on the rule store.  A push names a rule, by a field of its body or else
by its query, renders the notification of the payload and delivers it; the payload
is a field of the body or else the whole body.

Each request is handled by a script on the backend of the store.  Its outcome is
the answer and the URLs requested from the network on the way.
-/

namespace WebhookRelay

/-- A service, given by its settings and the system it runs on. -/
structure Service where
  store : RuleStore
  delivery : DeliverySettings
  /-- The clock of the system it runs on. -/
  clock : Clock

/-- What handling a request leads to. -/
structure Outcome where
  answer : Answer
  /-- The URLs requested from the network, in order. -/
  requests : List String

namespace Outcome

/-- An answer without any request to the network. -/
def quiet (answer : Answer) : Outcome := ⟨answer, []⟩

end Outcome

namespace Service

/-- The service with the settings of an environment. -/
def ofEnvironment (env : Environment) : Except SettingsError Service :=
  (DeliverySettings.ofEnvironment env).map fun delivery =>
    ⟨(StoreSettings.ofEnvironment env).store, delivery, Clock.standard⟩

/-! ## Rules -/

/-- Saves the rule in a body. -/
def saveRule (service : Service) : Option Value → Script Answer
  | none => .done (.ofFieldErrors [⟨[], .missing, .null⟩])
  | some v =>
    match Rule.ofValue v with
    | .error errors => .done (.ofFieldErrors errors)
    | .ok rule => (service.store.put rule).map fun _ =>
      .ok (.object [("message", .text "Rule saved successfully"), ("id", .text rule.id.val)])

/-- Lists all rules. -/
def listRules (service : Service) : Script Answer :=
  service.store.list.map fun
    | .ok rules => .ok (.list (rules.map Rule.toValue))
    | .error _ => .broken

/-- Shows the rule with an id. -/
def showRule (service : Service) (id : String) : Script Answer :=
  (service.store.get id).map fun
    | .ok (some rule) => .ok rule.toValue
    | .ok none => .noRule
    | .error _ => .broken

/-- Deletes the rule with an id. -/
def deleteRule (service : Service) (id : String) : Script Answer :=
  (service.store.delete id).map fun found =>
    if found then .done "Rule deleted successfully" else .noRule

/-! ## Pushing -/

/-- The id that a push names: that of the body, if it is given, or else that of the
query, if it is not empty. -/
def pushedId? (query : Form) (body : Option Value) : Option Wide :=
  match body.bind (·.field? "ruleId") with
  | some id => if id.isGiven then some id.identifier else fromQuery
  | none => fromQuery
where
  fromQuery : Option Wide := ((query.last? "ruleId").filter (!·.isEmpty)).map .text

/-- The payload of a push: that in the body, unless it is null, or else the body. -/
def payload (body : Option Value) : Value :=
  match body.bind (·.field? "payload") with
  | none | some .null => body.getD .null
  | some v => v

/-- Renders and delivers the notification of a payload.  The network has answered
`sent` requests before. -/
def deliver (service : Service) (net : Network) (sent : Nat) (rule : Rule) (payload : Value) :
    Outcome :=
  match rule.parameters payload with
  | .error _ => .quiet .broken
  | .ok parameters =>
    let (delivery, transcript) := Delivery.push net service.clock sent service.delivery.attempts
      service.delivery.backoff rule.endpoint.val parameters
    match delivery with
    | .delivered _ _ | .untried =>
      ⟨.ok (.object [("success", .bool true),
        ("message", .text "Notification sent successfully")]), transcript.requests⟩
    | .undelivered error => ⟨.refusalText 502 error.message, transcript.requests⟩
    | .broken _ => ⟨.broken, transcript.requests⟩

/-- Pushes the payload in a body to the rule that the push names.  No rule has a garbled
id, and the refusal that says so cannot be written. -/
def push (service : Service) (net : Network) (sent : Nat) (query : Form) (body : Option Value) :
    Script Outcome :=
  match pushedId? query body with
  | none => .done (.quiet (.refusalText 400 "Rule ID is required"))
  | some (.garbled _) => .done (.quiet .broken)
  | some (.text id) =>
    (service.store.get id).map fun
      | .ok (some rule) => service.deliver net sent rule (payload body)
      | .ok none => .quiet (.refusalText 404 ("Rule not found with ID: " ++ id))
      | .error _ => .quiet .broken

/-! ## Requests -/

/-- Handles a body once it is read. -/
def withBody (r : Request) (handle : Option Value → Script Outcome) : Script Outcome :=
  match r.content with
  | .error e => .done (.quiet (.ofBodyError e))
  | .ok body => handle body

/-- Handles a request.  The network has answered `sent` requests before. -/
def handle (service : Service) (net : Network) (sent : Nat) (r : Request) : Script Outcome :=
  match r.action with
  | .error e => .done (.quiet (.ofRouteError e))
  | .ok .greet => .done (.quiet ⟨200, .plain "Bark-Relay is Working!"⟩)
  | .ok .saveRule => withBody r fun body => (service.saveRule body).map .quiet
  | .ok .listRules => service.listRules.map .quiet
  | .ok (.showRule id) => (service.showRule id).map .quiet
  | .ok (.deleteRule id) => (service.deleteRule id).map .quiet
  | .ok .push => withBody r (service.push net sent r.query)

/-- The state of a service that keeps its rules in memory. -/
structure State where
  memory : Memory
  /-- How many requests the network has answered. -/
  sent : Nat

/-- The state of a fresh service. -/
def initial : State := ⟨.empty, 0⟩

/-- Answers a request: the outcome and the next state. -/
def step (service : Service) (net : Network) (s : State) (r : Request) : Outcome × State :=
  let (outcome, memory) := (service.handle net s.sent r).run Memory.backend s.memory
  (outcome, ⟨memory, s.sent + outcome.requests.length⟩)

end Service
end WebhookRelay
