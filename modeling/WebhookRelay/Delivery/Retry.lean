import WebhookRelay.Delivery.Clock
import WebhookRelay.Delivery.Network
import WebhookRelay.Url.Query

/-! # Delivery with retries

A delivery makes attempts until one ends with a successful status or none is left.
Before each further attempt it pauses; the pause doubles from attempt to attempt.
If no attempt succeeds, the error tells about the last one only.
-/

namespace WebhookRelay

/-- Why nothing was delivered, as of the last attempt. -/
inductive DeliveryError where
  /-- The final response has another status than success. -/
  | status (status : Nat) (text : String)
  /-- There is no final response. -/
  | attempt (failure : AttemptFailure)
  deriving DecidableEq, Repr

namespace DeliveryError

/-- The wording of a delivery error. -/
def message : DeliveryError → String
  | status code _ => "Failed to send to Bark: HTTP " ++ toString code
  | attempt failure => "Failed to send to Bark: " ++ failure.message

/-- The status of the final response. -/
def status? : DeliveryError → Option Nat
  | status code _ => some code
  | attempt _ => none

/-- The text of the final response. -/
def text? : DeliveryError → Option String
  | status _ text => some text
  | attempt _ => none

end DeliveryError

/-- What breaks a delivery off, whatever attempts are left. -/
inductive DeliveryFault where
  /-- A text of the notification is garbled. -/
  | garbled (text : Garbled)
  /-- A request or its response is impossible. -/
  | request (fault : RequestFault)
  /-- The next pause cannot be computed. -/
  | pause (fault : Fault)
  /-- The system refuses the next pause. -/
  | refused (refusal : PauseRefusal)
  deriving DecidableEq, Repr

namespace DeliveryFault

/-- The wording of a fault. -/
def message : DeliveryFault → String
  | garbled text =>
    "'utf-8' codec can't encode " ++ Text.place Point.isSurrogate text.val
      ++ ": surrogates not allowed"
  | request fault => fault.message
  | pause fault => fault.message
  | refused refusal => refusal.message

end DeliveryFault

/-- How a delivery can end. -/
inductive Delivery where
  /-- No attempt was to be made. -/
  | untried
  /-- An attempt ended with a successful status and this text. -/
  | delivered (status : Nat) (text : String)
  | undelivered (error : DeliveryError)
  | broken (fault : DeliveryFault)
  deriving DecidableEq, Repr

/-- What a delivery did: the URLs it requested and the pauses it made, in order. -/
structure Transcript where
  requests : List String
  pauses : List Binary64
  deriving DecidableEq, Repr

namespace Delivery

/-- How a delivery ends if an attempt is its last one. -/
def ofAttempt : Attempt → Delivery
  | .answered r =>
    if r.isSuccess then .delivered r.status r.text else .undelivered (.status r.status r.text)
  | .failed failure => .undelivered (.attempt failure)
  | .broken fault => .broken (.request fault)

/-- The pause after a failed attempt that `earlier` others came before: the base
times `2 ^ earlier`.  The factor itself has to be a binary64 number, and the clock has to
make the pause. -/
def pause (clock : Clock) (base : Binary64) (earlier : Nat) : Except DeliveryFault Binary64 :=
  if earlier < 1024 then
    match clock (base.scale earlier) with
    | none => .ok (base.scale earlier)
    | some refusal => .error (.refused refusal)
  else .error (.pause .integerTooLarge)

/-- Makes up to the given number of attempts at an endpoint.  The network has answered
`sent` requests before, and `earlier` attempts have been made. -/
def run (net : Network) (clock : Clock) (base : Binary64) (endpoint : String) :
    (attempts earlier sent : Nat) → Delivery × Transcript
  | 0, _, _ => (.untried, ⟨[], []⟩)
  | attempts + 1, earlier, sent =>
    let (result, urls) := net.attempt sent endpoint
    let requests := urls.map fun url => String.ofList url.toText
    match ofAttempt result, attempts with
    | .undelivered _, attempts + 1 =>
      match pause clock base earlier with
      | .error fault => (.broken fault, ⟨requests, []⟩)
      | .ok wait =>
        let (outcome, later) :=
          run net clock base endpoint (attempts + 1) (earlier + 1) (sent + urls.length)
        (outcome, ⟨requests ++ later.requests, wait :: later.pauses⟩)
    | final, _ => (final, ⟨requests, []⟩)

/-- Delivers a notification to an endpoint with up to `attempts` attempts.  The network
has answered `sent` requests before. -/
def push (net : Network) (clock : Clock) (sent attempts : Nat) (base : Binary64)
    (endpoint : String) (parameters : Parameters) : Delivery × Transcript :=
  match Url.withParameters endpoint parameters with
  | .error text => (.broken (.garbled text), ⟨[], []⟩)
  | .ok url => run net clock base url attempts 0 sent

end Delivery
end WebhookRelay
