import WebhookRelay.Delivery.Target

/-! # One delivery attempt

The network answers each request with a response or with a failure of the
transport.  What it answers may change over time, so a network gives the reply to
the first request, the second one, and so on.

An attempt gets a URL.  It follows up to twenty redirects and ends with the first
response that is none.  The type of the URL of each response has to be known, and
headers have to be ASCII; an attempt that meets anything else breaks off.
-/

namespace WebhookRelay

/-- A response to a request. -/
structure Response where
  status : Nat
  text : String
  /-- The value of the location header. -/
  location : Option String := none
  deriving DecidableEq, Repr

/-- What the network answers to a request. -/
inductive Reply where
  | response (r : Response)
  /-- The transport failed with this message. -/
  | failure (message : String)
  deriving DecidableEq, Repr

/-- The replies to the requests, counted from zero. -/
abbrev Network := Nat → Reply

namespace Network

/-- Replies in order; when they run out the last one is repeated, and without any
every request succeeds. -/
def ofReplies (replies : List Reply) : Network := fun n =>
  match replies[n]? with
  | some reply => reply
  | none => replies.getLast?.getD (.response { status := 200, text := "ok" })

end Network

namespace Response

/-- The statuses of redirects. -/
def redirectStatuses : List Nat := [301, 302, 303, 307, 308]

/-- Where a response redirects to. -/
def redirect? (r : Response) : Option String :=
  if redirectStatuses.contains r.status then r.location else none

/-- Does the status tell success? -/
def isSuccess (r : Response) : Bool := 200 ≤ r.status && r.status < 300

end Response

/-- Why an attempt ended without a final response. -/
inductive AttemptFailure where
  /-- The URL of the next request is refused. -/
  | refused (refusal : UrlRefusal)
  /-- The transport failed with this message. -/
  | transport (message : String)
  /-- The location of a redirect is refused. -/
  | badLocation (refusal : UrlRefusal)
  | tooManyRedirects
  deriving DecidableEq, Repr

namespace AttemptFailure

/-- The wording of a failure. -/
def message : AttemptFailure → String
  | refused refusal => refusal.message
  | transport message => message
  | badLocation refusal => "Invalid URL in location header: " ++ refusal.message ++ "."
  | tooManyRedirects => "Exceeded maximum allowed redirects."

end AttemptFailure

/-- How an attempt ends. -/
inductive Attempt where
  /-- The final response. -/
  | answered (r : Response)
  | failed (failure : AttemptFailure)
  | broken (fault : RequestFault)
  deriving DecidableEq, Repr

namespace Network

/-- The most redirects that an attempt follows. -/
def redirectLimit : Nat := 20

/-- The URL that a location leads to from a request, or how the attempt ends. -/
def locate (url : Url) (location : String) : Except Attempt Url := do
  let location ← (Url.ofText location.toList).mapError (.failed <| .badLocation ·)
  if !location.scheme.isEmpty then
    let _ ← location.hostName.mapError .broken
  let host ← url.hostName.mapError .broken
  let target ← (url.redirect host location).mapError (.failed <| .refused ·)
  target.checkHost.mapError .broken
  return target

/-- What is wrong with a response to a request. -/
def responseFault? (url : Url) (r : Response) : Option RequestFault :=
  let location := (r.location.getD "").toList
  if !Host.isAscii location then some (.notAscii location)
  else if !url.isTyped then some (.untyped url)
  else none

/-- Requests a URL and follows redirects: how that ends, and the URLs requested.
The network has answered `sent` requests before. -/
def follow (net : Network) (sent : Nat) : (redirects : Nat) → (url : Url) → Attempt × List Url
  | redirects, url =>
    match net sent with
    | .failure message => (.failed (.transport message), [url])
    | .response r =>
      match responseFault? url r, r.redirect? with
      | some fault, _ => (.broken fault, [url])
      | none, none => (.answered r, [url])
      | none, some location =>
        match locate url location with
        | .error outcome => (outcome, [url])
        | .ok target =>
          match redirects with
          | 0 => (.failed .tooManyRedirects, [url])
          | redirects + 1 =>
            let (outcome, urls) := follow net (sent + 1) redirects target
            (outcome, url :: urls)

/-- One attempt to get the URL of an endpoint: how it ends, and the URLs requested. -/
def attempt (net : Network) (sent : Nat) (endpoint : String) : Attempt × List Url :=
  match Url.ofEndpoint endpoint.toList with
  | .error refusal => (.failed (.refused refusal), [])
  | .ok url =>
    match url.checkHost with
    | .error fault => (.broken fault, [])
    | .ok _ => net.follow sent redirectLimit url

end Network
end WebhookRelay
