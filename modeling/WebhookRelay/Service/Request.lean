import WebhookRelay.Form
import WebhookRelay.Json.Reader

/-! # Requests to the service

A request has a method, a target and a body.  The target is a path and, behind the
first question mark, a query; both are percent encoded.  The path is decoded as a
whole.  The body is JSON text; an empty body is none.  It comes as bytes, in whichever
encoding of Unicode their start tells, and it may hold half a surrogate pair as it stands.
-/

namespace WebhookRelay

/-- The body of a request. -/
inductive Body where
  /-- The text that its bytes encode. -/
  | text (s : Wide)
  /-- Its bytes encode no text. -/
  | undecodable
  deriving DecidableEq, Repr

instance : Coe String Body := ⟨fun s => .text s⟩

/-- Why the body of a request holds no value. -/
inductive BodyError where
  | undecodable
  | unreadable (error : Json.ReadError)
  deriving DecidableEq, Repr

/-- A request to the service. -/
structure Request where
  method : String
  target : String
  body : Body := ""
  deriving DecidableEq, Repr

namespace Request

/-- The decoded path. -/
def path (r : Request) : List Char := Percent.decode (Text.cutChar '?' r.target.toList).1

/-- The decoded query. -/
def query (r : Request) : Form := Form.decode (Text.cutChar '?' r.target.toList).2

/-- The value that the body holds, if there is a body.  A byte order mark at its
start does not matter. -/
def content (r : Request) : Except BodyError (Option Value) :=
  match r.body with
  | .undecodable => .error .undecodable
  | .text s =>
    match s.points with
    | [] => .ok none
    | p :: rest =>
      ((Json.read (if p = .char '\uFEFF' then rest else p :: rest)).map some).mapError .unreadable

end Request
end WebhookRelay
