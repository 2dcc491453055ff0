import WebhookRelay.Rule.Codec
import WebhookRelay.Service.Route

/-! # Answers of the service

An answer has a status and a content, which is JSON, plain text, or the path to which a
request is sent.  Anything that goes wrong within the service is answered by the same
plain text; that includes an answer that cannot be written, because a number in it is not
finite or a text is garbled.
-/

namespace WebhookRelay

/-- The content of an answer. -/
inductive Content where
  | json (v : Value)
  | plain (text : String)
  /-- No text, but a path in a header. -/
  | location (path : List Char)

/-- An answer to a request. -/
structure Answer where
  status : Nat
  content : Content

namespace Answer

/-- Success, told by a value. -/
def ok (v : Value) : Answer := ⟨200, .json v⟩

/-- A refusal with a detail. -/
def refusal (status : Nat) (detail : Value) : Answer :=
  ⟨status, .json (.object [("detail", detail)])⟩

/-- A refusal with a text. -/
def refusalText (status : Nat) (detail : String) : Answer := refusal status (.text detail)

/-- Something went wrong within the service. -/
def broken : Answer := ⟨500, .plain "Internal Server Error"⟩

/-- The answer to a request that leads nowhere. -/
def ofRouteError : RouteError → Answer
  | .notFound => refusalText 404 "Not Found"
  | .methodNotAllowed => refusalText 405 "Method Not Allowed"
  | .moved path => ⟨307, .location path⟩

/-- The answer to a body that cannot be read. -/
def ofBodyError : BodyError → Answer
  | .unreadable .malformed => refusal 422 (.list [.object [("type", .text "json_invalid")]])
  | .unreadable (.refused _) | .undecodable =>
    refusalText 400 "There was an error parsing the body"

/-- The answer to a body with errors.  The values that were found are part of it as it is
written. -/
def ofFieldErrors (errors : List FieldError) : Answer :=
  if errors.any fun e => e.found.hasNonFinite || e.found.hasGarbled then broken
  else refusal 422 (.list (errors.map (·.toValue .request ["body"])))

/-- The answer when there is no rule to show or delete. -/
def noRule : Answer := refusalText 404 "Rule not found"

/-- A success with a message. -/
def done (message : String) : Answer := ok (.object [("message", .text message)])

end Answer
end WebhookRelay
