import WebhookRelay.Service.Request

/-! # Routes

The service knows a greeting at the root, the collection of the rules, each rule
under its id, and the place to which payloads are pushed.  An id in a path is one
segment: it is not empty and holds no slash.

A path that leads nowhere may differ from one that leads somewhere by slashes at its end
only.  Then the request is sent there.
-/

namespace WebhookRelay

/-- What a path leads to. -/
inductive Resource where
  | root
  | rules
  | rule (id : String)
  | push
  deriving DecidableEq, Repr

/-- What a request asks for. -/
inductive Action where
  | greet
  | saveRule
  | listRules
  | showRule (id : String)
  | deleteRule (id : String)
  | push
  deriving DecidableEq, Repr

/-- Why a request asks for nothing that the service does. -/
inductive RouteError where
  | notFound
  | methodNotAllowed
  /-- The request is sent to another path. -/
  | moved (path : List Char)
  deriving DecidableEq, Repr

namespace Resource

/-- Is a path this fixed one?  A line feed after it does not matter. -/
def isFixed (fixed : String) (path : List Char) : Bool :=
  path = fixed.toList || path = fixed.toList ++ ['\n']

/-- What the paths of single rules start with. -/
def rulePath : List Char := "/rules/".toList

/-- The id in the path of a single rule. -/
def ruleId? (path : List Char) : Option String :=
  if rulePath.isPrefixOf path then
    let id := path.drop rulePath.length
    if id.isEmpty || id.contains '/' then none else some (String.ofList id)
  else none

/-- What a decoded path leads to. -/
def ofPath? (path : List Char) : Option Resource :=
  if isFixed "/" path then some root
  else if isFixed "/rules" path then some rules
  else if isFixed "/push" path then some push
  else (ruleId? path).map rule

/-- A path with other slashes at its end: without them, or with one where there was none. -/
def respell (path : List Char) : List Char :=
  if path.getLast? = some '/' then (path.reverse.dropWhile (· = '/')).reverse
  else path ++ ['/']

/-- What happens at a path that leads nowhere. -/
def elsewhere (path : List Char) : RouteError :=
  if (ofPath? (respell path)).isSome then .moved (respell path) else .notFound

/-- What a method asks for at a resource. -/
def action? : Resource → (method : String) → Option Action
  | root, "GET" => some .greet
  | rules, "POST" => some .saveRule
  | rules, "GET" => some .listRules
  | rule id, "GET" => some (.showRule id)
  | rule id, "DELETE" => some (.deleteRule id)
  | push, "POST" => some .push
  | _, _ => none

end Resource

namespace Request

/-- What a request asks for. -/
def action (r : Request) : Except RouteError Action :=
  match Resource.ofPath? r.path with
  | none => .error (Resource.elsewhere r.path)
  | some resource =>
    match resource.action? r.method with
    | none => .error .methodNotAllowed
    | some action => .ok action

end Request
end WebhookRelay
