import WebhookRelay.Numeral
import WebhookRelay.Url.Host

/-! # URLs

A URL is kept in canonical form: its scheme and host are in lower case, a port that
its scheme implies is left out, a path of a URL with a scheme or an authority has
no dot segments, and everything that may not stand in a part is percent encoded.
Reading a text as a URL refuses it or gives this form.
-/

namespace WebhookRelay

/-- A URL in canonical form.  A scheme or an authority that is not there is empty. -/
structure Url where
  scheme : List Char := []
  user : List Char := []
  /-- The host; an address stands without its brackets. -/
  host : List Char := []
  port : Option Int := none
  path : List Char := []
  query : Option (List Char) := none
  fragment : Option (List Char) := none
  deriving DecidableEq, Repr

namespace Url
open Text

/-! ## Canonical parts -/

/-- The ports that schemes imply. -/
def impliedPorts : List (String × Int) :=
  [("ftp", 21), ("http", 80), ("https", 443), ("ws", 80), ("wss", 443)]

/-- A port, unless there is none or the scheme as it is written implies it. -/
def readPort (scheme port : List Char) : Except UrlRefusal (Option Int) :=
  if port.isEmpty then .ok none
  else match Numeral.readInt port with
    | .ok n => .ok (if impliedPorts.lookup (String.ofList scheme) = some n then none else some n)
    | .error _ => .error (.badPort port)

/-- Removes the segments `.` and `..` of a path, the latter together with the one
before it, unless that is the empty one at the start. -/
def removeDots (path : List Char) : List Char :=
  ['/'].intercalate <| (splitOn '/' path).foldl (fun kept segment =>
    if segment = ['.'] then kept
    else if segment = ['.', '.'] then if kept = [[]] then kept else kept.dropLast
    else kept ++ [segment]) []

/-- The path of a URL with or without a scheme and an authority. -/
def readPath (hasScheme hasAuthority : Bool) (path : List Char) : Except UrlRefusal (List Char) :=
  let canonical := escape isPathChar (if hasScheme || hasAuthority then removeDots path else path)
  match hasScheme, hasAuthority, path with
  | _, true, [] | _, true, '/' :: _ => .ok canonical
  | _, true, _ => .error .detachedPath
  | false, false, '/' :: '/' :: _ => .error .doubleSlash
  | false, false, ':' :: _ => .error .leadingColon
  | _, false, _ => .ok canonical

/-- Is there anything of an authority? -/
def hasAuthority (user host : List Char) (port : Option Int) : Bool :=
  !user.isEmpty || !host.isEmpty || port.isSome

/-- The URL with these parts.  The host is judged before the port, and both before
the path. -/
def ofParts (parts : Parts) : Except UrlRefusal Url := do
  let user := escape isUserChar parts.authority.user
  let host ← Host.canonical parts.authority.host
  let port ← readPort parts.scheme parts.authority.port
  let path ← readPath (!parts.scheme.isEmpty) (hasAuthority user host port) parts.path
  return {
    scheme := parts.scheme.map Char.toLower
    user, host, port, path
    query := parts.query.map (escape isQueryChar)
    fragment := parts.fragment.map (escape isFragmentChar) }

/-! ## Texts -/

/-- The most characters that a URL may have. -/
def lengthLimit : Nat := 65536

def isControl (c : Char) : Bool := c.toNat < 0x20 || c.toNat = 0x7F

/-- The first control character of a text and its position. -/
def firstControl? (s : List Char) : Option (Char × Nat) :=
  (s.find? isControl).map fun c => (c, (s.takeWhile (!isControl ·)).length)

/-- The URL that a text is. -/
def ofText (s : List Char) : Except UrlRefusal Url :=
  if lengthLimit < s.length then .error .tooLong
  else match firstControl? s with
    | some (c, position) => .error (.controlCharacter c position)
    | none => ofParts (.ofText s)

/-- An optional part behind its mark. -/
def marked (mark : Char) : Option (List Char) → List Char
  | some s => mark :: s
  | none => []

/-- The parts of a URL. -/
def parts (u : Url) : Parts where
  scheme := u.scheme
  authority := ⟨u.user, Host.written u.host, (u.port.map Numeral.ofInt).getD []⟩
  path := u.path
  query := u.query
  fragment := u.fragment

/-- An authority as text. -/
def Authority.toText (a : Authority) : List Char :=
  (if a.user.isEmpty then [] else a.user ++ ['@']) ++ a.host
    ++ (if a.port.isEmpty then [] else ':' :: a.port)

/-- A URL as text. -/
def toText (u : Url) : List Char :=
  let authority := u.parts.authority.toText
  (if u.scheme.isEmpty then [] else u.scheme ++ [':'])
    ++ (if authority.isEmpty then [] else '/' :: '/' :: authority)
    ++ u.path ++ marked '?' u.query ++ marked '#' u.fragment

/-- The first part that is too long in a URL put together again. -/
def Parts.oversized? (p : Parts) : Option UrlPart :=
  if lengthLimit < p.authority.toText.length then some .authority
  else if lengthLimit < p.path.length then some .path
  else if lengthLimit < (p.query.getD []).length then some .query
  else if lengthLimit < (p.fragment.getD []).length then some .fragment
  else none

/-- The URL put together from parts of others.  Only the fragment may be one that has
not been part of a URL as it is. -/
def rebuild (p : Parts) : Except UrlRefusal Url :=
  match p.oversized?, p.fragment.bind firstControl? with
  | some part, _ => .error (.partTooLong part)
  | none, some (c, position) => .error (.fragmentControl c position)
  | none, none => ofParts p

/-- An absolute URL names a scheme and a host. -/
def isAbsolute (u : Url) : Bool := !u.scheme.isEmpty && !u.host.isEmpty

example : (ofText "HTTP://a@b@H:81/p/./q/../r?x=1#f".toList).toOption.map toText =
    some "http://a%40b@h:81/p/r?x=1#f".toList := by decide +kernel
example : (ofText "https://x:443".toList).toOption.map toText = some "https://x".toList := by
  decide +kernel
example : (ofText "https://x:y/p".toList).toOption = none := by decide +kernel

end Url
end WebhookRelay
