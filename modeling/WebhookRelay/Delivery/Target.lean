import WebhookRelay.Url.Basic
import WebhookRelay.Url.Reference

/-! # Targets of requests

A delivery starts from the text of an endpoint, and a redirect leads from one URL
to the next.  This module tells which URL is requested in both cases, and what
keeps a URL from being requested although it is well formed.
-/

namespace WebhookRelay

/-- What makes a request or its response impossible. -/
inductive RequestFault where
  /-- The host is an encoded name that stands for none. -/
  | badName (fault : NameFault)
  /-- A header has to hold this text, which is not ASCII. -/
  | notAscii (text : List Char)
  /-- There is a response to a URL without a type. -/
  | untyped (url : Url)
  deriving DecidableEq, Repr

namespace Url
open Text

/-! ## The first request -/

/-- A URL without scheme, authority and fragment, whose path starts with a single
slash. -/
def rooted (u : Url) : Except UrlRefusal Url :=
  rebuild ⟨[], {}, '/' :: u.path.dropWhile (· = '/'), u.query, none⟩

/-- The URL first requested for a text.  One that is not absolute has lost all but
its path and its query. -/
def ofEndpoint (s : List Char) : Except UrlRefusal Url := do
  let u ← ofText s
  if u.isAbsolute then .ok u else u.rooted

/-! ## Redirects -/

/-- The name that the host of a URL stands for. -/
def hostName (u : Url) : Except RequestFault (List Char) :=
  (Host.decodeName u.host).mapError .badName

/-- A URL that has a scheme but no host gets a host. -/
def withHost (u : Url) (host : List Char) : Except UrlRefusal Url :=
  if !u.scheme.isEmpty && u.host.isEmpty then
    rebuild { u.parts with authority := { u.parts.authority with host := Host.written host } }
  else .ok u

/-- The text that a fragment stands for. -/
def fragmentText (u : Url) : List Char := Percent.decode (u.fragment.getD [])

/-- A URL without a fragment, or with an empty one, gets that of the request. -/
def withFragmentOf (u request : Url) : Except UrlRefusal Url :=
  if request.fragmentText.isEmpty || !u.fragmentText.isEmpty then .ok u
  else rebuild { u.parts with fragment := some request.fragmentText }

/-- The URL that a location leads to from a request to a host.  What is still no
absolute URL when it has a host is resolved against the URL of the request. -/
def redirect (request : Url) (host : List Char) (location : Url) : Except UrlRefusal Url := do
  let hosted ← location.withHost host
  let target ←
    if hosted.isAbsolute then .ok hosted
    else ofText (resolveText request.toText hosted.toText)
  target.withFragmentOf request

/-! ## Headers and types -/

/-- The host and the port of a URL, as a request names them in a header. -/
def site (u : Url) : List Char := { u.parts.authority with user := [] }.toText

/-- Checks that a URL can be requested: its host has a name, and the header can hold
its site. -/
def checkHost (u : Url) : Except RequestFault Unit := do
  let _ ← u.hostName
  if Host.isAscii u.site then .ok () else .error (.notAscii u.site)

/-- The text of a URL, less a hash sign at its end. -/
def shown (u : Url) : List Char :=
  if u.toText.getLast? = some '#' then u.toText.dropLast else u.toText

/-- Does a URL say of which type it is, by a word before a colon?  What follows its
last hash sign does not count. -/
def isTyped (u : Url) : Bool :=
  let text := u.toText
  let untagged := if text.contains '#' then (cutLast '#' text).1 else text
  match untagged.span fun c => c ≠ ':' && c ≠ '/' with
  | (_ :: _, ':' :: _) => true
  | _ => false

end Url

namespace RequestFault
open Text

/-- The wording of a fault. -/
def message : RequestFault → String
  | badName fault => fault.message
  | notAscii text =>
    "'ascii' codec can't encode " ++ place (0x80 ≤ ·.code) (text.map .char)
      ++ ": ordinal not in range(128)"
  | untyped url => "unknown url type: " ++ String.ofList (spell url.shown)

end RequestFault
end WebhookRelay
