import WebhookRelay.Text.Spelling

/-! # Refused URLs

A text is refused as a URL if it is too long, if it holds a control character, or
if its host, its port or its path cannot be what it stands for.
-/

namespace WebhookRelay

/-- The parts of a URL that may become too long when they are escaped. -/
inductive UrlPart where
  | authority
  | path
  | query
  | fragment
  deriving DecidableEq, Repr

/-- The word for a part. -/
def UrlPart.name : UrlPart → String
  | authority => "authority"
  | path => "path"
  | query => "query"
  | fragment => "fragment"

/-- Why a text is refused as a URL. -/
inductive UrlRefusal where
  | tooLong
  /-- A part of a URL that is put together again is too long. -/
  | partTooLong (part : UrlPart)
  /-- A control character, and where it first occurs. -/
  | controlCharacter (c : Char) (position : Nat)
  /-- The same in a fragment that is taken over from another URL. -/
  | fragmentControl (c : Char) (position : Nat)
  /-- A host that looks like an address of four numbers and is none. -/
  | badNumericHost (host : List Char)
  /-- A bracketed host that is no address. -/
  | badBracketedHost (host : List Char)
  /-- A host with a name that cannot be encoded. -/
  | badName (host : List Char)
  | badPort (port : List Char)
  /-- The path behind an authority starts with another character than a slash. -/
  | detachedPath
  /-- The path of a relative URL starts with two slashes. -/
  | doubleSlash
  /-- The path of a relative URL starts with a colon. -/
  | leadingColon
  deriving DecidableEq, Repr

namespace UrlRefusal
open Text (spell)

/-- The wording of a refusal. -/
def message : UrlRefusal → String
  | tooLong => "URL too long"
  | partTooLong part => "URL component '" ++ part.name ++ "' too long"
  | controlCharacter c position =>
    "Invalid non-printable ASCII character in URL, " ++ String.ofList (spell [c])
      ++ " at position " ++ toString position ++ "."
  | fragmentControl c position =>
    "Invalid non-printable ASCII character in URL fragment component, "
      ++ String.ofList (spell [c]) ++ " at position " ++ toString position ++ "."
  | badNumericHost host => "Invalid IPv4 address: " ++ String.ofList (spell host)
  | badBracketedHost host => "Invalid IPv6 address: " ++ String.ofList (spell host)
  | badName host => "Invalid IDNA hostname: " ++ String.ofList (spell host)
  | badPort port => "Invalid port: " ++ String.ofList (spell port)
  | detachedPath => "For absolute URLs, path must be empty or begin with '/'"
  | doubleSlash => "Relative URLs cannot have a path starting with '//'"
  | leadingColon => "Relative URLs cannot have a path starting with ':'"

end UrlRefusal
end WebhookRelay
