import WebhookRelay.Text.Split

/-! # The parts of a URL

A URL is written as a scheme before a colon, an authority behind two slashes, a
path, a query behind a question mark and a fragment behind a hash sign.  An
authority is a host, with user information before an at sign and a port behind a
colon.  Every text splits into such parts, and splitting checks none of them; a
scheme or an authority that is not there is empty.
-/

namespace WebhookRelay
namespace Url
open Text

/-- The parts of an authority. -/
structure Authority where
  user : List Char := []
  host : List Char := []
  port : List Char := []
  deriving DecidableEq, Repr

/-- The parts of a URL as they are written. -/
structure Parts where
  scheme : List Char
  authority : Authority
  path : List Char
  query : Option (List Char)
  fragment : Option (List Char)
  deriving DecidableEq, Repr

/-- The texts before and after a mark, if it occurs. -/
def splitMark (mark : Char) (s : List Char) : List Char × Option (List Char) :=
  match s.dropWhile (· ≠ mark) with
  | [] => (s, none)
  | _ :: rest => (s.takeWhile (· ≠ mark), some rest)

def isSchemeChar (c : Char) : Bool := c.isAlphanum || c = '+' || c = '.' || c = '-'

/-- A scheme is empty or starts with a letter. -/
def isScheme (s : List Char) : Bool := s.all isSchemeChar && s.head?.all Char.isAlpha

/-- Splits off a scheme, if one stands before a colon at the start. -/
def splitScheme (s : List Char) : List Char × List Char :=
  match splitMark ':' s with
  | (name, some rest) => if isScheme name then (name, rest) else ([], s)
  | (_, none) => ([], s)

def endsAuthority (c : Char) : Bool := c = '/' || c = '?' || c = '#'

/-- Splits off an authority, if two slashes stand at the start. -/
def splitAuthority : List Char → List Char × List Char
  | '/' :: '/' :: rest => (rest.takeWhile (!endsAuthority ·), rest.dropWhile (!endsAuthority ·))
  | s => ([], s)

/-- Splits off a host: what is bracketed, with its brackets, or what no colon is in. -/
def splitHost (s : List Char) : List Char × List Char :=
  if s.head? = some '[' && s.contains ']' then
    let (inside, rest) := cutLast ']' s
    (inside ++ [']'], rest)
  else (s.takeWhile (· ≠ ':'), s.dropWhile (· ≠ ':'))

/-- The parts of an authority.  User information ends at the last at sign. -/
def Authority.ofText (s : List Char) : Authority :=
  let (user, located) := cutLast '@' s
  match splitHost located with
  | (host, ':' :: port) => ⟨user, host, port⟩
  | (host, port) => ⟨user, host, port⟩

/-- The parts of a text. -/
def Parts.ofText (s : List Char) : Parts :=
  let (front, fragment) := splitMark '#' s
  let (front, query) := splitMark '?' front
  let (scheme, front) := splitScheme front
  let (authority, path) := splitAuthority front
  ⟨scheme, .ofText authority, path, query, fragment⟩

example : Parts.ofText "http://a@b@h:1/p?x=1#f".toList =
    ⟨"http".toList, ⟨"a@b".toList, ['h'], ['1']⟩, "/p".toList, some "x=1".toList, some ['f']⟩ := by
  decide
example : (Parts.ofText ":b".toList).path = ['b'] := by decide
example : Authority.ofText "[::1]:81".toList = ⟨[], "[::1]".toList, "81".toList⟩ := by decide

end Url
end WebhookRelay
