import WebhookRelay.Url.Name
import WebhookRelay.Url.Parts
import WebhookRelay.Url.Refusal

/-! # Hosts

A host is an address of four numbers with dots, a bracketed address of groups of
hexadecimal digits with colons, or a name.  The canonical form of a host is what
requests are sent to: an address as it is, without brackets, or an encoded name.
-/

namespace WebhookRelay
namespace Host
open Text

/-! ## Addresses of four numbers -/

/-- A number below 256 without leading zeros. -/
def isOctet (s : List Char) : Bool :=
  !s.isEmpty && s.all Char.isDigit && s.length ≤ 3 && (s.head? ≠ some '0' || s = ['0'])
    && Nat.ofDigitChars 10 s 0 < 256

/-- Four octets with dots between them. -/
def isDottedAddress (s : List Char) : Bool :=
  let parts := splitOn '.' s
  parts.length = 4 && parts.all isOctet

/-- Four runs of digits with dots between them, whatever numbers they are. -/
def looksNumeric (s : List Char) : Bool :=
  let parts := splitOn '.' s
  parts.length = 4 && parts.all fun part => !part.isEmpty && part.all Char.isDigit

/-! ## Bracketed addresses -/

/-- A group of up to four hexadecimal digits. -/
def isGroup (s : List Char) : Bool :=
  !s.isEmpty && s.length ≤ 4 && s.all fun c => (Percent.hexValue? c).isSome

/-- The number of groups that a text stands for, if it is a sequence of groups with
colons between them.  In the place of the last two groups a dotted address may
stand, if the flag allows it. -/
def countGroups? (allowDotted : Bool) (s : List Char) : Option Nat :=
  if s.isEmpty then some 0
  else
    let parts := splitOn ':' s
    if parts.all isGroup then some parts.length
    else if allowDotted && parts.dropLast.all isGroup && parts.getLast?.any isDottedAddress then
      some (parts.length + 1)
    else none

/-- Eight groups, of which two colons leave out one or more. -/
def isGroupAddress (s : List Char) : Bool :=
  match cut? [':', ':'] s with
  | none => countGroups? true s = some 8
  | some (before, after) =>
    match countGroups? false before, countGroups? true after with
    | some m, some n => m + n < 8
    | _, _ => false

/-- An address with an optional zone behind a percent sign. -/
def isZonedAddress (s : List Char) : Bool :=
  match Url.splitMark '%' s with
  | (address, none) => isGroupAddress address
  | (address, some zone) => isGroupAddress address && !zone.isEmpty && !zone.contains '%'

/-- What stands in the brackets around a host, if they are there. -/
def bracketed? : List Char → Option (List Char)
  | '[' :: rest => if rest.getLast? = some ']' then some rest.dropLast else none
  | _ => none

/-! ## Canonical hosts -/

/-- The canonical form of a host. -/
def canonical (host : List Char) : Except UrlRefusal (List Char) :=
  if looksNumeric host then
    if isDottedAddress host then .ok host else .error (.badNumericHost host)
  else match bracketed? host with
    | some address =>
      if isZonedAddress address then .ok address else .error (.badBracketedHost host)
    | none => (ofName host).mapError fun _ => .badName host

/-- A canonical host as it stands in a URL. -/
def written (host : List Char) : List Char :=
  if host.contains ':' then '[' :: (host ++ [']']) else host

example : (canonical "Api.Example".toList).toOption = some "api.example".toList := by
  decide +kernel
example : (canonical "[::1]".toList).toOption = some "::1".toList := by decide +kernel
example : (canonical "10.0.0.256".toList).toOption = none := by decide +kernel
example : (canonical "2130706433".toList).toOption = some "2130706433".toList := by decide +kernel
example : isGroupAddress "1:2::1.2.3.4".toList = true := by decide +kernel
example : isGroupAddress "1:2:3:4:5:6:7:8::".toList = false := by decide +kernel

end Host
end WebhookRelay
