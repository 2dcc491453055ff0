import WebhookRelay.Text.Printable
import WebhookRelay.Text.Wide

/-! # Texts spelled out in messages

A text is spelled out between single quotes, or between double quotes if it holds
a single quote and no double one.  The backslash, the quote around it, and line
feed, carriage return and tab have an escape of two characters; every other point
that is not printable is written by its code in two, four or eight hexadecimal
digits.
-/

namespace WebhookRelay
namespace Text

/-- A number in hexadecimal digits, with zeros in front up to a width. -/
def hexDigits (width n : Nat) : List Char :=
  let digits := Nat.toDigits 16 n
  List.replicate (width - digits.length) '0' ++ digits

/-- The code of a point as an escape. -/
def escapeCode (code : Nat) : List Char :=
  if code < 0x100 then '\\' :: 'x' :: hexDigits 2 code
  else if code < 0x10000 then '\\' :: 'u' :: hexDigits 4 code
  else '\\' :: 'U' :: hexDigits 8 code

/-- The quote around a text that is spelled out. -/
def surroundingQuote (s : List Point) : Char :=
  if s.contains (Point.char '\'') && !s.contains (Point.char '"') then '"' else '\''

/-- A point of a text that is spelled out. -/
def spellPoint (quote : Char) : Point → List Char
  | .char c =>
    if c = quote || c = '\\' then ['\\', c]
    else if c = '\n' then ['\\', 'n']
    else if c = '\r' then ['\\', 'r']
    else if c = '\t' then ['\\', 't']
    else if isPrintable c then [c]
    else escapeCode c.toNat
  | .surrogate s => escapeCode s.val

/-- A wide text spelled out. -/
def spellPoints (s : List Point) : List Char :=
  let quote := surroundingQuote s
  quote :: (s.flatMap (spellPoint quote) ++ [quote])

/-- A text spelled out. -/
def spell (s : List Char) : List Char := spellPoints (s.map .char)

/-- Where points of a kind stand in a text for the first time: one point, or more in a
row. -/
def place (ofKind : Point → Bool) (s : List Point) : String :=
  let start := (s.takeWhile (!ofKind ·)).length
  match (s.drop start).takeWhile ofKind with
  | [p] => "character '" ++ String.ofList (escapeCode p.code) ++ "' in position " ++ toString start
  | run => "characters in position " ++ toString start ++ "-" ++ toString (start + run.length - 1)

end Text
end WebhookRelay
