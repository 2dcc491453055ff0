import WebhookRelay.Text.Percent
import WebhookRelay.Text.Split
import WebhookRelay.Text.Wide

/-! # Form encoding

A form is an ordered list of pairs of a key and a value.  It is written as
`key=value` pieces with `&` between them; letters, digits and `_ . - ~` stand for
themselves, a space becomes a plus, and every other character is percent encoded.
Reading splits at every `&`, skips empty pieces, and cuts each piece at its first
equals sign; a piece without one has an empty value.

The values that are to be written may be garbled at first.  Such **parameters** make a
form only if none of them is.
-/

namespace WebhookRelay

/-- A form: pairs of a key and a value, in order. -/
abbrev Form := List (String × String)

namespace Form
open Text

/-- The characters that stand for themselves. -/
def isPlain (c : Char) : Bool := c.isAlphanum || c = '_' || c = '.' || c = '-' || c = '~'

/-- A character of a key or a value. -/
def encodeChar (c : Char) : List Char :=
  if isPlain c then [c] else if c = ' ' then ['+'] else Percent.encodeChar c

/-- A key or a value. -/
def encodeText (s : String) : List Char := s.toList.flatMap encodeChar

/-- A pair. -/
def encodePair (pair : String × String) : List Char :=
  encodeText pair.1 ++ '=' :: encodeText pair.2

/-- A form as text. -/
def encode (form : Form) : List Char := ['&'].intercalate (form.map encodePair)

/-- Reads a key or a value. -/
def decodeText (s : List Char) : String :=
  String.ofList (Percent.decode (s.map fun c => if c = '+' then ' ' else c))

/-- Reads a pair. -/
def decodePair (piece : List Char) : String × String :=
  let (key, value) := cutChar '=' piece
  (decodeText key, decodeText value)

/-- Reads a form from text. -/
def decode (s : List Char) : Form :=
  ((splitOn '&' s).filter (!·.isEmpty)).map decodePair

/-- The last value under a key. -/
def last? (form : Form) (key : String) : Option String := form.reverse.lookup key

example : encode [("title", "a&b é"), ("body", "")] = "title=a%26b+%C3%A9&body=".toList := by
  decide
example : decode "title=a%26b+%C3%A9&body=".toList = [("title", "a&b é"), ("body", "")] := by
  decide

end Form

/-- Keys with the texts under them, in order. -/
abbrev Parameters := List (String × Wide)

namespace Parameters

/-- The form of parameters, or the first text among them that is garbled. -/
def toForm : Parameters → Except Garbled Form
  | [] => .ok []
  | (_, .garbled g) :: _ => .error g
  | (key, .text s) :: rest => (toForm rest).map ((key, s) :: ·)

end Parameters
end WebhookRelay
