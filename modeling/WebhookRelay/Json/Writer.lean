import WebhookRelay.Binary64.Text
import WebhookRelay.Value

/-! # Writing JSON

Values are written compactly, entries in their order.  In texts the quote and the
backslash are escaped, the controls below U+0020 are written with their short
escape or by code, and everything else stands for itself, half a surrogate pair
included.  Numbers that are not finite have the words `NaN`, `Infinity` and
`-Infinity`.

What is written is a list of points.  Where it has to be Unicode, half a pair is
written as its escape.
-/

namespace WebhookRelay
namespace Json

/-- The lower-case hexadecimal digit of a number below sixteen. -/
def hexDigit (n : Nat) : Char := Nat.digitChar n

/-- A character inside a quoted text. -/
def escape (c : Char) : List Char :=
  if c = '"' then ['\\', '"']
  else if c = '\\' then ['\\', '\\']
  else if c = '\n' then ['\\', 'n']
  else if c = '\r' then ['\\', 'r']
  else if c = '\t' then ['\\', 't']
  else if c = '\x08' then ['\\', 'b']
  else if c = '\x0c' then ['\\', 'f']
  else if c.toNat < 0x20 then
    ['\\', 'u', '0', '0', hexDigit (c.toNat / 16), hexDigit (c.toNat % 16)]
  else [c]

/-- A point inside a quoted text. -/
def escapePoint : Point → List Point
  | .char c => (escape c).map .char
  | p => [p]

/-- A quoted text. -/
def quote (s : Wide) : List Point := .char '"' :: (s.points.flatMap escapePoint ++ [.char '"'])

/-- A binary64 number. -/
def number : Binary64 → List Char
  | .nan => "NaN".toList
  | .infinity negative => (if negative then ['-'] else []) ++ "Infinity".toList
  | x => x.text

/-- The word for a truth value. -/
def truth (b : Bool) : List Char := if b then "true".toList else "false".toList

/-- Texts with commas between them. -/
def commas (texts : List (List Point)) : List Point := [.char ','].intercalate texts

mutual
/-- A value as compact JSON. -/
def write : Value → List Point
  | .null => "null".toList.map .char
  | .bool b => (truth b).map .char
  | .int n => (Numeral.ofInt n).map .char
  | .float x => (number x).map .char
  | .text s => quote s
  | .garbled g => quote (.garbled g)
  | .list items => .char '[' :: (commas (writeItems items) ++ [.char ']'])
  | .object entries => .char '{' :: (commas (writeEntries entries) ++ [.char '}'])

/-- The items of a list, each as JSON. -/
def writeItems : List Value → List (List Point)
  | [] => []
  | v :: rest => write v :: writeItems rest

/-- The entries of an object, each as a quoted key, a colon and JSON. -/
def writeEntries : List (Wide × Value) → List (List Point)
  | [] => []
  | (key, v) :: rest => (quote key ++ .char ':' :: write v) :: writeEntries rest
end

/-- A point in Unicode: half a surrogate pair is escaped. -/
def unicode : Point → List Char
  | .char c => [c]
  | .surrogate s => '\\' :: 'u' :: Nat.toDigits 16 s.val

/-- A value as compact JSON text. -/
def text (v : Value) : String := String.ofList ((write v).flatMap unicode)

theorem writeItems_eq_map (items : List Value) : writeItems items = items.map write := by
  induction items with
  | nil => simp [writeItems]
  | cons v rest ih => simp [writeItems, ih]

theorem writeEntries_eq_map (entries : List (Wide × Value)) :
    writeEntries entries = entries.map fun e => quote e.1 ++ .char ':' :: write e.2 := by
  induction entries with
  | nil => simp [writeEntries]
  | cons e rest ih => simp [writeEntries, ih]

end Json
end WebhookRelay
