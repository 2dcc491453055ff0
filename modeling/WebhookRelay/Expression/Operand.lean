import WebhookRelay.Binary64.Text
import WebhookRelay.Path
import WebhookRelay.Text.Quotes

/-! # Operands

An operand of a condition is classified by its form alone, in this order: a text
of path characters is a path; then come quoted texts, numbers and the two truth
values; anything else stands for its own text.

A path whose value is missing or null falls back to what its text denotes if that
is a number or a truth value.  So `10` is the number ten, unless the payload has
something under the key `10`.
-/

namespace WebhookRelay

/-- What the text of an operand denotes. -/
inductive Reading where
  | path
  | quoted (content : String)
  | integer (n : Int)
  | decimal (x : Binary64)
  | truth (b : Bool)
  /-- The text denotes itself. -/
  | bare
  deriving DecidableEq, Repr

/-- An operand: its text without the blanks around it, and what the text denotes. -/
structure Operand where
  text : String
  reading : Reading
  deriving DecidableEq, Repr

namespace Operand
open Text

/-- The number with this sign that a text denotes, if it consists of digits and an
optional point with further digits. -/
def magnitudeReading? (negative : Bool) (s : List Char) : Except Fault (Option Reading) :=
  let whole := s.takeWhile Char.isDigit
  match s.dropWhile Char.isDigit with
  | [] =>
    if whole.isEmpty then .ok none
    else (Numeral.toNat whole).map fun n => some (.integer (Numeral.signed negative n))
  | '.' :: fraction =>
    if whole.isEmpty || fraction.isEmpty || !fraction.all Char.isDigit then .ok none
    else
      let decimal : Decimal := ⟨negative, Numeral.value (whole ++ fraction), -fraction.length⟩
      .ok (some (.decimal decimal.toBinary64))
  | _ => .ok none

/-- The number that a text denotes, if it is a magnitude behind an optional minus. -/
def numberReading? : List Char → Except Fault (Option Reading)
  | '-' :: rest => magnitudeReading? true rest
  | s => magnitudeReading? false s

/-- What a text denotes other than a path. -/
def literalReading (s : List Char) : Except Fault Reading :=
  match unquote? s with
  | some content => .ok (.quoted (String.ofList content))
  | none => (numberReading? s).map fun number =>
    match number with
    | some reading => reading
    | none =>
      if s = "true".toList then .truth true
      else if s = "false".toList then .truth false
      else .bare

/-- Classifies the text of an operand. -/
def ofText (s : List Char) : Except Fault Operand :=
  let body := trim s
  if Path.isPathText body then .ok ⟨String.ofList body, .path⟩
  else (literalReading body).map fun reading => ⟨String.ofList body, reading⟩

/-- The value of an operand that is no path; a path by itself has none. -/
def literalValue (o : Operand) : Value :=
  match o.reading with
  | .path => .null
  | .quoted content => .text content
  | .integer n => .int n
  | .decimal x => .float x
  | .truth b => .bool b
  | .bare => .text o.text

/-- The number or truth value that stands in for a path without a value. -/
def fallback (path : List Char) : Except Fault Value :=
  (literalReading path).map fun reading =>
    match reading with
    | .integer n => .int n
    | .decimal x => .float x
    | .truth b => .bool b
    | _ => .null

/-- The value of an operand over a payload, with its place there.  The place tells
containers apart; a value that is no container may have any. -/
def locate (o : Operand) (data : Value) : Except Fault Located :=
  match o.reading with
  | .path => do
    match ← Path.locate data o.text.toList with
    | some ⟨place, .null⟩ => (fallback o.text.toList).map fun v => ⟨place, v⟩
    | some found => .ok found
    | none => (fallback o.text.toList).map fun v => ⟨[], v⟩
  | _ => .ok ⟨[], o.literalValue⟩

end Operand
end WebhookRelay
