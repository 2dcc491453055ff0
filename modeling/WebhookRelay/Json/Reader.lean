import WebhookRelay.Binary64.Text
import WebhookRelay.Entries
import WebhookRelay.Value

/-! # Reading JSON

A numeral without point and exponent is an integer of any size up to the digit
limit; every other numeral is the nearest binary64 number, an infinity if it is
too large.  The words `NaN`, `Infinity` and `-Infinity` are numbers too.  Of a
repeated key the last value counts, at the place of the first.

In a quoted text a point can be escaped by its code.  The two halves of a surrogate
pair that are escaped one behind the other make one character; any other half of a
pair stands for itself.

A reader may have limits on the nesting of containers and on the length of
numerals, and it may refuse garbled texts.  What is beyond its limits it takes for no
JSON at all.

Each reader takes the text from its first point on and returns what it read
with the rest.  The nested readers take fuel; each nesting or item consumes at
least one point, so the length of the text is enough.
-/

namespace WebhookRelay
namespace Json

/-- Why a text could not be read: it is no JSON within the limits of the reader, or
a numeral in it is refused. -/
inductive ReadError where
  | malformed
  | refused (fault : Fault)
  deriving DecidableEq, Repr

/-- The limits of a reader; what is not given is not limited. -/
structure Limits where
  /-- How many containers may lie around a place, itself included.  Empty ones are
  not counted. -/
  nesting : Option Nat := none
  /-- How many characters may stand in a numeral before its point or exponent. -/
  whole : Option Nat := none
  /-- May a text be garbled? -/
  garbled : Bool := true
  deriving DecidableEq, Repr

namespace Limits

/-- May a container that is not empty lie at this depth? -/
def admitsDepth (limits : Limits) (depth : Nat) : Bool := limits.nesting.all (depth ≤ ·)

/-- May a numeral have these digits before its point or exponent? -/
def admitsWhole (limits : Limits) (negative : Bool) (digits : List Char) : Bool :=
  limits.whole.all (digits.length + negative.toNat ≤ ·)

/-- May a text be read? -/
def admitsText (limits : Limits) (s : Wide) : Bool := limits.garbled || !s.isGarbled

end Limits

/-- The white space between tokens. -/
def isSpace (p : Point) : Bool :=
  p = .char ' ' || p = .char '\t' || p = .char '\n' || p = .char '\r'

/-- Skips white space. -/
def skip (s : List Point) : List Point := s.dropWhile isSpace

/-! ## Texts -/

/-- The value of a hexadecimal digit. -/
def hexValue? (p : Point) : Option Nat :=
  match p with
  | .char c =>
    if '0' ≤ c && c ≤ '9' then some (c.toNat - '0'.toNat)
    else if 'a' ≤ c && c ≤ 'f' then some (c.toNat - 'a'.toNat + 10)
    else if 'A' ≤ c && c ≤ 'F' then some (c.toNat - 'A'.toNat + 10)
    else none
  | .surrogate _ => none

/-- The number denoted by four hexadecimal digits. -/
def hexValue4? (a b c d : Point) : Option Nat := do
  return 4096 * (← hexValue? a) + 256 * (← hexValue? b) + 16 * (← hexValue? c) + (← hexValue? d)

/-- The character of a short escape. -/
def shortEscape? : Point → Option Char
  | .char '"' => some '"'
  | .char '\\' => some '\\'
  | .char '/' => some '/'
  | .char 'b' => some '\x08'
  | .char 'f' => some '\x0c'
  | .char 'n' => some '\n'
  | .char 'r' => some '\r'
  | .char 't' => some '\t'
  | _ => none

/-- How a point of a quoted text is given. -/
inductive Mark where
  /-- It stands there, or it has a short escape. -/
  | point (p : Point)
  /-- It is escaped by its code. -/
  | coded (code : Nat)
  deriving DecidableEq, Repr

/-- Puts a mark in front of what was read. -/
def prepend (mark : Mark) (read : Option (List Mark × List Point)) :
    Option (List Mark × List Point) :=
  read.map fun (marks, rest) => (mark :: marks, rest)

/-- Reads the marks of a text after its opening quote, up to and with its closing
quote. -/
def readMarks : List Point → Option (List Mark × List Point)
  | [] => none
  | .char '"' :: rest => some ([], rest)
  | .char '\\' :: .char 'u' :: a :: b :: c :: d :: rest =>
    match hexValue4? a b c d with
    | none => none
    | some code => prepend (.coded code) (readMarks rest)
  | .char '\\' :: e :: rest =>
    match shortEscape? e with
    | none => none
    | some c => prepend (.point (.char c)) (readMarks rest)
  | p :: rest => if p.code < 0x20 then none else prepend (.point p) (readMarks rest)

/-- The character of a pair of surrogates, if two codes are one. -/
def pair? (high low : Nat) : Option Char :=
  if 0xD800 ≤ high && high < 0xDC00 && 0xDC00 ≤ low && low < 0xE000 then
    some (Char.ofNat (0x10000 + (high - 0xD800) * 0x400 + (low - 0xDC00)))
  else none

/-- The points that marks give. -/
def join : List Mark → List Point
  | .coded high :: .coded low :: rest =>
    match pair? high low with
    | some c => .char c :: join rest
    | none => .ofCode high :: join (.coded low :: rest)
  | .coded code :: rest => .ofCode code :: join rest
  | .point p :: rest => p :: join rest
  | [] => []

/-- Reads a text after its opening quote, up to and with its closing quote. -/
def readText (limits : Limits) (s : List Point) : Option (Wide × List Point) := do
  let (marks, rest) ← readMarks s
  let text := Wide.ofPoints (join marks)
  if limits.admitsText text then some (text, rest) else none

/-! ## Numbers -/

/-- The digits of the whole part: a single zero, or digits without a leading zero. -/
def readWhole? : List Char → Option (List Char × List Char)
  | '0' :: rest => some (['0'], rest)
  | s =>
    let digits := s.takeWhile Char.isDigit
    if digits.isEmpty then none else some (digits, s.dropWhile Char.isDigit)

/-- The digits of a fraction, if a point with digits follows. -/
def readFraction (s : List Char) : List Char × List Char :=
  match s with
  | '.' :: rest =>
    let digits := rest.takeWhile Char.isDigit
    if digits.isEmpty then ([], s) else (digits, rest.dropWhile Char.isDigit)
  | _ => ([], s)

/-- The exponent, if a mark with digits follows. -/
def readExponent (s : List Char) : Option Int × List Char :=
  match s with
  | mark :: rest =>
    if mark = 'e' || mark = 'E' then
      let (negative, body) := Numeral.splitSign rest
      let digits := body.takeWhile Char.isDigit
      if digits.isEmpty then (none, s)
      else (some (Numeral.signed negative (Numeral.value digits)), body.dropWhile Char.isDigit)
    else (none, s)
  | [] => (none, s)

/-- Reads the digits of a number after its sign. -/
def readDigits (limits : Limits) (negative : Bool) (s : List Char) :
    Except ReadError (Value × List Char) :=
  match readWhole? s with
  | none => .error .malformed
  | some (whole, rest) =>
    let (fraction, rest) := readFraction rest
    let (exponent, rest) := readExponent rest
    if !limits.admitsWhole negative whole then .error .malformed
    else if fraction.isEmpty && exponent.isNone then
      match Numeral.toNat whole with
      | .ok n => .ok (.int (Numeral.signed negative n), rest)
      | .error fault => .error (.refused fault)
    else
      let decimal : Decimal :=
        ⟨negative, Numeral.value (whole ++ fraction), exponent.getD 0 - fraction.length⟩
      .ok (.float decimal.toBinary64, rest)

/-- Reads a number. -/
def readNumber (limits : Limits) : List Char → Except ReadError (Value × List Char)
  | '-' :: 'I' :: 'n' :: 'f' :: 'i' :: 'n' :: 'i' :: 't' :: 'y' :: rest =>
    .ok (.float (.infinity true), rest)
  | '-' :: rest => readDigits limits true rest
  | rest => readDigits limits false rest

/-- Reads a word or a number. -/
def readScalar (limits : Limits) : List Char → Except ReadError (Value × List Char)
  | 'n' :: 'u' :: 'l' :: 'l' :: rest => .ok (.null, rest)
  | 't' :: 'r' :: 'u' :: 'e' :: rest => .ok (.bool true, rest)
  | 'f' :: 'a' :: 'l' :: 's' :: 'e' :: rest => .ok (.bool false, rest)
  | 'N' :: 'a' :: 'N' :: rest => .ok (.float .nan, rest)
  | 'I' :: 'n' :: 'f' :: 'i' :: 'n' :: 'i' :: 't' :: 'y' :: rest =>
    .ok (.float (.infinity false), rest)
  | s => readNumber limits s

/-- May a character stand in a word or a number? -/
def isScalarChar (c : Char) : Bool := c.isAlphanum || c = '+' || c = '-' || c = '.'

/-- The characters at the start of a text that may stand in a word or a number, and the
rest. -/
def spanScalar : List Point → List Char × List Point
  | .char c :: rest =>
    if isScalarChar c then
      let (chars, rest) := spanScalar rest
      (c :: chars, rest)
    else ([], .char c :: rest)
  | rest => ([], rest)

/-! ## Values -/

mutual
/-- Reads a value that starts at the first point, with `depth` containers around it. -/
def readValue (limits : Limits) (depth : Nat) :
    Nat → List Point → Except ReadError (Value × List Point)
  | 0, _ => .error .malformed
  | fuel + 1, s =>
    match s with
    | .char '"' :: rest =>
      match readText limits rest with
      | some (t, rest) => .ok (.ofWide t, rest)
      | none => .error .malformed
    | .char '[' :: rest =>
      match skip rest with
      | .char ']' :: rest => .ok (.list [], rest)
      | rest => do
        if !limits.admitsDepth (depth + 1) then .error .malformed
        let (items, rest) ← readItems limits (depth + 1) fuel rest
        .ok (.list items, rest)
    | .char '{' :: rest =>
      match skip rest with
      | .char '}' :: rest => .ok (.object [], rest)
      | rest => do
        if !limits.admitsDepth (depth + 1) then .error .malformed
        let (entries, rest) ← readEntries limits (depth + 1) fuel [] rest
        .ok (.object entries, rest)
    | s => do
      let (chars, rest) := spanScalar s
      let (v, more) ← readScalar limits chars
      .ok (v, more.map .char ++ rest)

/-- Reads the items of a list from the first one to the closing bracket. -/
def readItems (limits : Limits) (depth : Nat) :
    Nat → List Point → Except ReadError (List Value × List Point)
  | 0, _ => .error .malformed
  | fuel + 1, s => do
    let (v, rest) ← readValue limits depth fuel s
    match skip rest with
    | .char ',' :: rest =>
      let (items, rest) ← readItems limits depth fuel (skip rest)
      .ok (v :: items, rest)
    | .char ']' :: rest => .ok ([v], rest)
    | _ => .error .malformed

/-- Reads the entries of an object from a key to the closing brace, entering each
into those already read. -/
def readEntries (limits : Limits) (depth : Nat) : Nat → List (Wide × Value) → List Point →
    Except ReadError (List (Wide × Value) × List Point)
  | 0, _, _ => .error .malformed
  | fuel + 1, read, s =>
    match s with
    | .char '"' :: rest =>
      match readText limits rest with
      | none => .error .malformed
      | some (key, rest) =>
        match skip rest with
        | .char ':' :: rest => do
          let (v, rest) ← readValue limits depth fuel (skip rest)
          let read := Entries.enter key v read
          match skip rest with
          | .char ',' :: rest => readEntries limits depth fuel read (skip rest)
          | .char '}' :: rest => .ok (read, rest)
          | _ => .error .malformed
        | _ => .error .malformed
    | _ => .error .malformed
end

/-- Reads a whole text as one value, with white space around it. -/
def readWithin (limits : Limits) (s : List Point) : Except ReadError Value := do
  let (v, rest) ← readValue limits 0 (s.length + 1) (skip s)
  if (skip rest).isEmpty then .ok v else .error .malformed

/-- Reads a whole text without limits. -/
def read (s : List Point) : Except ReadError Value := readWithin {} s

end Json
end WebhookRelay
