import WebhookRelay.Binary64.Shortest
import WebhookRelay.Numeral

/-! # Texts of binary64 numbers

A number is written with the digits of its shortest decimal: positionally, with
at least one digit on either side of the point, when the exponent of the leading
digit is from `-4` to `15`, and otherwise with a signed exponent of at least two
digits.

Reading accepts an optional sign, digits with an optional point among or around
them and an optional exponent, single underscores between digits, and the words
`inf`, `infinity` and `nan` in any case.
-/

namespace WebhookRelay
namespace Binary64

/-! ## Writing -/

/-- How digits with a decimal exponent are laid out as text. -/
structure Layout where
  /-- The least exponent of the leading digit that is written positionally. -/
  leastPositional : Int
  /-- The greatest exponent of the leading digit that is written positionally. -/
  greatestPositional : Int
  /-- The least number of digits of a written exponent. -/
  exponentDigits : Nat

/-- The layout of numbers in all texts of this library. -/
def layout : Layout := ⟨-4, 15, 2⟩

namespace Layout

/-- The digits with a point, the leading one having exponent `top`. -/
def positional (digits : List Char) (top : Int) : List Char :=
  if top < 0 then
    ['0', '.'] ++ List.replicate (-top - 1).toNat '0' ++ digits
  else
    let whole := digits.take (top.toNat + 1)
    let fraction := digits.drop (top.toNat + 1)
    whole ++ List.replicate (top.toNat + 1 - whole.length) '0' ++ ['.']
      ++ (if fraction.isEmpty then ['0'] else fraction)

/-- The digits with a point after the first one, if there are more, and an exponent. -/
def scientific (l : Layout) (digits : List Char) (top : Int) : List Char :=
  let exponent := Numeral.ofNat top.natAbs
  digits.take 1 ++ (if digits.length ≤ 1 then [] else '.' :: digits.drop 1)
    ++ ['e', if top < 0 then '-' else '+']
    ++ List.replicate (l.exponentDigits - exponent.length) '0' ++ exponent

/-- The digits of a number whose leading digit has exponent `top`. -/
def write (l : Layout) (digits : List Char) (top : Int) : List Char :=
  if l.leastPositional ≤ top && top ≤ l.greatestPositional then positional digits top
  else l.scientific digits top

end Layout

/-- A magnitude as text. -/
def magnitudeText (rank : Nat) : List Char :=
  if rank = 0 then ['0', '.', '0']
  else
    let (factor, exponent) := shortest rank
    let digits := Numeral.ofNat factor
    let significant := (digits.reverse.dropWhile (· = '0')).reverse
    layout.write significant (exponent + digits.length - 1)

/-- A number as text. -/
def text : Binary64 → List Char
  | nan => "nan".toList
  | infinity negative => (if negative then ['-'] else []) ++ "inf".toList
  | finite negative rank => (if negative then ['-'] else []) ++ magnitudeText rank

end Binary64

/-! ## Reading -/

namespace Decimal

/-- The exponent part of a numeral: nothing, or a mark, a sign and digits. -/
def readExponent? : List Char → Option Int
  | [] => some 0
  | mark :: rest =>
    let (negative, digits) := Numeral.splitSign rest
    if (mark = 'e' || mark = 'E') && !digits.isEmpty && digits.all Char.isDigit then
      some (Numeral.signed negative (Numeral.value digits))
    else none

/-- An unsigned numeral: digits before or after an optional point, then an
optional exponent. -/
def readUnsigned? (negative : Bool) (text : List Char) : Option Decimal :=
  let whole := text.takeWhile Char.isDigit
  let (fraction, rest) := match text.dropWhile Char.isDigit with
    | '.' :: tail => (tail.takeWhile Char.isDigit, tail.dropWhile Char.isDigit)
    | tail => ([], tail)
  if whole.isEmpty && fraction.isEmpty then none
  else (readExponent? rest).map fun exponent =>
    ⟨negative, Numeral.value (whole ++ fraction), exponent - fraction.length⟩

end Decimal

namespace Binary64

/-- Reads a number from a text of basic characters without blanks around it. -/
def ofText? (text : List Char) : Option Binary64 :=
  (Numeral.ungroup? false text).bind fun plain =>
    let (negative, body) := Numeral.splitSign plain
    let word := String.ofList (body.map Char.toLower)
    if word = "inf" || word = "infinity" then some (infinity negative)
    else if word = "nan" then some nan
    else (Decimal.readUnsigned? negative body).map Decimal.toBinary64

/-- Reads a number from free text: padding around it and digits of any script. -/
def ofFreeText? (text : List Char) : Option Binary64 :=
  ofText? (Text.unpad (text.map Text.basicDigit))

end Binary64
end WebhookRelay
