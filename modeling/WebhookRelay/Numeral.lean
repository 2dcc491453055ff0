import WebhookRelay.Fault
import WebhookRelay.Text.Blank
import WebhookRelay.Text.DecimalDigit

/-! # Decimal numerals

Natural numbers and integers are written with the ten basic digits.  The written
form of a number is its **canonical** numeral: no sign on zero, no leading zeros.
Reading is more liberal and has a limit on the number of digits.
-/

namespace WebhookRelay
namespace Numeral
open Text

/-- The canonical numeral of a natural number. -/
def ofNat (n : Nat) : List Char := Nat.toDigits 10 n

/-- The canonical numeral of an integer. -/
def ofInt (n : Int) : List Char :=
  if n < 0 then '-' :: ofNat n.natAbs else ofNat n.natAbs

/-- Has an integer more digits than the limit? -/
def isLong (n : Int) : Bool := digitLimit < (ofNat n.natAbs).length

/-- The canonical numeral of an integer, refused if it has more digits than the limit. -/
def ofInt? (n : Int) : Except Fault (List Char) :=
  if isLong n then .error .integerTooLong else .ok (ofInt n)

/-- The number that a sequence of basic digits denotes. -/
def value (digits : List Char) : Nat := Nat.ofDigitChars 10 digits 0

/-- The number that a sequence of basic digits denotes, if it is within the limit. -/
def toNat (digits : List Char) : Except Fault Nat :=
  if digits.length ≤ digitLimit then .ok (value digits) else .error (.tooManyDigits digits.length)

/-- An optional sign: whether it is a minus, and the rest. -/
def splitSign : List Char → Bool × List Char
  | '-' :: rest => (true, rest)
  | '+' :: rest => (false, rest)
  | rest => (false, rest)

/-- An integer from its sign and its magnitude. -/
def signed (negative : Bool) (magnitude : Nat) : Int :=
  if negative then -(magnitude : Int) else magnitude

/-- Single underscores may group digits: each stands between two digits and is
dropped.  Any other underscore makes the text no numeral.  The flag tells whether
a digit stands just before. -/
def ungroup? : Bool → List Char → Option (List Char)
  | _, [] => some []
  | _, ['_'] => none
  | afterDigit, '_' :: c :: rest =>
    if afterDigit && c.isDigit then (ungroup? true rest).map (c :: ·) else none
  | _, c :: rest => (ungroup? c.isDigit rest).map (c :: ·)

/-- What reading an integer from free text can end in, apart from success. -/
inductive ReadError where
  /-- The text is no integer numeral. -/
  | malformed
  | refused (fault : Fault)
  deriving DecidableEq, Repr

/-- May a character stand in a sequence of grouped digits? -/
def isGroupedDigit (c : Char) : Bool := c.isDigit || c = '_'

/-- Reads an integer from free text: padding around it, a sign, digits of any
script, single underscores between digits.  The limit is checked before what
follows the digits. -/
def readInt (text : List Char) : Except ReadError Int :=
  let (negative, body) := splitSign (unpad (text.map basicDigit))
  match ungroup? false (body.takeWhile isGroupedDigit) with
  | some (d :: digits) =>
    match toNat (d :: digits) with
    | .ok n =>
      if (body.dropWhile isGroupedDigit).isEmpty then .ok (signed negative n)
      else .error .malformed
    | .error fault => .error (.refused fault)
  | _ => .error .malformed

@[simp] theorem value_ofNat (n : Nat) : value (ofNat n) = n :=
  Nat.ofDigitChars_ten_toDigits

theorem ofNat_injective {m n : Nat} (h : ofNat m = ofNat n) : m = n := by
  rw [← value_ofNat m, h, value_ofNat]

theorem isDigit_of_mem_ofNat {c : Char} {n : Nat} (h : c ∈ ofNat n) : c.isDigit = true :=
  Nat.isDigit_of_mem_toDigits (by decide) (by decide) h

example : readInt " +1_0 ".toList = .ok 10 := rfl
example : readInt "007".toList = .ok 7 := rfl
example : readInt "1__0".toList = .error .malformed := rfl

end Numeral
end WebhookRelay
