import WebhookRelay.Text.Direction
import WebhookRelay.Text.Joining
import WebhookRelay.Text.NameLetter
import WebhookRelay.Text.NormalForm
import WebhookRelay.Text.Spelling

/-! # Labels of host names

An internationalised name is a sequence of labels.  A label is in normal form, does
not start with a mark, has no hyphen at its ends nor two at the third and fourth
place, and consists of characters that may stand where they do.  If it has letters
that are written to the left, it is written to the left as a whole.
-/

namespace WebhookRelay

/-- What is wrong with the name of a host.  Positions count from one. -/
inductive NameFault where
  | nameTooLong
  | labelTooLong
  | emptyLabel
  | notNormal
  | reservedHyphens
  | outerHyphen
  | initialMark
  /-- No name may contain this character of a label. -/
  | character (c : Char) (position : Nat) (label : List Char)
  /-- This sign in a label needs other neighbours. -/
  | sign (c : Char) (position : Nat) (label : List Char)
  /-- This joiner in a label needs other neighbours. -/
  | joiner (c : Char) (position : Nat) (label : List Char)
  | unknownDirection (position : Nat) (label : List Char)
  | firstDirection (label : List Char)
  /-- In a label written to the left a character is not. -/
  | notRightToLeft (position : Nat)
  /-- In a label written to the right a character is not. -/
  | notLeftToRight (position : Nat)
  | mixedNumbers
  | lastDirection
  /-- Nothing stands behind the mark of an encoded label. -/
  | nothingEncoded
  | encodedHyphen
  | undecodable
  deriving DecidableEq, Repr

namespace NameFault
open Text

/-- The number of a character, in four or more hexadecimal digits. -/
def number (c : Char) : String :=
  "U+" ++ String.ofList ((hexDigits 4 c.toNat).map Char.toUpper)

/-- The wording of a fault. -/
def message : NameFault → String
  | nameTooLong => "Domain too long"
  | labelTooLong => "Label too long"
  | emptyLabel => "Empty Label"
  | notNormal => "Label must be in Normalization Form C"
  | reservedHyphens => "Label has disallowed hyphens in 3rd and 4th position"
  | outerHyphen => "Label must not start or end with a hyphen"
  | initialMark => "Label begins with an illegal combining character"
  | character c position label =>
    "Codepoint " ++ number c ++ " at position " ++ toString position ++ " of "
      ++ String.ofList (spell label) ++ " not allowed"
  | sign c position label =>
    "Codepoint " ++ number c ++ " not allowed at position " ++ toString position ++ " in "
      ++ String.ofList (spell label)
  | joiner c position label =>
    "Unknown codepoint adjacent to joiner " ++ number c ++ " at position " ++ toString position
      ++ " in " ++ String.ofList (spell label)
  | unknownDirection position label =>
    "Unknown directionality in label " ++ String.ofList (spell label) ++ " at position "
      ++ toString position
  | firstDirection label =>
    "First codepoint in label " ++ String.ofList (spell label)
      ++ " must be directionality L, R or AL"
  | notRightToLeft position =>
    "Invalid direction for codepoint at position " ++ toString position
      ++ " in a right-to-left label"
  | notLeftToRight position =>
    "Invalid direction for codepoint at position " ++ toString position
      ++ " in a left-to-right label"
  | mixedNumbers => "Can not mix numeral types in a right-to-left label"
  | lastDirection => "Label ends with illegal codepoint directionality"
  | nothingEncoded => "Malformed A-label, no Punycode eligible content found"
  | encodedHyphen => "A-label must not end with a hyphen"
  | undecodable => "Invalid A-label"

end NameFault

namespace Host
open Text

/-! ## Characters and their neighbours -/

/-- A digit that Arabic is written with. -/
def isArabicDigit (c : Char) : Bool := '\u0660' ≤ c && c ≤ '\u0669'

/-- A digit that Persian and Urdu are written with. -/
def isPersianDigit (c : Char) : Bool := '\u06F0' ≤ c && c ≤ '\u06F9'

def isJoiner (c : Char) : Bool := c = '\u200C' || c = '\u200D'

/-- The signs that may stand between the right neighbours only: the middle dots of
Catalan and Japanese, the marks of numerals, and the two kinds of digits that may not
meet. -/
def isSign (c : Char) : Bool :=
  ['\u00B7', '\u0375', '\u05F3', '\u05F4', '\u30FB'].contains c || isArabicDigit c
    || isPersianDigit c

/-- What is wrong with a character that may not stand where it does. -/
def characterFault (c : Char) : (position : Nat) → (label : List Char) → NameFault :=
  if isJoiner c then .joiner c else if isSign c then .sign c else .character c

/-- Do two letters around a place join, apart from the marks between them? -/
def joinAcross (earlier later : List Char) : Bool :=
  (earlier.find? (!isTransparent ·)).any joinsForward
    && (later.find? (!isTransparent ·)).any joinsBackward

/-- The class of the sign that takes the vowel from the consonant before it. -/
def viramaClass : Nat := 9

/-- May a character stand in a label before `later` and after `earlier`, which is
given in reverse? -/
def mayStand (earlier : List Char) (c : Char) (later : List Char) : Bool :=
  isNameLetter c ||
    match c with
    | '\u00B7' => earlier.head? = some 'l' && later.head? = some 'l'
    | '\u0375' => later.head?.any greek.contains
    | '\u05F3' | '\u05F4' => earlier.head?.any hebrew.contains
    | '\u30FB' => (earlier ++ later).any fun d => d ≠ '\u30FB' && japanese.contains d
    | '\u200C' => followsVirama || joinAcross earlier later
    | '\u200D' => followsVirama
    | _ =>
      (isArabicDigit c && !(earlier ++ later).any isPersianDigit)
        || (isPersianDigit c && !(earlier ++ later).any isArabicDigit)
where
  followsVirama : Bool := earlier.head?.any fun d => markClass d.toNat = viramaClass

/-- Checks the characters of a label from a place on, after `earlier` in reverse. -/
def checkCharacters (label earlier : List Char) : List Char → Except NameFault Unit
  | [] => .ok ()
  | c :: rest =>
    if mayStand earlier c rest then checkCharacters label (c :: earlier) rest
    else .error (characterFault c (earlier.length + 1) label)

/-! ## Directions -/

/-- A character that is written to the left. -/
def isLeftward (d : Direction) : Bool :=
  d = .rightToLeft || d = .arabic || d = .arabicNumber

/-- Checks a label written to the left from a position on, if numbers of the given
kind stand before it. -/
def checkLeftward (position : Nat) (numbers : Option Direction) :
    List Direction → Except NameFault Unit
  | [] => .ok ()
  | d :: rest =>
    if d = .leftToRight then .error (.notRightToLeft position)
    else if d = .arabicNumber || d = .europeanNumber then
      if numbers.all (· = d) then checkLeftward (position + 1) (some d) rest
      else .error .mixedNumbers
    else checkLeftward (position + 1) numbers rest

/-- May a label written to the left end so, apart from marks? -/
def mayEnd (d : Direction) : Bool := isLeftward d || d = .europeanNumber

/-- Checks the directions of the characters of a label. -/
def checkDirections (label : List Char) : Except NameFault Unit :=
  let directions := label.map direction
  match directions.findIdx? (· = .unknown), directions.findIdx? isLeftward with
  | some i, _ => .error (.unknownDirection (i + 1) label)
  | none, none => .ok ()
  | none, some i =>
    match directions.head? with
    | some .rightToLeft | some .arabic => do
      checkLeftward 1 none directions
      if (directions.reverse.find? (· ≠ .mark)).all mayEnd then .ok () else .error .lastDirection
    | some .leftToRight => .error (.notLeftToRight (i + 1))
    | _ => .error (.firstDirection label)

/-! ## Labels -/

/-- Checks a label. -/
def checkLabel (label : List Char) : Except NameFault Unit := do
  if label.isEmpty then .error .emptyLabel
  if !isNormal label then .error .notNormal
  if (label.drop 2).take 2 = ['-', '-'] then .error .reservedHyphens
  if label.head? = some '-' || label.getLast? = some '-' then .error .outerHyphen
  if label.head?.any isMark then .error .initialMark
  checkCharacters label [] label
  checkDirections label

end Host
end WebhookRelay
