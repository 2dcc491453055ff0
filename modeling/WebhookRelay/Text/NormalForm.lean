import WebhookRelay.Text.Composition

/-! # Normal form

Every text has a normal form, in which all that can be composed is composed and the
marks of a character are in the order of their classes.  To normalise a text, every
character is split as far as possible, the marks are put in order, and then each
character is composed with the marks behind it.
-/

namespace WebhookRelay
namespace Text

/-- The parts of a code point.  No character is composed of more than a few parts, and
the fuel is more than enough for them. -/
def parts : (fuel : Nat) → Nat → List Nat
  | 0, code => [code]
  | fuel + 1, code =>
    match split? code with
    | some (a, b) => parts fuel a ++ [b]
    | none => [code]

/-- Puts a code point in front of ordered ones, behind those of smaller classes. -/
def insertMark (code : Nat) : List Nat → List Nat
  | [] => [code]
  | d :: rest =>
    if 0 < markClass d && markClass d < markClass code then d :: insertMark code rest
    else code :: d :: rest

/-- Puts marks in the order of their classes. -/
def orderMarks (codes : List Nat) : List Nat := codes.foldr insertMark []

/-- Composes a code point with those behind it.  The ones passed, in reverse, could not
be composed, and only one of a greater class reaches over them. -/
def composeFrom (start : Nat) (passed : List Nat) : List Nat → List Nat
  | [] => start :: passed.reverse
  | c :: rest =>
    let isReached := passed.head?.all (markClass · < markClass c)
    match if isReached then compose? start c else none with
    | some composed => composeFrom composed passed rest
    | none =>
      if markClass c = 0 then start :: (passed.reverse ++ composeFrom c [] rest)
      else composeFrom start (c :: passed) rest

/-- Composes all that can be composed; marks at the start stay as they are. -/
def composeAll : List Nat → List Nat
  | [] => []
  | c :: rest => if markClass c = 0 then composeFrom c [] rest else c :: composeAll rest

/-- Is a text in normal form? -/
def isNormal (s : List Char) : Bool :=
  let codes := s.map Char.toNat
  s.all (!replacedCharacters.contains ·)
    && composeAll (orderMarks (codes.flatMap (parts 8))) = codes

example : isNormal "é".toList = true := by decide +kernel
example : isNormal ['e', '\u0301'] = false := by decide +kernel
example : isNormal ['\u212B'] = false := by decide +kernel

end Text
end WebhookRelay
