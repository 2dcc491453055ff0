import WebhookRelay.Text.CharSet

/-! # Blank characters and trimming

The blank characters are the Unicode white space together with the four
separator controls U+001C to U+001F.  The zero-width characters U+200B and
U+FEFF are not blank.  Trimming removes blanks at both ends of a text and
nothing else.
-/

namespace WebhookRelay
namespace Text

/-- The blank characters. -/
def blanks : CharSet where
  ranges :=
    [(0x0009, 0x000D), (0x001C, 0x0020), (0x0085, 0x0085), (0x00A0, 0x00A0), (0x1680, 0x1680),
     (0x2000, 0x200A), (0x2028, 0x2029), (0x202F, 0x202F), (0x205F, 0x205F), (0x3000, 0x3000)]

def isBlank (c : Char) : Bool := blanks.contains c

/-- A text without its leading blanks. -/
def trimStart (s : List Char) : List Char := s.dropWhile isBlank

/-- A text without its trailing blanks. -/
def trimEnd (s : List Char) : List Char := (s.reverse.dropWhile isBlank).reverse

/-- A text without the blanks at either end. -/
def trim (s : List Char) : List Char := trimEnd (trimStart s)

/-- The blanks that may surround a numeral: all but the separator controls. -/
def isPadding (c : Char) : Bool := isBlank c && !(0x1C ≤ c.toNat && c.toNat ≤ 0x1F)

/-- A text without the padding at either end. -/
def unpad (s : List Char) : List Char :=
  ((s.dropWhile isPadding).reverse.dropWhile isPadding).reverse

theorem trimStart_cons_blank {c : Char} (h : isBlank c = true) (s : List Char) :
    trimStart (c :: s) = trimStart s := by
  simp [trimStart, h]

theorem trimStart_cons_solid {c : Char} (h : isBlank c = false) (s : List Char) :
    trimStart (c :: s) = c :: s := by
  simp [trimStart, h]

theorem trimEnd_concat_solid {c : Char} (h : isBlank c = false) (s : List Char) :
    trimEnd (s ++ [c]) = s ++ [c] := by
  simp [trimEnd, h]

example : unpad "\u3000 5\u001C ".toList = "5\u001C".toList := by decide
example : trim " a b\u3000".toList = "a b".toList := by decide

end Text
end WebhookRelay
