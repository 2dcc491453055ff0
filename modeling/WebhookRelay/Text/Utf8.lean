/-! # UTF-8

Encoding is that of the core library.  Decoding is lenient: where no character
can be read, the longest start of one is dropped, or a single byte if there is
none, and U+FFFD takes its place.

Decoding is a machine that takes one byte at a time and remembers the character
that is begun.
-/

namespace WebhookRelay
namespace Utf8

/-- The bytes of a text. -/
def encode (s : List Char) : List UInt8 := s.flatMap String.utf8EncodeChar

/-- The character in place of what cannot be decoded. -/
def replacement : Char := '\uFFFD'

/-- A character that is begun. -/
structure Begun where
  /-- The code point as far as it is known. -/
  code : Nat
  /-- The number of bytes that are still to come. -/
  missing : Nat
  /-- The least next byte. -/
  least : UInt8
  /-- The greatest next byte. -/
  greatest : UInt8
  deriving DecidableEq, Repr

/-- What the first byte of a character gives: output, or a character that is begun.
The bounds on the second byte leave out overlong forms, surrogates and what is
beyond the last code point. -/
def first (b : UInt8) : List Char × Option Begun :=
  if b < 0x80 then ([Char.ofNat b.toNat], none)
  else if b < 0xC2 then ([replacement], none)
  else if b < 0xE0 then ([], some ⟨b.toNat % 32, 1, 0x80, 0xBF⟩)
  else if b < 0xF0 then
    ([], some ⟨b.toNat % 16, 2, if b = 0xE0 then 0xA0 else 0x80, if b = 0xED then 0x9F else 0xBF⟩)
  else if b < 0xF5 then
    ([], some ⟨b.toNat % 8, 3, if b = 0xF0 then 0x90 else 0x80, if b = 0xF4 then 0x8F else 0xBF⟩)
  else ([replacement], none)

/-- What a byte gives: output, and the character that is begun after it.  A byte
that does not continue the begun character starts anew. -/
def next (begun : Option Begun) (b : UInt8) : List Char × Option Begun :=
  match begun with
  | none => first b
  | some p =>
    if p.least ≤ b && b ≤ p.greatest then
      let code := p.code * 64 + b.toNat % 64
      if p.missing = 1 then ([Char.ofNat code], none)
      else ([], some ⟨code, p.missing - 1, 0x80, 0xBF⟩)
    else
      let (output, begun) := first b
      (replacement :: output, begun)

/-- The text of the bytes that follow a begun character. -/
def decodeFrom (begun : Option Begun) : List UInt8 → List Char
  | [] => if begun.isSome then [replacement] else []
  | b :: rest =>
    let (output, begun) := next begun b
    output ++ decodeFrom begun rest

/-- The text of a sequence of bytes. -/
def decode (bytes : List UInt8) : List Char := decodeFrom none bytes

example : decode (encode "aé€😀".toList) = "aé€😀".toList := by decide
example : decode [0xE2, 0x82, 0x41, 0xC0] = "\uFFFDA\uFFFD".toList := by decide

end Utf8
end WebhookRelay
