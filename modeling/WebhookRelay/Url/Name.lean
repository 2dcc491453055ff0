import WebhookRelay.Text.LowerCase
import WebhookRelay.Text.Punycode
import WebhookRelay.Url.Escape
import WebhookRelay.Url.Label

/-! # Names of hosts

A name of ASCII characters is put into lower case, and what is unusual in it is
percent encoded.  Every other name is put into lower case and encoded label by
label: labels that are not ASCII are written in Punycode behind a mark.  Reading
encoded labels gives the labels that they stand for.
-/

namespace WebhookRelay
namespace Host
open Text

def isAscii (s : List Char) : Bool := s.all (·.toNat < 0x80)

/-! ## Labels -/

/-- What labels in Punycode start with. -/
def punycodeMark : List Char := ['x', 'n', '-', '-']

/-- The label that a label of ASCII characters stands for. -/
def decodeLabel (label : List Char) : Except NameFault (List Char) :=
  let label := label.map Char.toLower
  if punycodeMark.isPrefixOf label then do
    let content := label.drop punycodeMark.length
    if content.isEmpty then .error .nothingEncoded
    if content.getLast? = some '-' then .error .encodedHyphen
    match Punycode.decode? content with
    | none => .error .undecodable
    | some decoded =>
      checkLabel decoded
      return decoded
  else do
    checkLabel label
    return label

/-- A label in ASCII, of up to 63 characters. -/
def encodeLabel (label : List Char) : Except NameFault (List Char) := do
  let encoded ←
    if isAscii label then (decodeLabel label).map fun _ => label
    else (checkLabel label).map fun _ => punycodeMark ++ Punycode.encode label
  if encoded.length ≤ 63 then .ok encoded else .error .labelTooLong

/-! ## Names -/

/-- Full stops of any script separate labels. -/
def isLabelEnd (c : Char) : Bool :=
  c = '.' || c = '\u3002' || c = '\uFF0E' || c = '\uFF61'

/-- The most characters of a name with a full stop at its end. -/
def nameLimit : Nat := 254

/-- Changes a name label by label.  A full stop at its end stays. -/
def mapLabels (f : List Char → Except NameFault (List Char)) (name : List Char) :
    Except NameFault (List Char) := do
  if nameLimit < name.length then .error .nameTooLong
  let labels := name.splitOnP isLabelEnd
  let isRooted := labels.getLast? = some []
  let mapped ← (if isRooted then labels.dropLast else labels).mapM f
  return ['.'].intercalate (if isRooted then mapped ++ [[]] else mapped)

/-- A name in ASCII. -/
def encodeName (name : List Char) : Except NameFault (List Char) := do
  let encoded ← mapLabels encodeLabel name
  let limit := if encoded.getLast? = some '.' then nameLimit else nameLimit - 1
  if encoded.length ≤ limit then .ok encoded else .error .nameTooLong

/-- The name that an encoded one stands for.  Names whose first label is not encoded
stand for themselves. -/
def decodeName (name : List Char) : Except NameFault (List Char) :=
  if punycodeMark.isPrefixOf name then mapLabels decodeLabel name else .ok name

/-- The canonical form of a name. -/
def ofName (name : List Char) : Except NameFault (List Char) :=
  if isAscii name then .ok (Url.escape Url.isNameChar (name.map Char.toLower))
  else encodeName (lower name)

example : (ofName "Ü.de".toList).toOption = some "xn--tda.de".toList := by decide +kernel
example : (decodeName "xn--tda.de".toList).toOption = some "ü.de".toList := by decide +kernel
example : (ofName "☃.de".toList).toOption = none := by decide +kernel
example : (ofName "a_b.de".toList).toOption = some "a_b.de".toList := by decide +kernel
example : (ofName "a_b.é".toList).toOption = none := by decide +kernel

end Host
end WebhookRelay
