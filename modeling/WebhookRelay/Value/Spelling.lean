import WebhookRelay.Json.Writer
import WebhookRelay.Text.Spelling

/-! # Values spelled out as identifiers

A rule can be named by any value.  A text names the rule with that identifier, and
none if it is garbled; every other value names the one whose identifier is the value
spelled out: the words `None`, `True` and `False`, numbers by their own text, and containers with
a space after every comma and colon and the texts in them spelled out.
-/

namespace WebhookRelay
namespace Value

/-- Texts with a comma and a space between them. -/
def listing (texts : List (List Char)) : List Char := [',', ' '].intercalate texts

mutual
/-- A value spelled out. -/
def spell : Value → List Char
  | null => "None".toList
  | bool b => if b then "True".toList else "False".toList
  | int n => Numeral.ofInt n
  | float x => x.text
  | text s => Text.spell s.toList
  | garbled g => Text.spellPoints g.val
  | list items => '[' :: (listing (spellItems items) ++ [']'])
  | object entries => '{' :: (listing (spellEntries entries) ++ ['}'])

/-- The items of a list, each spelled out. -/
def spellItems : List Value → List (List Char)
  | [] => []
  | v :: rest => spell v :: spellItems rest

/-- The entries of an object, each spelled out. -/
def spellEntries : List (Wide × Value) → List (List Char)
  | [] => []
  | (key, v) :: rest =>
    (Text.spellPoints key.points ++ ':' :: ' ' :: spell v) :: spellEntries rest
end

/-- The identifier that a value names. -/
def identifier : Value → Wide
  | text s => s
  | garbled g => .garbled g
  | v => String.ofList (spell v)

end Value
end WebhookRelay
