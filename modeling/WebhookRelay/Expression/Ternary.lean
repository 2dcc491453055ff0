import WebhookRelay.Text.Blank
import WebhookRelay.Text.Quotes

/-! # The conditional form of an expression

A conditional expression has the form `condition ? whenTrue : whenFalse`.  The
question mark is the first one outside of quotes, the colon the first one outside
of quotes after it, and no part is blank.  Nothing nests: further question marks
and colons belong to the last part.
-/

namespace WebhookRelay

/-- The three parts of a conditional expression, without the blanks around them. -/
structure Ternary where
  condition : List Char
  whenTrue : List Char
  whenFalse : List Char
  deriving DecidableEq, Repr

namespace Ternary
open Text

/-- Reads a conditional expression; any other text gives nothing. -/
def ofText? (s : List Char) : Option Ternary := do
  let (condition, branches) ← cutUnquoted? '?' none s
  let (whenTrue, whenFalse) ← cutUnquoted? ':' none branches
  let parts : Ternary := ⟨trim condition, trim whenTrue, trim whenFalse⟩
  if parts.condition.isEmpty || parts.whenTrue.isEmpty || parts.whenFalse.isEmpty then none
  else some parts

example : ofText? " a > 'x?' ? b : c : d".toList
    = some ⟨"a > 'x?'".toList, "b".toList, "c : d".toList⟩ := by decide

end Ternary
end WebhookRelay
