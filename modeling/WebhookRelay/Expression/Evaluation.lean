import WebhookRelay.Expression.Operand
import WebhookRelay.Expression.Operator
import WebhookRelay.Expression.Ternary

/-! # Evaluating expressions

A condition is split at the first operator of the table whose token occurs in
it, wherever that is, at the first occurrence; a condition without any token is
false.  A branch is a quoted text or a path.  An expression that is not
conditional is a path.

Evaluation always has a value: what is missing, and every fault on the way, is
the empty text.
-/

namespace WebhookRelay

/-- A condition split at its operator. -/
structure Condition where
  operator : Operator
  left : List Char
  right : List Char
  deriving DecidableEq, Repr

namespace Condition

/-- Splits a condition; without an operator there is nothing to split. -/
def ofText? (s : List Char) : Option Condition :=
  Operator.all.findSome? fun op =>
    (Text.cut? op.token.toList s).map fun (left, right) => ⟨op, left, right⟩

/-- Does a condition hold over a payload?  The left operand is read first. -/
def holds (c : Condition) (data : Value) : Except Fault Bool := do
  let left ← (← Operand.ofText c.left).locate data
  let right ← (← Operand.ofText c.right).locate data
  (← c.operator.apply left right).truthy

end Condition

namespace Expression
open Text

/-- Does the text of a condition hold over a payload? -/
def holds (condition : List Char) (data : Value) : Except Fault Bool :=
  match Condition.ofText? condition with
  | some c => c.holds data
  | none => .ok false

/-- What a path leads to, the empty text if that is nothing or null. -/
def pathValue (path : List Char) (data : Value) : Except Fault Value :=
  (Path.resolve data (trim path)).map fun v =>
    match v with
    | .null => .text ""
    | v => v

/-- The value of a branch. -/
def branchValue (branch : List Char) (data : Value) : Except Fault Value :=
  match unquote? branch with
  | some content => .ok (.text (String.ofList content))
  | none => pathValue branch data

/-- The value of an expression, or the fault that it runs into. -/
def attempt (expression : List Char) (data : Value) : Except Fault Value :=
  match Ternary.ofText? expression with
  | none => pathValue expression data
  | some parts => do
    let chosen ← holds parts.condition data
    branchValue (if chosen then parts.whenTrue else parts.whenFalse) data

/-- The value of an expression; a fault is the empty text. -/
def evaluate (expression : List Char) (data : Value) : Value :=
  match attempt expression data with
  | .ok v => v
  | .error _ => .text ""

/-- `evaluate` for an expression that comes as a value: only a text can be one. -/
def evaluateValue : Value → Value → Value
  | .text expression, data => evaluate expression.toList data
  | _, _ => .text ""

end Expression
end WebhookRelay
