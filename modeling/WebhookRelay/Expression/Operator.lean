import WebhookRelay.Binary64.Text
import WebhookRelay.Value.Truth
import WebhookRelay.Path

/-! # Operators

The ten operators of conditions and what they yield.

* Strict equality compares values of one kind: integers and binary64 numbers
  exactly, texts by their points, containers by identity.
* Loose equality compares texts with texts and containers by identity; null
  equals only null; everything else is compared after conversion to binary64.
* Order compares two texts by the codes of their points; everything else is compared after
  conversion, and nothing is ordered against what is not a number.
* The logical operators yield one of their operands.
-/

namespace WebhookRelay

/-- An operator of a condition. -/
inductive Operator where
  | strictlyEqual
  | strictlyUnequal
  | equal
  | unequal
  | atLeast
  | atMost
  | greater
  | less
  | both
  | either
  deriving DecidableEq, Repr

namespace Operator

/-- The operators in the order in which their tokens are looked for: no token
occurs inside a later one. -/
def all : List Operator :=
  [strictlyEqual, strictlyUnequal, equal, unequal, atLeast, atMost, greater, less, both, either]

/-- How an operator is written. -/
def token : Operator → String
  | strictlyEqual => "==="
  | strictlyUnequal => "!=="
  | equal => "=="
  | unequal => "!="
  | atLeast => ">="
  | atMost => "<="
  | greater => ">"
  | less => "<"
  | both => "&&"
  | either => "||"

end Operator

namespace Value

/-- The number that a text counts as.  Blanks around it do not matter and a blank
text counts as zero; what is left must consist of basic characters. -/
def textNumber (s : String) : Binary64 :=
  let body := Text.trim s.toList
  if body.isEmpty then .zero false
  else if body.all (·.toNat < 128) then (Binary64.ofText? body).getD .nan
  else .nan

/-- The number that a value counts as in comparisons. -/
def toNumber : Value → Except Fault Binary64
  | bool b => .ok (.ofInt (if b then 1 else 0))
  | int n => Binary64.ofInt? n
  | float x => .ok x
  | text s => .ok (textNumber s)
  | null | garbled _ | list _ | object _ => .ok .nan

end Value

namespace Located

/-- Are two values of the same kind equal?  A container is equal only to itself. -/
def strictlyEquals (a b : Located) : Bool :=
  match a.value, b.value with
  | .null, .null => true
  | .bool x, .bool y => x = y
  | .int m, .int n => m = n
  | .int n, .float x => x.toInt? = some n
  | .float x, .int n => x.toInt? = some n
  | .float x, .float y => x.eq y
  | .text s, .text t => s = t
  | .garbled s, .garbled t => s = t
  | v, w => v.isContainer && w.isContainer && a.place = b.place

/-- Are two values equal, after conversion to binary64 if need be? -/
def looselyEquals (a b : Located) : Except Fault Bool :=
  match a.value, b.value with
  | .null, .null => .ok true
  | .null, _ => .ok false
  | _, .null => .ok false
  | .text s, .text t => .ok (s = t)
  | .garbled s, .garbled t => .ok (s = t)
  | .text _, .garbled _ => .ok false
  | .garbled _, .text _ => .ok false
  | v, w =>
    if v.isContainer || w.isContainer then
      .ok (v.isContainer && w.isContainer && a.place = b.place)
    else do
      let x ← v.toNumber
      let y ← w.toNumber
      .ok (x.eq y)

/-- Are two values in an order, given what it says of texts and of numbers? -/
def ordered (ofTexts : Wide → Wide → Bool) (ofNumbers : Binary64 → Binary64 → Bool)
    (a b : Located) : Except Fault Bool :=
  match a.value.wide?, b.value.wide? with
  | some s, some t => .ok (ofTexts s t)
  | _, _ => do
    let x ← a.value.toNumber
    let y ← b.value.toNumber
    .ok (ofNumbers x y)

end Located

namespace Operator

/-- What an operator yields for two operands. -/
def apply (op : Operator) (a b : Located) : Except Fault Value :=
  match op with
  | strictlyEqual => .ok (.bool (a.strictlyEquals b))
  | strictlyUnequal => .ok (.bool !(a.strictlyEquals b))
  | equal => (a.looselyEquals b).map .bool
  | unequal => (a.looselyEquals b).map fun r => .bool !r
  | atLeast => (Located.ordered (fun s t => t ≤ s) (fun x y => y.le x) a b).map .bool
  | atMost => (Located.ordered (fun s t => s ≤ t) (fun x y => x.le y) a b).map .bool
  | greater => (Located.ordered (fun s t => t < s) (fun x y => y.lt x) a b).map .bool
  | less => (Located.ordered (fun s t => s < t) (fun x y => x.lt y) a b).map .bool
  | both => a.value.truthy.map fun r => if r then b.value else a.value
  | either => a.value.truthy.map fun r => if r then a.value else b.value

end Operator
end WebhookRelay
