/-! # Numeric faults

Three numeric conversions can be refused while a payload is read, compared or
rendered: reading an integer from more digits than the limit allows, writing one
that has more, and turning an integer into a binary64 number when it is beyond the
finite range.
-/

namespace WebhookRelay

/-- The most digits an integer may be read from or written with. -/
def digitLimit : Nat := 4300

/-- Why a numeric conversion was refused. -/
inductive Fault where
  /-- An integer was to be read from this many digits, more than the limit. -/
  | tooManyDigits (digits : Nat)
  /-- An integer was to be written that has more digits than the limit. -/
  | integerTooLong
  /-- An integer is beyond the range of binary64. -/
  | integerTooLarge
  deriving DecidableEq, Repr

namespace Fault

/-- The wording of a fault. -/
def message : Fault → String
  | tooManyDigits digits =>
    "Exceeds the limit (" ++ toString digitLimit
      ++ " digits) for integer string conversion: value has " ++ toString digits
      ++ " digits; use sys.set_int_max_str_digits() to increase the limit"
  | integerTooLong =>
    "Exceeds the limit (" ++ toString digitLimit
      ++ " digits) for integer string conversion; "
      ++ "use sys.set_int_max_str_digits() to increase the limit"
  | integerTooLarge => "int too large to convert to float"

end Fault
end WebhookRelay
