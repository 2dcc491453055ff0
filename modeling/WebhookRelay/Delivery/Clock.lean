import WebhookRelay.Binary64.Rounding

/-! # Clocks

A delivery pauses for a number of seconds, and the system may refuse to.  What it
refuses is a matter of its clock.
-/

namespace WebhookRelay

/-- Why a system refuses to pause. -/
inductive PauseRefusal where
  | notNumber
  | negative
  | tooLong
  deriving DecidableEq, Repr

namespace PauseRefusal

/-- The wording of a refusal. -/
def message : PauseRefusal → String
  | notNumber => "Invalid value NaN (not a number)"
  | negative => "sleep length must be non-negative"
  | tooLong => "timestamp out of range for platform time_t"

end PauseRefusal

/-- A clock, given by what it refuses when it is asked to pause for some seconds. -/
abbrev Clock := Binary64 → Option PauseRefusal

namespace Clock
open Binary64

/-- A number of seconds in nanoseconds. -/
def nanoseconds : Binary64 → Binary64
  | .finite negative rank =>
    .ofRatio negative (units rank * 10 ^ (9 : Nat)) (2 ^ unitExponent)
  | x => x

/-- The least number that a word of 64 bits with a sign cannot hold. -/
def wordEnd : Nat := 2 ^ (63 : Nat)

/-- The clock of a system that counts nanoseconds in words of 64 bits, one of which is
the sign. -/
def standard : Clock := fun seconds =>
  let counted := nanoseconds seconds
  if counted.isNaN then some .notNumber
  else if !((Binary64.ofInt (-wordEnd)).le counted && counted.lt (.ofInt wordEnd)) then
    some .tooLong
  else if counted.lt (zero false) then some .negative
  else none

end Clock
end WebhookRelay
