/-! # Sets of characters

A character set is written down as the list of its code point ranges, ends
included, in ascending order.  Membership is decided by looking at each range.
-/

namespace WebhookRelay

/-- A set of characters, given by ranges of code points with both ends included. -/
structure CharSet where
  /-- The ranges, each as its first and its last code point. -/
  ranges : List (Nat × Nat)

namespace CharSet

/-- A code point lies in the set when some range holds it. -/
def holds (s : CharSet) (code : Nat) : Bool :=
  s.ranges.any fun r => r.1 ≤ code && code ≤ r.2

/-- Membership of a character is membership of its code point. -/
def contains (s : CharSet) (c : Char) : Bool := s.holds c.toNat

theorem holds_iff (s : CharSet) (code : Nat) :
    s.holds code = true ↔ ∃ r ∈ s.ranges, r.1 ≤ code ∧ code ≤ r.2 := by
  simp [holds]

end CharSet
end WebhookRelay
