/-! # Letter case

A case map sends every character to the text that it becomes in one letter case.
Most letters become one other letter, and neighbours in the alphabet are mapped by
the same distance; the map is therefore written down as runs of code points.  Some
characters become several.  Characters that the map does not list stay.
-/

namespace WebhookRelay

/-- Code points from the first to the last in steps of one size, which all move by
the same distance. -/
structure CaseRun where
  first : Nat
  last : Nat
  step : Nat
  shift : Int

namespace CaseRun

/-- Does a run move a code point? -/
def holds (r : CaseRun) (code : Nat) : Bool :=
  r.first ≤ code && code ≤ r.last && (code - r.first) % r.step = 0

end CaseRun

/-- A map of characters to texts. -/
structure CaseMap where
  /-- The characters that become one other character. -/
  runs : List CaseRun
  /-- The characters that become several, with these. -/
  expansions : List (Nat × List Nat)

namespace CaseMap

/-- The text that a character becomes. -/
def image (m : CaseMap) (c : Char) : List Char :=
  match m.expansions.lookup c.toNat with
  | some codes => codes.map Char.ofNat
  | none =>
    match m.runs.find? (·.holds c.toNat) with
    | some r => [Char.ofNat (c.toNat + r.shift).toNat]
    | none => [c]

end CaseMap
end WebhookRelay
