import WebhookRelay.Text.Split

/-! # Punycode

A text is written with ASCII characters alone: first its ASCII characters, then,
behind a hyphen, numerals that tell where the other characters are to be inserted.
These are inserted in the order of their code points and, of one code point, in
the order of their places.  A numeral counts the insertions that are skipped; its
digits have a base of 36, and thresholds that adapt to the numerals before it tell
where it ends.  Reading takes letters of either case.
-/

namespace WebhookRelay
namespace Punycode

/-- A digit below 36: the letters come before the decimal digits. -/
def digit (n : Nat) : Char :=
  if n < 26 then Char.ofNat ('a'.toNat + n) else Char.ofNat ('0'.toNat + n - 26)

/-- The least digit at a position that does not end a numeral. -/
def threshold (bias position : Nat) : Nat := min (max (position - bias) 1) 26

/-- A numeral from a position on. -/
def numeral (bias position n : Nat) : List Char :=
  let t := threshold bias position
  if n < t then [digit n]
  else digit (t + (n - t) % (36 - t)) :: numeral bias (position + 36) ((n - t) / (36 - t))
termination_by n
decreasing_by
  have ht : 1 ≤ threshold bias position := by simp only [threshold]; omega
  have := Nat.div_le_self (n - threshold bias position) (36 - threshold bias position)
  omega

/-- Divides by 35 until the rest is small, and adds 36 for each division. -/
def settle (n bias : Nat) : Nat :=
  if 455 < n then settle (n / 35) (bias + 36) else bias + 36 * n / (n + 38)
termination_by n
decreasing_by omega

/-- The bias after a numeral, when `written` characters are written. -/
def adapt (isFirst : Bool) (n written : Nat) : Nat :=
  let scaled := if isFirst then n / 700 else n / 2
  settle (scaled + scaled / written) 0

/-- How far writing has come. -/
structure State where
  /-- The number of characters written. -/
  written : Nat
  /-- The number of insertions skipped since the last numeral. -/
  skipped : Nat
  bias : Nat

/-- Passes the places of a text for the characters with one code point: the numerals
that insert them. -/
def insertions (basic code : Nat) : List Char → State → List Char × State
  | [], st => ([], st)
  | c :: rest, st =>
    if c.toNat < code then insertions basic code rest { st with skipped := st.skipped + 1 }
    else if c.toNat = code then
      let bias := adapt (st.written = basic) st.skipped (st.written + 1)
      let (later, final) := insertions basic code rest ⟨st.written + 1, 0, bias⟩
      (numeral st.bias 36 st.skipped ++ later, final)
    else insertions basic code rest st

/-- The numerals for code points in ascending order, when all below `next` are
written. -/
def numerals (basic : Nat) (s : List Char) : (next : Nat) → List Nat → State → List Char
  | _, [], _ => []
  | next, code :: codes, st =>
    let skipped := st.skipped + (code - next) * (st.written + 1)
    let (inserted, st) := insertions basic code s { st with skipped }
    inserted ++ numerals basic s (code + 1) codes { st with skipped := st.skipped + 1 }

/-- A text in Punycode. -/
def encode (s : List Char) : List Char :=
  let basic := s.filter (·.toNat < 0x80)
  let codes := ((s.map Char.toNat).filter (0x80 ≤ ·)).mergeSort.eraseDups
  (if basic.isEmpty then [] else basic ++ ['-'])
    ++ numerals basic.length s 0x80 codes ⟨basic.length, 0, 72⟩

/-! ## Reading -/

/-- The value of a digit. -/
def digitValue? (c : Char) : Option Nat :=
  if c.isLower then some (c.toNat - 'a'.toNat)
  else if c.isUpper then some (c.toNat - 'A'.toNat)
  else if c.isDigit then some (c.toNat - '0'.toNat + 26)
  else none

/-- Reads a numeral from a position on, whose digits count `weight`. -/
def readNumeral? (bias : Nat) : (position weight : Nat) → List Char → Option (Nat × List Char)
  | _, _, [] => none
  | position, weight, c :: rest =>
    match digitValue? c with
    | none => none
    | some d =>
      let t := threshold bias position
      if d < t then some (d * weight, rest)
      else
        (readNumeral? bias (position + 36) (weight * (36 - t)) rest).map fun (n, rest) =>
          (d * weight + n, rest)

/-- A numeral has at least one digit. -/
theorem length_of_readNumeral? {bias position weight n : Nat} {s rest : List Char}
    (h : readNumeral? bias position weight s = some (n, rest)) : rest.length < s.length := by
  induction s generalizing position weight n with
  | nil => simp [readNumeral?] at h
  | cons c s ih =>
    rw [readNumeral?] at h
    split at h
    · simp at h
    · dsimp only at h
      split at h
      · obtain ⟨_, rfl⟩ := by simpa using h
        simp
      · obtain ⟨⟨m, t⟩, hp, hq⟩ := Option.map_eq_some_iff.mp h
        obtain ⟨_, rfl⟩ := by simpa using hq
        have := ih hp
        simp only [List.length_cons]
        omega

/-- Inserts characters into a text as numerals tell.  The next one is inserted at the
given place at the earliest, and has at least the given code point. -/
def insertAll? (text : List Char) (code place bias : Nat) (isFirst : Bool) :
    List Char → Option (List Char)
  | [] => some text
  | c :: rest =>
    match h : readNumeral? bias 36 1 (c :: rest) with
    | none => none
    | some (n, remaining) =>
      let places := text.length + 1
      let code := code + (place + n) / places
      let place := (place + n) % places
      if code.isValidChar then
        insertAll? (text.insertIdx place (Char.ofNat code)) code (place + 1)
          (adapt isFirst n places) false remaining
      else none
termination_by s => s.length
decreasing_by exact length_of_readNumeral? h

/-- The text that is written in Punycode. -/
def decode? (s : List Char) : Option (List Char) :=
  let (basic, numerals) := Text.cutLast '-' s
  insertAll? basic 0x80 0 72 true numerals

example : encode "bücher".toList = "bcher-kva".toList := by decide +kernel
example : decode? "bcher-kva".toList = some "bücher".toList := by decide +kernel

end Punycode
end WebhookRelay
