/-! # Quoted stretches of a text

Single and double quotes delimit stretches in which no other character has a
meaning; a stretch ends at the quote that opened it, and there is no escape.  A
text is **closed** if it ends outside of such a stretch.
-/

namespace WebhookRelay
namespace Text

def isQuote (c : Char) : Bool := c = '\'' || c = '"'

/-- The quote that is open after a character, given the one that is open before it. -/
def quoteAfter (opened : Option Char) (c : Char) : Option Char :=
  match opened with
  | some q => if c = q then none else some q
  | none => if isQuote c then some c else none

/-- The quote that is open at the end of a text, given the one that is open at its
start. -/
def quoteAtEnd (opened : Option Char) (s : List Char) : Option Char :=
  s.foldl quoteAfter opened

/-- A text that ends outside of quotes. -/
def Closed (s : List Char) : Prop := quoteAtEnd none s = none

instance (s : List Char) : Decidable (Closed s) := inferInstanceAs (Decidable (_ = _))

/-- The texts before and after the first occurrence of a character outside of
quotes, given the quote that is open at the start.  A quote itself is never found. -/
def cutUnquoted? (target : Char) : Option Char → List Char → Option (List Char × List Char)
  | _, [] => none
  | opened, c :: rest =>
    if opened.isNone && !isQuote c && c = target then some ([], rest)
    else (cutUnquoted? target (quoteAfter opened c) rest).map
      fun (before, after) => (c :: before, after)

/-- The position of the first occurrence of a character outside of quotes, from a
start on; what stands before the start opens no quote. -/
def findUnquoted? (s : List Char) (target : Char) (start : Nat) : Option Nat :=
  (cutUnquoted? target none (s.drop start)).map fun (before, _) => start + before.length

/-- The content of a text that is one quoted stretch. -/
def unquote? : List Char → Option (List Char)
  | [] => none
  | q :: rest =>
    if isQuote q && rest.dropWhile (· ≠ q) = [q] then some (rest.takeWhile (· ≠ q)) else none

/-- A cut loses nothing but the character. -/
theorem append_of_cutUnquoted? {target : Char} {opened : Option Char} {s before after : List Char}
    (h : cutUnquoted? target opened s = some (before, after)) :
    s = before ++ target :: after := by
  induction s generalizing opened before after with
  | nil => simp [cutUnquoted?] at h
  | cons c rest ih =>
    rw [cutUnquoted?] at h
    split at h
    · next hc =>
      obtain ⟨rfl, rfl⟩ := by simpa using h
      simp_all
    · obtain ⟨p, hp, hq⟩ := Option.map_eq_some_iff.mp h
      obtain ⟨rfl, rfl⟩ := by simpa using hq
      simp [ih hp]

/-- A text with its quote at both ends is one quoted stretch. -/
theorem unquote?_quoted {q : Char} (hq : isQuote q = true) {content : List Char}
    (h : q ∉ content) : unquote? (q :: (content ++ [q])) = some content := by
  have hall : ∀ c ∈ content, (decide (c ≠ q)) = true := by
    intro c hc
    exact decide_eq_true fun e => h (e ▸ hc)
  simp only [unquote?, hq, List.dropWhile_append_of_pos hall, List.takeWhile_append_of_pos hall]
  simp

end Text
end WebhookRelay
