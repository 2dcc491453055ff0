import WebhookRelay.Expression.Ternary
import WebhookRelay.Proofs.Text.Scanning

/-! # The grammar of conditional expressions

A text has the form of a conditional expression if it can be divided into three parts, with a
question mark between the first two and a colon between the last two, such that the first
part is closed and holds no question mark outside of quotes, and the second part is closed
and holds no colon outside of quotes (`Ternary.Divides`).  About the third part nothing is
said.

A text can be divided in one way at most (`Ternary.Divides.unique`), and it is read as a
conditional expression if and only if it can be divided and no part is blank; what is read
are the three parts without the blanks around them (`Ternary.ofText?_grammar`).

The search for the colon starts afresh behind the question mark, as if no quote were open.
It is no different from going on with the search through the whole text, because what stands
before the start is closed (`Text.findUnquoted?_eq_findThrough?`).
-/

namespace WebhookRelay
namespace Text

/-! ## Outside of quotes -/

/-- Does the text hold the character outside of quotes, that is behind a part at whose end no
quote is open?  The quote that is open at the start of the text is given. -/
def Exposes (target : Char) (opened : Option Char) (s : List Char) : Prop :=
  ∃ before after, s = before ++ target :: after ∧ quoteAtEnd opened before = none

variable {target : Char} {opened : Option Char} {s before after : List Char}

theorem not_exposes_nil : ¬ Exposes target opened [] := by
  rintro ⟨before, after, h, -⟩
  cases before <;> cases h

/-- A character stands outside of quotes in front of the rest or in the rest. -/
theorem exposes_cons_iff {c : Char} {rest : List Char} :
    Exposes target opened (c :: rest) ↔
      (opened = none ∧ c = target) ∨ Exposes target (quoteAfter opened c) rest := by
  constructor
  · rintro ⟨before, after, h, hend⟩
    cases before with
    | nil =>
      obtain ⟨rfl, -⟩ := List.cons.inj h
      exact Or.inl ⟨hend, rfl⟩
    | cons d before =>
      obtain ⟨rfl, rfl⟩ := List.cons.inj h
      exact Or.inr ⟨before, after, rfl, hend⟩
  · rintro (⟨rfl, rfl⟩ | ⟨before, after, rfl, hend⟩)
    · exact ⟨[], rest, rfl, rfl⟩
    · exact ⟨c :: before, after, rfl, hend⟩

/-- Where a scan stops: outside of quotes, at the character that it looks for. -/
theorem stops_iff (htarget : isQuote target = false) {c : Char} :
    (opened.isNone && !isQuote c && c = target) = true ↔ opened = none ∧ c = target := by
  rw [Bool.and_eq_true, Bool.and_eq_true, decide_eq_true_eq, Option.isNone_iff_eq_none]
  constructor
  · rintro ⟨⟨hopened, -⟩, hc⟩
    exact ⟨hopened, hc⟩
  · rintro ⟨hopened, rfl⟩
    exact ⟨⟨hopened, by rw [htarget]; rfl⟩, rfl⟩

/-- A cut fails if the text does not hold the character outside of quotes, and only then. -/
theorem cutUnquoted?_eq_none_iff (htarget : isQuote target = false) :
    cutUnquoted? target opened s = none ↔ ¬ Exposes target opened s := by
  induction s generalizing opened with
  | nil => exact iff_of_true rfl not_exposes_nil
  | cons c rest ih =>
    rw [cutUnquoted?, exposes_cons_iff]
    by_cases hstop : opened = none ∧ c = target
    · rw [if_pos ((stops_iff htarget).mpr hstop)]
      exact iff_of_false (Option.some_ne_none _) (not_not_intro (Or.inl hstop))
    · rw [if_neg (mt (stops_iff htarget).mp hstop), Option.map_eq_none_iff, ih, not_or]
      exact (and_iff_right hstop).symm

/-- What a cut leaves in front ends outside of quotes and is passed over itself. -/
theorem before_of_cutUnquoted? (h : cutUnquoted? target opened s = some (before, after)) :
    quoteAtEnd opened before = none ∧ cutUnquoted? target opened before = none := by
  induction s generalizing opened before with
  | nil => cases h
  | cons c rest ih =>
    rw [cutUnquoted?] at h
    split at h
    · rename_i hstop
      obtain ⟨rfl, rfl⟩ := Prod.mk.inj (Option.some.inj h)
      rw [Bool.and_eq_true, Bool.and_eq_true, Option.isNone_iff_eq_none] at hstop
      exact ⟨hstop.1.1, rfl⟩
    · rename_i hstop
      obtain ⟨⟨front, back⟩, hcut, hparts⟩ := Option.map_eq_some_iff.mp h
      obtain ⟨rfl, rfl⟩ := Prod.mk.inj hparts
      obtain ⟨hend, hfree⟩ := ih hcut
      refine ⟨hend, ?_⟩
      rw [cutUnquoted?, if_neg hstop, hfree, Option.map_none]

/-- **Where a text is cut**: at the character, behind a part that ends outside of quotes and
does not hold the character outside of quotes. -/
theorem cutUnquoted?_eq_some_iff (htarget : isQuote target = false) :
    cutUnquoted? target opened s = some (before, after) ↔
      s = before ++ target :: after ∧ quoteAtEnd opened before = none ∧
        ¬ Exposes target opened before := by
  constructor
  · intro h
    obtain ⟨hend, hfree⟩ := before_of_cutUnquoted? h
    exact ⟨append_of_cutUnquoted? h, hend, (cutUnquoted?_eq_none_iff htarget).mp hfree⟩
  · rintro ⟨rfl, hend, hfree⟩
    have hstop := (stops_iff htarget).mpr (⟨hend, rfl⟩ : quoteAtEnd opened before = none ∧ _)
    rw [cutUnquoted?_append ((cutUnquoted?_eq_none_iff htarget).mpr hfree), cutUnquoted?,
      if_pos hstop, Option.map_some]
    simp only [List.append_nil]

/-! ## Positions -/

/-- Does the character stand at the position, outside of quotes? -/
def exposedAt (s : List Char) (target : Char) (i : Nat) : Bool :=
  s[i]? = some target && decide (Closed (s.take i))

/-- The first position from a start on at which a character stands outside of quotes, where
the text is read from its beginning whatever the start is. -/
def findThrough? (s : List Char) (target : Char) (start : Nat) : Option Nat :=
  (List.range s.length).find? fun i => start ≤ i && exposedAt s target i

theorem exposedAt_iff {i : Nat} :
    exposedAt s target i = true ↔ s[i]? = some target ∧ Closed (s.take i) := by
  rw [exposedAt, Bool.and_eq_true, decide_eq_true_eq, decide_eq_true_eq]

theorem exposes_of_exposedAt {i : Nat} (h : exposedAt s target i = true) :
    Exposes target none s := by
  obtain ⟨hchar, hclosed⟩ := exposedAt_iff.mp h
  obtain ⟨hlt, hchar⟩ := List.getElem?_eq_some_iff.mp hchar
  refine ⟨s.take i, s.drop (i + 1), ?_, hclosed⟩
  rw [← hchar, ← List.drop_eq_getElem_cons hlt, List.take_append_drop]

/-- Behind a closed part, positions are what they are in the rest alone. -/
theorem exposedAt_add {start : Nat} (hstart : Closed (s.take start)) (i : Nat) :
    exposedAt s target (start + i) = exposedAt (s.drop start) target i := by
  have hclosed : Closed (s.take (start + i)) ↔ Closed ((s.drop start).take i) := by
    rw [Closed, List.take_add, quoteAtEnd_append, hstart, Closed]
  rw [Bool.eq_iff_iff, exposedAt_iff, exposedAt_iff, hclosed, List.getElem?_drop]

/-- **A scan may start afresh** behind a closed part: it finds what a scan of the whole text
finds from there on. -/
theorem findUnquoted?_eq_findThrough? (htarget : isQuote target = false) {start : Nat}
    (hstart : Closed (s.take start)) :
    findUnquoted? s target start = findThrough? s target start := by
  have hshift : ∀ i, start ≤ i →
      exposedAt s target i = exposedAt (s.drop start) target (i - start) := by
    intro i hi
    rw [← exposedAt_add hstart, Nat.add_sub_cancel' hi]
  rw [findUnquoted?]
  cases hcut : cutUnquoted? target none (s.drop start) with
  | none =>
    have hfree := (cutUnquoted?_eq_none_iff htarget).mp hcut
    symm
    refine List.find?_eq_none.mpr fun i _ hfound => ?_
    rw [Bool.and_eq_true, decide_eq_true_eq] at hfound
    obtain ⟨hi, hexposed⟩ := hfound
    rw [hshift i hi] at hexposed
    exact hfree (exposes_of_exposedAt hexposed)
  | some parts =>
    obtain ⟨before, after⟩ := parts
    obtain ⟨hrest, hend, hfree⟩ := (cutUnquoted?_eq_some_iff htarget).mp hcut
    have hlength : s.length - start = before.length + (after.length + 1) := by
      rw [← List.length_drop, hrest, List.length_append, List.length_cons]
    rw [Option.map_some]
    symm
    refine List.find?_range_eq_some.mpr ⟨?_, ?_, fun i hi => ?_⟩
    · have hexposed : exposedAt (s.drop start) target before.length = true := by
        rw [exposedAt_iff, hrest, List.take_left]
        exact ⟨by simp, hend⟩
      rw [Bool.and_eq_true, decide_eq_true_eq, exposedAt_add hstart]
      exact ⟨Nat.le_add_right start before.length, hexposed⟩
    · change start + before.length ∈ List.range s.length
      rw [List.mem_range]
      omega
    · -- an earlier position would lie in the part in front
      change i < start + before.length at hi
      rw [Bool.not_eq_true', ← Bool.not_eq_true, Bool.and_eq_true, decide_eq_true_eq]
      rintro ⟨hle, hexposed⟩
      rw [hshift i hle, exposedAt_iff, hrest] at hexposed
      have hlt : i - start < before.length := by omega
      rw [List.getElem?_append_left hlt, List.take_append_of_le_length (Nat.le_of_lt hlt)]
        at hexposed
      exact hfree (exposes_of_exposedAt (exposedAt_iff.mpr hexposed))

end Text

namespace Ternary
open Text

/-! ## Dividing a text -/

/-- The text can be divided into these parts, blanks and all. -/
structure Divides (raw : Ternary) (s : List Char) : Prop where
  text : s = raw.condition ++ '?' :: (raw.whenTrue ++ ':' :: raw.whenFalse)
  condition_closed : Closed raw.condition
  condition_free : ¬ Exposes '?' none raw.condition
  whenTrue_closed : Closed raw.whenTrue
  whenTrue_free : ¬ Exposes ':' none raw.whenTrue

/-- The parts without the blanks around them. -/
def trimmed (raw : Ternary) : Ternary :=
  ⟨trim raw.condition, trim raw.whenTrue, trim raw.whenFalse⟩

/-- Is no part empty? -/
structure Complete (parts : Ternary) : Prop where
  condition : parts.condition ≠ []
  whenTrue : parts.whenTrue ≠ []
  whenFalse : parts.whenFalse ≠ []

variable {raw other : Ternary} {s : List Char}

namespace Divides

theorem cut_condition (h : raw.Divides s) :
    cutUnquoted? '?' none s = some (raw.condition, raw.whenTrue ++ ':' :: raw.whenFalse) :=
  (cutUnquoted?_eq_some_iff (by decide)).mpr ⟨h.text, h.condition_closed, h.condition_free⟩

theorem cut_whenTrue (h : raw.Divides s) :
    cutUnquoted? ':' none (raw.whenTrue ++ ':' :: raw.whenFalse) =
      some (raw.whenTrue, raw.whenFalse) :=
  (cutUnquoted?_eq_some_iff (by decide)).mpr ⟨rfl, h.whenTrue_closed, h.whenTrue_free⟩

/-- **A text is divided in one way at most.** -/
theorem unique (h : raw.Divides s) (h' : other.Divides s) : raw = other := by
  have hfirst := Option.some.inj (h.cut_condition.symm.trans h'.cut_condition)
  obtain ⟨hcondition, hbranches⟩ := Prod.mk.inj hfirst
  have hcut := h.cut_whenTrue
  rw [hbranches, h'.cut_whenTrue] at hcut
  obtain ⟨htrue, hfalse⟩ := Prod.mk.inj (Option.some.inj hcut)
  obtain ⟨condition, whenTrue, whenFalse⟩ := raw
  obtain ⟨_, _, _⟩ := other
  rw [mk.injEq]
  exact ⟨hcondition, htrue.symm, hfalse.symm⟩

end Divides

/-- What is read of a text that can be divided. -/
theorem ofText?_of_divides (h : raw.Divides s) :
    ofText? s = if raw.trimmed.condition.isEmpty || raw.trimmed.whenTrue.isEmpty
      || raw.trimmed.whenFalse.isEmpty then none else some raw.trimmed := by
  simp only [ofText?, h.cut_condition, Option.bind_eq_bind, Option.bind_some, h.cut_whenTrue]
  rfl

/-- Only a text that can be divided is read. -/
theorem exists_divides (h : ofText? s ≠ none) : ∃ raw : Ternary, raw.Divides s := by
  rw [ofText?] at h
  cases hcondition : cutUnquoted? '?' none s with
  | none => exact absurd (by rw [hcondition]; rfl) h
  | some first =>
    obtain ⟨condition, branches⟩ := first
    rw [hcondition] at h
    cases htrue : cutUnquoted? ':' none branches with
    | none => exact absurd (by simp [htrue]) h
    | some second =>
      obtain ⟨whenTrue, whenFalse⟩ := second
      obtain ⟨rfl, hclosed, hfree⟩ := (cutUnquoted?_eq_some_iff (by decide)).mp hcondition
      obtain ⟨rfl, hclosed', hfree'⟩ := (cutUnquoted?_eq_some_iff (by decide)).mp htrue
      exact ⟨⟨condition, whenTrue, whenFalse⟩, rfl, hclosed, hfree, hclosed', hfree'⟩

theorem complete_trimmed_iff : raw.trimmed.Complete ↔
    (raw.trimmed.condition.isEmpty || raw.trimmed.whenTrue.isEmpty
      || raw.trimmed.whenFalse.isEmpty) = false := by
  simp only [Bool.or_eq_false_iff, List.isEmpty_eq_false_iff, and_assoc]
  exact ⟨fun h => ⟨h.condition, h.whenTrue, h.whenFalse⟩, fun ⟨h, h', h''⟩ => ⟨h, h', h''⟩⟩

/-- The three parts are read off the one way to divide the text, if none of them is blank. -/
theorem ofText?_eq_some_iff {parts : Ternary} :
    ofText? s = some parts ↔ ∃ raw : Ternary, raw.Divides s ∧ raw.trimmed = parts ∧
      parts.Complete := by
  constructor
  · intro h
    obtain ⟨raw, hraw⟩ := exists_divides (s := s) (by rw [h]; exact Option.some_ne_none parts)
    rw [ofText?_of_divides hraw] at h
    split at h
    · cases h
    · rename_i hcomplete
      obtain rfl := Option.some.inj h
      exact ⟨raw, hraw, rfl, complete_trimmed_iff.mpr (Bool.eq_false_iff.mpr hcomplete)⟩
  · rintro ⟨raw, hraw, rfl, hcomplete⟩
    rw [ofText?_of_divides hraw, complete_trimmed_iff.mp hcomplete]
    rfl

/-- The two delimiters are where the scans find them, the second one started behind the
question mark. -/
theorem Divides.positions (h : raw.Divides s) :
    findUnquoted? s '?' 0 = some raw.condition.length ∧
      findUnquoted? s ':' (raw.condition.length + 1) =
        some (raw.condition.length + 1 + raw.whenTrue.length) := by
  have hdrop : s.drop (raw.condition.length + 1) = raw.whenTrue ++ ':' :: raw.whenFalse := by
    rw [h.text, ← List.drop_drop, List.drop_left]
    rfl
  refine ⟨?_, ?_⟩
  · rw [findUnquoted?, List.drop_zero, h.cut_condition, Option.map_some]
    simp only [Nat.zero_add]
  · rw [findUnquoted?, hdrop, h.cut_whenTrue]
    rfl

/-- Up to and including a question mark outside of quotes a text is closed. -/
theorem closed_take_succ {q : Nat} (h : findUnquoted? s '?' 0 = some q) :
    Closed (s.take (q + 1)) := by
  obtain ⟨⟨before, after⟩, hcut, hlength⟩ := Option.map_eq_some_iff.mp h
  obtain ⟨hs, hclosed, -⟩ := (cutUnquoted?_eq_some_iff (by decide)).mp hcut
  obtain rfl : before.length = q := by simpa using hlength
  rw [List.drop_zero] at hs
  rw [hs, List.take_length_add_append, Closed, quoteAtEnd_append, hclosed]
  rfl

/-- **The grammar of conditional expressions.**  A text is read as one if and only if it can
be divided into parts that are not blank; it can be divided in one way at most; any other text
is read as nothing.  The delimiters found are those of the division, and the search for the
colon, which starts afresh behind the question mark, finds what a search through the whole
text finds from there on. -/
theorem ofText?_grammar (s : List Char) :
    (∀ parts : Ternary, ofText? s = some parts ↔
      ∃ raw : Ternary, raw.Divides s ∧ raw.trimmed = parts ∧ parts.Complete) ∧
    (∀ raw other : Ternary, raw.Divides s → other.Divides s → raw = other) ∧
    ((¬ ∃ raw : Ternary, raw.Divides s ∧ raw.trimmed.Complete) → ofText? s = none) ∧
    (∀ raw : Ternary, raw.Divides s →
      findUnquoted? s '?' 0 = some raw.condition.length ∧
      findUnquoted? s ':' (raw.condition.length + 1) =
        some (raw.condition.length + 1 + raw.whenTrue.length)) ∧
    (∀ q, findUnquoted? s '?' 0 = some q →
      findUnquoted? s ':' (q + 1) = findThrough? s ':' (q + 1)) := by
  refine ⟨fun parts => ofText?_eq_some_iff, fun raw other => Divides.unique, fun hnone => ?_,
    fun raw => Divides.positions, fun q hq => ?_⟩
  · cases hread : ofText? s with
    | none => rfl
    | some parts =>
      obtain ⟨raw, hraw, rfl, hcomplete⟩ := ofText?_eq_some_iff.mp hread
      exact absurd ⟨raw, hraw, hcomplete⟩ hnone
  · exact findUnquoted?_eq_findThrough? (by decide) (closed_take_succ hq)

/-- An apostrophe hides all that follows, and so there is nothing to divide. -/
example : ofText? "a == it's ? b : c".toList = none := by decide

end Ternary
end WebhookRelay
