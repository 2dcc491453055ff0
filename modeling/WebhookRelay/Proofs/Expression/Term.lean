import WebhookRelay.Expression.Operand
import WebhookRelay.Proofs.Text.Scanning

/-! # Written operands

A `Term` is an operand as somebody writes it down: a path, a quoted text, a negative
number, or any other text that stands for itself.  Its value over a payload
(`Term.locate`) is said here without a look at how texts are read: a path has the value
that it leads to, and where that is missing or null it may stand for a number or a
truth value by the look of its segments (`standIn`).

Operands are only known as texts to the evaluator, which classifies them by their form.
The main statement of this module is that it finds the term again: reading the text of
a term, with any blanks around it, and looking its value up is looking up the value of
the term (`Term.read_around`).  The work is in the numbers, whose reader takes maximal
runs of digits (`magnitudeReading?`), and in the fact that the kinds of terms do not
overlap.
-/

namespace WebhookRelay
open Text

/-! ## Numbers -/

/-- One or more of the ten basic digits. -/
def IsDigits (s : List Char) : Prop := s ≠ [] ∧ ∀ c ∈ s, c.isDigit = true

instance (s : List Char) : Decidable (IsDigits s) := inferInstanceAs (Decidable (_ ∧ _))

theorem isDigits_ofNat (n : Nat) : IsDigits (Numeral.ofNat n) :=
  ⟨Nat.toDigits_ne_nil, fun _ hc => Numeral.isDigit_of_mem_ofNat hc⟩

/-- The value of a number with these digits before and, if it has a point, behind it. -/
def numberValue (negative : Bool) (whole : List Char) :
    (fraction : Option (List Char)) → Except Fault Value
  | none => (Numeral.toNat whole).map fun n => .int (Numeral.signed negative n)
  | some fraction =>
    .ok (.float (Decimal.toBinary64
      ⟨negative, Numeral.value (whole ++ fraction), -fraction.length⟩))

/-- How the digits of a number are written. -/
def numberText (whole : List Char) : (fraction : Option (List Char)) → List Char
  | none => whole
  | some fraction => whole ++ '.' :: fraction

/-- The digits of a number are in order. -/
def IsNumber (whole : List Char) (fraction : Option (List Char)) : Prop :=
  IsDigits whole ∧ ∀ f, fraction = some f → IsDigits f

/-! ## Terms -/

/-- An operand as it is written. -/
inductive Term where
  | path (s : List Char)
  | quoted (quote : Char) (content : List Char)
  | negative (whole : List Char) (fraction : Option (List Char))
  /-- A text that stands for itself. -/
  | bare (s : List Char)

namespace Term

/-- The text of a term. -/
def text : Term → List Char
  | path s => s
  | quoted q content => q :: (content ++ [q])
  | negative whole fraction => '-' :: numberText whole fraction
  | bare s => s

/-- Is the term what it is called?  A bare text holds neither quotes nor question marks
and is none of the others. -/
def WellFormed : Term → Prop
  | path s => Path.isPathText s = true
  | quoted q content => isQuote q = true ∧ q ∉ content
  | negative whole fraction => IsNumber whole fraction
  | bare s =>
    Solid s ∧ (∀ c ∈ s, isQuote c = false ∧ c ≠ '?') ∧ Path.isPathText s = false ∧
      ∀ whole fraction, IsNumber whole fraction → s ≠ (negative whole fraction).text

/-- What a path stands for where a payload has nothing under it: a number if its one or
two segments are runs of digits, a truth value if it is the word for it. -/
def standIn (path : List Char) : Except Fault Value :=
  match Path.segments path with
  | [whole] =>
    if IsDigits whole then numberValue false whole none
    else if whole = "true".toList then .ok (.bool true)
    else if whole = "false".toList then .ok (.bool false)
    else .ok .null
  | [whole, fraction] =>
    if IsDigits whole ∧ IsDigits fraction then numberValue false whole (some fraction)
    else .ok .null
  | _ => .ok .null

/-- The value of a term over a payload, with its place there.  The place of a value that
is no container does not matter. -/
def locate (data : Value) : Term → Except Fault Located
  | path s => do
    match ← Path.locate data s with
    | some ⟨place, .null⟩ => (standIn s).map fun v => ⟨place, v⟩
    | some found => .ok found
    | none => (standIn s).map fun v => ⟨[], v⟩
  | quoted _ content => .ok ⟨[], .text (String.ofList content)⟩
  | negative whole fraction => (numberValue true whole fraction).map fun v => ⟨[], v⟩
  | bare s => .ok ⟨[], .text (String.ofList s)⟩

end Term

/-! ## Characters -/

theorem isPathChar_of_isDigit {c : Char} (h : c.isDigit = true) : Path.isPathChar c = true := by
  simp [Path.isPathChar, Char.isAlphanum, h]

theorem toNat_of_isPathChar {c : Char} (h : Path.isPathChar c = true) :
    0x2E ≤ c.toNat ∧ c.toNat ≤ 0x7A := by
  have hchar : Path.isPathChar c =
      (decide (c.val ≥ 65 ∧ c.val ≤ 90) || (decide (c.val ≥ 97) && decide (c.val ≤ 122)) ||
        (decide (c.val ≥ 48) && decide (c.val ≤ 57)) || decide (c = '_') || decide (c = '.')) := rfl
  rw [hchar] at h
  simp only [Bool.or_eq_true, Bool.and_eq_true, decide_eq_true_eq, ge_iff_le,
    UInt32.le_iff_toNat_le, Char.toNat_val, UInt32.reduceToNat] at h
  rcases h with ((((h | h) | h) | rfl) | rfl)
  · omega
  · omega
  · omega
  · decide
  · decide

/-- The characters of paths lie between two ranges of blanks. -/
theorem isBlank_of_isPathChar {c : Char} (h : Path.isPathChar c = true) : isBlank c = false := by
  obtain ⟨hlo, hhi⟩ := toNat_of_isPathChar h
  simp [isBlank, blanks, CharSet.contains, CharSet.holds]
  omega

theorem isQuote_of_isPathChar {c : Char} (h : Path.isPathChar c = true) : isQuote c = false := by
  obtain ⟨hlo, hhi⟩ := toNat_of_isPathChar h
  refine Bool.eq_false_iff.mpr fun hquote => ?_
  simp only [isQuote, Bool.or_eq_true, decide_eq_true_eq] at hquote
  rcases hquote with rfl | rfl
  · exact absurd hlo (by decide)
  · exact absurd hlo (by decide)

theorem isBlank_of_isQuote {c : Char} (h : isQuote c = true) : isBlank c = false := by
  simp only [isQuote, Bool.or_eq_true, decide_eq_true_eq] at h
  rcases h with rfl | rfl
  · decide
  · decide

theorem isPathText_iff {s : List Char} :
    Path.isPathText s = true ↔ s ≠ [] ∧ ∀ c ∈ s, Path.isPathChar c = true := by
  simp [Path.isPathText]

/-- A text that does not start with a quote is not quoted. -/
theorem unquote?_eq_none {s : List Char} (h : ∀ c ∈ s, isQuote c = false) :
    unquote? s = none := by
  cases s with
  | nil => rfl
  | cons c rest => simp [unquote?, h c List.mem_cons_self]

/-! ## Reading numbers -/

namespace IsNumber

variable {whole : List Char} {fraction : Option (List Char)}

/-- The characters of a number are digits and at most one point. -/
theorem isPathText (h : IsNumber whole fraction) :
    Path.isPathText (numberText whole fraction) = true := by
  obtain ⟨⟨hne, hwhole⟩, hfraction⟩ := h
  have hpath : ∀ c ∈ whole, Path.isPathChar c = true := fun c hc =>
    isPathChar_of_isDigit (hwhole c hc)
  cases fraction with
  | none => exact isPathText_iff.mpr ⟨hne, hpath⟩
  | some f =>
    refine isPathText_iff.mpr ⟨by simp [numberText], fun c hc => ?_⟩
    rcases List.mem_append.mp hc with hc | hc
    · exact hpath c hc
    · rcases List.mem_cons.mp hc with rfl | hc
      · decide
      · exact isPathChar_of_isDigit ((hfraction f rfl).2 c hc)

end IsNumber

/-- What a number with these digits denotes as an operand. -/
def numberReading (negative : Bool) (whole : List Char) :
    (fraction : Option (List Char)) → Except Fault Reading
  | none => (Numeral.toNat whole).map fun n => .integer (Numeral.signed negative n)
  | some fraction =>
    .ok (.decimal (Decimal.toBinary64
      ⟨negative, Numeral.value (whole ++ fraction), -fraction.length⟩))

theorem takeWhile_isDigit {s : List Char} (h : ∀ c ∈ s, c.isDigit = true) (rest : List Char)
    (hrest : ∀ c, rest.head? = some c → c.isDigit = false) :
    (s ++ rest).takeWhile Char.isDigit = s ∧ (s ++ rest).dropWhile Char.isDigit = rest := by
  rw [List.takeWhile_append_of_pos h, List.dropWhile_append_of_pos h]
  cases rest with
  | nil => simp
  | cons c rest => simp [hrest c rfl]

/-- The reader of numbers finds the digits that were written. -/
theorem magnitudeReading?_numberText {whole : List Char} {fraction : Option (List Char)}
    (h : IsNumber whole fraction) (negative : Bool) :
    Operand.magnitudeReading? negative (numberText whole fraction) =
      (numberReading negative whole fraction).map some := by
  obtain ⟨⟨hne, hwhole⟩, hfraction⟩ := h
  cases fraction with
  | none =>
    obtain ⟨htake, hdrop⟩ := takeWhile_isDigit hwhole [] (by simp)
    rw [List.append_nil] at htake hdrop
    simp only [Operand.magnitudeReading?, numberText, htake, hdrop, numberReading]
    rw [if_neg (by simpa using hne)]
    cases Numeral.toNat whole <;> rfl
  | some f =>
    obtain ⟨hfne, hf⟩ := hfraction f rfl
    obtain ⟨htake, hdrop⟩ := takeWhile_isDigit hwhole ('.' :: f) (by simp)
    simp only [Operand.magnitudeReading?, numberText, htake, hdrop, numberReading]
    rw [if_neg (by simpa [hne, hfne] using hf)]
    rfl

/-- The reader of numbers finds nothing else. -/
theorem magnitudeReading?_eq_none {s : List Char}
    (h : ∀ whole fraction, IsNumber whole fraction → s ≠ numberText whole fraction)
    (negative : Bool) : Operand.magnitudeReading? negative s = .ok none := by
  -- the digits that are split off would make a number of the text
  have hsplit := List.takeWhile_append_dropWhile (p := Char.isDigit) (l := s)
  have hwhole := List.all_eq_true.mp (List.all_takeWhile (p := Char.isDigit) (l := s))
  rw [Operand.magnitudeReading?]
  split
  · rename_i hdrop
    rw [hdrop, List.append_nil] at hsplit
    split
    · rfl
    · rename_i hne
      exact absurd hsplit.symm (h _ none ⟨⟨by simpa using hne, hwhole⟩, by simp⟩)
  · rename_i fraction hdrop
    rw [hdrop] at hsplit
    split
    · rfl
    · rename_i hne
      simp only [Bool.or_eq_true, not_or, List.isEmpty_iff, Bool.not_eq_true', Bool.not_eq_false,
        List.all_eq_true] at hne
      obtain ⟨⟨hwne, hfne⟩, hfraction⟩ := hne
      refine absurd hsplit.symm (h _ (some fraction) ⟨⟨hwne, hwhole⟩, ?_⟩)
      rintro _ ⟨⟩
      exact ⟨hfne, hfraction⟩
  · rfl

theorem not_mem_point_of_isDigits {s : List Char} (h : IsDigits s) : '.' ∉ s := fun hmem =>
  absurd (h.2 '.' hmem) (by decide)

namespace Term

/-! ## Values of paths -/

theorem standIn_numberText {whole : List Char} {fraction : Option (List Char)}
    (h : IsNumber whole fraction) :
    standIn (numberText whole fraction) = numberValue false whole fraction := by
  have hpoint := not_mem_point_of_isDigits h.1
  cases fraction with
  | none => simp [standIn, numberText, Path.segments, splitOn_of_not_mem hpoint, h.1]
  | some f =>
    have hf := h.2 f rfl
    simp [standIn, numberText, Path.segments, splitOn_append hpoint,
      splitOn_of_not_mem (not_mem_point_of_isDigits hf), h.1, hf]

/-- A path that is no number can only be one of the two words. -/
theorem standIn_eq_word {s : List Char}
    (h : ∀ whole fraction, IsNumber whole fraction → s ≠ numberText whole fraction) :
    standIn s =
      .ok (if s = "true".toList then .bool true
        else if s = "false".toList then .bool false else .null) := by
  have hjoin : ['.'].intercalate (Path.segments s) = s := intercalate_splitOn '.' s
  -- a text of several segments has a point, which neither word has
  have hword : ∀ word : List Char, '.' ∉ word → Path.segments s ≠ [s] → s ≠ word := by
    rintro word hpoint hmany rfl
    exact hmany (splitOn_of_not_mem hpoint)
  rw [standIn]
  split
  · rename_i whole hparts
    have hs : whole = s := by simpa [hparts] using hjoin
    subst hs
    rw [if_neg fun hdigits => h whole none ⟨hdigits, by simp⟩ rfl]
    split
    · rfl
    · split <;> rfl
  · rename_i whole fraction hparts
    have hs : whole ++ '.' :: fraction = s := by simpa [hparts] using hjoin
    have hmany : Path.segments s ≠ [s] := by simp [hparts]
    rw [if_neg, if_neg (hword _ (by decide) hmany), if_neg (hword _ (by decide) hmany)]
    rintro ⟨hwhole, hfraction⟩
    refine h whole (some fraction) ⟨hwhole, ?_⟩ hs.symm
    rintro _ ⟨⟩
    exact hfraction
  · rename_i hone _
    have hmany : Path.segments s ≠ [s] := hone s
    rw [if_neg (hword _ (by decide) hmany), if_neg (hword _ (by decide) hmany)]

/-- What a text denotes that is not quoted. -/
theorem literalReading_of_unquoted {s : List Char} (h : ∀ c ∈ s, isQuote c = false) :
    Operand.literalReading s = (Operand.numberReading? s).map fun number =>
      number.getD (if s = "true".toList then .truth true
        else if s = "false".toList then .truth false else .bare) := by
  rw [Operand.literalReading, unquote?_eq_none h]
  refine congrArg (Except.map · _) (funext fun number => ?_)
  cases number <;> rfl

/-- A path stands for what its text denotes as a number or a truth value. -/
theorem fallback_eq_standIn {s : List Char} (h : Path.isPathText s = true) :
    Operand.fallback s = standIn s := by
  obtain ⟨hne, hpath⟩ := isPathText_iff.mp h
  -- no path starts with a sign
  have hnumber : Operand.numberReading? s = Operand.magnitudeReading? false s := by
    rw [Operand.numberReading?.eq_def]
    split
    · exact absurd (hpath '-' List.mem_cons_self) (by decide)
    · rfl
  rw [Operand.fallback,
    literalReading_of_unquoted fun c hc => isQuote_of_isPathChar (hpath c hc), hnumber]
  by_cases hform : ∃ whole fraction, IsNumber whole fraction ∧ s = numberText whole fraction
  · obtain ⟨whole, fraction, hok, rfl⟩ := hform
    rw [magnitudeReading?_numberText hok, standIn_numberText hok]
    cases fraction with
    | none =>
      rw [numberReading, numberValue]
      cases Numeral.toNat whole <;> rfl
    | some f => rfl
  · have hnone : ∀ whole fraction, IsNumber whole fraction → s ≠ numberText whole fraction :=
      fun whole fraction hok heq => hform ⟨whole, fraction, hok, heq⟩
    rw [magnitudeReading?_eq_none hnone, standIn_eq_word hnone]
    by_cases htrue : s = "true".toList
    · rw [if_pos htrue, Except.map, Option.getD_none, if_pos htrue]
      rfl
    · rw [if_neg htrue, Except.map, Option.getD_none, if_neg htrue]
      by_cases hfalse : s = "false".toList
      · rw [if_pos hfalse, if_pos hfalse]
        rfl
      · rw [if_neg hfalse, if_neg hfalse]
        rfl

/-! ## Reading terms -/

theorem solid {t : Term} (h : t.WellFormed) : Solid t.text := by
  cases t with
  | path s =>
    obtain ⟨hne, hpath⟩ := isPathText_iff.mp h
    exact Solid.of_forall hne fun c hc => isBlank_of_isPathChar (hpath c hc)
  | quoted q content =>
    have hblank := isBlank_of_isQuote h.1
    exact ⟨⟨q, content ++ [q], rfl, hblank⟩, ⟨q :: content, q, rfl, hblank⟩⟩
  | negative whole fraction =>
    obtain ⟨hne, hpath⟩ := isPathText_iff.mp (IsNumber.isPathText h)
    refine Solid.of_forall (List.cons_ne_nil _ _) fun c hc => ?_
    rcases List.mem_cons.mp hc with rfl | hc
    · decide
    · exact isBlank_of_isPathChar (hpath c hc)
  | bare s => exact h.1

/-- What the text of a term denotes. -/
def reading : Term → Except Fault Reading
  | path _ => .ok .path
  | quoted _ content => .ok (.quoted (String.ofList content))
  | negative whole fraction => numberReading true whole fraction
  | bare _ => .ok .bare

/-- Only paths have the form of a path. -/
theorem isPathText_text {t : Term} (h : t.WellFormed) (hpath : ∀ s, t ≠ path s) :
    Path.isPathText t.text = false := by
  cases t with
  | path s => exact absurd rfl (hpath s)
  | quoted q content =>
    have hq : Path.isPathChar q = false := Bool.eq_false_iff.mpr fun hchar =>
      Bool.false_ne_true ((isQuote_of_isPathChar hchar).symm.trans h.1)
    simp [Path.isPathText, text, hq]
  | negative whole fraction =>
    have hsign : Path.isPathChar '-' = false := by decide
    simp [Path.isPathText, text, hsign]
  | bare s => exact h.2.2.1

/-- The text of a term other than a path is read as what the term denotes. -/
theorem literalReading_text {t : Term} (h : t.WellFormed) (hpath : ∀ s, t ≠ path s) :
    Operand.literalReading t.text = t.reading := by
  cases t with
  | path s => exact absurd rfl (hpath s)
  | quoted q content =>
    rw [text, Operand.literalReading, unquote?_quoted h.1 h.2]
    rfl
  | negative whole fraction =>
    obtain ⟨hne, hchars⟩ := isPathText_iff.mp (IsNumber.isPathText h)
    have hplain : ∀ c ∈ (negative whole fraction).text, isQuote c = false := by
      intro c hc
      rcases List.mem_cons.mp hc with rfl | hc
      · decide
      · exact isQuote_of_isPathChar (hchars c hc)
    rw [literalReading_of_unquoted hplain, text, Operand.numberReading?,
      magnitudeReading?_numberText h, reading]
    cases numberReading true whole fraction <;> rfl
  | bare s =>
    obtain ⟨-, hplain, hform, hnot⟩ := h
    have hnumber : Operand.numberReading? s = .ok none := by
      rw [Operand.numberReading?.eq_def]
      split
      · rename_i rest
        refine magnitudeReading?_eq_none (fun whole fraction hok heq => ?_) true
        exact hnot whole fraction hok (congrArg ('-' :: ·) heq)
      · refine magnitudeReading?_eq_none (fun whole fraction hok heq => ?_) false
        rw [heq, hok.isPathText] at hform
        cases hform
    have hword : ∀ word : List Char, Path.isPathText word = true → s ≠ word := by
      rintro word hok rfl
      exact Bool.false_ne_true (hform.symm.trans hok)
    rw [text, literalReading_of_unquoted fun c hc => (hplain c hc).1, hnumber, Except.map,
      Option.getD_none, if_neg (hword _ (by decide)), if_neg (hword _ (by decide)), reading]

/-- The text of a term is classified as the term, whatever blanks surround it. -/
theorem ofText_around (p : Padding) {t : Term} (h : t.WellFormed) :
    Operand.ofText (p.around t.text) = t.reading.map fun r => ⟨String.ofList t.text, r⟩ := by
  simp only [Operand.ofText, p.trim_around (solid h)]
  by_cases hpath : ∃ s, t = path s
  · obtain ⟨s, rfl⟩ := hpath
    exact if_pos h
  · have hno : ∀ s, t ≠ path s := fun s heq => hpath ⟨s, heq⟩
    rw [if_neg (by simp [isPathText_text h hno]), literalReading_text h hno]

/-- **Reading a term and looking its value up is looking up the value of the term.** -/
theorem read_around (p : Padding) {t : Term} (h : t.WellFormed) (data : Value) :
    (do (← Operand.ofText (p.around t.text)).locate data) = t.locate data := by
  rw [ofText_around p h]
  cases t with
  | path s =>
    have hfallback := fallback_eq_standIn h
    change Operand.locate ⟨String.ofList s, .path⟩ data = locate data (path s)
    rewrite [Operand.locate, locate, String.toList_ofList, hfallback]
    rfl
  | quoted q content => rfl
  | negative whole fraction =>
    cases fraction with
    | none =>
      simp only [reading, locate, numberReading, numberValue]
      cases Numeral.toNat whole <;> rfl
    | some f => rfl
  | bare s => rfl

end Term
end WebhookRelay
