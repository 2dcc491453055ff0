import WebhookRelay.Proofs.Json.Numbers

/-! # The shape of written JSON

Written JSON has no white space between its tokens and no control characters at all
(`compact_write`).  To say so, a text is cut into what stands outside of its quotes and what
stands inside (`between`), by the one rule that every reader of JSON follows: a quote opens a
text, the next one closes it unless it is escaped.

Texts that are closed in this sense can be put together (`Compact.append`), so the shape of a
value is that of its parts.  Inside of quotes the escapes matter: none of them ends the text
(`hidden_escape`).
-/

namespace WebhookRelay
namespace Json

/-! ## Outside of quotes -/

/-- Where a point of a JSON text stands: outside of quotes, inside of them, or inside
and behind a backslash. -/
inductive Region where
  | outside
  | inside
  | escaped
  deriving DecidableEq, Repr

/-- The region behind a point. -/
def Region.next : Region → Point → Region
  | outside, p => if p = .char '"' then inside else outside
  | inside, p => if p = .char '"' then outside else if p = .char '\\' then escaped else inside
  | escaped, _ => inside

/-- The points outside of quotes, with the opening quotes. -/
def between : Region → List Point → List Point
  | _, [] => []
  | .outside, c :: rest => c :: between (Region.outside.next c) rest
  | region, c :: rest => between (region.next c) rest

theorem between_append (region : Region) (s t : List Point) :
    between region (s ++ t) = between region s ++ between (s.foldl Region.next region) t := by
  induction s generalizing region with
  | nil => simp [between]
  | cons c s ih =>
    cases region with
    | outside =>
      rw [List.cons_append, between, between, ih]
      rfl
    | _ =>
      rw [List.cons_append, between, between, ih]
      · rfl
      · simp
      · simp

/-- Is a point one of the visible characters of ASCII? -/
def isVisible (p : Point) : Bool := 0x20 < p.code && p.code < 0x7F

/-- A visible point is a character that is not blank. -/
theorem exists_of_isVisible {p : Point} (h : isVisible p = true) :
    ∃ c, p = .char c ∧ Text.isBlank c = false := by
  simp only [isVisible, Bool.and_eq_true, decide_eq_true_eq] at h
  cases p with
  | char c =>
    simp only [Point.code] at h
    refine ⟨c, rfl, ?_⟩
    simp [Text.isBlank, Text.blanks, CharSet.contains, CharSet.holds]
    omega
  | surrogate s =>
    have hrange := s.property
    simp only [Point.code] at h
    omega

/-- A text whose quotes are all closed, with visible characters outside of them and no control
characters anywhere. -/
structure Compact (s : List Point) : Prop where
  closed : s.foldl Region.next .outside = .outside
  visible : ∀ c ∈ between .outside s, isVisible c = true
  uncontrolled : ∀ c ∈ s, 0x20 ≤ c.code

namespace Compact

theorem append {s t : List Point} (hs : Compact s) (ht : Compact t) : Compact (s ++ t) := by
  refine ⟨?_, fun c hc => ?_, fun c hc => ?_⟩
  · rw [List.foldl_append, hs.closed, ht.closed]
  · rw [between_append, hs.closed] at hc
    exact (List.mem_append.mp hc).elim (hs.visible c) (ht.visible c)
  · exact (List.mem_append.mp hc).elim (hs.uncontrolled c) (ht.uncontrolled c)

/-- Visible characters without a quote. -/
theorem of_visible {s : List Point} (h : ∀ c ∈ s, isVisible c = true ∧ c ≠ .char '"') :
    Compact s := by
  induction s with
  | nil => exact ⟨rfl, fun c hc => absurd hc List.not_mem_nil, fun c hc =>
      absurd hc List.not_mem_nil⟩
  | cons c s ih =>
    obtain ⟨hvisible, hquote⟩ := h c List.mem_cons_self
    have hmore := ih fun d hd => h d (List.mem_cons_of_mem c hd)
    have hnext : Region.outside.next c = .outside := if_neg hquote
    refine ⟨?_, fun d hd => ?_, fun d hd => ?_⟩
    · rw [List.foldl_cons, hnext, hmore.closed]
    · rw [between, hnext] at hd
      rcases List.mem_cons.mp hd with rfl | hd
      · exact hvisible
      · exact hmore.visible d hd
    · rcases List.mem_cons.mp hd with rfl | hd
      · simp only [isVisible, Bool.and_eq_true, decide_eq_true_eq] at hvisible
        omega
      · exact hmore.uncontrolled d hd

/-- The same for a text that is known. -/
theorem of_all {s : List Point} (h : s.all (fun c => isVisible c && c != .char '"') = true) :
    Compact s :=
  of_visible fun c hc => by simpa using List.all_eq_true.mp h c hc

theorem cons {c : Point} {s : List Point} (hvisible : isVisible c = true) (hquote : c ≠ .char '"')
    (hs : Compact s) : Compact (c :: s) :=
  append (s := [c]) (of_visible fun d hd => by
    rw [List.mem_singleton.mp hd]
    exact ⟨hvisible, hquote⟩) hs

theorem commas {texts : List (List Point)} (h : ∀ s ∈ texts, Compact s) :
    Compact (Json.commas texts) := by
  induction texts with
  | nil => exact of_visible fun c hc => absurd hc List.not_mem_nil
  | cons first rest ih =>
    have hfirst := h first List.mem_cons_self
    have hrest := ih fun s hs => h s (List.mem_cons_of_mem first hs)
    cases rest with
    | nil =>
      rw [commas_singleton]
      exact hfirst
    | cons second rest =>
      rw [commas_cons_cons]
      exact hfirst.append (hrest.cons (by decide) (by decide))

end Compact

/-! ## Inside of quotes -/

/-- A text that stands inside of quotes as a whole: nothing in it closes them, and there are no
control characters. -/
structure Hidden (s : List Point) : Prop where
  inside : s.foldl Region.next .inside = .inside
  invisible : between .inside s = []
  uncontrolled : ∀ c ∈ s, 0x20 ≤ c.code

theorem Hidden.append {s t : List Point} (hs : Hidden s) (ht : Hidden t) : Hidden (s ++ t) := by
  refine ⟨?_, ?_, fun c hc => ?_⟩
  · rw [List.foldl_append, hs.inside, ht.inside]
  · rw [between_append, hs.inside, hs.invisible, ht.invisible, List.append_nil]
  · exact (List.mem_append.mp hc).elim (hs.uncontrolled c) (ht.uncontrolled c)

/-- The hexadecimal digits are characters of their own inside of quotes. -/
theorem next_hexDigit : ∀ n, n < 16 → Region.inside.next (.char (hexDigit n)) = .inside := by
  decide

theorem toNat_hexDigit : ∀ n, n < 16 → 0x20 ≤ (hexDigit n).toNat := by decide

theorem toNat_shortEscape {e c : Char} (h : shortEscape? (.char e) = some c) :
    0x20 ≤ e.toNat := by
  unfold shortEscape? at h
  split at h
  case h_9 => cases h
  all_goals
    rename_i heq
    rw [Point.char.inj heq]
    decide

/-- What stands for itself does so as a whole. -/
theorem hidden_singleton {p : Point} (hquote : p ≠ .char '"') (hslash : p ≠ .char '\\')
    (hcontrol : 0x20 ≤ p.code) : Hidden [p] := by
  have hnext : Region.inside.next p = .inside := by
    rw [Region.next, if_neg hquote, if_neg hslash]
  refine ⟨hnext, rfl, fun d hd => ?_⟩
  rw [List.mem_singleton.mp hd]
  exact hcontrol

/-- **No escape ends a text.** -/
theorem hidden_escapePoint (p : Point) : Hidden (escapePoint p) := by
  cases p with
  | surrogate s =>
    have hrange := s.property
    exact hidden_singleton (by simp) (by simp) (by simp only [Point.code]; omega)
  | char c =>
    rcases escape_cases c with ⟨e, -, hshort, h⟩ | ⟨hcontrol, h⟩ | ⟨hquote, hslash, hcontrol, h⟩
    · rw [escapePoint, h]
      refine ⟨rfl, rfl, fun d hd => ?_⟩
      simp only [List.map_cons, List.map_nil, List.mem_cons, List.not_mem_nil, or_false] at hd
      rcases hd with rfl | rfl
      · decide
      · exact toNat_shortEscape hshort
    · have hhigh := next_hexDigit (c.toNat / 16) (by omega)
      have hlow := next_hexDigit (c.toNat % 16) (by omega)
      have hzero : Region.inside.next (.char '0') = .inside := rfl
      have hslash : Region.inside.next (.char '\\') = .escaped := rfl
      have hmark : Region.escaped.next (.char 'u') = .inside := rfl
      rw [escapePoint, h]
      refine ⟨?_, ?_, fun d hd => ?_⟩
      · simp only [List.map_cons, List.map_nil, List.foldl_cons, List.foldl_nil, hslash, hmark,
          hzero, hhigh, hlow]
      · simp only [List.map_cons, List.map_nil, between, hslash, hmark, hzero, hhigh]
      · simp only [List.map_cons, List.map_nil, List.mem_cons, List.not_mem_nil, or_false] at hd
        rcases hd with rfl | rfl | rfl | rfl | rfl | rfl
        · decide
        · decide
        · decide
        · decide
        · exact toNat_hexDigit _ (by omega)
        · exact toNat_hexDigit _ (by omega)
    · rw [escapePoint, h]
      exact hidden_singleton (by simpa using hquote) (by simpa using hslash)
        (Nat.not_lt.mp hcontrol)

theorem hidden_flatMap_escapePoint (s : List Point) : Hidden (s.flatMap escapePoint) := by
  induction s with
  | nil => exact ⟨rfl, rfl, fun d hd => absurd hd List.not_mem_nil⟩
  | cons p s ih =>
    rw [List.flatMap_cons]
    exact (hidden_escapePoint p).append ih

/-- A quoted text is closed where it was meant to be. -/
theorem compact_quote (s : Wide) : Compact (quote s) := by
  have hhidden := hidden_flatMap_escapePoint s.points
  have hopen : Region.outside.next (.char '"') = .inside := rfl
  rw [quote]
  refine ⟨?_, fun c hc => ?_, fun c hc => ?_⟩
  · rw [List.foldl_cons, hopen, List.foldl_append, hhidden.inside]
    rfl
  · rw [between, hopen, between_append, hhidden.invisible, hhidden.inside] at hc
    rw [List.mem_singleton.mp hc]
    decide
  · rcases List.mem_cons.mp hc with rfl | hc
    · decide
    · rcases List.mem_append.mp hc with hc | hc
      · exact hhidden.uncontrolled c hc
      · rw [List.mem_singleton.mp hc]
        decide

/-! ## Numbers -/

section Numbers
open Decimal (isNumeralChar isNumeralChar_of_isDigit)

/-- The characters of numerals are visible, and none of them is a quote. -/
theorem isVisible_of_isNumeralChar {c : Char} (h : isNumeralChar c = true) :
    isVisible (.char c) = true ∧ c ≠ '"' := by
  rw [isNumeralChar, Bool.or_eq_true, List.contains_iff_mem] at h
  rcases h with hdigit | hmark
  · rw [Char.isDigit, Bool.and_eq_true, decide_eq_true_eq, decide_eq_true_eq] at hdigit
    have hfirst : 48 ≤ c.toNat := UInt32.le_iff_toNat_le.mp hdigit.1
    have hlast : c.toNat ≤ 57 := UInt32.le_iff_toNat_le.mp hdigit.2
    refine ⟨?_, ?_⟩
    · rw [isVisible, Point.code, Bool.and_eq_true, decide_eq_true_eq, decide_eq_true_eq]
      omega
    · rintro rfl
      exact absurd hfirst (by decide)
  · have hmarks : ['.', 'e', 'E', '+', '-'].all
        (fun c => isVisible (.char c) && c != '"') = true := by decide
    simpa using List.all_eq_true.mp hmarks c hmark

theorem compact_of_isNumeralChar {s : List Char} (h : ∀ c ∈ s, isNumeralChar c = true) :
    Compact (s.map .char) := by
  refine .of_visible fun p hp => ?_
  obtain ⟨c, hc, rfl⟩ := List.mem_map.mp hp
  obtain ⟨hvisible, hquote⟩ := isVisible_of_isNumeralChar (h c hc)
  exact ⟨hvisible, by simpa using hquote⟩

theorem compact_int (n : Int) : Compact ((Numeral.ofInt n).map .char) := by
  have hdigits := compact_of_isNumeralChar fun c (hc : c ∈ Numeral.ofNat n.natAbs) =>
    isNumeralChar_of_isDigit (Numeral.isDigit_of_mem_ofNat hc)
  unfold Numeral.ofInt
  split
  · exact hdigits.cons (by decide) (by decide)
  · exact hdigits

theorem compact_number (x : Binary64) : Compact ((number x).map .char) := by
  cases x with
  | nan => exact .of_all (by decide)
  | infinity negative => cases negative <;> exact .of_all (by decide)
  | finite negative rank =>
    have hmagnitude := compact_of_isNumeralChar (isNumeralChar_of_mem_magnitudeText rank)
    cases negative with
    | false => exact hmagnitude
    | true => exact hmagnitude.cons (by decide) (by decide)

end Numbers

/-! ## Values -/

mutual
/-- **Written JSON is compact.** -/
theorem compact_write : ∀ v : Value, Compact (write v)
  | .null => by
    rw [write]
    exact .of_all (by decide)
  | .bool b => by
    rw [write]
    cases b <;> exact .of_all (by decide)
  | .int n => by
    rw [write]
    exact compact_int n
  | .float x => by
    rw [write]
    exact compact_number x
  | .text s => by
    rw [write]
    exact compact_quote s
  | .garbled g => by
    rw [write]
    exact compact_quote (.garbled g)
  | .list items => by
    have hitems := Compact.commas (compact_writeItems items)
    have hclose : Compact [.char ']'] := .of_all (by decide)
    rw [write]
    exact (hitems.append hclose).cons (by decide) (by decide)
  | .object entries => by
    have hentries := Compact.commas (compact_writeEntries entries)
    have hclose : Compact [.char '}'] := .of_all (by decide)
    rw [write]
    exact (hentries.append hclose).cons (by decide) (by decide)

/-- The items of a list are compact. -/
theorem compact_writeItems : ∀ items : List Value, ∀ s ∈ writeItems items, Compact s
  | [], s, hs => by
    rw [writeItems] at hs
    exact absurd hs List.not_mem_nil
  | v :: rest, s, hs => by
    rw [writeItems] at hs
    rcases List.mem_cons.mp hs with rfl | hs
    · exact compact_write v
    · exact compact_writeItems rest s hs

/-- The entries of an object are compact. -/
theorem compact_writeEntries :
    ∀ entries : List (Wide × Value), ∀ s ∈ writeEntries entries, Compact s
  | [], s, hs => by
    rw [writeEntries] at hs
    exact absurd hs List.not_mem_nil
  | (key, v) :: rest, s, hs => by
    rw [writeEntries] at hs
    rcases List.mem_cons.mp hs with rfl | hs
    · exact (compact_quote key).append ((compact_write v).cons (by decide) (by decide))
    · exact compact_writeEntries rest s hs
end

end Json
end WebhookRelay
