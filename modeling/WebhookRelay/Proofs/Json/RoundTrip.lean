import WebhookRelay.Json.Reader
import WebhookRelay.Json.Writer

/-! # Written JSON reads back

The reader is liberal and the writer is not, so there is one way round: what is written
compactly is read back as the same value, by a reader with any limits that the value
keeps to (`readWithin_write`).

Texts come first.  An escape reads back as the mark of its point whatever follows
(`readMarks_escapePoint_append`), and the marks of a written text join to its points: only
controls are written by their code, and they pair with nothing (`join_map_markOf`).  So a
quoted text ends where it was closed.  For values the statement is about a text with a rest
behind it, since a reader cannot know where a value ends before it has read it; the rest
only has to start with something that no value goes on with.  Fuel is measured against the
length of the text.  What a value has to keep to is collected in `Legible`: its containers
are not nested too deeply, no object repeats a key, its texts are admitted, and its numbers
read back by themselves.
-/

namespace WebhookRelay
namespace Json

/-! ## Texts -/

theorem hexValue?_hexDigit : ∀ n, n < 16 → hexValue? (.char (hexDigit n)) = some n := by decide

/-- The code of a control character is written with two digits. -/
theorem hexValue4?_control {n : Nat} (h : n < 0x20) :
    hexValue4? (.char '0') (.char '0') (.char (hexDigit (n / 16))) (.char (hexDigit (n % 16))) =
      some n := by
  have hhigh := hexValue?_hexDigit (n / 16) (by omega)
  have hlow := hexValue?_hexDigit (n % 16) (by omega)
  have hzero : hexValue? (.char '0') = some 0 := by decide
  simp only [hexValue4?, hzero, hhigh, hlow, Option.bind_eq_bind, Option.bind_some, pure]
  refine congrArg some ?_
  omega

/-- A character is written with a short escape, by its code, or as itself. -/
theorem escape_cases (c : Char) :
    (∃ e, e ≠ 'u' ∧ shortEscape? (.char e) = some c ∧ escape c = ['\\', e]) ∨
    (c.toNat < 0x20 ∧
      escape c = ['\\', 'u', '0', '0', hexDigit (c.toNat / 16), hexDigit (c.toNat % 16)]) ∨
    (c ≠ '"' ∧ c ≠ '\\' ∧ ¬ c.toNat < 0x20 ∧ escape c = [c]) := by
  by_cases hshort : c ∈ ['"', '\\', '\n', '\r', '\t', '\x08', '\x0c']
  · left
    simp only [List.mem_cons, List.not_mem_nil, or_false] at hshort
    rcases hshort with rfl | rfl | rfl | rfl | rfl | rfl | rfl
    · exact ⟨'"', by decide, rfl, rfl⟩
    · exact ⟨'\\', by decide, rfl, rfl⟩
    · exact ⟨'n', by decide, rfl, rfl⟩
    · exact ⟨'r', by decide, rfl, rfl⟩
    · exact ⟨'t', by decide, rfl, rfl⟩
    · exact ⟨'b', by decide, rfl, rfl⟩
    · exact ⟨'f', by decide, rfl, rfl⟩
  · right
    simp only [List.mem_cons, List.not_mem_nil, or_false, not_or] at hshort
    obtain ⟨hquote, hslash, hn, hr, ht, hb, hf⟩ := hshort
    by_cases hcontrol : c.toNat < 0x20
    · exact Or.inl ⟨hcontrol, by simp [escape, hquote, hslash, hn, hr, ht, hb, hf, hcontrol]⟩
    · exact Or.inr ⟨hquote, hslash, hcontrol,
        by simp [escape, hquote, hslash, hn, hr, ht, hb, hf, hcontrol]⟩

/-- The mark that a written point is read as: its code if it is written by that. -/
def markOf (p : Point) : Mark := if (escapePoint p).length = 6 then .coded p.code else .point p

theorem readMarks_shortEscape {e : Point} {c : Char} (hu : e ≠ .char 'u')
    (h : shortEscape? e = some c) (rest : List Point) :
    readMarks (.char '\\' :: e :: rest) = prepend (.point (.char c)) (readMarks rest) := by
  rw [readMarks]
  · rw [h]
  · rintro _ _ _ _ _ rfl
    exact absurd rfl hu

theorem readMarks_plain {p : Point} (hquote : p ≠ .char '"') (hslash : p ≠ .char '\\')
    (hcontrol : ¬ p.code < 0x20) (rest : List Point) :
    readMarks (p :: rest) = prepend (.point p) (readMarks rest) := by
  rw [readMarks]
  · exact if_neg hcontrol
  · exact hquote
  · rintro _ _ _ _ _ rfl
    exact absurd rfl hslash
  · rintro _ _ rfl
    exact absurd rfl hslash

/-- An escape reads back as the mark of its point. -/
theorem readMarks_escapePoint_append (p : Point) (rest : List Point) :
    readMarks (escapePoint p ++ rest) = prepend (markOf p) (readMarks rest) := by
  cases p with
  | char c =>
    rcases escape_cases c with ⟨e, hu, hshort, h⟩ | ⟨hcontrol, h⟩ | ⟨hquote, hslash, hcontrol, h⟩
    · have hmark : markOf (.char c) = .point (.char c) := by simp [markOf, escapePoint, h]
      rw [hmark, escapePoint, h]
      exact readMarks_shortEscape (by simpa using hu) hshort rest
    · have hmark : markOf (.char c) = .coded c.toNat := by simp [markOf, escapePoint, h, Point.code]
      rw [hmark, escapePoint, h]
      simp only [List.map_cons, List.map_nil, List.cons_append, List.nil_append]
      rw [readMarks, hexValue4?_control hcontrol]
    · have hmark : markOf (.char c) = .point (.char c) := by simp [markOf, escapePoint, h]
      rw [hmark, escapePoint, h]
      exact readMarks_plain (p := .char c) (by simpa using hquote) (by simpa using hslash)
        hcontrol rest
  | surrogate s =>
    have hrange := s.property
    exact readMarks_plain (by simp) (by simp) (by simp only [Point.code]; omega) rest

/-- The marks of a quoted text are read up to its closing quote. -/
theorem readMarks_flatMap_escapePoint (s rest : List Point) :
    readMarks (s.flatMap escapePoint ++ .char '"' :: rest) = some (s.map markOf, rest) := by
  induction s with
  | nil => rfl
  | cons p s ih =>
    rw [List.flatMap_cons, List.append_assoc, readMarks_escapePoint_append, ih]
    rfl

/-- A code below those of surrogates pairs with nothing. -/
theorem join_coded {code : Nat} (h : code < 0xD800) (marks : List Mark) :
    join (.coded code :: marks) = .ofCode code :: join marks := by
  cases marks with
  | nil => rfl
  | cons mark marks =>
    cases mark with
    | point p => rfl
    | coded low =>
      have hpair : pair? code low = none := by
        unfold pair?
        rw [if_neg (by simp; omega)]
      rw [join, hpair]

/-- The marks of a written text join to its points. -/
theorem join_map_markOf (s : List Point) : join (s.map markOf) = s := by
  induction s with
  | nil => rfl
  | cons p s ih =>
    rw [List.map_cons, markOf]
    split
    · rename_i hcoded
      have hcontrol : p.code < 0xD800 := by
        cases p with
        | char c =>
          rcases escape_cases c with ⟨e, -, -, h⟩ | ⟨hcontrol, -⟩ | ⟨-, -, -, h⟩
          · simp [escapePoint, h] at hcoded
          · exact Nat.lt_trans hcontrol (by decide)
          · simp [escapePoint, h] at hcoded
        | surrogate s => simp [escapePoint] at hcoded
      rw [join_coded hcontrol, ih, Point.ofCode_code]
    · rw [join, ih]

/-- A quoted text reads back up to its closing quote. -/
theorem readText_flatMap_escapePoint {limits : Limits} {s : Wide}
    (h : limits.admitsText s = true) (rest : List Point) :
    readText limits (s.points.flatMap escapePoint ++ .char '"' :: rest) = some (s, rest) := by
  rw [readText, readMarks_flatMap_escapePoint]
  simp only [Option.bind_eq_bind, Option.bind_some, join_map_markOf, Wide.ofPoints_points, h,
    if_true]

/-- Strings are texts for every reader. -/
@[simp] theorem admitsText_text (limits : Limits) (s : String) :
    limits.admitsText (.text s) = true := by
  simp [Limits.admitsText, Wide.isGarbled]

/-- A reader without limits reads every text. -/
@[simp] theorem admitsText_unlimited (s : Wide) : Limits.admitsText {} s = true := rfl

/-! ## Words and numbers -/

/-- Behind a value nothing follows, or something that no value goes on with. -/
def Ends : List Point → Prop
  | [] => True
  | p :: _ => p = .char ',' ∨ p = .char ']' ∨ p = .char '}'

theorem ends_cons {p : Point} (h : p = .char ',' ∨ p = .char ']' ∨ p = .char '}')
    (rest : List Point) : Ends (p :: rest) := h

/-- A word or a number that is read back by itself. -/
structure ReadsBack (limits : Limits) (v : Value) (s : List Char) : Prop where
  ne_nil : s ≠ []
  scalar : ∀ c ∈ s, isScalarChar c = true
  reads : readScalar limits s = .ok (v, [])

theorem spanScalar_of_ends {rest : List Point} (h : Ends rest) : spanScalar rest = ([], rest) := by
  cases rest with
  | nil => rfl
  | cons p rest => rcases h with rfl | rfl | rfl <;> rfl

/-- What follows a word or a number is no part of it. -/
theorem spanScalar_map_append {s : List Char} (hs : ∀ c ∈ s, isScalarChar c = true)
    {rest : List Point} (h : Ends rest) : spanScalar (s.map .char ++ rest) = (s, rest) := by
  induction s with
  | nil => exact spanScalar_of_ends h
  | cons c s ih =>
    rw [List.map_cons, List.cons_append, spanScalar, if_pos (hs c List.mem_cons_self),
      ih fun d hd => hs d (List.mem_cons_of_mem c hd)]

/-- No word or number starts with a mark that has a meaning of its own. -/
theorem ne_of_isScalarChar {c : Char} (h : isScalarChar c = true) :
    isSpace (.char c) = false ∧ c ≠ '"' ∧ c ≠ '[' ∧ c ≠ '{' ∧ c ≠ ']' := by
  have hmarks : [' ', '\t', '\n', '\r', '"', '[', '{', ']'].all (!isScalarChar ·) = true := by
    decide
  have hne : ∀ d ∈ [' ', '\t', '\n', '\r', '"', '[', '{', ']'], c ≠ d := by
    rintro d hd rfl
    have hfalse := List.all_eq_true.mp hmarks c hd
    rw [h] at hfalse
    cases hfalse
  refine ⟨?_, hne _ (by decide), hne _ (by decide), hne _ (by decide), hne _ (by decide)⟩
  simp [isSpace, hne ' ' (by decide), hne '\t' (by decide), hne '\n' (by decide),
    hne '\r' (by decide)]

section Scalars

variable {limits : Limits} {depth fuel : Nat}

/-- What starts like a word or a number is read as one. -/
theorem readValue_scalar {c : Char} (h : isScalarChar c = true) (s : List Point) :
    readValue limits depth (fuel + 1) (.char c :: s) =
      (readScalar limits (spanScalar (.char c :: s)).1).map
        fun (v, more) => (v, more.map .char ++ (spanScalar (.char c :: s)).2) := by
  obtain ⟨-, hquote, hbracket, hbrace, -⟩ := ne_of_isScalarChar h
  rw [readValue]
  · change (readScalar limits (spanScalar (.char c :: s)).1).bind _ = _
    cases readScalar limits (spanScalar (.char c :: s)).1 <;> rfl
  · simpa using hquote
  · simpa using hbracket
  · simpa using hbrace

/-- A word or a number is read back from in front of what no value goes on with. -/
theorem ReadsBack.readValue_append {v : Value} {s : List Char} (h : ReadsBack limits v s)
    {rest : List Point} (hrest : Ends rest) :
    readValue limits depth (fuel + 1) (s.map .char ++ rest) = .ok (v, rest) := by
  obtain ⟨c, t, rfl⟩ := List.exists_cons_of_ne_nil h.ne_nil
  have hspan := spanScalar_map_append h.scalar hrest
  rw [List.map_cons, List.cons_append] at hspan ⊢
  rw [readValue_scalar (h.scalar c List.mem_cons_self), hspan]
  simp only [h.reads]
  rfl

end Scalars

theorem readsBack_null (limits : Limits) : ReadsBack limits .null "null".toList :=
  ⟨by decide, List.all_eq_true.mp rfl, rfl⟩

theorem readsBack_bool (limits : Limits) (b : Bool) : ReadsBack limits (.bool b) (truth b) := by
  cases b <;> exact ⟨by decide, List.all_eq_true.mp rfl, rfl⟩

/-! ## Values -/

mutual
/-- Does a value keep to the limits, with `depth` containers around it?  What is said of
numbers is that they read back. -/
def Legible (limits : Limits) : (depth : Nat) → Value → Prop
  | _, .null => True
  | _, .bool _ => True
  | _, .text _ => True
  | _, .garbled g => limits.admitsText (.garbled g) = true
  | _, .int n => ReadsBack limits (.int n) (Numeral.ofInt n)
  | _, .float x => ReadsBack limits (.float x) (number x)
  | depth, .list items =>
    (items ≠ [] → limits.admitsDepth (depth + 1) = true) ∧ LegibleItems limits (depth + 1) items
  | depth, .object entries =>
    (entries ≠ [] → limits.admitsDepth (depth + 1) = true) ∧
      (entries.map Prod.fst).Nodup ∧ LegibleEntries limits (depth + 1) entries

/-- `Legible` for the items of a list. -/
def LegibleItems (limits : Limits) : (depth : Nat) → List Value → Prop
  | _, [] => True
  | depth, v :: rest => Legible limits depth v ∧ LegibleItems limits depth rest

/-- `Legible` for the keys and values in an object. -/
def LegibleEntries (limits : Limits) : (depth : Nat) → List (Wide × Value) → Prop
  | _, [] => True
  | depth, (key, v) :: rest =>
    limits.admitsText key = true ∧ Legible limits depth v ∧ LegibleEntries limits depth rest
end

variable {limits : Limits}

theorem ReadsBack.starts {v : Value} {s : List Char} (h : ReadsBack limits v s) :
    ∃ p t, s.map Point.char = p :: t ∧ isSpace p = false ∧ p ≠ .char ']' := by
  obtain ⟨c, t, rfl⟩ := List.exists_cons_of_ne_nil h.ne_nil
  obtain ⟨hspace, -, -, -, hclose⟩ := ne_of_isScalarChar (h.scalar c List.mem_cons_self)
  exact ⟨.char c, t.map .char, rfl, hspace, by simpa using hclose⟩

/-- A legible value is not written with white space or a closing bracket in front. -/
theorem Legible.starts {depth : Nat} {v : Value} (h : Legible limits depth v) :
    ∃ p s, write v = p :: s ∧ isSpace p = false ∧ p ≠ .char ']' := by
  cases v with
  | null =>
    rw [write]
    exact (readsBack_null limits).starts
  | bool b =>
    rw [write]
    exact (readsBack_bool limits b).starts
  | int n =>
    rw [Legible] at h
    rw [write]
    exact h.starts
  | float x =>
    rw [Legible] at h
    rw [write]
    exact h.starts
  | text s => exact ⟨.char '"', _, by rw [write, quote], by decide, by decide⟩
  | garbled g => exact ⟨.char '"', _, by rw [write, quote], by decide, by decide⟩
  | list items => exact ⟨.char '[', _, by rw [write], by decide, by decide⟩
  | object entries => exact ⟨.char '{', _, by rw [write], by decide, by decide⟩

theorem skip_of_starts {s : List Point}
    (h : ∃ p t, s = p :: t ∧ isSpace p = false ∧ p ≠ .char ']') (rest : List Point) :
    skip (s ++ rest) = s ++ rest := by
  obtain ⟨p, t, rfl, hspace, -⟩ := h
  simp [skip, hspace]

theorem commas_cons_cons (first second : List Point) (rest : List (List Point)) :
    commas (first :: second :: rest) = first ++ .char ',' :: commas (second :: rest) := by
  simp [commas, List.intercalate, List.intersperse]

theorem commas_singleton (text : List Point) : commas [text] = text := by
  simp [commas, List.intercalate]

/-- Texts with commas between them start with the first one. -/
theorem exists_commas_cons (first : List Point) (rest : List (List Point)) :
    ∃ tail, commas (first :: rest) = first ++ tail := by
  cases rest with
  | nil => exact ⟨[], by rw [commas_singleton, List.append_nil]⟩
  | cons second rest => exact ⟨_, commas_cons_cons first second rest⟩

/-! ### Steps of the readers -/

section Steps

variable {depth fuel : Nat}

/-- A quoted text is read as the text that it quotes. -/
theorem readValue_quote {s : Wide} (h : limits.admitsText s = true) (rest : List Point) :
    readValue limits depth (fuel + 1) (quote s ++ rest) = .ok (.ofWide s, rest) := by
  rw [quote, List.cons_append, List.append_assoc, List.singleton_append, readValue,
    readText_flatMap_escapePoint h]

theorem readValue_list {s : List Point} (hs : ∃ p t, s = p :: t ∧ isSpace p = false ∧ p ≠ .char ']')
    (hdepth : limits.admitsDepth (depth + 1) = true) :
    readValue limits depth (fuel + 1) (.char '[' :: s) =
      (readItems limits (depth + 1) fuel s).map fun (items, rest) => (.list items, rest) := by
  obtain ⟨c, t, rfl, hspace, hclose⟩ := hs
  have hskip : skip (c :: t) = c :: t := by simp [skip, hspace]
  rw [readValue]
  simp only [hskip]
  split
  · rename_i heq
    exact absurd (List.cons.inj heq).1 hclose
  · simp only [hdepth]
    cases readItems limits (depth + 1) fuel (c :: t) <;> rfl

theorem readValue_object {s : List Point} (hdepth : limits.admitsDepth (depth + 1) = true) :
    readValue limits depth (fuel + 1) (.char '{' :: .char '"' :: s) =
      (readEntries limits (depth + 1) fuel [] (.char '"' :: s)).map
        fun (entries, rest) => (.object entries, rest) := by
  have hskip : skip (.char '"' :: s) = .char '"' :: s := by simp [skip, isSpace]
  rw [readValue]
  simp only [hskip]
  split
  · rename_i heq
    exact absurd (List.cons.inj heq).1 (by decide)
  · simp only [hdepth]
    cases readEntries limits (depth + 1) fuel [] (.char '"' :: s) <;> rfl

theorem readItems_last {s rest : List Point} {v : Value}
    (h : readValue limits depth fuel s = .ok (v, .char ']' :: rest)) :
    readItems limits depth (fuel + 1) s = .ok ([v], rest) := by
  rw [readItems, h]
  rfl

theorem readItems_more {s rest : List Point} {v : Value}
    (h : readValue limits depth fuel s = .ok (v, .char ',' :: rest)) :
    readItems limits depth (fuel + 1) s =
      (readItems limits depth fuel (skip rest)).map fun (items, rest) => (v :: items, rest) := by
  rw [readItems, h]
  change (do
    let (items, rest) ← readItems limits depth fuel (skip rest)
    Except.ok (v :: items, rest)) = _
  cases readItems limits depth fuel (skip rest) <;> rfl

theorem readEntries_last {s rest : List Point} {key : Wide} {v : Value}
    (read : List (Wide × Value)) (hkey : limits.admitsText key = true)
    (h : readValue limits depth fuel (skip s) = .ok (v, .char '}' :: rest)) :
    readEntries limits depth (fuel + 1) read (quote key ++ .char ':' :: s) =
      .ok (Entries.enter key v read, rest) := by
  have hcolon : skip (.char ':' :: s) = .char ':' :: s := rfl
  rw [quote, List.cons_append, readEntries, List.append_assoc, List.singleton_append,
    readText_flatMap_escapePoint hkey]
  simp only [hcolon, h]
  rfl

theorem readEntries_more {s rest : List Point} {key : Wide} {v : Value}
    (read : List (Wide × Value)) (hkey : limits.admitsText key = true)
    (h : readValue limits depth fuel (skip s) = .ok (v, .char ',' :: rest)) :
    readEntries limits depth (fuel + 1) read (quote key ++ .char ':' :: s) =
      readEntries limits depth fuel (Entries.enter key v read) (skip rest) := by
  have hcolon : skip (.char ':' :: s) = .char ':' :: s := rfl
  rw [quote, List.cons_append, readEntries, List.append_assoc, List.singleton_append,
    readText_flatMap_escapePoint hkey]
  simp only [hcolon, h]
  rfl

end Steps

/-- Entering a key that is not there yet puts it at the end. -/
theorem enter_of_not_mem {key : Wide} {v : Value} {read : List (Wide × Value)}
    (h : key ∉ read.map Prod.fst) : Entries.enter key v read = read ++ [(key, v)] := by
  induction read with
  | nil => rfl
  | cons entry read ih =>
    obtain ⟨hne, hmore⟩ := List.ne_and_not_mem_of_not_mem_cons h
    rw [Entries.enter, if_neg (Ne.symm hne), ih hmore, List.cons_append]

theorem commas_writeEntries_cons (key : Wide) (v : Value) (entry : Wide × Value)
    (entries : List (Wide × Value)) :
    commas (writeEntries ((key, v) :: entry :: entries)) =
      (quote key ++ .char ':' :: write v) ++
        .char ',' :: commas (writeEntries (entry :: entries)) := by
  rw [writeEntries, writeEntries, commas_cons_cons]

/-- Entries start with the quote of their first key. -/
theorem skip_commas_writeEntries (entry : Wide × Value) (entries : List (Wide × Value))
    (rest : List Point) :
    skip (commas (writeEntries (entry :: entries)) ++ rest) =
      commas (writeEntries (entry :: entries)) ++ rest := by
  obtain ⟨tail, htail⟩ := exists_commas_cons (quote entry.1 ++ .char ':' :: write entry.2)
    (writeEntries entries)
  rw [writeEntries, htail]
  exact skip_of_starts ⟨.char '"', _, by rw [quote]; rfl, by decide, by decide⟩ _

/-- If no key is repeated, none of the keys read before comes again. -/
theorem not_mem_of_nodup_append {key : Wide} {v : Value} {read more : List (Wide × Value)}
    (h : ((read ++ (key, v) :: more).map Prod.fst).Nodup) : key ∉ read.map Prod.fst := by
  rw [List.map_append, List.map_cons] at h
  intro hmem
  exact (List.nodup_append.mp h).2.2 key hmem key List.mem_cons_self rfl

theorem Legible.length_pos {depth : Nat} {v : Value} (h : Legible limits depth v) :
    0 < (write v).length := by
  obtain ⟨c, s, hwrite, -⟩ := h.starts
  rw [hwrite]
  exact Nat.succ_pos _

/-- Nor is a list of legible values, which is what `readValue` looks at behind a bracket. -/
theorem LegibleItems.commas_starts {depth : Nat} {v : Value} {items : List Value}
    (h : LegibleItems limits depth (v :: items)) (rest : List Point) :
    ∃ c t, commas (writeItems (v :: items)) ++ .char ']' :: rest = c :: t ∧
      isSpace c = false ∧ c ≠ .char ']' := by
  rw [LegibleItems] at h
  obtain ⟨c, t, hwrite, hc⟩ := h.1.starts
  obtain ⟨tail, htail⟩ := exists_commas_cons (write v) (writeItems items)
  exact ⟨c, t ++ tail ++ .char ']' :: rest, by rw [writeItems, htail, hwrite]; simp, hc⟩

mutual
/-- A legible value is read back from in front of what no value goes on with. -/
theorem readValue_write : ∀ (v : Value) (depth fuel : Nat) (rest : List Point),
    Legible limits depth v → (write v).length ≤ fuel → Ends rest →
      readValue limits depth fuel (write v ++ rest) = .ok (v, rest)
  | v, depth, 0, rest, h, hfuel, _ => absurd h.length_pos (Nat.not_lt.mpr hfuel)
  | .null, depth, fuel + 1, rest, _, _, hrest => by
    rw [write]
    exact (readsBack_null limits).readValue_append hrest
  | .bool b, depth, fuel + 1, rest, _, _, hrest => by
    rw [write]
    exact (readsBack_bool limits b).readValue_append hrest
  | .int n, depth, fuel + 1, rest, h, _, hrest => by
    rw [Legible] at h
    rw [write]
    exact h.readValue_append hrest
  | .float x, depth, fuel + 1, rest, h, _, hrest => by
    rw [Legible] at h
    rw [write]
    exact h.readValue_append hrest
  | .text s, depth, fuel + 1, rest, _, _, _ => by
    rw [write]
    exact readValue_quote (admitsText_text limits s) rest
  | .garbled g, depth, fuel + 1, rest, h, _, _ => by
    rw [Legible] at h
    rw [write]
    exact readValue_quote h rest
  | .list [], depth, fuel + 1, rest, _, _, _ => by rw [write]; rfl
  | .list (v :: items), depth, fuel + 1, rest, h, hfuel, _ => by
    rw [Legible] at h
    obtain ⟨hdepth, hitems⟩ := h
    have hstarts := hitems.commas_starts rest
    rw [write, List.length_cons, List.length_append] at hfuel
    have hread := readItems_write (v :: items) (depth + 1) fuel rest (List.cons_ne_nil _ _) hitems
      (Nat.le_of_succ_le_succ hfuel)
    rw [write, List.cons_append, List.append_assoc, List.singleton_append,
      readValue_list hstarts (hdepth (List.cons_ne_nil _ _)), hread]
    rfl
  | .object [], depth, fuel + 1, rest, _, _, _ => by rw [write]; rfl
  | .object ((key, v) :: entries), depth, fuel + 1, rest, h, hfuel, _ => by
    rw [Legible] at h
    obtain ⟨hdepth, hkeys, hentries⟩ := h
    rw [write, List.length_cons, List.length_append] at hfuel
    have hread := readEntries_write ((key, v) :: entries) (depth + 1) fuel [] rest
      (List.cons_ne_nil _ _) hentries hkeys (Nat.le_of_succ_le_succ hfuel)
    obtain ⟨tail, htail⟩ :=
      exists_commas_cons (quote key ++ .char ':' :: write v) (writeEntries entries)
    rw [write, List.cons_append, List.append_assoc, List.singleton_append]
    rw [writeEntries, htail, quote, List.cons_append, List.cons_append, List.cons_append] at hread ⊢
    rw [readValue_object (hdepth (List.cons_ne_nil _ _)), hread]
    rfl

/-- The items of a list are read back from in front of its closing bracket. -/
theorem readItems_write : ∀ (items : List Value) (depth fuel : Nat) (rest : List Point),
    items ≠ [] → LegibleItems limits depth items → (commas (writeItems items)).length < fuel →
      readItems limits depth fuel (commas (writeItems items) ++ .char ']' :: rest) =
        .ok (items, rest)
  | _, _, 0, _, _, _, hfuel => absurd hfuel (Nat.not_lt_zero _)
  | [], _, _ + 1, _, hne, _, _ => absurd rfl hne
  | [v], depth, fuel + 1, rest, _, h, hfuel => by
    rw [LegibleItems] at h
    rw [writeItems, writeItems, commas_singleton] at hfuel ⊢
    exact readItems_last (readValue_write v depth fuel (.char ']' :: rest) h.1
      (Nat.le_of_lt_succ hfuel) (ends_cons (by simp) rest))
  | v :: w :: items, depth, fuel + 1, rest, _, h, hfuel => by
    rw [LegibleItems] at h
    obtain ⟨hv, hmore⟩ := h
    rw [writeItems, writeItems, commas_cons_cons, ← writeItems] at hfuel ⊢
    rw [List.length_append, List.length_cons] at hfuel
    have hitems := readItems_write (w :: items) depth fuel rest (List.cons_ne_nil _ _) hmore
      (by omega)
    have hvalue := readValue_write v depth fuel
      (.char ',' :: (commas (writeItems (w :: items)) ++ .char ']' :: rest)) hv (by omega)
      (ends_cons (by simp) _)
    -- behind the comma the next item follows at once
    have hskip := skip_of_starts (hmore.commas_starts rest) []
    rw [List.append_nil] at hskip
    rw [List.append_assoc, List.cons_append, readItems_more hvalue, hskip, hitems]
    rfl

/-- The entries of an object are read back from in front of its closing brace. -/
theorem readEntries_write : ∀ (entries : List (Wide × Value)) (depth fuel : Nat)
    (read : List (Wide × Value)) (rest : List Point),
    entries ≠ [] → LegibleEntries limits depth entries →
      ((read ++ entries).map Prod.fst).Nodup → (commas (writeEntries entries)).length < fuel →
      readEntries limits depth fuel read (commas (writeEntries entries) ++ .char '}' :: rest) =
        .ok (read ++ entries, rest)
  | _, _, 0, _, _, _, _, _, hfuel => absurd hfuel (Nat.not_lt_zero _)
  | [], _, _ + 1, _, _, hne, _, _, _ => absurd rfl hne
  | [(key, v)], depth, fuel + 1, read, rest, _, h, hkeys, hfuel => by
    rw [LegibleEntries] at h
    obtain ⟨hkey, hv, -⟩ := h
    rw [writeEntries, writeEntries, commas_singleton, List.append_assoc, List.cons_append]
    rw [writeEntries, writeEntries, commas_singleton, List.length_append, List.length_cons] at hfuel
    have hvalue := readValue_write v depth fuel (.char '}' :: rest) hv (by omega)
      (ends_cons (by simp) rest)
    rw [← skip_of_starts hv.starts _] at hvalue
    rw [readEntries_last read hkey hvalue, enter_of_not_mem (not_mem_of_nodup_append hkeys)]
  | (key, v) :: entry :: entries, depth, fuel + 1, read, rest, _, h, hkeys, hfuel => by
    rw [LegibleEntries] at h
    obtain ⟨hkey, hv, hmore⟩ := h
    -- the entry that is read first joins those already read
    have hassoc : read ++ (key, v) :: entry :: entries =
        (read ++ [(key, v)]) ++ entry :: entries := by rw [List.append_assoc]; rfl
    rw [commas_writeEntries_cons, List.length_append, List.length_cons, List.length_append,
      List.length_cons] at hfuel
    have hentries := readEntries_write (entry :: entries) depth fuel (read ++ [(key, v)]) rest
      (List.cons_ne_nil _ _) hmore (hassoc ▸ hkeys) (by omega)
    have hvalue := readValue_write v depth fuel
      (.char ',' :: (commas (writeEntries (entry :: entries)) ++ .char '}' :: rest)) hv (by omega)
      (ends_cons (by simp) _)
    rw [← skip_of_starts hv.starts _] at hvalue
    rw [commas_writeEntries_cons, List.append_assoc, List.cons_append, List.append_assoc,
      List.cons_append, readEntries_more read hkey hvalue, skip_commas_writeEntries,
      enter_of_not_mem (not_mem_of_nodup_append hkeys), hentries, hassoc]
end

/-- **Written JSON reads back**, by a reader to whose limits the value keeps. -/
theorem readWithin_write {v : Value} (h : Legible limits 0 v) :
    readWithin limits (write v) = .ok v := by
  have hskip := skip_of_starts h.starts []
  have hread := readValue_write v 0 ((write v).length + 1) [] h (Nat.le_succ _) trivial
  rw [List.append_nil] at hskip hread
  rw [readWithin, hskip, hread]
  rfl

end Json
end WebhookRelay
