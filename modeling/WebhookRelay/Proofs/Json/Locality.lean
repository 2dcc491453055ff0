import WebhookRelay.Proofs.Json.RoundTrip

/-! # Values are read where they stand

What a reader without limits makes of a value does not depend on where the value stands: not
on the containers around it, nor on the fuel that is left, nor on what follows it
(`keeps_readValue`).  Only a text that is not JSON may become JSON when it goes on.  So an
object may be read entry by entry, even if the text of a value in it is not known
(`readEntries_text`), and a value that is refused in the end is refused wherever it stands.

What follows a value is another token, which no number goes on with (`Ends`); for everything
else that can be read it does not even matter what follows.
-/

namespace WebhookRelay
namespace Json

variable {α β : Type}

/-- What is made of a text is also made of the text with more behind it, unless the text is no
JSON. -/
def Keeps (more : List Point) (read longer : Except ReadError (α × List Point)) : Prop :=
  read ≠ .error .malformed → longer = read.map fun (a, rest) => (a, rest ++ more)

namespace Keeps

variable {more : List Point}

theorem malformed {longer : Except ReadError (α × List Point)} :
    Keeps more (.error .malformed) longer := fun h => absurd rfl h

theorem ok (a : α) (rest : List Point) : Keeps more (.ok (a, rest)) (.ok (a, rest ++ more)) :=
  fun _ => rfl

/-- Reading one thing after the other. -/
theorem bind {read longer : Except ReadError (α × List Point)}
    {next nextLonger : α × List Point → Except ReadError (β × List Point)}
    (h : Keeps more read longer)
    (hnext : ∀ a rest, Keeps more (next (a, rest)) (nextLonger (a, rest ++ more))) :
    Keeps more (read.bind next) (longer.bind nextLonger) := by
  intro hread
  cases read with
  | error e =>
    cases e with
    | malformed => exact absurd rfl hread
    | refused fault =>
      rw [h (by simp)]
      rfl
  | ok found =>
    obtain ⟨a, rest⟩ := found
    rw [h (by simp)]
    exact hnext a rest hread

end Keeps

/-! ## Tokens -/

section Tokens

variable {s more : List Point}

theorem skip_append (h : skip s ≠ []) (more : List Point) : skip (s ++ more) = skip s ++ more := by
  induction s with
  | nil => exact absurd rfl h
  | cons c s ih =>
    by_cases hspace : isSpace c = true
    · have hskip : ∀ t, skip (c :: t) = skip t := fun t => List.dropWhile_cons_of_pos hspace
      rw [hskip] at h
      rw [List.cons_append, hskip, hskip, ih h]
    · have hskip : ∀ t, skip (c :: t) = c :: t := fun t => List.dropWhile_cons_of_neg hspace
      rw [List.cons_append, hskip, hskip, List.cons_append]

theorem exists_of_prepend {mark : Mark} {read : Option (List Mark × List Point)}
    {marks : List Mark} {rest : List Point} (h : prepend mark read = some (marks, rest)) :
    ∃ tail, read = some (tail, rest) ∧ marks = mark :: tail := by
  obtain ⟨⟨tail, after⟩, hread, heq⟩ := Option.map_eq_some_iff.mp h
  obtain ⟨rfl, rfl⟩ := Prod.mk.inj heq
  exact ⟨tail, hread, rfl⟩

/-- What comes after white space still does. -/
theorem skip_append_cons {c : Point} {rest : List Point} (h : skip s = c :: rest)
    (more : List Point) : skip (s ++ more) = c :: (rest ++ more) := by
  rw [skip_append (by rw [h]; exact List.cons_ne_nil _ _), h, List.cons_append]

/-- The marks of a text that is closed are read up to its closing quote. -/
theorem readMarks_append {marks : List Mark} {rest : List Point}
    (h : readMarks s = some (marks, rest)) (more : List Point) :
    readMarks (s ++ more) = some (marks, rest ++ more) := by
  induction s using readMarks.induct generalizing marks rest with
  | case2 tail =>
    obtain ⟨rfl, rfl⟩ := Prod.mk.inj (Option.some.inj h)
    rfl
  | case4 a b c d tail code hcode ih =>
    have hread : ∀ t, readMarks (.char '\\' :: .char 'u' :: a :: b :: c :: d :: t) =
        prepend (.coded code) (readMarks t) := by
      intro t
      rw [readMarks, hcode]
    rw [hread] at h
    obtain ⟨tail, htail, rfl⟩ := exists_of_prepend h
    simp only [List.cons_append]
    rw [hread, ih htail]
    rfl
  | case6 e tail hcode c hshort ih =>
    have hu : e ≠ .char 'u' := by
      rintro rfl
      cases hshort
    rw [readMarks_shortEscape hu hshort] at h
    obtain ⟨tail, htail, rfl⟩ := exists_of_prepend h
    rw [List.cons_append, List.cons_append, readMarks_shortEscape hu hshort, ih htail]
    rfl
  | case8 p tail hquote hcode hescape hcontrol ih =>
    by_cases hslash : p = .char '\\'
    · -- a backslash at the end escapes nothing, and no quote closes the text
      cases tail with
      | nil =>
        subst hslash
        cases h
      | cons e tail => exact absurd rfl (hescape e tail hslash)
    · rw [readMarks_plain hquote hslash hcontrol] at h
      obtain ⟨tail, htail, rfl⟩ := exists_of_prepend h
      rw [List.cons_append, readMarks_plain hquote hslash hcontrol, ih htail]
      rfl
  | case1 => cases h
  | case3 a b c d tail hcode => simp [readMarks, hcode] at h
  | case5 e tail hcode hshort => simp [readMarks, hshort] at h
  | case7 p tail hquote hcode hescape hcontrol => simp [readMarks, hcontrol] at h

/-- A text that is closed is read up to its closing quote. -/
theorem readText_append {text : Wide} {rest : List Point}
    (h : readText {} s = some (text, rest)) (more : List Point) :
    readText {} (s ++ more) = some (text, rest ++ more) := by
  simp only [readText, Option.bind_eq_bind, Option.bind_eq_some_iff, Prod.exists] at h
  obtain ⟨marks, after, hmarks, htext⟩ := h
  rw [admitsText_unlimited, if_pos rfl] at htext
  obtain ⟨rfl, rfl⟩ := Prod.mk.inj (Option.some.inj htext)
  simp [readText, readMarks_append hmarks more]

/-- What follows a value is no part of a word or a number. -/
theorem spanScalar_append_ends (hmore : Ends more) (s : List Point) :
    spanScalar (s ++ more) = ((spanScalar s).1, (spanScalar s).2 ++ more) := by
  induction s with
  | nil => exact spanScalar_of_ends hmore
  | cons p s ih =>
    cases p with
    | surrogate p => rfl
    | char c =>
      rw [List.cons_append, spanScalar, spanScalar]
      split
      · rw [ih]
      · rfl

end Tokens

/-! ## Values -/

section Values

variable {more : List Point} (hmore : Ends more) {fuel longer depth other : Nat}

/-- Nothing is read from an empty text. -/
theorem readValue_nil : readValue {} depth fuel [] = .error .malformed := by
  cases fuel with
  | zero => rw [readValue]
  | succ fuel =>
    rw [readValue]
    · rfl
    all_goals simp

theorem readItems_nil : readItems {} depth fuel [] = .error .malformed := by
  cases fuel with
  | zero => rw [readItems]
  | succ fuel =>
    rw [readItems, readValue_nil]
    rfl

theorem readEntries_nil {read : List (Wide × Value)} :
    readEntries {} depth fuel read [] = .error .malformed := by
  cases fuel with
  | zero => rw [readEntries]
  | succ fuel =>
    rw [readEntries]
    exact fun t h => absurd h.symm (List.cons_ne_nil (.char '"') t)

/-- A container that is not closed at once is not closed at once with more behind it. -/
theorem skip_append_ne {s : List Point} {close : Point} (hne : skip s ≠ [])
    (h : ∀ rest, skip s ≠ close :: rest) (more : List Point) :
    ∀ rest, skip (s ++ more) ≠ close :: rest := by
  intro rest heq
  rw [skip_append hne] at heq
  obtain ⟨c, t, hcons⟩ := List.exists_cons_of_ne_nil hne
  rw [hcons, List.cons_append] at heq
  exact h t (by rw [hcons, (List.cons.inj heq).1])

/-- A list that is closed at once is empty. -/
theorem readValue_closed_list {s rest : List Point} (h : skip s = .char ']' :: rest) :
    readValue {} depth (fuel + 1) (.char '[' :: s) = .ok (.list [], rest) := by
  rw [readValue]
  split
  · rename_i heq
    rw [h] at heq
    rw [(List.cons.inj heq).2]
  · rename_i hne
    exact absurd h (hne rest)

/-- A list that is not closed at once is read from its items. -/
theorem readValue_open_list {s : List Point} (h : ∀ rest, skip s ≠ .char ']' :: rest) :
    readValue {} depth (fuel + 1) (.char '[' :: s) =
      (readItems {} (depth + 1) fuel (skip s)).bind
        fun (items, rest) => .ok (.list items, rest) := by
  rw [readValue]
  split
  · rename_i rest heq
    exact absurd heq (h rest)
  · rfl

/-- An object that is closed at once is empty. -/
theorem readValue_closed_object {s rest : List Point} (h : skip s = .char '}' :: rest) :
    readValue {} depth (fuel + 1) (.char '{' :: s) = .ok (.object [], rest) := by
  rw [readValue]
  split
  · rename_i heq
    rw [h] at heq
    rw [(List.cons.inj heq).2]
  · rename_i hne
    exact absurd h (hne rest)

/-- An object that is not closed at once is read from its entries. -/
theorem readValue_open_object {s : List Point} (h : ∀ rest, skip s ≠ .char '}' :: rest) :
    readValue {} depth (fuel + 1) (.char '{' :: s) =
      (readEntries {} (depth + 1) fuel [] (skip s)).bind
        fun (entries, rest) => .ok (.object entries, rest) := by
  rw [readValue]
  split
  · rename_i rest heq
    exact absurd heq (h rest)
  · rfl

/-- A text is read up to its closing quote. -/
theorem readValue_quoted {s rest : List Point} {text : Wide}
    (h : readText {} s = some (text, rest)) :
    readValue {} depth (fuel + 1) (.char '"' :: s) = .ok (.ofWide text, rest) := by
  rw [readValue, h]

/-- What is no text and no container is read as a word or a number. -/
theorem readValue_other {s : List Point} (hquote : ∀ t, s ≠ .char '"' :: t)
    (hbracket : ∀ t, s ≠ .char '[' :: t) (hbrace : ∀ t, s ≠ .char '{' :: t) :
    readValue {} depth (fuel + 1) s = (readScalar {} (spanScalar s).1).map
      fun (v, rest) => (v, rest.map .char ++ (spanScalar s).2) := by
  rw [readValue]
  · change (readScalar {} (spanScalar s).1).bind _ = _
    cases readScalar {} (spanScalar s).1 <;> rfl
  · exact hquote
  · exact hbracket
  · exact hbrace

/-- A list is read where it stands if its items are. -/
theorem keeps_readValue_list
    (hitems : ∀ depth other s, Keeps more (readItems {} depth fuel s)
      (readItems {} other longer (s ++ more))) (s : List Point) :
    Keeps more (readValue {} depth (fuel + 1) (.char '[' :: s))
      (readValue {} other (longer + 1) (.char '[' :: (s ++ more))) := by
  by_cases hclosed : ∃ rest, skip s = .char ']' :: rest
  · obtain ⟨rest, hskip⟩ := hclosed
    have hlonger := skip_append_cons hskip more
    rw [readValue_closed_list hskip, readValue_closed_list hlonger]
    exact .ok _ _
  · have hopen : ∀ rest, skip s ≠ .char ']' :: rest := fun rest heq => hclosed ⟨rest, heq⟩
    rw [readValue_open_list hopen]
    by_cases hnil : skip s = []
    · rw [hnil, readItems_nil]
      exact .malformed
    · rw [readValue_open_list (skip_append_ne hnil hopen more), skip_append hnil]
      exact (hitems _ _ _).bind fun items rest => .ok _ _

/-- An object is read where it stands if its entries are. -/
theorem keeps_readValue_object
    (hentries : ∀ depth other read s, Keeps more (readEntries {} depth fuel read s)
      (readEntries {} other longer read (s ++ more))) (s : List Point) :
    Keeps more (readValue {} depth (fuel + 1) (.char '{' :: s))
      (readValue {} other (longer + 1) (.char '{' :: (s ++ more))) := by
  by_cases hclosed : ∃ rest, skip s = .char '}' :: rest
  · obtain ⟨rest, hskip⟩ := hclosed
    have hlonger := skip_append_cons hskip more
    rw [readValue_closed_object hskip, readValue_closed_object hlonger]
    exact .ok _ _
  · have hopen : ∀ rest, skip s ≠ .char '}' :: rest := fun rest heq => hclosed ⟨rest, heq⟩
    rw [readValue_open_object hopen]
    by_cases hnil : skip s = []
    · rw [hnil, readEntries_nil]
      exact .malformed
    · rw [readValue_open_object (skip_append_ne hnil hopen more), skip_append hnil]
      exact (hentries _ _ _ _).bind fun entries rest => .ok _ _

include hmore in
/-- So is a word or a number. -/
theorem keeps_readValue_other {s : List Point} (hquote : ∀ t, s ≠ .char '"' :: t)
    (hbracket : ∀ t, s ≠ .char '[' :: t) (hbrace : ∀ t, s ≠ .char '{' :: t) :
    Keeps more (readValue {} depth (fuel + 1) s) (readValue {} other (longer + 1) (s ++ more)) := by
  intro h
  cases s with
  | nil =>
    rw [readValue_nil] at h
    exact absurd rfl h
  | cons p s =>
    have hspan := spanScalar_append_ends hmore (p :: s)
    rw [List.cons_append] at hspan ⊢
    rw [readValue_other hquote hbracket hbrace,
      readValue_other (by simpa using hquote) (by simpa using hbracket) (by simpa using hbrace),
      hspan]
    cases readScalar {} (spanScalar (p :: s)).1 with
    | error e => rfl
    | ok found => simp [Except.map]

include hmore in
/-- A value is read where it stands if the items and entries in it are. -/
theorem keeps_readValue_succ
    (hitems : ∀ depth other s, Keeps more (readItems {} depth fuel s)
      (readItems {} other longer (s ++ more)))
    (hentries : ∀ depth other read s, Keeps more (readEntries {} depth fuel read s)
      (readEntries {} other longer read (s ++ more))) (s : List Point) :
    Keeps more (readValue {} depth (fuel + 1) s) (readValue {} other (longer + 1) (s ++ more)) := by
  by_cases hquote : ∃ t, s = .char '"' :: t
  · obtain ⟨t, rfl⟩ := hquote
    cases htext : readText {} t with
    | none =>
      rw [readValue, htext]
      exact .malformed
    | some found =>
      rw [readValue_quoted htext, List.cons_append, readValue_quoted (readText_append htext more)]
      exact .ok _ _
  · by_cases hbracket : ∃ t, s = .char '[' :: t
    · obtain ⟨t, rfl⟩ := hbracket
      exact keeps_readValue_list hitems t
    · by_cases hbrace : ∃ t, s = .char '{' :: t
      · obtain ⟨t, rfl⟩ := hbrace
        exact keeps_readValue_object hentries t
      · exact keeps_readValue_other hmore (fun t ht => hquote ⟨t, ht⟩)
          (fun t ht => hbracket ⟨t, ht⟩) fun t ht => hbrace ⟨t, ht⟩

/-- What is read behind white space is read where it stands. -/
theorem keeps_skip {next nextLonger : List Point → Except ReadError (α × List Point)}
    (h : ∀ s, Keeps more (next s) (nextLonger (s ++ more)))
    (hnil : next [] = .error .malformed) (s : List Point) :
    Keeps more (next (skip s)) (nextLonger (skip (s ++ more))) := by
  by_cases hskip : skip s = []
  · rw [hskip, hnil]
    exact .malformed
  · rw [skip_append hskip]
    exact h (skip s)

/-- Items are read where they stand if the first one and the others are. -/
theorem keeps_readItems_succ
    (hvalue : ∀ depth other s, Keeps more (readValue {} depth fuel s)
      (readValue {} other longer (s ++ more)))
    (hitems : ∀ depth other s, Keeps more (readItems {} depth fuel s)
      (readItems {} other longer (s ++ more))) (s : List Point) :
    Keeps more (readItems {} depth (fuel + 1) s) (readItems {} other (longer + 1) (s ++ more)) := by
  rw [readItems, readItems]
  refine Keeps.bind (hvalue _ _ _) fun v rest => ?_
  dsimp only
  cases hskip : skip rest with
  | nil => exact .malformed
  | cons c t =>
    rw [skip_append_cons hskip]
    by_cases hcomma : c = .char ','
    · subst hcomma
      refine Keeps.bind ?_ fun items rest => .ok _ _
      exact keeps_skip (hitems _ _) readItems_nil t
    · by_cases hclose : c = .char ']'
      · subst hclose
        exact .ok _ _
      · split
        · rename_i heq
          exact absurd (List.cons.inj heq).1 hcomma
        · rename_i heq
          exact absurd (List.cons.inj heq).1 hclose
        · exact .malformed

/-- What is read behind an entry, given the entries so far. -/
def readEntriesAfter (depth fuel : Nat) (read : List (Wide × Value)) (s : List Point) :
    Except ReadError (List (Wide × Value) × List Point) :=
  match skip s with
  | .char ',' :: rest => readEntries {} depth fuel read (skip rest)
  | .char '}' :: rest => .ok (read, rest)
  | _ => .error .malformed

/-- What is read behind the key of an entry, given the entries so far. -/
def readEntryAfter (depth fuel : Nat) (read : List (Wide × Value)) (key : Wide)
    (s : List Point) : Except ReadError (List (Wide × Value) × List Point) :=
  match skip s with
  | .char ':' :: rest => (readValue {} depth fuel (skip rest)).bind fun (v, rest) =>
    readEntriesAfter depth fuel (Entries.enter key v read) rest
  | _ => .error .malformed

/-- Entries start with a key. -/
theorem readEntries_quoted (read : List (Wide × Value)) (s : List Point) :
    readEntries {} depth (fuel + 1) read (.char '"' :: s) = match readText {} s with
      | some (key, rest) => readEntryAfter depth fuel read key rest
      | none => .error .malformed := by
  rw [readEntries]
  cases readText {} s <;> rfl

/-- Behind a key stands its value, and behind that the other entries. -/
theorem readEntries_quote (read : List (Wide × Value)) (key : Wide) (s : List Point) :
    readEntries {} depth (fuel + 1) read (quote key ++ .char ':' :: s) =
      (readValue {} depth fuel (skip s)).bind fun found =>
        readEntriesAfter depth fuel (Entries.enter key found.1 read) found.2 := by
  rw [quote, List.cons_append, readEntries_quoted, List.append_assoc, List.singleton_append,
    readText_flatMap_escapePoint (admitsText_unlimited key)]
  rfl

/-- The entries after one are read where they stand. -/
theorem keeps_readEntriesAfter
    (hentries : ∀ depth other read s, Keeps more (readEntries {} depth fuel read s)
      (readEntries {} other longer read (s ++ more))) (read : List (Wide × Value))
    (s : List Point) :
    Keeps more (readEntriesAfter depth fuel read s)
      (readEntriesAfter other longer read (s ++ more)) := by
  unfold readEntriesAfter
  cases hskip : skip s with
  | nil => exact .malformed
  | cons c t =>
    rw [skip_append_cons hskip]
    by_cases hcomma : c = .char ','
    · subst hcomma
      exact keeps_skip (hentries _ _ read) readEntries_nil t
    · by_cases hclose : c = .char '}'
      · subst hclose
        exact .ok _ _
      · split
        · rename_i heq
          exact absurd (List.cons.inj heq).1 hcomma
        · rename_i heq
          exact absurd (List.cons.inj heq).1 hclose
        · exact .malformed

/-- Entries are read where they stand if the value of the first one and the others are. -/
theorem keeps_readEntries_succ
    (hvalue : ∀ depth other s, Keeps more (readValue {} depth fuel s)
      (readValue {} other longer (s ++ more)))
    (hentries : ∀ depth other read s, Keeps more (readEntries {} depth fuel read s)
      (readEntries {} other longer read (s ++ more))) (read : List (Wide × Value))
    (s : List Point) :
    Keeps more (readEntries {} depth (fuel + 1) read s)
      (readEntries {} other (longer + 1) read (s ++ more)) := by
  by_cases hquote : ∃ t, s = .char '"' :: t
  · obtain ⟨t, rfl⟩ := hquote
    rw [List.cons_append, readEntries_quoted, readEntries_quoted]
    cases htext : readText {} t with
    | none => exact .malformed
    | some found =>
      obtain ⟨key, rest⟩ := found
      rw [readText_append htext]
      dsimp only
      unfold readEntryAfter
      cases hskip : skip rest with
      | nil => exact .malformed
      | cons c t =>
        rw [skip_append_cons hskip]
        by_cases hcolon : c = .char ':'
        · subst hcolon
          refine Keeps.bind (keeps_skip (hvalue _ _) readValue_nil t) fun v rest => ?_
          exact keeps_readEntriesAfter hentries _ rest
        · split
          · rename_i heq
            exact absurd (List.cons.inj heq).1 hcolon
          · exact .malformed
  · rw [readEntries]
    · exact .malformed
    · exact fun t heq => hquote ⟨t, heq⟩

include hmore in
/-- **Values are read where they stand**, with at least as much fuel. -/
theorem keeps_of_le (h : fuel ≤ longer) :
    (∀ depth other s, Keeps more (readValue {} depth fuel s)
      (readValue {} other longer (s ++ more))) ∧
    (∀ depth other s, Keeps more (readItems {} depth fuel s)
      (readItems {} other longer (s ++ more))) ∧
    ∀ depth other read s, Keeps more (readEntries {} depth fuel read s)
      (readEntries {} other longer read (s ++ more)) := by
  induction fuel generalizing longer with
  | zero =>
    refine ⟨fun depth other s => ?_, fun depth other s => ?_, fun depth other read s => ?_⟩
    · rw [readValue]
      exact .malformed
    · rw [readItems]
      exact .malformed
    · rw [readEntries]
      exact .malformed
  | succ fuel ih =>
    obtain ⟨longer, rfl⟩ := Nat.exists_eq_add_of_lt h
    obtain ⟨hvalue, hitems, hentries⟩ := ih (Nat.le_add_right fuel longer)
    exact ⟨fun depth other s => keeps_readValue_succ hmore hitems hentries s,
      fun depth other s => keeps_readItems_succ hvalue hitems s,
      fun depth other read s => keeps_readEntries_succ hvalue hentries read s⟩

include hmore in
/-- **A value is read where it stands**, whatever contains it and with at least as much fuel. -/
theorem keeps_readValue (h : fuel ≤ longer) (depth other : Nat) (s : List Point) :
    Keeps more (readValue {} depth fuel s) (readValue {} other longer (s ++ more)) :=
  (keeps_of_le hmore h).1 depth other s

end Values

/-! ## Values of unknown text -/

/-- White space alone says nothing about what follows. -/
theorem skip_append_of_nil {s : List Point} (h : skip s = []) (more : List Point) :
    skip (s ++ more) = skip more := by
  rw [skip, List.dropWhile_append, ← skip, h]
  rfl

/-- A value is the whole of a text if nothing but white space is behind it. -/
def whole (found : Value × List Point) : Except ReadError Value :=
  if (skip found.2).isEmpty then .ok found.1 else .error .malformed

theorem read_eq_bind (text : List Point) :
    Json.read text = (readValue {} 0 (text.length + 1) (skip text)).bind whole := rfl

/-- A text that is JSON is refused, or it is a value with white space around. -/
theorem read_cases {text : List Point} (h : Json.read text ≠ .error .malformed) :
    (∃ fault, readValue {} 0 (text.length + 1) (skip text) = .error (.refused fault) ∧
      Json.read text = .error (.refused fault)) ∨
    ∃ v after, readValue {} 0 (text.length + 1) (skip text) = .ok (v, after) ∧ skip after = [] ∧
      Json.read text = .ok v := by
  rw [read_eq_bind] at h ⊢
  cases hvalue : readValue {} 0 (text.length + 1) (skip text) with
  | error e =>
    rw [hvalue] at h
    cases e with
    | malformed => exact absurd rfl h
    | refused fault => exact .inl ⟨fault, rfl, rfl⟩
  | ok found =>
    obtain ⟨v, after⟩ := found
    rw [hvalue] at h
    have hend : skip after = [] := by
      refine Classical.byContradiction fun hne => h (if_neg ?_)
      rwa [List.isEmpty_iff]
    exact .inr ⟨v, after, rfl, hend, if_pos (List.isEmpty_iff.mpr hend)⟩

/-- What is read of a whole text is read of the last entry of an object that holds this text. -/
theorem readEntries_text (read : List (Wide × Value)) (key : Wide) {text rest : List Point}
    {depth fuel : Nat} (hfuel : text.length < fuel) (hjson : Json.read text ≠ .error .malformed) :
    readEntries {} depth (fuel + 1) read
        (quote key ++ .char ':' :: (text ++ .char '}' :: rest)) =
      (Json.read text).map fun v => (Entries.enter key v read, rest) := by
  have hends : Ends (.char '}' :: rest) := ends_cons (by simp) rest
  have hkeeps := keeps_readValue hends (Nat.succ_le_of_lt hfuel) 0 depth (skip text)
  have hstarts : skip text ≠ [] := by
    intro hnil
    refine hjson ?_
    rw [Json.read, readWithin, hnil, readValue_nil]
    rfl
  rw [readEntries_quote, skip_append hstarts]
  rcases read_cases hjson with ⟨fault, hvalue, hread⟩ | ⟨v, after, hvalue, hend, hread⟩
  · rw [hvalue] at hkeeps
    rw [hread, hkeeps (by simp)]
    rfl
  · rw [hvalue] at hkeeps
    have hclose : readEntriesAfter depth fuel (Entries.enter key v read)
        (after ++ .char '}' :: rest) = .ok (Entries.enter key v read, rest) := by
      unfold readEntriesAfter
      rw [skip_append_of_nil hend]
      rfl
    rw [hread, hkeeps (by simp)]
    exact hclose

end Json
end WebhookRelay
