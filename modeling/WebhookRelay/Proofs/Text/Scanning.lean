import WebhookRelay.Text.Blank
import WebhookRelay.Text.Quotes
import WebhookRelay.Text.Split

/-! # What the scanners find

Texts are taken apart by three scanners: trimming, the cut at the first occurrence
of a token, and the cut at the first character outside of quotes.  Each of them undoes
a way of putting a text together, and this is what is proved of them here.

* Trimming gives back a text that neither starts nor ends with a blank from between
  runs of blanks (`Padding.trim_around`).
* A cut at a token gives back the two texts around it, if the token does not occur in
  the first one and cannot straddle its end (`cut?_append`).
* A cut at a character outside of quotes gives back the two texts around it, if the
  first one is closed and does not hold the character outside of quotes
  (`Passes.cutUnquoted?_append`).  Texts like that are put together from plain texts
  and quoted ones.
-/

namespace WebhookRelay
namespace Text

/-! ## Trimming -/

/-- A text that is not empty and neither starts nor ends with a blank. -/
structure Solid (s : List Char) : Prop where
  starts : ∃ c rest, s = c :: rest ∧ isBlank c = false
  ends : ∃ front c, s = front ++ [c] ∧ isBlank c = false

namespace Solid

theorem ne_nil {s : List Char} (h : Solid s) : s ≠ [] := by
  obtain ⟨c, rest, rfl, _⟩ := h.starts
  exact List.cons_ne_nil c rest

/-- A text without blanks is solid. -/
theorem of_forall {s : List Char} (hne : s ≠ []) (h : ∀ c ∈ s, isBlank c = false) : Solid s where
  starts := by
    obtain ⟨c, rest, rfl⟩ := List.exists_cons_of_ne_nil hne
    exact ⟨c, rest, rfl, h c List.mem_cons_self⟩
  ends := ⟨s.dropLast, s.getLast hne, (List.dropLast_concat_getLast hne).symm,
    h _ (List.getLast_mem hne)⟩

/-- Only the ends of a text decide whether it is solid. -/
theorem enclose {s t : List Char} (hs : Solid s) (middle : List Char) (ht : Solid t) :
    Solid (s ++ middle ++ t) where
  starts := by
    obtain ⟨c, rest, rfl, hc⟩ := hs.starts
    exact ⟨c, rest ++ middle ++ t, rfl, hc⟩
  ends := by
    obtain ⟨front, c, rfl, hc⟩ := ht.ends
    exact ⟨s ++ middle ++ front, c, (List.append_assoc ..).symm, hc⟩

theorem trimStart_append {s : List Char} (h : Solid s) (t : List Char) :
    trimStart (s ++ t) = s ++ t := by
  obtain ⟨c, rest, rfl, hc⟩ := h.starts
  exact trimStart_cons_solid hc (rest ++ t)

theorem trimEnd_eq {s : List Char} (h : Solid s) : trimEnd s = s := by
  obtain ⟨front, c, rfl, hc⟩ := h.ends
  exact trimEnd_concat_solid hc front

end Solid

theorem trimStart_blanks_append {b : List Char} (hb : ∀ c ∈ b, isBlank c = true)
    (s : List Char) : trimStart (b ++ s) = trimStart s :=
  List.dropWhile_append_of_pos hb

theorem trimEnd_append_blanks {b : List Char} (hb : ∀ c ∈ b, isBlank c = true)
    (s : List Char) : trimEnd (s ++ b) = trimEnd s := by
  have hrev : ∀ c ∈ b.reverse, isBlank c = true := fun c hc => hb c (List.mem_reverse.mp hc)
  rw [trimEnd, trimEnd, List.reverse_append, List.dropWhile_append_of_pos hrev]

/-- The runs of blanks on both sides of a text. -/
structure Padding where
  before : List Char := []
  after : List Char := []
  all_before : before.all isBlank = true := by decide
  all_after : after.all isBlank = true := by decide

namespace Padding

theorem blank_before (p : Padding) : ∀ c ∈ p.before, isBlank c = true :=
  List.all_eq_true.mp p.all_before

theorem blank_after (p : Padding) : ∀ c ∈ p.after, isBlank c = true :=
  List.all_eq_true.mp p.all_after

/-- A text with the runs of blanks around it. -/
def around (p : Padding) (s : List Char) : List Char := p.before ++ s ++ p.after

/-- **Trimming takes off the padding and nothing else.** -/
theorem trim_around (p : Padding) {s : List Char} (h : Solid s) : trim (p.around s) = s := by
  rw [around, trim, List.append_assoc, trimStart_blanks_append p.blank_before,
    h.trimStart_append, trimEnd_append_blanks p.blank_after, h.trimEnd_eq]

end Padding

theorem trim_solid {s : List Char} (h : Solid s) : trim s = s := by
  simpa [Padding.around] using Padding.trim_around {} h

/-! ## Tokens -/

/-- A cut fails only if the token does not occur. -/
theorem cut?_eq_none_iff {token s : List Char} : cut? token s = none ↔ ¬ token <:+: s := by
  induction s with
  | nil => simp [cut?, List.prefix_nil]
  | cons c rest ih =>
    rw [cut?, List.infix_cons_iff]
    by_cases h : token <+: c :: rest
    · simp [h]
    · simp [h, ih]

/-- What a text starts with cannot reach beyond a part whose last character it does not
hold. -/
theorem prefix_of_prefix_append {token front rest : List Char} (hne : front ≠ [])
    (hlast : front.getLast hne ∉ token) (h : token <+: front ++ rest) : token <+: front := by
  rcases Nat.le_total token.length front.length with hle | hle
  · exact List.prefix_of_prefix_length_le h (List.prefix_append front rest) hle
  · have hfront : front <+: token :=
      List.prefix_of_prefix_length_le (List.prefix_append front rest) h hle
    exact absurd (hfront.subset (List.getLast_mem hne)) hlast

/-- A token that does not hold the last character of a part does not straddle its
end. -/
theorem infix_append_of_last {token front rest : List Char}
    (hlast : ∀ c, front.getLast? = some c → c ∉ token) (h : token <:+: front ++ rest) :
    token <:+: front ∨ token <:+: rest := by
  induction front with
  | nil => exact Or.inr h
  | cons c front ih =>
    rcases List.infix_cons_iff.mp h with hpre | hinf
    · have hne : c :: front ≠ [] := List.cons_ne_nil c front
      have hnot := hlast _ (List.getLast?_eq_some_getLast hne)
      exact Or.inl (prefix_of_prefix_append hne hnot hpre).isInfix
    · have htail : ∀ d, front.getLast? = some d → d ∉ token := by
        intro d hd
        exact hlast d (by rw [List.getLast?_cons, hd]; rfl)
      exact (ih htail hinf).imp_left List.infix_cons

/-- A token that does not hold the first character of a part does not straddle its
start. -/
theorem infix_append_of_first {token front rest : List Char}
    (hfirst : ∀ c, rest.head? = some c → c ∉ token) (h : token <:+: front ++ rest) :
    token <:+: front ∨ token <:+: rest := by
  have hrev : token.reverse <:+: rest.reverse ++ front.reverse := by
    rw [← List.reverse_append]
    exact List.reverse_infix.mpr h
  have hlast : ∀ c, rest.reverse.getLast? = some c → c ∉ token.reverse := by
    intro c hc
    rw [List.getLast?_reverse] at hc
    exact fun hmem => hfirst c hc (List.mem_reverse.mp hmem)
  rcases infix_append_of_last hlast hrev with hinf | hinf
  · exact Or.inr (List.reverse_infix.mp hinf)
  · exact Or.inl (List.reverse_infix.mp hinf)

/-- **A cut finds a token behind a text that does not hold it.** -/
theorem cut?_append {token front : List Char} (hfree : ¬ token <:+: front)
    (hlast : ∀ c, front.getLast? = some c → c ∉ token) (rest : List Char) :
    cut? token (front ++ (token ++ rest)) = some (front, rest) := by
  induction front with
  | nil =>
    have hpre : token.isPrefixOf (token ++ rest) = true :=
      List.isPrefixOf_iff_prefix.mpr (List.prefix_append token rest)
    rw [List.nil_append, cut?.eq_def, if_pos hpre, List.drop_left]
  | cons c front ih =>
    have hne : c :: front ≠ [] := List.cons_ne_nil c front
    have hnot : ¬ token <+: c :: front ++ (token ++ rest) := fun hpre =>
      hfree (prefix_of_prefix_append hne (hlast _ (List.getLast?_eq_some_getLast hne))
        hpre).isInfix
    have htail : ∀ d, front.getLast? = some d → d ∉ token := by
      intro d hd
      exact hlast d (by rw [List.getLast?_cons, hd]; rfl)
    have hcut := ih (fun hinf => hfree (List.infix_cons hinf)) htail
    rw [List.cons_append] at hnot ⊢
    rw [cut?, if_neg (fun hpre => hnot (List.isPrefixOf_iff_prefix.mp hpre)), hcut]
    rfl

/-! ## Separators -/

/-- A text without the separator is a single part. -/
theorem splitOn_of_not_mem {separator : Char} {s : List Char} (h : separator ∉ s) :
    splitOn separator s = [s] := by
  induction s with
  | nil => rfl
  | cons c rest ih =>
    obtain ⟨hne, hrest⟩ := List.ne_and_not_mem_of_not_mem_cons h
    simp [splitOn, ih hrest, Ne.symm hne]

/-- The parts of two texts with a separator between them are those of one and of the other. -/
theorem splitOn_append_cons (separator : Char) (front rest : List Char) :
    splitOn separator (front ++ separator :: rest) =
      splitOn separator front ++ splitOn separator rest := by
  induction front with
  | nil =>
    obtain ⟨part, parts, hparts⟩ := List.exists_cons_of_ne_nil (splitOn_ne_nil separator rest)
    simp only [List.nil_append, splitOn, hparts, if_true]
    rfl
  | cons c front ih =>
    obtain ⟨part, parts, hparts⟩ := List.exists_cons_of_ne_nil (splitOn_ne_nil separator front)
    simp only [List.cons_append, splitOn, ih, hparts]
    split <;> rfl

/-- What stands before the first separator is the first part. -/
theorem splitOn_append {separator : Char} {front : List Char} (h : separator ∉ front)
    (rest : List Char) :
    splitOn separator (front ++ separator :: rest) = front :: splitOn separator rest := by
  rw [splitOn_append_cons, splitOn_of_not_mem h, List.singleton_append]

/-- A part between separators holds characters of the text, and no separator. -/
theorem mem_of_mem_splitOn {separator : Char} {s part : List Char} {c : Char}
    (hpart : part ∈ splitOn separator s) (hc : c ∈ part) : c ∈ s ∧ c ≠ separator := by
  induction s generalizing part with
  | nil =>
    obtain rfl := List.mem_singleton.mp hpart
    cases hc
  | cons d s ih =>
    rw [splitOn] at hpart
    split at hpart
    · obtain rfl := List.mem_singleton.mp hpart
      cases hc
    · rename_i first later hsplit
      rw [hsplit] at ih
      split at hpart
      · rcases List.mem_cons.mp hpart with rfl | hpart
        · cases hc
        · obtain ⟨hmem, hne⟩ := ih hpart hc
          exact ⟨List.mem_cons_of_mem d hmem, hne⟩
      · rename_i hd
        rcases List.mem_cons.mp hpart with rfl | hpart
        · rcases List.mem_cons.mp hc with rfl | hc
          · exact ⟨List.mem_cons_self, hd⟩
          · obtain ⟨hmem, hne⟩ := ih List.mem_cons_self hc
            exact ⟨List.mem_cons_of_mem d hmem, hne⟩
        · obtain ⟨hmem, hne⟩ := ih (List.mem_cons_of_mem first hpart) hc
          exact ⟨List.mem_cons_of_mem d hmem, hne⟩

/-- Splitting undoes putting the separator between parts that do not hold it. -/
theorem splitOn_intercalate {separator : Char} {parts : List (List Char)} (hne : parts ≠ [])
    (h : ∀ part ∈ parts, separator ∉ part) :
    splitOn separator ([separator].intercalate parts) = parts := by
  induction parts with
  | nil => exact absurd rfl hne
  | cons part parts ih =>
    have hpart := h part List.mem_cons_self
    cases parts with
    | nil =>
      rw [List.intercalate_singleton]
      exact splitOn_of_not_mem hpart
    | cons next parts =>
      have hparts := ih (List.cons_ne_nil next parts) fun other hother =>
        h other (List.mem_cons_of_mem part hother)
      rw [List.intercalate_cons_cons, List.append_assoc, List.singleton_append,
        splitOn_append hpart, hparts]

/-- What is put together with a separator holds the separator and characters of the parts. -/
theorem mem_intercalate {separator c : Char} {parts : List (List Char)}
    (h : c ∈ [separator].intercalate parts) : c = separator ∨ ∃ part ∈ parts, c ∈ part := by
  induction parts with
  | nil => cases h
  | cons part parts ih =>
    cases parts with
    | nil =>
      rw [List.intercalate_singleton] at h
      exact Or.inr ⟨part, List.mem_cons_self, h⟩
    | cons next parts =>
      rw [List.intercalate_cons_cons, List.append_assoc, List.mem_append, List.mem_append,
        List.mem_singleton] at h
      rcases h with h | h | h
      · exact Or.inr ⟨part, List.mem_cons_self, h⟩
      · exact Or.inl h
      · obtain hsep | ⟨other, hother, hc⟩ := ih h
        · exact Or.inl hsep
        · exact Or.inr ⟨other, List.mem_cons_of_mem part hother, hc⟩

/-- A cut finds a character behind a text that does not hold it. -/
theorem cutChar_append {c : Char} {front : List Char} (h : c ∉ front) (rest : List Char) :
    cutChar c (front ++ c :: rest) = (front, rest) := by
  have hall : ∀ d ∈ front, (decide (d ≠ c)) = true := by
    intro d hd
    exact decide_eq_true fun e => h (e ▸ hd)
  rw [cutChar, List.takeWhile_append_of_pos hall, List.dropWhile_append_of_pos hall]
  simp

/-- A cut leaves a text as it is that does not hold the character. -/
theorem cutChar_of_not_mem {c : Char} {s : List Char} (h : c ∉ s) : cutChar c s = (s, []) := by
  induction s with
  | nil => rfl
  | cons d s ih =>
    obtain ⟨hd, hs⟩ := List.ne_and_not_mem_of_not_mem_cons h
    obtain ⟨hbefore, hafter⟩ := Prod.mk.inj (ih hs)
    have hkept : decide (d ≠ c) = true := decide_eq_true hd.symm
    simp only [cutChar, List.takeWhile_cons, List.dropWhile_cons, hkept, if_true, hbefore, hafter]

/-! ## Quotes -/

theorem quoteAtEnd_append (opened : Option Char) (s t : List Char) :
    quoteAtEnd opened (s ++ t) = quoteAtEnd (quoteAtEnd opened s) t :=
  List.foldl_append

/-- A text without the character outside of quotes is passed over. -/
theorem cutUnquoted?_append {target : Char} {opened : Option Char} {s : List Char}
    (h : cutUnquoted? target opened s = none) (t : List Char) :
    cutUnquoted? target opened (s ++ t) =
      (cutUnquoted? target (quoteAtEnd opened s) t).map
        fun (before, after) => (s ++ before, after) := by
  induction s generalizing opened with
  | nil => simp [quoteAtEnd]
  | cons c rest ih =>
    rw [cutUnquoted?] at h
    split at h
    · cases h
    · rename_i hc
      have hrest := ih (Option.map_eq_none_iff.mp h)
      rw [List.cons_append, cutUnquoted?, if_neg hc, hrest, Option.map_map]
      rfl

/-- A closed text that does not hold a character outside of quotes. -/
structure Passes (target : Char) (s : List Char) : Prop where
  unmarked : cutUnquoted? target none s = none
  closed : Closed s

namespace Passes

variable {target : Char}

theorem append {s t : List Char} (hs : Passes target s) (ht : Passes target t) :
    Passes target (s ++ t) where
  unmarked := by
    rw [cutUnquoted?_append hs.unmarked, show quoteAtEnd none s = none from hs.closed,
      ht.unmarked]
    rfl
  closed := by
    rw [Closed, quoteAtEnd_append, show quoteAtEnd none s = none from hs.closed]
    exact ht.closed

/-- A text without quotes and without the character. -/
theorem of_plain {s : List Char} (h : ∀ c ∈ s, isQuote c = false ∧ c ≠ target) :
    Passes target s := by
  induction s with
  | nil => exact ⟨rfl, rfl⟩
  | cons c rest ih =>
    obtain ⟨hquote, hne⟩ := h c List.mem_cons_self
    obtain ⟨hun, hcl⟩ := ih fun d hd => h d (List.mem_cons_of_mem c hd)
    have hafter : quoteAfter none c = none := by simp [quoteAfter, hquote]
    refine ⟨?_, ?_⟩
    · rw [cutUnquoted?, if_neg (by simp [hne]), hafter, hun]
      rfl
    · rw [Closed, quoteAtEnd, List.foldl_cons, hafter]
      exact hcl

/-- Inside of quotes nothing is found, and they stay open until their like. -/
theorem inside (target : Char) {q : Char} {content : List Char} (h : q ∉ content) :
    cutUnquoted? target (some q) content = none ∧ quoteAtEnd (some q) content = some q := by
  induction content with
  | nil => exact ⟨rfl, rfl⟩
  | cons c rest ih =>
    obtain ⟨hne, hrest⟩ := List.ne_and_not_mem_of_not_mem_cons h
    obtain ⟨hcut, hend⟩ := ih hrest
    have hafter : quoteAfter (some q) c = some q := by simp [quoteAfter, Ne.symm hne]
    refine ⟨?_, ?_⟩
    · rw [cutUnquoted?, if_neg (by simp), hafter, hcut]
      rfl
    · rw [quoteAtEnd, List.foldl_cons, hafter]
      exact hend

/-- A quoted text, whatever is inside the quotes. -/
theorem of_quoted {q : Char} (hq : isQuote q = true) {content : List Char} (h : q ∉ content) :
    Passes target (q :: (content ++ [q])) := by
  obtain ⟨hcut, hend⟩ := inside target h
  have hopen : quoteAfter none q = some q := by simp [quoteAfter, hq]
  have hclose : quoteAfter (some q) q = none := by simp [quoteAfter]
  refine ⟨?_, ?_⟩
  · rw [cutUnquoted?, if_neg (by simp [hq]), hopen, cutUnquoted?_append hcut, hend,
      cutUnquoted?, if_neg (by simp), hclose]
    rfl
  · rw [Closed, quoteAtEnd, List.foldl_cons, hopen]
    change quoteAtEnd (some q) (content ++ [q]) = none
    rw [quoteAtEnd_append, hend, quoteAtEnd, List.foldl_cons, hclose]
    rfl

/-- **A cut outside of quotes finds the character behind a text that it passes over.** -/
theorem cutUnquoted?_append {s : List Char} (h : Passes target s)
    (htarget : isQuote target = false) (t : List Char) :
    cutUnquoted? target none (s ++ target :: t) = some (s, t) := by
  rw [Text.cutUnquoted?_append h.unmarked, show quoteAtEnd none s = none from h.closed,
    cutUnquoted?, if_pos (by simp [htarget])]
  simp

end Passes
end Text
end WebhookRelay
