import WebhookRelay.Proofs.Text.Percent
import WebhookRelay.Proofs.Text.Scanning
import WebhookRelay.Url.Query

/-! # Queries carry forms

A form that is appended to a URL as its query is read back from there, whatever its keys
and values hold (`Url.carries_withQuery`).  Three things work together.  Each character of
a key or a value is written so that it is read back as its bytes
(`Form.decodeText_encodeText`).  What is written holds neither of the two separators, so
the pieces are found again (`Form.splitOn_encode`, `Form.decodePair_encodePair`).  And the
query holds nothing but letters, digits and a few signs (`Form.mem_encode`).
-/

namespace WebhookRelay

namespace Form
open Text

/-! ## Keys and values -/

/-- The signs that stand in a query besides letters and digits. -/
def signs : List Char := ['_', '.', '-', '~', '+', '%', '&', '=']

/-- A plain character is no sign of its own. -/
theorem ne_of_isPlain {c : Char} (h : isPlain c = true) :
    c ≠ '%' ∧ c ≠ '+' ∧ c ≠ '&' ∧ c ≠ '=' := by
  refine ⟨?_, ?_, ?_, ?_⟩ <;> rintro rfl <;> exact absurd h (by decide)

/-- What a character is written with: plain characters and the signs of the escapes. -/
theorem mem_encodeChar {c d : Char} (h : d ∈ encodeChar c) :
    isPlain d = true ∨ d = '+' ∨ d = '%' := by
  rw [encodeChar] at h
  split at h
  · rename_i hplain
    obtain rfl := List.mem_singleton.mp h
    exact Or.inl hplain
  · split at h
    · exact Or.inr (Or.inl (List.mem_singleton.mp h))
    · rcases Percent.mem_encodeChar h with hpercent | halphanum
      · exact Or.inr (Or.inr hpercent)
      · exact Or.inl (by simp [isPlain, halphanum])

theorem mem_encodeText {s : String} {d : Char} (h : d ∈ encodeText s) :
    isPlain d = true ∨ d = '+' ∨ d = '%' := by
  obtain ⟨c, -, hd⟩ := List.mem_flatMap.mp h
  exact mem_encodeChar hd

/-- No separator stands in a key or a value. -/
theorem not_mem_encodeText {d : Char} (h : isPlain d = false ∧ d ≠ '+' ∧ d ≠ '%') (s : String) :
    d ∉ encodeText s := by
  obtain ⟨hsign, hplus, hpercent⟩ := h
  intro hmem
  rcases mem_encodeText hmem with hplain | heq | heq
  · rw [hsign] at hplain
    cases hplain
  · exact hplus heq
  · exact hpercent heq

/-- A text with spaces for its pluses. -/
def unplus (s : List Char) : List Char := s.map fun c => if c = '+' then ' ' else c

/-- A text without pluses stays as it is. -/
theorem unplus_eq_self {s : List Char} (h : '+' ∉ s) : unplus s = s := by
  refine (List.map_congr_left fun c hc => ?_).trans (List.map_id s)
  refine if_neg ?_
  rintro rfl
  exact h hc

/-- The escapes of a character hold no plus. -/
theorem plus_not_mem_encodeChar (c : Char) : '+' ∉ Percent.encodeChar c := by
  intro h
  rcases Percent.mem_encodeChar h with heq | halphanum
  · exact absurd heq (by decide)
  · exact absurd halphanum (by decide)

/-- **A character is read back as its bytes**, whatever follows. -/
theorem decodeBytes_encodeChar (c : Char) (rest : List Char) :
    Percent.decodeBytes (unplus (encodeChar c) ++ rest) =
      String.utf8EncodeChar c ++ Percent.decodeBytes rest := by
  rw [encodeChar]
  split
  · rename_i hplain
    obtain ⟨hpercent, hplus, -⟩ := ne_of_isPlain hplain
    have hself : unplus [c] = [c] :=
      unplus_eq_self fun h => hplus (List.mem_singleton.mp h).symm
    rw [hself, List.singleton_append, Percent.decodeBytes_cons hpercent]
  · split
    · rename_i hspace
      subst hspace
      change Percent.decodeBytes (' ' :: rest) = _
      rw [Percent.decodeBytes_cons (by decide)]
    · rw [unplus_eq_self (plus_not_mem_encodeChar c), Percent.encodeChar,
        Percent.decodeBytes_encodeBytes]

/-- A key or a value is read back as its bytes. -/
theorem decodeBytes_encodeText (s : List Char) :
    Percent.decodeBytes (unplus (s.flatMap encodeChar)) = Utf8.encode s := by
  induction s with
  | nil => rfl
  | cons c s ih =>
    rw [List.flatMap_cons, unplus, List.map_append, ← unplus, ← unplus, decodeBytes_encodeChar, ih]
    rfl

theorem decodeText_encodeText (s : String) : decodeText (encodeText s) = s := by
  have hbytes := decodeBytes_encodeText s.toList
  rw [decodeText, ← unplus, Percent.decode, encodeText, hbytes, Utf8.decode_encode,
    String.ofList_toList]

/-! ## Pairs and forms -/

theorem decodePair_encodePair (pair : String × String) : decodePair (encodePair pair) = pair := by
  rw [decodePair, encodePair, cutChar_append (not_mem_encodeText (by decide) pair.1)]
  simp only [decodeText_encodeText]

theorem not_mem_encodePair (pair : String × String) : '&' ∉ encodePair pair := by
  intro h
  rcases List.mem_append.mp h with hkey | hvalue
  · exact not_mem_encodeText (by decide) pair.1 hkey
  · rcases List.mem_cons.mp hvalue with heq | hvalue
    · exact absurd heq (by decide)
    · exact not_mem_encodeText (by decide) pair.2 hvalue

theorem encodePair_ne_nil (pair : String × String) : encodePair pair ≠ [] :=
  List.append_ne_nil_of_right_ne_nil _ (List.cons_ne_nil _ _)

/-- The pieces of a form are the pairs as they were written. -/
theorem splitOn_encode {form : Form} (h : form ≠ []) :
    splitOn '&' form.encode = form.map encodePair := by
  rw [encode]
  refine splitOn_intercalate (by simpa using h) fun piece hpiece => ?_
  obtain ⟨pair, -, rfl⟩ := List.mem_map.mp hpiece
  exact not_mem_encodePair pair

theorem map_decodePair_encodePair (form : Form) : (form.map encodePair).map decodePair = form := by
  rw [List.map_map]
  exact (List.map_congr_left fun pair _ => decodePair_encodePair pair).trans (List.map_id form)

/-- **A form reads back**, also the empty one. -/
theorem decode_encode (form : Form) : decode form.encode = form := by
  by_cases hform : form = []
  · subst hform
    rfl
  · have hall : ∀ piece ∈ form.map encodePair, (!piece.isEmpty) = true := by
      intro piece hpiece
      obtain ⟨pair, -, rfl⟩ := List.mem_map.mp hpiece
      simpa using encodePair_ne_nil pair
    rw [decode, splitOn_encode hform, List.filter_eq_self.mpr hall, map_decodePair_encodePair]

/-- A form is written with letters, digits and signs of the basic alphabet. -/
theorem mem_encode {form : Form} {c : Char} (h : c ∈ form.encode) :
    c.isAlphanum = true ∨ c ∈ signs := by
  have htext : ∀ s : String, c ∈ encodeText s → c.isAlphanum = true ∨ c ∈ signs := by
    intro s hs
    rcases mem_encodeText hs with hplain | rfl | rfl
    · simp only [isPlain, Bool.or_eq_true, decide_eq_true_eq] at hplain
      rcases hplain with (((halphanum | rfl) | rfl) | rfl) | rfl
      · exact Or.inl halphanum
      all_goals exact Or.inr (by decide)
    all_goals exact Or.inr (by decide)
  induction form with
  | nil => exact absurd h List.not_mem_nil
  | cons pair form ih =>
    have hpair : c ∈ encodePair pair → c.isAlphanum = true ∨ c ∈ signs := by
      intro hc
      rcases List.mem_append.mp hc with hkey | hvalue
      · exact htext _ hkey
      · rcases List.mem_cons.mp hvalue with rfl | hvalue
        · exact Or.inr (by decide)
        · exact htext _ hvalue
    cases form with
    | nil =>
      rw [encode, List.map_singleton, List.intercalate_singleton] at h
      exact hpair h
    | cons next form =>
      rw [encode, List.map_cons, List.map_cons, List.intercalate_cons_cons, ← List.map_cons,
        ← encode, List.append_assoc] at h
      rcases List.mem_append.mp h with hc | hrest
      · exact hpair hc
      · rcases List.mem_append.mp hrest with hsign | hlater
        · obtain rfl := List.mem_singleton.mp hsign
          exact Or.inr (by decide)
        · exact ih hlater

end Form

/-! ## Queries -/

namespace Url
open Text

/-- A text is a URL with a form behind it: a separator, and a query of basic characters
whose pieces are read as the pairs of the form. -/
def Carries (text url : String) (form : Form) : Prop :=
  ∃ query : List Char,
    text = url ++ (if '?' ∈ url.toList then "&" else "?") ++ String.ofList query ∧
    (∀ c ∈ query, c.isAlphanum = true ∨ c ∈ Form.signs) ∧
    (splitOn '&' query).map Form.decodePair = form ∧ Form.decode query = form

theorem carries_withQuery (url : String) {form : Form} (h : form ≠ []) :
    Carries (withQuery url form) url form := by
  refine ⟨form.encode, ?_, fun c => Form.mem_encode, ?_, form.decode_encode⟩
  · simp only [withQuery, List.contains_iff_mem]
  · rw [Form.splitOn_encode h, Form.map_decodePair_encodePair]

end Url
end WebhookRelay
