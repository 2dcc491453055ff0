import WebhookRelay.Delivery.Target
import WebhookRelay.Proofs.Form.RoundTrip

/-! # Where the parameters of a request stand

A form is appended to the text of an endpoint, behind `&` if a question mark stands anywhere in
that text and behind `?` otherwise.  Read as a URL, the result has the form in its query, behind
the pairs that the endpoint has there already, if and only if no hash sign stands in the endpoint
(`Url.form_in_query_iff`).  A hash sign opens the fragment, which goes up to the end of the text,
so behind one the query stays what it was and the form is not sent.

Without a hash sign the first question mark of the endpoint is where its query starts, so the
test for one anywhere in the text is right.  It does not matter whether the query is empty or
ends with `&` already, since an empty piece of a query is no pair
(`Form.decode_append_cons`).  The URL that is requested has the same query, with some characters
escaped and none of those of the form (`Url.query_of_ofEndpoint`, `Url.escape_encode`).
-/

namespace WebhookRelay

/-! ## Forms behind others -/

namespace Form
open Text

/-- A query of two parts holds the pairs of the first and then those of the second one. -/
theorem decode_append_cons (front rest : List Char) :
    decode (front ++ '&' :: rest) = decode front ++ decode rest := by
  rw [decode, splitOn_append_cons, List.filter_append, List.map_append, ← decode, ← decode]

/-- A form is written without hash signs. -/
theorem hash_not_mem_encode (form : Form) : '#' ∉ form.encode := fun h =>
  absurd (mem_encode h) (by decide)

end Form

namespace Url
open Text

/-! ## Marks -/

variable {mark : Char} {front rest : List Char}

theorem splitMark_of_not_mem {s : List Char} (h : mark ∉ s) : splitMark mark s = (s, none) := by
  have hall : ∀ c ∈ s, decide (c ≠ mark) = true := fun c hc =>
    decide_eq_true fun heq => h (heq ▸ hc)
  have hdrop : (s ++ []).dropWhile (· ≠ mark) = [] := List.dropWhile_append_of_pos hall
  rw [List.append_nil] at hdrop
  rw [splitMark, hdrop]

/-- A text is split at the first mark. -/
theorem splitMark_append (h : mark ∉ front) (rest : List Char) :
    splitMark mark (front ++ mark :: rest) = (front, some rest) := by
  have hfront : ∀ c ∈ front, decide (c ≠ mark) = true := fun c hc =>
    decide_eq_true fun heq => h (heq ▸ hc)
  rw [splitMark, List.dropWhile_append_of_pos hfront, List.takeWhile_append_of_pos hfront]
  simp

/-! ## Queries of texts -/

/-- The query of a text that is read as a URL: what stands behind the first question mark, if
there is one before any hash sign, up to the first hash sign. -/
def queryOf (text : List Char) : Option (List Char) := (Parts.ofText text).query

/-- The pairs in the query of a text; without a query there are none. -/
def pairsOf (text : List Char) : Form := ((queryOf text).map Form.decode).getD []

theorem queryOf_eq (text : List Char) :
    queryOf text = (splitMark '?' (splitMark '#' text).1).2 := rfl

/-- What stands behind a hash sign is no part of the query. -/
theorem queryOf_append_of_mem {url : List Char} (h : '#' ∈ url) (rest : List Char) :
    queryOf (url ++ rest) = queryOf url := by
  obtain ⟨front, fragment, rfl, hfront⟩ := List.eq_append_cons_of_mem h
  rw [List.append_assoc, List.cons_append, queryOf_eq, queryOf_eq, splitMark_append hfront,
    splitMark_append hfront]

/-- The query starts behind the first question mark of a text without hash signs. -/
theorem queryOf_append_cons (hmark : '?' ∉ front) (hash : '#' ∉ front ++ '?' :: rest) :
    queryOf (front ++ '?' :: rest) = some rest := by
  rw [queryOf_eq, splitMark_of_not_mem hash, splitMark_append hmark]

theorem queryOf_of_not_mem {url : List Char} (hmark : '?' ∉ url) (hash : '#' ∉ url) :
    queryOf url = none := by
  rw [queryOf_eq, splitMark_of_not_mem hash, splitMark_of_not_mem hmark]

/-! ## Appended forms -/

/-- A query with a form behind it. -/
def extended (own : Option (List Char)) (form : Form) : List Char :=
  match own with
  | some query => query ++ '&' :: form.encode
  | none => form.encode

/-- It holds the pairs that were there, and then the form. -/
theorem decode_extended (own : Option (List Char)) (form : Form) :
    Form.decode (extended own form) = (own.map Form.decode).getD [] ++ form := by
  cases own with
  | none => exact form.decode_encode
  | some query => rw [extended, Form.decode_append_cons, Form.decode_encode]; rfl

theorem toList_withQuery (url : String) (form : Form) :
    (withQuery url form).toList =
      url.toList ++ (if '?' ∈ url.toList then '&' else '?') :: form.encode := by
  rw [withQuery, String.toList_append, String.toList_append, String.toList_ofList,
    List.append_assoc]
  simp only [List.contains_iff_mem]
  split <;> rfl

theorem hash_not_mem_withQuery {url : String} (hash : '#' ∉ url.toList) (form : Form) :
    '#' ∉ (withQuery url form).toList := by
  rw [toList_withQuery, List.mem_append, List.mem_cons, not_or, not_or]
  refine ⟨hash, ?_, form.hash_not_mem_encode⟩
  split <;> decide

/-- **Without a hash sign** in the endpoint its query is extended by the form. -/
theorem queryOf_withQuery {url : String} (hash : '#' ∉ url.toList) (form : Form) :
    queryOf (withQuery url form).toList = some (extended (queryOf url.toList) form) := by
  have hall := hash_not_mem_withQuery hash form
  rw [toList_withQuery] at hall ⊢
  by_cases hmark : '?' ∈ url.toList
  · obtain ⟨front, own, hurl, hfront⟩ := List.eq_append_cons_of_mem hmark
    rw [if_pos hmark, hurl, List.append_assoc, List.cons_append] at hall ⊢
    rw [hurl] at hash
    rw [queryOf_append_cons hfront hash, queryOf_append_cons hfront hall]
    rfl
  · rw [if_neg hmark] at hall ⊢
    rw [queryOf_of_not_mem hmark hash, queryOf_append_cons hmark hall]
    rfl

/-- **Behind a hash sign** the query stays what it was. -/
theorem queryOf_withQuery_of_mem {url : String} (hash : '#' ∈ url.toList) (form : Form) :
    queryOf (withQuery url form).toList = queryOf url.toList := by
  rw [toList_withQuery, queryOf_append_of_mem hash]

/-! ## Requested URLs -/

theorem isVisible_of_isAlphanum {c : Char} (h : c.isAlphanum = true) : isVisible c = true := by
  -- capital letters, small letters and digits
  have hranges : (decide (c.val ≥ 'A'.val ∧ c.val ≤ 'Z'.val) ||
      (c.val ≥ 'a'.val && c.val ≤ 'z'.val) || (c.val ≥ '0'.val && c.val ≤ '9'.val)) = true := h
  simp only [isVisible, Bool.or_eq_true, Bool.and_eq_true, decide_eq_true_eq, Char.le_def,
    ge_iff_le, UInt32.le_iff_toNat_le, Char.reduceVal, UInt32.toNat_ofNat] at hranges ⊢
  omega

/-- Letters and digits stand for themselves in a query. -/
theorem isQueryChar_of_isAlphanum {c : Char} (h : c.isAlphanum = true) :
    isQueryChar c = true := by
  have hmarks : "\"#<>".toList.contains c = false := by
    rw [← Bool.not_eq_true, List.contains_iff_mem]
    intro hmem
    have hnone : ("\"#<>".toList.all fun d => !d.isAlphanum) = true := by decide
    have hc := List.all_eq_true.mp hnone c hmem
    rw [h] at hc
    cases hc
  rw [isQueryChar, isVisible_of_isAlphanum h, hmarks]
  rfl

/-- Escaping once is escaping, since the percent sign and the digits stand for themselves. -/
theorem escape_escape (s : List Char) :
    escape isQueryChar (escape isQueryChar s) = escape isQueryChar s := by
  refine escape_eq_self fun c hc => ?_
  obtain ⟨d, -, hd⟩ := List.mem_flatMap.mp hc
  split at hd
  · rename_i hplain
    rw [List.mem_singleton.mp hd]
    exact hplain
  · rcases Percent.mem_encodeChar hd with rfl | halphanum
    · decide
    · exact isQueryChar_of_isAlphanum halphanum

/-- No character of a form is escaped in a query. -/
theorem escape_encode (form : Form) : escape isQueryChar form.encode = form.encode :=
  escape_eq_self fun c hc => by
    rcases Form.mem_encode hc with halphanum | hsign
    · exact isQueryChar_of_isAlphanum halphanum
    · exact List.all_eq_true.mp (show Form.signs.all isQueryChar = true by decide) c hsign

/-- The URL of some parts has their query, with some characters escaped. -/
theorem query_of_ofParts {parts : Parts} {u : Url} (h : ofParts parts = .ok u) :
    u.query = parts.query.map (escape isQueryChar) := by
  simp only [ofParts, bind, Except.bind, pure, Except.pure] at h
  split at h
  · cases h
  · split at h
    · cases h
    · split at h
      · cases h
      · rw [← Except.ok.inj h]

theorem query_of_ofText {text : List Char} {u : Url} (h : ofText text = .ok u) :
    u.query = (queryOf text).map (escape isQueryChar) := by
  rw [ofText] at h
  split at h
  · cases h
  · split at h
    · cases h
    · exact query_of_ofParts h

/-- A URL that has lost its scheme and its host keeps its query. -/
theorem query_of_rooted {u v : Url} (h : u.rooted = .ok v) :
    v.query = u.query.map (escape isQueryChar) := by
  rw [rooted, rebuild] at h
  split at h
  · cases h
  · cases h
  · exact query_of_ofParts h

/-- **The URL that is requested first** has the query of the text, with some characters
escaped. -/
theorem query_of_ofEndpoint {text : List Char} {u : Url} (h : ofEndpoint text = .ok u) :
    u.query = (queryOf text).map (escape isQueryChar) := by
  simp only [ofEndpoint, bind, Except.bind] at h
  split at h
  · cases h
  · rename_i v hv
    have hquery := query_of_ofText hv
    split at h
    · rw [← Except.ok.inj h, hquery]
    · rw [query_of_rooted h, hquery, Option.map_map]
      exact congrArg (Option.map · (queryOf text)) (funext escape_escape)

/-- So the query that is requested ends with the form, if the query of the text does. -/
theorem exists_escape_extended (own : Option (List Char)) (form : Form) :
    ∃ before, Form.decode (escape isQueryChar (extended own form)) = before ++ form := by
  cases own with
  | none => exact ⟨[], by rw [extended, escape_encode, form.decode_encode, List.nil_append]⟩
  | some query =>
    refine ⟨Form.decode (escape isQueryChar query), ?_⟩
    have hescape : escape isQueryChar (query ++ '&' :: form.encode) =
        escape isQueryChar query ++ '&' :: form.encode := by
      rw [escape, List.flatMap_append, List.flatMap_cons, ← escape, ← escape, escape_encode]
      rfl
    rw [extended, hescape, Form.decode_append_cons, Form.decode_encode]

/-- **Whether the parameters of a request stand in its query.**  Read as a URL, an endpoint with
a form behind it has a query that holds the pairs of the query of the endpoint and then those of
the form, if and only if no hash sign stands in the endpoint.  With one, the query is that of the
endpoint alone; without one, the URL that is requested first has the form at the end of its
query. -/
theorem form_in_query_iff (url : String) {form : Form} (hform : form ≠ []) :
    ((∃ query, queryOf (withQuery url form).toList = some query ∧
      Form.decode query = pairsOf url.toList ++ form) ↔ '#' ∉ url.toList) ∧
    ('#' ∈ url.toList → queryOf (withQuery url form).toList = queryOf url.toList) ∧
    ∀ u, '#' ∉ url.toList → ofEndpoint (withQuery url form).toList = .ok u →
      ∃ query before, u.query = some query ∧ Form.decode query = before ++ form := by
  refine ⟨⟨?_, fun hash => ?_⟩, fun hash => queryOf_withQuery_of_mem hash form,
    fun u hash hu => ?_⟩
  · rintro ⟨query, hquery, hpairs⟩ hash
    -- the query holds the pairs of the endpoint, so there is no form behind them
    rw [queryOf_withQuery_of_mem hash] at hquery
    rw [pairsOf, hquery, Option.map_some, Option.getD_some] at hpairs
    exact hform (List.append_right_eq_self.mp hpairs.symm)
  · exact ⟨_, queryOf_withQuery hash form, decode_extended _ form⟩
  · obtain ⟨before, hbefore⟩ := exists_escape_extended (queryOf url.toList) form
    have hquery := query_of_ofEndpoint hu
    rw [queryOf_withQuery hash, Option.map_some] at hquery
    exact ⟨_, before, hquery, hbefore⟩

/-- An endpoint that has a query already, with a separator at its end. -/
theorem form_in_query_iff_separated :
    let form : Form := [("title", "a&b"), ("body", "")]
    form ≠ [] ∧ '#' ∉ "https://x/y?a=1&".toList ∧
      ∃ query, queryOf (withQuery "https://x/y?a=1&" form).toList = some query ∧
        Form.decode query = [("a", "1"), ("title", "a&b"), ("body", "")] := by
  intro form
  have hform : form ≠ [] := List.cons_ne_nil _ _
  have hash : '#' ∉ "https://x/y?a=1&".toList := by decide
  obtain ⟨hiff, -⟩ := form_in_query_iff "https://x/y?a=1&" hform
  obtain ⟨query, hquery, hpairs⟩ := hiff.mpr hash
  exact ⟨hform, hash, query, hquery, hpairs⟩

/-- Behind a fragment a form is no query, with or without a question mark in the fragment. -/
theorem form_behind_fragment :
    queryOf (withQuery "https://x/y#f" [("title", "t")]).toList = none ∧
      queryOf (withQuery "https://x/y?a=1#f?g" [("title", "t")]).toList = some "a=1".toList := by
  decide

end Url
end WebhookRelay
