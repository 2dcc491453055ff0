import Mathlib.Data.List.Forall2
import WebhookRelay.Template

/-! # The one way to take a template apart

What a template means is said of its **decompositions**: sequences of literals that hold
no `${`, placeholders whose bodies hold no closing brace, and at most one `${` that is
never closed, at the end, such that no literal follows another.  Every text has exactly
one decomposition, and it is the one that the scanner finds
(`decomposition_segments`, `segments_written`).

Rendering is then a matter of the single segments.  `Segment.RendersTo` says what each
of them becomes; literals and the unclosed end stand for themselves, a path for the text
of its value, and any other body for the text of its value if that is truthy.  A template
renders to what its segments render to, one after the other
(`render_eq_ok_iff`).  In particular nothing that is inserted is looked at again.
-/

namespace WebhookRelay
namespace Template

/-! ## Decompositions -/

/-- The characters that open a placeholder. -/
def opening : List Char := ['$', '{']

/-- Sequences of segments that a text can be taken apart into. -/
inductive Decomposition : List Segment → Prop where
  | nil : Decomposition []
  | unclosed {body : List Char} (closed : '}' ∉ body) : Decomposition [.unclosed body]
  | placeholder {body : List Char} {rest : List Segment} (closed : '}' ∉ body)
      (more : Decomposition rest) : Decomposition (.placeholder body :: rest)
  | literal {text : List Char} {rest : List Segment} (solid : text ≠ [])
      (plain : ¬ opening <:+: text) (next : ∀ other, rest.head? ≠ some (.literal other))
      (more : Decomposition rest) : Decomposition (.literal text :: rest)

/-- The text that segments make up. -/
def written (segs : List Segment) : List Char := segs.flatMap Segment.written

theorem written_cons (seg : Segment) (rest : List Segment) :
    written (seg :: rest) = seg.written ++ written rest := rfl

/-! ## Scanning a decomposition -/

/-- A literal takes in a character unless a placeholder opens with it. -/
theorem segmentsFrom_literal_cons {c : Char} {rest : List Char}
    (h : ¬ opening <+: c :: rest) (reversed : List Char) :
    segmentsFrom (.literal reversed) (c :: rest) =
      segmentsFrom (.literal (c :: reversed)) rest := by
  rw [segmentsFrom]
  rintro tail rfl rfl
  exact h ⟨tail, rfl⟩

/-- A literal takes in a text that opens no placeholder. -/
theorem segmentsFrom_literal_append {text rest : List Char} (hplain : ¬ opening <:+: text)
    (hrest : ∀ tail, rest ≠ '{' :: tail) (reversed : List Char) :
    segmentsFrom (.literal reversed) (text ++ rest) =
      segmentsFrom (.literal (text.reverse ++ reversed)) rest := by
  induction text generalizing reversed with
  | nil => rfl
  | cons c text ih =>
    have hopen : ¬ opening <+: c :: (text ++ rest) := by
      rintro ⟨tail, heq⟩
      obtain ⟨rfl, hmore⟩ := List.cons.inj heq
      cases text with
      | nil => exact hrest tail hmore.symm
      | cons d text =>
        obtain ⟨rfl, -⟩ := List.cons.inj hmore
        exact hplain ⟨[], text, rfl⟩
    rw [List.cons_append, segmentsFrom_literal_cons hopen,
      ih (fun hinf => hplain (List.infix_cons hinf)), List.reverse_cons, List.append_assoc]
    rfl

/-- A placeholder ends at the first closing brace. -/
theorem segmentsFrom_placeholder_append {body : List Char} (hbody : '}' ∉ body)
    (rest reversed : List Char) :
    segmentsFrom (.placeholder reversed) (body ++ '}' :: rest) =
      .placeholder (reversed.reverse ++ body) :: segments rest := by
  induction body generalizing reversed with
  | nil => simp [segmentsFrom, segments]
  | cons c body ih =>
    obtain ⟨hne, hmore⟩ := List.ne_and_not_mem_of_not_mem_cons hbody
    rw [List.cons_append, segmentsFrom, ih hmore]
    · simp
    · exact Ne.symm hne

/-- Without a closing brace a placeholder is never closed. -/
theorem segmentsFrom_placeholder_of_not_mem {body : List Char} (hbody : '}' ∉ body)
    (reversed : List Char) :
    segmentsFrom (.placeholder reversed) body = [.unclosed (reversed.reverse ++ body)] := by
  induction body generalizing reversed with
  | nil => simp [segmentsFrom]
  | cons c body ih =>
    obtain ⟨hne, hmore⟩ := List.ne_and_not_mem_of_not_mem_cons hbody
    rw [segmentsFrom, ih hmore]
    · simp
    · exact Ne.symm hne

theorem segmentsFrom_opening (rest reversed : List Char) :
    segmentsFrom (.literal reversed) ('$' :: '{' :: rest) =
      literal? reversed.reverse ++ segmentsFrom (.placeholder []) rest := by
  rw [segmentsFrom]

/-- A literal ends where another segment starts. -/
theorem segmentsFrom_literal_written {rest : List Segment} (h : Decomposition rest)
    (hnext : ∀ other, rest.head? ≠ some (.literal other)) (reversed : List Char) :
    segmentsFrom (.literal reversed) (written rest) =
      literal? reversed.reverse ++ segments (written rest) := by
  cases h with
  | nil => simp [written, segments, segmentsFrom, literal?]
  | unclosed hbody => simp [written, Segment.written, segments, segmentsFrom_opening, literal?]
  | placeholder hbody hmore =>
    simp [written, Segment.written, segments, segmentsFrom_opening, literal?]
  | literal hne hplain hother hmore => exact absurd rfl (hnext _)

/-- **The scanner finds a decomposition again.** -/
theorem segments_written {segs : List Segment} (h : Decomposition segs) :
    segments (written segs) = segs := by
  induction h with
  | nil => rfl
  | @unclosed body hbody =>
    have hscan := segmentsFrom_placeholder_of_not_mem hbody []
    simp [written, Segment.written, segments, segmentsFrom_opening, literal?, hscan]
  | @placeholder body rest hbody hmore ih =>
    have hscan := segmentsFrom_placeholder_append hbody (written rest) []
    rw [written_cons, Segment.written, segments, List.cons_append, List.cons_append,
      segmentsFrom_opening, List.append_assoc, List.singleton_append, hscan, ih]
    rfl
  | @literal text rest hne hplain hnext hmore ih =>
    -- a dollar sign at the end of the literal is not taken for an opening
    have hstart : ∀ tail, written rest ≠ '{' :: tail := by
      intro tail heq
      cases hmore with
      | nil => cases heq
      | unclosed _ => exact absurd (List.cons.inj heq).1 (by decide)
      | placeholder _ _ => exact absurd (List.cons.inj heq).1 (by decide)
      | literal _ _ _ _ => exact absurd rfl (hnext _)
    rw [written_cons, Segment.written, segments, segmentsFrom_literal_append hplain hstart,
      segmentsFrom_literal_written hmore hnext, ih, List.append_nil, List.reverse_reverse,
      literal?, if_neg (by simpa using hne)]
    rfl

/-! ## Every text has a decomposition -/

/-- What is open has been read as far as it goes: a literal holds no `${`, also not
together with what follows, and a placeholder holds no closing brace. -/
def Open.Fits : Open → List Char → Prop
  | .literal reversed, rest =>
    ¬ opening <:+: reversed.reverse ∧
      ∀ tail, reversed.head? = some '$' → rest ≠ '{' :: tail
  | .placeholder reversed, _ => '}' ∉ reversed

/-- How what is open is written so far. -/
def Open.written : Open → List Char
  | .literal reversed => reversed.reverse
  | .placeholder reversed => '$' :: '{' :: reversed.reverse

theorem head?_segmentsFrom_placeholder (reversed rest other : List Char) :
    (segmentsFrom (.placeholder reversed) rest).head? ≠ some (.literal other) := by
  induction rest generalizing reversed with
  | nil => simp [segmentsFrom]
  | cons c rest ih =>
    by_cases hc : c = '}'
    · subst hc
      simp [segmentsFrom]
    · rw [segmentsFrom]
      · exact ih _
      · exact hc

/-- A literal that has been read is a segment, unless it is empty. -/
theorem decomposition_literal?_append {text : List Char} {rest : List Segment}
    (hplain : ¬ opening <:+: text) (hnext : ∀ other, rest.head? ≠ some (.literal other))
    (h : Decomposition rest) : Decomposition (literal? text ++ rest) := by
  rw [literal?]
  split
  · exact h
  · rename_i hne
    exact .literal (by simpa using hne) hplain hnext h

theorem written_literal?_append (text : List Char) (rest : List Segment) :
    written (literal? text ++ rest) = text ++ written rest := by
  rw [literal?]
  split
  · rename_i hempty
    rw [List.isEmpty_iff.mp hempty]
    rfl
  · rfl

/-- A literal goes on to fit when it takes in a character that opens no placeholder. -/
theorem Open.Fits.push {reversed rest : List Char} {c : Char}
    (h : (Open.literal reversed).Fits (c :: rest)) (hopen : ¬ opening <+: c :: rest) :
    (Open.literal (c :: reversed)).Fits rest := by
  obtain ⟨hplain, hhead⟩ := h
  refine ⟨fun hinf => ?_, fun tail hc hrest => ?_⟩
  · -- an opening that was not there before ends with the new character
    rw [List.reverse_cons, List.infix_concat_iff] at hinf
    rcases hinf with hsuf | hinf
    · rw [← List.reverse_cons, ← List.reverse_prefix, List.reverse_reverse] at hsuf
      obtain ⟨tail, heq⟩ := hsuf
      obtain ⟨rfl, hmore⟩ := List.cons.inj heq
      exact hhead rest (by rw [← hmore]; rfl) rfl
    · exact hplain hinf
  · obtain rfl : c = '$' := Option.some.inj hc
    exact hopen ⟨tail, by rw [hrest]; rfl⟩

/-- The segments that the scanner finds form a decomposition of the text. -/
theorem decomposition_segmentsFrom {o : Open} {rest : List Char} (h : o.Fits rest) :
    Decomposition (segmentsFrom o rest) ∧ written (segmentsFrom o rest) = o.written ++ rest := by
  fun_induction segmentsFrom o rest with
  | case1 reversed rest ih =>
    obtain ⟨hdec, hwritten⟩ := ih List.not_mem_nil
    refine ⟨decomposition_literal?_append h.1 (head?_segmentsFrom_placeholder [] rest) hdec, ?_⟩
    rw [written_literal?_append, hwritten]
    rfl
  | case2 reversed c rest hopen ih =>
    have hnot : ¬ opening <+: c :: rest := by
      rintro ⟨tail, heq⟩
      obtain ⟨rfl, rfl⟩ := List.cons.inj heq
      exact hopen tail rfl rfl
    obtain ⟨hdec, hwritten⟩ := ih (h.push hnot)
    refine ⟨hdec, ?_⟩
    rw [hwritten]
    simp [Open.written]
  | case3 reversed =>
    have hdec := decomposition_literal?_append h.1 (by simp) Decomposition.nil
    have hwritten := written_literal?_append reversed.reverse []
    rw [List.append_nil] at hdec hwritten
    exact ⟨hdec, hwritten⟩
  | case4 reversed rest ih =>
    obtain ⟨hdec, hwritten⟩ := ih ⟨by simp [opening], by simp⟩
    refine ⟨.placeholder (fun hmem => h (List.mem_reverse.mp hmem)) hdec, ?_⟩
    rw [written_cons, hwritten]
    simp [Segment.written, Open.written]
  | case5 reversed c rest hclose ih =>
    obtain ⟨hdec, hwritten⟩ := ih (List.not_mem_cons_of_ne_of_not_mem (Ne.symm hclose) h)
    refine ⟨hdec, ?_⟩
    rw [hwritten]
    simp [Open.written]
  | case6 reversed =>
    refine ⟨.unclosed fun hmem => h (List.mem_reverse.mp hmem), ?_⟩
    simp [written, Segment.written, Open.written]

/-- **The scanner decomposes every text.** -/
theorem decomposition_segments (s : List Char) :
    Decomposition (segments s) ∧ written (segments s) = s :=
  decomposition_segmentsFrom (o := .literal []) ⟨by simp [opening], by simp⟩

/-! ## Rendering the segments -/

/-- What a segment of a template becomes over a payload. -/
inductive Segment.RendersTo (data : Value) : Segment → Wide → Prop where
  | literal (text : List Char) : RendersTo data (.literal text) (.text (String.ofList text))
  | unclosed (body : List Char) :
    RendersTo data (.unclosed body) (.text (String.ofList ('$' :: '{' :: body)))
  | path {body : List Char} {v : Value} {text : Wide} (form : Path.isPathText body = true)
      (found : Path.resolve data body = .ok v) (shows : v.shown = .ok text) :
    RendersTo data (.placeholder body) text
  | truthy {body : List Char} {text : Wide} (form : Path.isPathText body = false)
      (truth : (Expression.evaluate body data).truthy = .ok true)
      (shows : (Expression.evaluate body data).shown = .ok text) :
    RendersTo data (.placeholder body) text
  | falsy {body : List Char} (form : Path.isPathText body = false)
      (truth : (Expression.evaluate body data).truthy = .ok false) :
    RendersTo data (.placeholder body) (.text "")

/-- A path is filled with what the value there shows. -/
theorem fill_of_isPathText {body : List Char} (h : Path.isPathText body = true) (data : Value) :
    fill body data = (Path.resolve data body).bind Value.shown := by
  rw [fill, if_pos h]
  rfl

/-- Any other body is filled with what its value shows, if that is truthy. -/
theorem fill_of_not_isPathText {body : List Char} (h : Path.isPathText body = false)
    (data : Value) :
    fill body data = (Expression.evaluate body data).truthy.bind fun shows =>
      if shows then (Expression.evaluate body data).shown else .ok (.text "") := by
  rw [fill, if_neg (by simp [h])]
  rfl

theorem Segment.render_eq_ok_iff {data : Value} {seg : Segment} {out : Wide} :
    seg.render data = .ok out ↔ seg.RendersTo data out := by
  constructor
  · intro h
    cases seg with
    | literal text =>
      obtain rfl := Except.ok.inj h
      exact .literal text
    | unclosed body =>
      obtain rfl := Except.ok.inj h
      exact .unclosed body
    | placeholder body =>
      rw [Segment.render] at h
      cases hform : Path.isPathText body with
      | true =>
        rw [fill_of_isPathText hform] at h
        cases hresolve : Path.resolve data body with
        | error fault =>
          rw [hresolve] at h
          cases h
        | ok v =>
          rw [hresolve] at h
          exact .path hform hresolve h
      | false =>
        rw [fill_of_not_isPathText hform] at h
        cases htruth : (Expression.evaluate body data).truthy with
        | error fault =>
          rw [htruth] at h
          cases h
        | ok shows =>
          rw [htruth] at h
          cases shows with
          | false =>
            obtain rfl := Except.ok.inj h
            exact .falsy hform htruth
          | true => exact .truthy hform htruth h
  · intro h
    cases h with
    | literal text => rfl
    | unclosed body => rfl
    | path hform hresolve hshows =>
      rw [Segment.render, fill_of_isPathText hform, hresolve]
      exact hshows
    | truthy hform htruth hshows =>
      rw [Segment.render, fill_of_not_isPathText hform, htruth]
      exact hshows
    | falsy hform htruth =>
      rw [Segment.render, fill_of_not_isPathText hform, htruth]
      rfl

/-- Rendering goes through the segments and puts together what they become. -/
theorem foldlM_render_eq_ok_iff {data : Value} {segs : List Segment} {done out : Wide} :
    segs.foldlM (fun (done : Wide) seg => (seg.render data).map (done ++ ·)) done = .ok out ↔
      ∃ texts, List.Forall₂ (Segment.RendersTo data) segs texts ∧
        out = done ++ Wide.join texts := by
  induction segs generalizing done with
  | nil => simp [pure, Except.pure, eq_comm]
  | cons seg segs ih =>
    rw [List.foldlM_cons]
    constructor
    · intro h
      cases hseg : seg.render data with
      | error fault => simp [hseg, Except.map, bind, Except.bind] at h
      | ok text =>
        rw [hseg] at h
        obtain ⟨texts, htexts, rfl⟩ := ih.mp h
        exact ⟨text :: texts, .cons (Segment.render_eq_ok_iff.mp hseg) htexts,
          by rw [Wide.join_cons, Wide.append_assoc]⟩
    · rintro ⟨_, hforall, rfl⟩
      cases hforall with
      | @cons _ text _ texts hseg htexts =>
        rw [Segment.render_eq_ok_iff.mpr hseg]
        exact ih.mpr ⟨texts, htexts, by rw [Wide.join_cons, Wide.append_assoc]⟩

/-- **A template renders to what its segments become, one after the other.** -/
theorem render_eq_ok_iff {template : String} {data : Value} {out : Wide} :
    render template data = .ok out ↔
      ∃ texts, List.Forall₂ (Segment.RendersTo data) (segments template.toList) texts ∧
        out = Wide.join texts := by
  rw [render, foldlM_render_eq_ok_iff]
  simp only [Wide.empty_append]

/-- The value that a placeholder stands for. -/
def StandsFor (data : Value) (body : List Char) (v : Value) : Prop :=
  Path.isPathText body = true ∧ Path.resolve data body = .ok v ∨
    Path.isPathText body = false ∧ Expression.evaluate body data = v

/-- A placeholder that stands for a text becomes this text, whatever it holds. -/
theorem rendersTo_iff_of_text {data : Value} {body : List Char} {s : Wide}
    (h : StandsFor data body (.ofWide s)) (text : Wide) :
    Segment.RendersTo data (.placeholder body) text ↔ text = s := by
  have hshown : (Value.ofWide s).shown = .ok s := by cases s <;> rfl
  have hfill : fill body data = .ok s := by
    rcases h with ⟨hform, hfound⟩ | ⟨hform, hfound⟩
    · rw [fill_of_isPathText hform, hfound]
      exact hshown
    · rw [fill_of_not_isPathText hform, hfound, hshown]
      cases s with
      | garbled g => rfl
      | text s =>
        by_cases hs : s = ""
        · rw [hs]
          rfl
        · simp [Value.ofWide, Value.truthy, hs, Except.bind]
  rw [← Segment.render_eq_ok_iff, Segment.render, hfill, Except.ok.injEq, eq_comm]

/-- If each segment becomes some text, then so do all of them in order. -/
theorem exists_texts_of_forall {data : Value} {segs : List Segment}
    (h : ∀ seg ∈ segs, ∃ text, seg.RendersTo data text) :
    ∃ texts, List.Forall₂ (Segment.RendersTo data) segs texts := by
  induction segs with
  | nil => exact ⟨[], .nil⟩
  | cons seg segs ih =>
    obtain ⟨text, htext⟩ := h seg List.mem_cons_self
    obtain ⟨texts, htexts⟩ := ih fun other hmem => h other (List.mem_cons_of_mem seg hmem)
    exact ⟨text :: texts, .cons htext htexts⟩

/-- **What a template means.**  It has exactly one decomposition.  Whenever each segment
of it becomes some text, rendering succeeds and gives these texts in order.  A
placeholder that stands for a text becomes exactly this text. -/
theorem render_decomposition (template : String) :
    ∃ segs, Decomposition segs ∧ written segs = template.toList ∧
      (∀ other, Decomposition other → written other = template.toList → other = segs) ∧
      ∀ data,
        ((∀ seg ∈ segs, ∃ text, seg.RendersTo data text) →
          ∃ texts, List.Forall₂ (Segment.RendersTo data) segs texts ∧
            render template data = .ok (Wide.join texts)) ∧
        ∀ body s, StandsFor data body (.ofWide s) →
          ∀ text, Segment.RendersTo data (.placeholder body) text ↔ text = s := by
  obtain ⟨hdec, hwritten⟩ := decomposition_segments template.toList
  refine ⟨segments template.toList, hdec, hwritten, fun other hother heq => ?_, fun data =>
    ⟨fun hall => ?_, fun body s hs => rendersTo_iff_of_text hs⟩⟩
  · rw [← heq, segments_written hother]
  · obtain ⟨texts, htexts⟩ := exists_texts_of_forall hall
    exact ⟨texts, htexts, render_eq_ok_iff.mpr ⟨texts, htexts, rfl⟩⟩

example : segments "a$$\x7bb$\x7bc\x7dd$\x7b".toList =
    [.literal ['a', '$'], .placeholder ['b', '$', '{', 'c'], .literal ['d'], .unclosed []] := by
  decide

end Template
end WebhookRelay
