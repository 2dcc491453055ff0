import Mathlib.Data.List.Forall2
import WebhookRelay.Proofs.Binary64.Range
import WebhookRelay.Proofs.Template.Decomposition

/-! # Templates that cannot be rendered

Evaluating an expression has a value whatever happens on the way, but a placeholder is more
than that: a plain path is followed without any expression, the value of an expression still
has to be looked at as a truth, and in the end the value has to be shown.  There are three
ways for a placeholder to be **unfillable** (`Template.Unfillable`):

* its body is a plain path, and following it arrives at a list with a segment of digits that
  is too long to be read (`Path.Overlong`);
* its body is any other expression, and its value is an integer beyond the range of binary64;
* the value that it would show holds an integer of too many digits.

A template cannot be rendered if and only if one of its placeholders is unfillable, and the
first of these decides why (`Template.render_eq_error_iff`).
-/

namespace WebhookRelay

section Results

variable {ε α β : Type}

/-- What is done with a success has no part in a failure. -/
theorem map_eq_error_iff {x : Except ε α} {g : α → β} {e : ε} :
    x.map g = .error e ↔ x = .error e := by
  cases x <;> simp [Except.map]

/-- A success is no failure. -/
theorem ok_ne_error {a : α} {e : ε} : Except.ok a ≠ Except.error e := by
  rintro ⟨⟩

variable {f : α → Except ε β}

/-- A sequence fails if its first part fails, or its second part after the first. -/
theorem bind_eq_error_iff {x : Except ε α} {e : ε} :
    x >>= f = .error e ↔ x = .error e ∨ ∃ a, x = .ok a ∧ f a = .error e := by
  cases x <;> simp [bind, Except.bind]

/-- Going through a list succeeds if it succeeds everywhere. -/
theorem mapM_eq_ok_iff {xs : List α} {ys : List β} :
    xs.mapM f = .ok ys ↔ List.Forall₂ (fun x y => f x = .ok y) xs ys := by
  induction xs generalizing ys with
  | nil => cases ys <;> simp [pure, Except.pure]
  | cons x xs ih =>
    rw [List.mapM_cons]
    constructor
    · intro h
      cases hx : f x with
      | error e => rw [hx] at h; cases h
      | ok y =>
        cases hxs : xs.mapM f with
        | error e => rw [hx, hxs] at h; cases h
        | ok ys =>
          rw [hx, hxs] at h
          obtain rfl := Except.ok.inj h
          exact .cons hx (ih.mp hxs)
    · intro h
      cases h with
      | cons hx hxs => rw [hx, ih.mpr hxs]; rfl

/-- Going through a list fails as it fails for the first time. -/
theorem mapM_eq_error_iff {xs : List α} {e : ε} :
    xs.mapM f = .error e ↔ ∃ before x after, xs = before ++ x :: after ∧
      (∀ y ∈ before, ∃ z, f y = .ok z) ∧ f x = .error e := by
  induction xs with
  | nil => simp [pure, Except.pure]
  | cons x xs ih =>
    rw [List.mapM_cons]
    cases hx : f x with
    | error other =>
      constructor
      · intro h
        obtain rfl := Except.error.inj h
        exact ⟨[], x, xs, rfl, nofun, hx⟩
      · rintro ⟨before, y, after, heq, hbefore, hy⟩
        cases before with
        | nil =>
          obtain ⟨rfl, rfl⟩ := List.cons.inj heq
          rw [hx] at hy
          exact congrArg Except.error (Except.error.inj hy)
        | cons first before =>
          obtain ⟨rfl, -⟩ := List.cons.inj heq
          obtain ⟨z, hz⟩ := hbefore x List.mem_cons_self
          rw [hx] at hz
          cases hz
    | ok z =>
      have hrest : (do let y ← Except.ok z; let ys ← xs.mapM f; pure (y :: ys)) =
          (Except.error e : Except ε (List β)) ↔ xs.mapM f = .error e := by
        cases xs.mapM f <;> simp [bind, Except.bind, pure, Except.pure]
      rw [hrest, ih]
      constructor
      · rintro ⟨before, y, after, rfl, hbefore, hy⟩
        refine ⟨x :: before, y, after, rfl, fun other hother => ?_, hy⟩
        rcases List.mem_cons.mp hother with rfl | hother
        · exact ⟨z, hx⟩
        · exact hbefore other hother
      · rintro ⟨before, y, after, heq, hbefore, hy⟩
        cases before with
        | nil =>
          obtain ⟨rfl, -⟩ := List.cons.inj heq
          rw [hx] at hy
          cases hy
        | cons first before =>
          obtain ⟨rfl, rfl⟩ := List.cons.inj heq
          exact ⟨before, y, after, rfl,
            fun other hother => hbefore other (List.mem_cons_of_mem _ hother), hy⟩

/-- Going through a list fails if it fails anywhere. -/
theorem exists_mapM_eq_error_iff {xs : List α} :
    (∃ e, xs.mapM f = .error e) ↔ ∃ x ∈ xs, ∃ e, f x = .error e := by
  induction xs with
  | nil => simp [pure, Except.pure]
  | cons x xs ih =>
    rw [List.mapM_cons, List.exists_mem_cons_iff, ← ih]
    cases f x with
    | error e => exact iff_of_true ⟨e, rfl⟩ (Or.inl ⟨e, rfl⟩)
    | ok y => cases xs.mapM f <;> simp [bind, Except.bind, pure, Except.pure]

end Results

namespace Value

/-- Only an integer beyond the range of binary64 lacks a truth. -/
theorem truthy_eq_error_iff {v : Value} {fault : Fault} :
    v.truthy = .error fault ↔
      ∃ n, v = .int n ∧ Binary64.overflow ≤ n.natAbs ∧ fault = .integerTooLarge := by
  cases v with
  | int n =>
    rw [truthy_int_eq_error_iff, Binary64.ofInt?_eq_error_iff]
    constructor
    · exact fun ⟨_, h⟩ => ⟨n, rfl, h⟩
    · rintro ⟨m, hm, hlarge, hfault⟩
      obtain rfl := Value.int.inj hm
      refine ⟨?_, hlarge, hfault⟩
      rintro rfl
      exact absurd hlarge (by decide +kernel)
  | _ => simp [truthy]

end Value

namespace Path

/-! ## Paths that cannot be followed -/

/-- Where a segment leads from a located value. -/
def advance (segment : List Char) (here : Located) : Except Fault (Option Located) :=
  (step? here.value segment).map fun taken => taken.bind fun step =>
    (here.value.child? step).map fun v => ⟨here.place ++ [step], v⟩

theorem walk_cons (segment : List Char) (rest : List (List Char)) (here : Located) :
    walk (segment :: rest) here = match advance segment here with
      | .error fault => .error fault
      | .ok none => .ok none
      | .ok (some there) => walk rest there := by
  rw [walk, advance]
  cases step? here.value segment with
  | error fault => rfl
  | ok taken =>
    cases taken with
    | none => rfl
    | some step =>
      simp only [bind, Except.bind, Except.map, Option.bind]
      cases here.value.child? step <;> rfl

/-- A segment is refused if it is a numeral for a list and too long to be read. -/
theorem advance_eq_error_iff {segment : List Char} {here : Located} {fault : Fault} :
    advance segment here = .error fault ↔
      (∃ items, here.value = .list items) ∧ segment.all Char.isDigit = true ∧
        digitLimit < segment.length ∧ fault = .tooManyDigits segment.length := by
  obtain ⟨place, v⟩ := here
  cases v with
  | list items =>
    simp only [advance, step?, Numeral.toNat]
    by_cases hdigits : segment.all Char.isDigit = true
    · by_cases hlimit : segment.length ≤ digitLimit
      · simp [hdigits, hlimit, Except.map, Nat.not_lt.mpr hlimit]
      · simp [hdigits, hlimit, Except.map, Nat.lt_of_not_le hlimit, eq_comm]
    · simp [hdigits, Except.map]
  | _ => simp [advance, step?, Except.map]

/-- Segments are refused at the first one that is, and all before it lead to a list. -/
theorem walk_eq_error_iff {segments : List (List Char)} {here : Located} {fault : Fault} :
    walk segments here = .error fault ↔ ∃ before segment after place items,
      segments = before ++ segment :: after ∧
      walk before here = .ok (some ⟨place, .list items⟩) ∧ segment.all Char.isDigit = true ∧
      digitLimit < segment.length ∧ fault = .tooManyDigits segment.length := by
  induction segments generalizing here with
  | nil => simp [walk]
  | cons first rest ih =>
    constructor
    · intro h
      rw [walk_cons] at h
      cases hstep : advance first here with
      | error other =>
        rw [hstep] at h
        obtain rfl : other = fault := Except.error.inj h
        obtain ⟨⟨items, hitems⟩, hrefused⟩ := advance_eq_error_iff.mp hstep
        exact ⟨[], first, rest, here.place, items, rfl, by rw [walk, ← hitems], hrefused⟩
      | ok found =>
        cases found with
        | none =>
          rw [hstep] at h
          cases h
        | some there =>
          rw [hstep] at h
          obtain ⟨before, segment, after, place, items, rfl, hwalk, hrefused⟩ := ih.mp h
          refine ⟨first :: before, segment, after, place, items, rfl, ?_, hrefused⟩
          rw [walk_cons, hstep]
          exact hwalk
    · rintro ⟨before, segment, after, place, items, heq, hwalk, hrefused⟩
      rw [walk_cons]
      cases before with
      | nil =>
        -- nothing comes before the refused segment, so the walk stands at the list already
        obtain ⟨rfl, rfl⟩ := List.cons.inj heq
        obtain rfl : here = ⟨place, .list items⟩ := by simpa [walk] using hwalk
        rw [advance_eq_error_iff.mpr ⟨⟨items, rfl⟩, hrefused⟩]
      | cons second before =>
        obtain ⟨rfl, rfl⟩ := List.cons.inj heq
        rw [walk_cons] at hwalk
        cases hstep : advance first here with
        | error other =>
          rw [hstep] at hwalk
          cases hwalk
        | ok found =>
          cases found with
          | none =>
            rw [hstep] at hwalk
            cases hwalk
          | some there =>
            rw [hstep] at hwalk
            exact ih.mpr ⟨before, segment, after, place, items, rfl, hwalk, hrefused⟩

/-- Following a path arrives at a list with a segment of so many digits, more than can be
read. -/
def Overlong (root : Value) (path : List Char) (digits : Nat) : Prop :=
  isPathText path = true ∧ (segments path).all isSegment = true ∧
    ∃ before segment after place items, segments path = before ++ segment :: after ∧
      walk before ⟨[], root⟩ = .ok (some ⟨place, .list items⟩) ∧
      segment.all Char.isDigit = true ∧ digitLimit < segment.length ∧ segment.length = digits

/-- **A path cannot be followed** if and only if it is overlong. -/
theorem resolve_eq_error_iff {root : Value} {path : List Char} {fault : Fault} :
    resolve root path = .error fault ↔
      ∃ digits, Overlong root path digits ∧ fault = .tooManyDigits digits := by
  rw [resolve, map_eq_error_iff, locate]
  split
  · rename_i hform
    rw [Bool.and_eq_true] at hform
    rw [walk_eq_error_iff]
    constructor
    · rintro ⟨before, segment, after, place, items, heq, hwalk, hdigits, hlimit, hfault⟩
      exact ⟨segment.length, ⟨hform.1, hform.2, before, segment, after, place, items, heq, hwalk,
        hdigits, hlimit, rfl⟩, hfault⟩
    · rintro ⟨digits, ⟨-, -, before, segment, after, place, items, heq, hwalk, hdigits, hlimit,
        rfl⟩, hfault⟩
      exact ⟨before, segment, after, place, items, heq, hwalk, hdigits, hlimit, hfault⟩
  · rename_i hform
    refine iff_of_false nofun ?_
    rintro ⟨digits, ⟨htext, hsegments, -⟩, -⟩
    exact hform (by rw [htext, hsegments]; rfl)

end Path

namespace Template

/-! ## Placeholders that cannot be filled -/

/-- A placeholder is to show a value: that at its path, or the truthy value of any other
expression. -/
def Shows (data : Value) (body : List Char) (v : Value) : Prop :=
  Path.isPathText body = true ∧ Path.resolve data body = .ok v ∨
    Path.isPathText body = false ∧ Expression.evaluate body data = v ∧ v.truthy = .ok true

/-- Why a placeholder cannot be filled over a payload. -/
inductive Unfillable (data : Value) (body : List Char) : Fault → Prop where
  /-- A list is to be indexed with more digits than can be read. -/
  | path {digits : Nat} (overlong : Path.Overlong data body digits) :
    Unfillable data body (.tooManyDigits digits)
  /-- The truth of an integer beyond the range of binary64 is asked for. -/
  | truth {n : Int} (form : Path.isPathText body = false)
      (value : Expression.evaluate body data = .int n) (large : Binary64.overflow ≤ n.natAbs) :
    Unfillable data body .integerTooLarge
  /-- An integer of too many digits is to be shown. -/
  | long {v : Value} (shows : Shows data body v) (long : v.hasLongInteger = true) :
    Unfillable data body .integerTooLong

theorem fill_eq_error_iff {data : Value} {body : List Char} {fault : Fault} :
    fill body data = .error fault ↔ Unfillable data body fault := by
  cases hform : Path.isPathText body with
  | true =>
    have hbind := bind_eq_error_iff (x := Path.resolve data body) (f := Value.shown) (e := fault)
    rw [fill_of_isPathText hform]
    refine hbind.trans ?_
    rw [Path.resolve_eq_error_iff]
    constructor
    · rintro (⟨digits, hoverlong, rfl⟩ | ⟨v, hv, hshown⟩)
      · exact .path hoverlong
      · obtain ⟨hlong, rfl⟩ := Value.shown_eq_error_iff.mp hshown
        exact .long (.inl ⟨hform, hv⟩) hlong
    · intro h
      cases h with
      | path hoverlong => exact .inl ⟨_, hoverlong, rfl⟩
      | truth hother =>
        rw [hform] at hother
        cases hother
      | @long v hshows hlong =>
        rcases hshows with ⟨-, hv⟩ | ⟨hother, -⟩
        · exact .inr ⟨v, hv, Value.shown_eq_error_iff.mpr ⟨hlong, rfl⟩⟩
        · rw [hform] at hother
          cases hother
  | false =>
    have hbind := bind_eq_error_iff (x := (Expression.evaluate body data).truthy)
      (f := fun shows => if shows then (Expression.evaluate body data).shown else .ok (.text ""))
      (e := fault)
    rw [fill_of_not_isPathText hform]
    refine hbind.trans ?_
    rw [Value.truthy_eq_error_iff]
    constructor
    · rintro (⟨n, hvalue, hlarge, rfl⟩ | ⟨shows, htruth, hshown⟩)
      · exact .truth hform hvalue hlarge
      · cases shows with
        | false => cases hshown
        | true =>
          obtain ⟨hlong, rfl⟩ := Value.shown_eq_error_iff.mp hshown
          exact .long (.inr ⟨hform, rfl, htruth⟩) hlong
    · intro h
      cases h with
      | path hoverlong =>
        rw [hoverlong.1] at hform
        cases hform
      | truth _ hvalue hlarge => exact .inl ⟨_, hvalue, hlarge, rfl⟩
      | @long v hshows hlong =>
        rcases hshows with ⟨hother, -⟩ | ⟨-, rfl, htruth⟩
        · rw [hform] at hother
          cases hother
        · exact .inr ⟨true, htruth, Value.shown_eq_error_iff.mpr ⟨hlong, rfl⟩⟩

/-- Only a placeholder cannot be rendered. -/
theorem Segment.render_eq_error_iff {data : Value} {seg : Segment} {fault : Fault} :
    seg.render data = .error fault ↔
      ∃ body, seg = .placeholder body ∧ Unfillable data body fault := by
  cases seg with
  | placeholder body => simp [Segment.render, fill_eq_error_iff]
  | _ => simp [Segment.render]

/-- Rendering goes through the segments and joins what they become. -/
theorem render_eq_mapM (template : String) (data : Value) :
    render template data =
      ((segments template.toList).mapM (Segment.render data)).map Wide.join := by
  have hfold : ∀ (segs : List Segment) (done : Wide),
      segs.foldlM (fun (done : Wide) seg => (seg.render data).map (done ++ ·)) done =
        (segs.mapM (Segment.render data)).map (done ++ Wide.join ·) := by
    intro segs
    induction segs with
    | nil => intro done; simp [pure, Except.pure, Except.map]
    | cons seg segs ih =>
      -- what is done so far only goes in front of the texts to come
      intro done
      rw [List.foldlM_cons, List.mapM_cons]
      cases seg.render data with
      | error fault => rfl
      | ok text =>
        refine (ih (done ++ text)).trans ?_
        simp only [bind, Except.bind]
        cases segs.mapM (Segment.render data) with
        | error fault => rfl
        | ok texts => simp [pure, Except.pure, Except.map, Wide.join_cons, Wide.append_assoc]
  rw [render, hfold]
  simp only [Wide.empty_append]

/-- **A template cannot be rendered** if and only if one of its placeholders is unfillable,
and the first of them decides why. -/
theorem render_eq_error_iff {template : String} {data : Value} {fault : Fault} :
    render template data = .error fault ↔ ∃ before body after,
      segments template.toList = before ++ .placeholder body :: after ∧
      (∀ seg ∈ before, ∃ text, seg.RendersTo data text) ∧ Unfillable data body fault := by
  rw [render_eq_mapM, map_eq_error_iff, mapM_eq_error_iff]
  constructor
  · rintro ⟨before, seg, after, heq, hbefore, hseg⟩
    obtain ⟨body, rfl, hbody⟩ := Segment.render_eq_error_iff.mp hseg
    refine ⟨before, body, after, heq, fun other hother => ?_, hbody⟩
    obtain ⟨text, htext⟩ := hbefore other hother
    exact ⟨text, Segment.render_eq_ok_iff.mp htext⟩
  · rintro ⟨before, body, after, heq, hbefore, hbody⟩
    refine ⟨before, .placeholder body, after, heq, fun other hother => ?_,
      Segment.render_eq_error_iff.mpr ⟨body, rfl, hbody⟩⟩
    obtain ⟨text, htext⟩ := hbefore other hother
    exact ⟨text, Segment.render_eq_ok_iff.mpr htext⟩

/-- A template cannot be rendered if and only if one of its placeholders is unfillable. -/
theorem exists_render_eq_error_iff {template : String} {data : Value} :
    (∃ fault, render template data = .error fault) ↔
      ∃ body fault, .placeholder body ∈ segments template.toList ∧ Unfillable data body fault := by
  simp only [render_eq_mapM, map_eq_error_iff]
  rw [exists_mapM_eq_error_iff]
  constructor
  · rintro ⟨seg, hseg, fault, hfault⟩
    obtain ⟨body, rfl, hbody⟩ := Segment.render_eq_error_iff.mp hfault
    exact ⟨body, fault, hseg, hbody⟩
  · rintro ⟨body, fault, hmem, hbody⟩
    exact ⟨.placeholder body, hmem, fault, Segment.render_eq_error_iff.mpr ⟨body, rfl, hbody⟩⟩

end Template
end WebhookRelay
