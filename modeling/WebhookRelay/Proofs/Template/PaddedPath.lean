import WebhookRelay.Proofs.Expression.Phrase
import WebhookRelay.Proofs.Template.Absorbed

/-! # Paths with blanks around them

A placeholder whose body is a path shows the value there.  With blanks around the path the body
is an expression, which is read in another way and shows its value only if that is truthy.  The
two ways meet in the value that the path leads to (`Expression.attempt_around`), so what they
show is the same except for three kinds of values.

* Values that are **falsy** (`Value.falsies`) are shown by the path and not by the expression.
* An integer beyond the range of binary64 is shown by the path, unless it has too many digits for
  that; the expression asks for its truth, and this fails.
* A path that cannot be followed fails; as an expression it is the empty text.

`Template.render_padded_path` says that there are no others.
-/

namespace WebhookRelay
open Text

/-- There are two zeros. -/
theorem Binary64.isZero_iff {x : Binary64} :
    x.isZero = true ↔ x = zero false ∨ x = zero true := by
  constructor
  · intro h
    cases x with
    | finite negative rank =>
      obtain rfl : rank = ⟨0, by decide⟩ := Fin.ext (of_decide_eq_true h)
      cases negative
      · exact .inl rfl
      · exact .inr rfl
    | _ => cases h
  · rintro (rfl | rfl) <;> rfl

theorem Binary64.isNaN_iff {x : Binary64} : x.isNaN = true ↔ x = nan := by
  cases x <;> simp [isNaN]

namespace Value

/-- The falsy values with what is shown of them. -/
def falsies : List (Value × Wide) :=
  [(null, ""), (bool false, "false"), (int 0, "0"), (float (.zero false), "0"),
    (float (.zero true), "0"), (float .nan, "nan"), (text "", "")]

theorem shown_of_mem_falsies : ∀ entry ∈ falsies, entry.1.shown = .ok entry.2 := by
  decide +kernel

/-- The falsy values are the ones of the table. -/
theorem mem_falsies_iff {v : Value} : v.truthy = .ok false ↔ v ∈ falsies.map Prod.fst := by
  cases v with
  | int n =>
    by_cases hzero : n = 0
    · simp [truthy, falsies, hzero]
    · refine iff_of_false (fun h => ?_) (by simp [falsies, hzero])
      rw [truthy, if_neg hzero] at h
      generalize Binary64.ofInt? n = converted at h
      cases converted <;> cases h
  | float x =>
    have hfalsy : x.isZero = true ∨ x.isNaN = true ↔
        x = .zero false ∨ x = .zero true ∨ x = .nan := by
      rw [Binary64.isZero_iff, Binary64.isNaN_iff, or_assoc]
    simpa [truthy, falsies, ← Bool.not_or] using hfalsy
  | _ => simp [truthy, falsies]

/-- What is falsy is in the table, with what is shown of it. -/
theorem truthy_eq_false_iff {v : Value} :
    v.truthy = .ok false ↔ ∃ text, (v, text) ∈ falsies ∧ v.shown = .ok text := by
  rw [mem_falsies_iff, List.mem_map]
  constructor
  · rintro ⟨entry, hentry, rfl⟩
    exact ⟨entry.2, hentry, shown_of_mem_falsies entry hentry⟩
  · rintro ⟨shown, hmem, -⟩
    exact ⟨_, hmem, rfl⟩

/-- A value has a truth if it is no integer beyond the range. -/
theorem exists_truthy_iff_below {v : Value} :
    (∃ shows, v.truthy = .ok shows) ↔ v.Below Binary64.overflow := by
  cases htruth : v.truthy with
  | ok shows =>
    refine iff_of_true ⟨shows, rfl⟩ (by_contra fun hbelow => ?_)
    rw [truthy_eq_error_iff_below.mpr ⟨hbelow, rfl⟩] at htruth
    cases htruth
  | error fault => exact iff_of_false nofun (truthy_eq_error_iff_below.mp htruth).1

end Value

namespace Expression

variable {path : List Char} {data : Value}

/-- A path with blanks around it is looked up as an expression, and what is missing is the empty
text. -/
theorem evaluate_around (hpath : Path.isPathText path = true) (p : Padding) :
    evaluate (p.around path) data = match Path.resolve data path with
      | .ok .null | .error _ => .text ""
      | .ok v => v := by
  have hpasses : Passes '?' (p.around path) :=
    passes_around (by decide) p (passes_path (by decide) hpath)
  have hform : Ternary.ofText? (p.around path) = none := by
    rw [Ternary.ofText?, hpasses.unmarked]
    rfl
  have htrim : trim (p.around path) = path := p.trim_around (Term.solid (t := .path path) hpath)
  have hattempt : attempt (p.around path) data = pathValue (p.around path) data := by
    rw [attempt, hform]
  rw [evaluate, hattempt, pathValue, htrim]
  cases Path.resolve data path with
  | error fault => rfl
  | ok v => cases v <;> rfl

end Expression

namespace Template

variable {path : List Char} {data : Value}

/-- The template that is one placeholder. -/
def lone (body : List Char) : String := String.ofList (Segment.placeholder body).written

/-- A lone placeholder is rendered to what fills it. -/
theorem render_lone {body : List Char} (h : '}' ∉ body) :
    render (lone body) data = fill body data := by
  have hsegments : segments (Segment.placeholder body).written = [.placeholder body] := by
    have hscan := segments_written (.placeholder h .nil)
    rwa [written, List.flatMap_singleton] at hscan
  rw [render, lone, String.toList_ofList, hsegments, List.foldlM_cons, Segment.render]
  cases fill body data with
  | error fault => rfl
  | ok text => exact congrArg Except.ok (Wide.empty_append text)

/-- A path closes no placeholder. -/
theorem brace_not_mem_path (hpath : Path.isPathText path = true) : '}' ∉ path := fun hmem =>
  absurd ((isPathText_iff.mp hpath).2 _ hmem) (by decide)

theorem brace_not_mem_around (hpath : Path.isPathText path = true) (p : Padding) :
    '}' ∉ p.around path := by
  have hblank : ¬ isBlank '}' = true := by decide
  simp only [Padding.around, List.mem_append]
  rintro ((hmem | hmem) | hmem)
  · exact hblank (p.blank_before _ hmem)
  · exact brace_not_mem_path hpath hmem
  · exact hblank (p.blank_after _ hmem)

/-- With a blank next to it a path is no longer a path. -/
theorem isPathText_around (p : Padding) (hpad : p.before ++ p.after ≠ []) :
    Path.isPathText (p.around path) = false := by
  obtain ⟨c, hc⟩ := List.exists_mem_of_ne_nil _ hpad
  have hblank : isBlank c = true := by
    rcases List.mem_append.mp hc with hc | hc
    · exact p.blank_before c hc
    · exact p.blank_after c hc
  have hmem : c ∈ p.around path := by
    simp only [Padding.around, List.mem_append]
    rcases List.mem_append.mp hc with hc | hc
    · exact .inl (.inl hc)
    · exact .inr hc
  refine Bool.eq_false_iff.mpr fun h => ?_
  rw [isBlank_of_isPathChar ((isPathText_iff.mp h).2 c hmem)] at hblank
  cases hblank

/-- A lone path shows the value that it leads to. -/
theorem render_lone_path (hpath : Path.isPathText path = true) :
    render (lone path) data = Path.resolve data path >>= Value.shown := by
  rw [render_lone (brace_not_mem_path hpath), fill_of_isPathText hpath]
  rfl

/-- With blanks around it a lone path shows its value if that is truthy. -/
theorem render_lone_around (hpath : Path.isPathText path = true) (p : Padding)
    (hpad : p.before ++ p.after ≠ []) :
    render (lone (p.around path)) data = match Path.resolve data path with
      | .ok v => v.truthy >>= fun shows => if shows then v.shown else .ok ""
      | .error _ => .ok "" := by
  rw [render_lone (brace_not_mem_around hpath p), fill_of_not_isPathText (isPathText_around p hpad),
    Expression.evaluate_around hpath p]
  cases Path.resolve data path with
  | error fault => rfl
  | ok v => cases v <;> rfl

/-- **A path with blanks around it is shown as the path is**, but for three kinds of values.  What
is falsy is not shown, the truth of an integer beyond the range cannot be had, and a path that
cannot be followed is the empty text.  The path itself always shows its value, which fails for a
value that holds an integer of too many digits and for no other. -/
theorem render_padded_path (hpath : Path.isPathText path = true) (p : Padding)
    (hpad : p.before ++ p.after ≠ []) (data : Value) :
    (∀ v, Path.resolve data path = .ok v →
      render (lone path) data = v.shown ∧
      (∀ fault, v.shown = .error fault ↔ v.hasLongInteger = true ∧ fault = .integerTooLong) ∧
      (v.Below Binary64.overflow ↔ ∃ shows, v.truthy = .ok shows) ∧
      (v.truthy = .ok true → render (lone (p.around path)) data = render (lone path) data) ∧
      (v.truthy = .ok false → render (lone (p.around path)) data = .ok "") ∧
      (v.truthy = .ok false ↔ ∃ text, (v, text) ∈ Value.falsies ∧ v.shown = .ok text) ∧
      (¬ v.Below Binary64.overflow →
        render (lone (p.around path)) data = .error .integerTooLarge)) ∧
    ∀ fault, Path.resolve data path = .error fault →
      (∃ digits, Path.Overlong data path digits ∧ fault = .tooManyDigits digits) ∧
      render (lone path) data = .error fault ∧ render (lone (p.around path)) data = .ok "" := by
  rw [render_lone_path hpath, render_lone_around hpath p hpad]
  refine ⟨fun v hv => ?_, fun fault hfault => ?_⟩
  · rw [hv]
    refine ⟨rfl, fun fault => Value.shown_eq_error_iff, Value.exists_truthy_iff_below.symm,
      fun htruth => ?_, fun htruth => ?_, Value.truthy_eq_false_iff, fun hlarge => ?_⟩
    · exact congrArg (· >>= fun shows => if shows then v.shown else .ok "") htruth
    · exact congrArg (· >>= fun shows => if shows then v.shown else .ok "") htruth
    · exact bind_eq_error_iff.mpr (.inl (Value.truthy_eq_error_iff_below.mpr ⟨hlarge, rfl⟩))
  · refine ⟨Path.resolve_eq_error_iff.mp hfault, ?_⟩
    rw [hfault]
    exact ⟨rfl, rfl⟩

/-- A negative zero is shown as zero, and not at all with blanks around its path. -/
theorem render_padded_path_zero :
    let data : Value := .object [("n", .float (.zero true))]
    let p : Padding := { before := ['\u3000'], after := ['\n'] }
    Path.isPathText ['n'] = true ∧ p.before ++ p.after ≠ [] ∧
      render (lone ['n']) data = .ok "0" ∧ render (lone (p.around ['n'])) data = .ok "" := by
  intro data p
  have hpath : Path.isPathText ['n'] = true := by decide
  have hpad : p.before ++ p.after ≠ [] := by decide
  obtain ⟨hfound, -⟩ := render_padded_path hpath p hpad data
  obtain ⟨hplain, -, -, -, hfalsy, -⟩ := hfound (.float (.zero true)) rfl
  exact ⟨hpath, hpad, hplain.trans (by decide +kernel), hfalsy (by decide)⟩

/-- The least integer of too many digits is found and beyond the range, and its path does not show
it. -/
theorem render_long_integer :
    let n : Int := 10 ^ digitLimit
    let data : Value := .object [("n", .int n)]
    Path.resolve data ['n'] = .ok (.int n) ∧ ¬ (Value.int n).Below Binary64.overflow ∧
      render (lone ['n']) data = .error .integerTooLong := by
  intro n data
  have hpath : Path.isPathText ['n'] = true := by decide
  have hfound : Path.resolve data ['n'] = .ok (.int n) := rfl
  have hlong : (Value.int n).hasLongInteger = true :=
    (Value.anyPart_leaf rfl).trans (Numeral.isLong_iff.mpr (by decide +kernel))
  have hrange : Binary64.overflow ≤ n.natAbs := by decide +kernel
  refine ⟨hfound, fun hbelow => Nat.not_lt.mpr hrange (hbelow n rfl), ?_⟩
  rw [render_lone_path hpath, hfound]
  exact Value.shown_eq_error_iff.mpr ⟨hlong, rfl⟩

end Template
end WebhookRelay
