import WebhookRelay.Proofs.Template.Faults
import WebhookRelay.Proofs.Value.Addressable

/-! # What rendering does not depend on

Payloads that are alike lead to the same everywhere: paths reach values that are alike,
conditions hold of both or of neither, and a template is rendered to the same text, as long
as no placeholder stands for a container, whose text would show what is hidden from paths
(`Template.indistinguishable_of_alike`).

Two runs are compared step by step.  They **agree** if they end in related values or in the
same fault (`Agree`), and agreement is kept when runs are put one after the other.  Values
are related together with their places (`Located.Alike`), since the place of a container is
its identity: what is compared by identity in one payload is in the other one too.
-/

namespace WebhookRelay

/-! ## Runs that agree -/

/-- Do two results stem from runs that end alike, in related values or in the same fault? -/
inductive Agree {ε α β : Type} (R : α → β → Prop) : Except ε α → Except ε β → Prop where
  | ok {a : α} {b : β} (related : R a b) : Agree R (.ok a) (.ok b)
  | error (e : ε) : Agree R (.error e) (.error e)

namespace Agree

variable {ε α β γ δ : Type} {R : α → β → Prop} {S : γ → δ → Prop} {x : Except ε α} {y : Except ε β}

theorem refl (x : Except ε α) : Agree Eq x x := by
  cases x with
  | error e => exact .error e
  | ok a => exact .ok rfl

theorem eq {y : Except ε α} (h : Agree Eq x y) : x = y := by
  cases h with
  | error e => rfl
  | ok heq => rw [heq]

theorem map {f : α → γ} {g : β → δ} (h : Agree R x y) (hfg : ∀ a b, R a b → S (f a) (g b)) :
    Agree S (x.map f) (y.map g) := by
  cases h with
  | error e => exact .error e
  | ok hab => exact .ok (hfg _ _ hab)

theorem bind {f : α → Except ε γ} {g : β → Except ε δ} (h : Agree R x y)
    (hfg : ∀ a b, R a b → Agree S (f a) (g b)) : Agree S (x >>= f) (y >>= g) := by
  cases h with
  | error e => exact .error e
  | ok hab => exact hfg _ _ hab

/-- Runs that start in the same way agree if they agree from there on. -/
theorem bind_same {f : α → Except ε γ} {g : α → Except ε δ}
    (hfg : ∀ a, Agree S (f a) (g a)) : Agree S (x >>= f) (x >>= g) :=
  (refl x).bind fun a _ heq => heq ▸ hfg a

theorem map_same {f : α → γ} {g : α → δ} (hfg : ∀ a, S (f a) (g a)) :
    Agree S (x.map f) (x.map g) :=
  (refl x).map fun a _ heq => heq ▸ hfg a

end Agree

/-- Are two values alike and at the same place? -/
structure Located.Alike (a b : Located) : Prop where
  place : a.place = b.place
  value : a.value.Alike b.value

variable {v w : Value}

/-! ## Paths -/

namespace Path

/-- A segment leads from alike values to alike values, at the same place. -/
theorem agree_advance {here there : Located} (h : here.Alike there) {segment : List Char}
    (hsegment : Value.isAddressable (String.ofList segment) = true) :
    Agree (Option.Rel Located.Alike) (advance segment here) (advance segment there) := by
  rw [advance, advance, ← step?_eq_of_alike h.value segment]
  cases hstep : step? here.value segment with
  | error fault => exact .error fault
  | ok taken =>
    cases taken with
    | none => exact .ok .none
    | some step =>
      -- the step depends on the kind of the value only, so it is the same on both sides
      have hchild := child?_of_alike h.value hsegment hstep
      simp only [Except.map, Option.bind_some]
      rw [h.place]
      generalize here.value.child? step = found at hchild
      generalize there.value.child? step = other at hchild
      cases hchild with
      | none => exact .ok .none
      | some halike => exact .ok (.some ⟨rfl, halike⟩)

/-- Segments lead from alike values to alike values, at the same place. -/
theorem agree_walk {segments : List (List Char)} {here there : Located} (h : here.Alike there)
    (hsegments : ∀ segment ∈ segments, Value.isAddressable (String.ofList segment) = true) :
    Agree (Option.Rel Located.Alike) (walk segments here) (walk segments there) := by
  induction segments generalizing here there with
  | nil => exact .ok (.some h)
  | cons segment rest ih =>
    have hstep := agree_advance h (hsegments segment List.mem_cons_self)
    rw [walk_cons, walk_cons]
    generalize advance segment here = found at hstep
    generalize advance segment there = other at hstep
    cases hstep with
    | error fault => exact .error fault
    | ok hrel =>
      cases hrel with
      | none => exact .ok .none
      | some halike =>
        exact ih halike fun other hother => hsegments other (List.mem_cons_of_mem _ hother)

/-- A path leads to alike values at the same place, or nowhere. -/
theorem agree_locate (h : v.Alike w) (path : List Char) :
    Agree (Option.Rel Located.Alike) (locate v path) (locate w path) := by
  rw [locate, locate]
  split
  · rename_i hform
    rw [Bool.and_eq_true, List.all_eq_true] at hform
    exact agree_walk ⟨rfl, h⟩ fun segment hmem =>
      isAddressable_of_mem_segments hform.1 hmem (hform.2 segment hmem)
  · exact .ok .none

/-- A path reaches values that are alike. -/
theorem agree_resolve (h : v.Alike w) (path : List Char) :
    Agree Value.Alike (resolve v path) (resolve w path) := by
  refine (agree_locate h path).map fun found other hrel => ?_
  cases hrel with
  | none => exact Value.alike_of_isContainer_eq_false rfl
  | some halike => exact halike.value

end Path

/-! ## Operands -/

namespace Operand

theorem isContainer_of_fallback {path : List Char} {x : Value} (h : fallback path = .ok x) :
    x.isContainer = false := by
  rw [fallback] at h
  cases hread : literalReading path with
  | error fault =>
    rw [hread] at h
    cases h
  | ok reading =>
    rw [hread] at h
    obtain rfl := Except.ok.inj h
    cases reading <;> rfl

theorem isContainer_literalValue (o : Operand) : o.literalValue.isContainer = false := by
  rw [literalValue]
  split <;> rfl

/-- What stands in for a missing value does not depend on the payload. -/
theorem agree_fallback (path : List Char) (place : Place) :
    Agree Located.Alike ((fallback path).map fun x => ⟨place, x⟩)
      ((fallback path).map fun x => ⟨place, x⟩) := by
  cases hfallback : fallback path with
  | error fault => exact .error fault
  | ok x =>
    exact .ok ⟨rfl, Value.alike_of_isContainer_eq_false (isContainer_of_fallback hfallback)⟩

/-- An operand has values that are alike, at the same place. -/
theorem agree_locate (h : v.Alike w) (o : Operand) :
    Agree Located.Alike (o.locate v) (o.locate w) := by
  rw [locate, locate]
  cases o.reading with
  | path =>
    refine (Path.agree_locate h o.text.toList).bind fun found other hrel => ?_
    cases hrel with
    | none => exact agree_fallback o.text.toList []
    | @some a b halike =>
      obtain ⟨place, x⟩ := a
      obtain ⟨other, y⟩ := b
      obtain rfl : place = other := halike.place
      -- only null is treated as if it were missing
      rcases halike.value.cases with ⟨-, heq⟩ | ⟨items, others, hx, hy, -⟩ |
        ⟨entries, others, hx, hy, -⟩
      · obtain rfl : x = y := heq
        cases x with
        | null => exact agree_fallback o.text.toList place
        | _ => exact .ok halike
      · obtain rfl : x = .list items := hx
        obtain rfl : y = .list others := hy
        exact .ok halike
      · obtain rfl : x = .object entries := hx
        obtain rfl : y = .object others := hy
        exact .ok halike
  | _ => exact .ok ⟨rfl, Value.alike_of_isContainer_eq_false (isContainer_literalValue o)⟩

end Operand

/-! ## Operators -/

namespace Value

theorem eq_of_isContainer (h : v.isContainer = true) :
    (∃ items, v = .list items) ∨ ∃ entries, v = .object entries := by
  cases v with
  | list items => exact Or.inl ⟨items, rfl⟩
  | object entries => exact Or.inr ⟨entries, rfl⟩
  | _ => cases h

/-- Values that are alike count as the same number. -/
theorem Alike.toNumber_eq (h : v.Alike w) : v.toNumber = w.toNumber := by
  rcases h.cases with ⟨-, rfl⟩ | ⟨items, others, rfl, rfl, -⟩ | ⟨entries, others, rfl, rfl, -⟩
  · rfl
  · rfl
  · rfl

/-- Values that are alike have the same truth. -/
theorem Alike.truthy_eq (h : v.Alike w) : v.truthy = w.truthy := by
  rcases h.cases with ⟨-, rfl⟩ | ⟨items, others, rfl, rfl, -⟩ | ⟨entries, others, rfl, rfl, -⟩
  · rfl
  · rfl
  · rfl

theorem Alike.isContainer_eq (h : v.Alike w) : v.isContainer = w.isContainer := by
  rcases h.eq_or_isContainer with ⟨-, rfl⟩ | ⟨hv, hw⟩
  · rfl
  · rw [hv, hw]

/-- Values that are alike and no containers are equal. -/
theorem Alike.eq (h : v.Alike w) (hv : v.isContainer = false) : v = w := by
  rcases h.eq_or_isContainer with ⟨-, heq⟩ | ⟨hcontainer, -⟩
  · exact heq
  · rw [hv] at hcontainer
    cases hcontainer

end Value

namespace Located

variable {a b c d : Located}

/-- A container is strictly equal to itself only. -/
theorem strictlyEquals_of_isContainer
    (h : a.value.isContainer = true ∨ b.value.isContainer = true) :
    a.strictlyEquals b = (a.value.isContainer && b.value.isContainer && a.place = b.place) := by
  obtain ⟨place, x⟩ := a
  obtain ⟨other, y⟩ := b
  rcases h with h | h
  · rcases Value.eq_of_isContainer h with ⟨items, hx⟩ | ⟨entries, hx⟩ <;> subst hx <;> cases y <;>
      rfl
  · rcases Value.eq_of_isContainer h with ⟨items, hy⟩ | ⟨entries, hy⟩ <;> subst hy <;> cases x <;>
      rfl

/-- Nor is it loosely equal to anything else. -/
theorem looselyEquals_of_isContainer
    (h : a.value.isContainer = true ∨ b.value.isContainer = true) :
    a.looselyEquals b = .ok (a.value.isContainer && b.value.isContainer && a.place = b.place) := by
  obtain ⟨place, x⟩ := a
  obtain ⟨other, y⟩ := b
  rcases h with h | h
  · rcases Value.eq_of_isContainer h with ⟨items, hx⟩ | ⟨entries, hx⟩ <;> subst hx <;> cases y <;>
      rfl
  · rcases Value.eq_of_isContainer h with ⟨items, hy⟩ | ⟨entries, hy⟩ <;> subst hy <;> cases x <;>
      rfl

/-- A container is ordered as what is not a number. -/
theorem ordered_of_isContainer {ofTexts : Wide → Wide → Bool}
    {ofNumbers : Binary64 → Binary64 → Bool}
    (h : a.value.isContainer = true ∨ b.value.isContainer = true) :
    ordered ofTexts ofNumbers a b = (do
      let x ← a.value.toNumber
      let y ← b.value.toNumber
      .ok (ofNumbers x y)) := by
  obtain ⟨place, x⟩ := a
  obtain ⟨other, y⟩ := b
  rcases h with h | h
  · rcases Value.eq_of_isContainer h with ⟨items, hx⟩ | ⟨entries, hx⟩ <;> subst hx <;> cases y <;>
      rfl
  · rcases Value.eq_of_isContainer h with ⟨items, hy⟩ | ⟨entries, hy⟩ <;> subst hy <;> cases x <;>
      rfl

/-- Values that are alike at the same place are the same if they are no containers. -/
theorem Alike.eq (h : a.Alike b) (ha : a.value.isContainer = false) : a = b := by
  obtain ⟨place, x⟩ := a
  obtain ⟨other, y⟩ := b
  obtain rfl : place = other := h.place
  exact congrArg (Located.mk place) (h.value.eq ha)

/-- Two values may be exchanged for values that are alike if this is so for containers. -/
theorem eq_of_alike {γ : Type} {f : Located → Located → γ} (h : a.Alike b) (h' : c.Alike d)
    (hcontainer : a.value.isContainer = true ∨ c.value.isContainer = true →
      b.value.isContainer = true ∨ d.value.isContainer = true → f a c = f b d) :
    f a c = f b d := by
  by_cases hany : a.value.isContainer = true ∨ c.value.isContainer = true
  · refine hcontainer hany ?_
    rw [← h.value.isContainer_eq, ← h'.value.isContainer_eq]
    exact hany
  · rw [not_or, Bool.not_eq_true, Bool.not_eq_true] at hany
    rw [h.eq hany.1, h'.eq hany.2]

theorem strictlyEquals_eq (h : a.Alike b) (h' : c.Alike d) :
    a.strictlyEquals c = b.strictlyEquals d := by
  refine eq_of_alike h h' fun hany hother => ?_
  rw [strictlyEquals_of_isContainer hany, strictlyEquals_of_isContainer hother, h.place, h'.place,
    h.value.isContainer_eq, h'.value.isContainer_eq]

theorem looselyEquals_eq (h : a.Alike b) (h' : c.Alike d) :
    a.looselyEquals c = b.looselyEquals d := by
  refine eq_of_alike h h' fun hany hother => ?_
  rw [looselyEquals_of_isContainer hany, looselyEquals_of_isContainer hother, h.place, h'.place,
    h.value.isContainer_eq, h'.value.isContainer_eq]

theorem ordered_eq (ofTexts : Wide → Wide → Bool) (ofNumbers : Binary64 → Binary64 → Bool)
    (h : a.Alike b) (h' : c.Alike d) :
    ordered ofTexts ofNumbers a c = ordered ofTexts ofNumbers b d := by
  refine eq_of_alike h h' fun hany hother => ?_
  rw [ordered_of_isContainer hany, ordered_of_isContainer hother, h.value.toNumber_eq,
    h'.value.toNumber_eq]

end Located

namespace Operator

/-- An operator yields values that are alike for operands that are alike. -/
theorem agree_apply (op : Operator) {a b c d : Located} (h : a.Alike b) (h' : c.Alike d) :
    Agree Value.Alike (op.apply a c) (op.apply b d) := by
  cases op with
  | strictlyEqual | strictlyUnequal =>
    simp only [apply]
    rw [Located.strictlyEquals_eq h h']
    exact .ok (Value.alike_of_isContainer_eq_false rfl)
  | equal | unequal =>
    simp only [apply]
    rw [Located.looselyEquals_eq h h']
    exact Agree.map_same fun _ => Value.alike_of_isContainer_eq_false rfl
  | atLeast | atMost | greater | less =>
    simp only [apply]
    rw [Located.ordered_eq _ _ h h']
    exact Agree.map_same fun _ => Value.alike_of_isContainer_eq_false rfl
  | both =>
    simp only [apply]
    rw [h.value.truthy_eq]
    refine Agree.map_same fun r => ?_
    cases r with
    | true => exact h'.value
    | false => exact h.value
  | either =>
    simp only [apply]
    rw [h.value.truthy_eq]
    refine Agree.map_same fun r => ?_
    cases r with
    | true => exact h.value
    | false => exact h'.value

end Operator

/-! ## Expressions -/

/-- A condition holds of payloads that are alike or of neither. -/
theorem Condition.holds_eq (h : v.Alike w) (c : Condition) : c.holds v = c.holds w := by
  refine Agree.eq ?_
  rw [holds, holds]
  refine Agree.bind_same fun left => (Operand.agree_locate h left).bind fun a b hleft => ?_
  refine Agree.bind_same fun right => (Operand.agree_locate h right).bind fun a' b' hright => ?_
  refine (Operator.agree_apply c.operator hleft hright).bind fun x y hvalue => ?_
  rw [hvalue.truthy_eq]
  exact .refl _

namespace Expression

theorem holds_eq (h : v.Alike w) (condition : List Char) :
    holds condition v = holds condition w := by
  rw [holds, holds]
  cases Condition.ofText? condition with
  | none => rfl
  | some c => exact c.holds_eq h

theorem agree_pathValue (h : v.Alike w) (path : List Char) :
    Agree Value.Alike (pathValue path v) (pathValue path w) := by
  refine (Path.agree_resolve h (Text.trim path)).map fun a b halike => ?_
  rcases halike.cases with ⟨hscalar, rfl⟩ | ⟨items, others, rfl, rfl, -⟩ |
    ⟨entries, others, rfl, rfl, -⟩
  · cases a with
    | null => exact Value.alike_of_isContainer_eq_false rfl
    | _ => exact halike
  · exact halike
  · exact halike

theorem agree_branchValue (h : v.Alike w) (branch : List Char) :
    Agree Value.Alike (branchValue branch v) (branchValue branch w) := by
  rw [branchValue, branchValue]
  cases Text.unquote? branch with
  | some content => exact .ok (Value.alike_of_isContainer_eq_false rfl)
  | none => exact agree_pathValue h branch

theorem agree_attempt (h : v.Alike w) (expression : List Char) :
    Agree Value.Alike (attempt expression v) (attempt expression w) := by
  rw [attempt, attempt]
  cases Ternary.ofText? expression with
  | none => exact agree_pathValue h expression
  | some parts =>
    simp only
    rw [holds_eq h]
    exact Agree.bind_same fun chosen => agree_branchValue h _

/-- An expression has values that are alike over payloads that are alike. -/
theorem alike_evaluate (h : v.Alike w) (expression : List Char) :
    (evaluate expression v).Alike (evaluate expression w) := by
  have hattempt := agree_attempt h expression
  rw [evaluate, evaluate]
  generalize attempt expression v = found at hattempt
  generalize attempt expression w = other at hattempt
  cases hattempt with
  | error fault => exact Value.alike_of_isContainer_eq_false rfl
  | ok halike => exact halike

end Expression

/-! ## Templates -/

namespace Template

/-- A placeholder that stands for no container is filled alike. -/
theorem fill_eq (h : v.Alike w) {body : List Char}
    (hscalar : ∀ x, StandsFor v body x → x.isContainer = false) : fill body v = fill body w := by
  rw [fill, fill]
  -- scalars that are alike are equal, so they are shown alike
  split
  · rename_i hform
    have hresolve := Path.agree_resolve h body
    have hfound : ∀ x, Path.resolve v body = .ok x → x.isContainer = false := fun x hx =>
      hscalar x (Or.inl ⟨hform, hx⟩)
    generalize Path.resolve v body = found at hresolve hfound
    generalize Path.resolve w body = other at hresolve
    cases hresolve with
    | error fault => rfl
    | ok halike => rw [halike.eq (hfound _ rfl)]
  · rename_i hform
    have hvalue := (Expression.alike_evaluate h body).eq
      (hscalar _ (Or.inr ⟨by simpa using hform, rfl⟩))
    rw [hvalue]

/-- **What paths cannot name has no influence.**  Let two payloads become the same, up to the
order of keys, once the entries that no path can name are deleted.  Then every path reaches
values that are alike in this sense, every condition holds of both or of neither, and every
template of whose placeholders none stands for a container is rendered to the same text; if
there is a fault, it is the same one. -/
theorem indistinguishable_of_alike (h : v.Alike w) :
    (∀ path, Agree Value.Alike (Path.resolve v path) (Path.resolve w path)) ∧
    (∀ condition, Expression.holds condition v = Expression.holds condition w) ∧
    ∀ template, (∀ body x, .placeholder body ∈ segments template.toList → StandsFor v body x →
      x.isContainer = false) → render template v = render template w := by
  refine ⟨Path.agree_resolve h, Expression.holds_eq h, fun template hscalar => ?_⟩
  have hsegments : ∀ seg ∈ segments template.toList, seg.render v = seg.render w := by
    intro seg hseg
    cases seg with
    | literal text | unclosed body => rfl
    | placeholder body => exact fill_eq h fun x => hscalar body x hseg
  -- going through the segments depends on their renderings only
  have hmapM : ∀ data, (segments template.toList).mapM (Segment.render data) =
      ((segments template.toList).map (Segment.render data)).mapM id := by
    intro data
    rw [List.mapM_map, Function.id_comp]
  rw [render_eq_mapM, render_eq_mapM, hmapM v, hmapM w, List.map_congr_left hsegments]

/-- Payloads that differ in the order of their keys and in what no path can name. -/
theorem indistinguishable_of_alike_hidden :
    let v : Value := .object [("a", .list [.int 1, .object [("x-y", .null)]]), ("b", .text "t"),
      ("__proto__", .int 2)]
    let w : Value := .object [("b", .text "t"), ("", .bool true),
      ("a", .list [.int 1, .object [("é", .float (.zero true)), ("constructor", .null)]])]
    let template := "$\x7ba.0\x7d $\x7ba.1 === a.1 ? b : ''\x7d $\x7ba.1.x\x7d"
    v.Alike w ∧ (∀ body x, .placeholder body ∈ segments template.toList → StandsFor v body x →
      x.isContainer = false) ∧ render template v = .ok "1 t " ∧ render template w = .ok "1 t " := by
  intro v w template
  have halike : v.Alike w := by
    have hv : v.prune = .object [("a", .list [.int 1, .object []]), ("b", .text "t")] := by
      rfl
    have hw : w.prune = .object [("b", .text "t"), ("a", .list [.int 1, .object []])] := by
      rfl
    rw [Value.Alike, hv, hw]
    exact Value.same_of_perm (List.Perm.swap _ _ []) (by decide)
  have hscalar : ∀ body x, .placeholder body ∈ segments template.toList → StandsFor v body x →
      x.isContainer = false := by
    intro body x hbody hstands
    have hbodies : segments template.toList = [.placeholder "a.0".toList, .literal [' '],
        .placeholder "a.1 === a.1 ? b : ''".toList, .literal [' '],
        .placeholder "a.1.x".toList] := by decide +kernel
    have hvalues : ∀ body ∈ ["a.0".toList, "a.1 === a.1 ? b : ''".toList, "a.1.x".toList],
        (if Path.isPathText body then Path.resolve v body
          else .ok (Expression.evaluate body v)).map Value.isContainer = .ok false := by
      decide +kernel
    have hfilled := hvalues body (by simpa [hbodies] using hbody)
    rcases hstands with ⟨hform, hfound⟩ | ⟨hform, hvalue⟩
    · rw [if_pos hform, hfound] at hfilled
      exact Except.ok.inj hfilled
    · rw [if_neg (by simp [hform]), hvalue] at hfilled
      exact Except.ok.inj hfilled
  have hrender : render template v = .ok "1 t " := by decide +kernel
  refine ⟨halike, hscalar, hrender, ?_⟩
  rw [← (indistinguishable_of_alike halike).2.2 template hscalar]
  exact hrender

end Template
end WebhookRelay
