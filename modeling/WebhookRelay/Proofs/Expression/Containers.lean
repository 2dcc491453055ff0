import WebhookRelay.Proofs.Expression.Equality
import WebhookRelay.Proofs.Expression.Phrase
import WebhookRelay.Proofs.Path.Places

/-! # Comparing containers

A container is equal to itself only, whatever it holds.  In a condition a container is named by
a path, and what decides is whether the two paths lead to the same place.  Since a place has one
path only (`Path.locate_eq_some_iff`), they do if and only if they are the same text: two
containers are compared by the texts of their paths (`Expression.containers_compared`).

With what is no container a container is never equal and in no order.
-/

namespace WebhookRelay
open Text

namespace Value

variable {v : Value}

theorem isPlain_of_isContainer (h : v.isContainer = true) : v.isPlain = false := by
  cases v with
  | list _ | object _ => rfl
  | _ => cases h

theorem convertible_of_isContainer (h : v.isContainer = true) : v.Convertible :=
  ⟨.nan, toNumber_of_not_plain (isPlain_of_isContainer h)⟩

end Value

namespace Located

variable {a b : Located}

/-- The identity of a container is its place. -/
theorem identity?_of_isContainer (h : a.value.isContainer = true) :
    a.identity? = some (.container a.place) := by
  obtain ⟨place, v⟩ := a
  cases v with
  | list _ | object _ => rfl
  | _ => cases h

/-- Only containers have the identity of one. -/
theorem identity?_ne_container (h : b.value.isContainer = false) (place : Place) :
    b.identity? ≠ some (.container place) := by
  obtain ⟨other, w⟩ := b
  cases w with
  | list _ | object _ => cases h
  | float x => cases hx : x.extent? <;> simp [identity?, hx]
  | _ => simp [identity?]

/-- Two containers are equal if they are at the same place. -/
theorem strictlyEquals_of_containers (ha : a.value.isContainer = true)
    (hb : b.value.isContainer = true) : a.strictlyEquals b = decide (a.place = b.place) := by
  rw [Bool.eq_iff_iff, strictlyEquals_iff_identity?, identity?_of_isContainer ha,
    identity?_of_isContainer hb, decide_eq_true_eq]
  constructor
  · rintro ⟨i, hi, hj⟩
    exact Identity.container.inj (Option.some.inj (hi.trans hj.symm))
  · exact fun h => ⟨_, rfl, by rw [h]⟩

/-- A container is not equal to what is no container. -/
theorem strictlyEquals_of_container_left (ha : a.value.isContainer = true)
    (hb : b.value.isContainer = false) : a.strictlyEquals b = false := by
  refine Bool.eq_false_iff.mpr fun h => ?_
  obtain ⟨i, hi, hj⟩ := strictlyEquals_iff_identity?.mp h
  rw [identity?_of_isContainer ha] at hi
  exact identity?_ne_container hb a.place (hj.trans hi.symm)

theorem strictlyEquals_of_container_right (ha : a.value.isContainer = true)
    (hb : b.value.isContainer = false) : b.strictlyEquals a = false := by
  have h := strictlyEquals_of_container_left ha hb
  rw [← Bool.not_eq_true, strictlyEquals_comm] at h
  exact Bool.eq_false_iff.mpr h

end Located

namespace Operator

variable {op : Operator} {a b : Located}

/-- Both equalities say of two containers whether they are at the same place. -/
theorem apply_of_containers (ha : a.value.isContainer = true) (hb : b.value.isContainer = true) :
    (∀ op ∈ [strictlyEqual, equal], op.apply a b = .ok (.bool (decide (a.place = b.place)))) ∧
    ∀ op ∈ [strictlyUnequal, unequal],
      op.apply a b = .ok (.bool (!decide (a.place = b.place))) := by
  have hloosely : a.looselyEquals b = .ok (a.strictlyEquals b) :=
    Located.looselyEquals_of_not_plain (.inl (Value.isPlain_of_isContainer ha))
  rw [Located.strictlyEquals_of_containers ha hb] at hloosely
  simp [apply, Located.strictlyEquals_of_containers ha hb, hloosely, Except.map]

/-- The comparisons that ask whether operands are equal or in some order. -/
def relations : List Operator := [strictlyEqual, equal, less, atMost, greater, atLeast]

/-- Operands in no order that are not equal either are in none of the relations. -/
theorem apply_of_unrelated (ha : a.value.Convertible) (hb : b.value.Convertible)
    (hplain : a.value.isPlain = false ∨ b.value.isPlain = false)
    (hstrictly : a.strictlyEquals b = false) :
    ∀ op ∈ relations, op.apply a b = .ok (.bool false) := by
  have hloosely := Located.looselyEquals_of_not_plain hplain
  have horder : ∀ op ∈ orders, op.apply a b = .ok (.bool (op.accepts none)) := fun op hop => by
    rw [apply_of_mem_orders hop, Located.order?_of_not_plain ha hb hplain, Except.map]
  intro op hop
  cases op with
  | strictlyEqual => rw [apply, hstrictly]
  | equal => rw [apply, hloosely, hstrictly, Except.map]
  | atLeast | atMost | greater | less => exact horder _ (by decide)
  | strictlyUnequal | unequal | both | either => exact absurd hop (by decide)

/-- **A container is in no relation with what is no container**, on either side. -/
theorem apply_of_container (ha : a.value.isContainer = true) (hb : b.value.isContainer = false)
    (hbelow : b.value.Below Binary64.overflow) :
    ∀ op ∈ relations, op.apply a b = .ok (.bool false) ∧ op.apply b a = .ok (.bool false) := by
  have hfirst := Value.convertible_of_isContainer ha
  have hsecond := Value.convertible_iff_below.mpr hbelow
  have hplain := Value.isPlain_of_isContainer ha
  have hleft := apply_of_unrelated hfirst hsecond (.inl hplain)
    (Located.strictlyEquals_of_container_left ha hb)
  have hright := apply_of_unrelated hsecond hfirst (.inr hplain)
    (Located.strictlyEquals_of_container_right ha hb)
  exact fun op hop => ⟨hleft op hop, hright op hop⟩

end Operator

/-! ## Conditions on paths -/

namespace Path

/-- The characters of paths are not those of tokens. -/
theorem not_mem_marks_of_isPathText {path : List Char} (h : isPathText path = true) :
    ∀ c ∈ path, c ∉ Operator.marks := by
  have hmarks : Operator.marks.all (!isPathChar ·) = true := by decide
  intro c hc hmem
  have hmark := List.all_eq_true.mp hmarks c hmem
  rw [(isPathText_iff.mp h).2 c hc] at hmark
  cases hmark

/-- A path that leads to a container, by segments that can be read. -/
structure NamesContainer (data : Value) (path : List Char) : Prop where
  limit : ∀ segment ∈ segments path, segment.length ≤ digitLimit
  container : ∃ v, resolve data path = .ok v ∧ v.isContainer = true

namespace NamesContainer

variable {data : Value} {path : List Char}

/-- The path is the text of the place that it leads to. -/
theorem exists_locate (h : NamesContainer data path) : ∃ (place : Place) (v : Value),
    locate data path = .ok (some ⟨place, v⟩) ∧ v.isContainer = true ∧ place.text = path ∧
      isPathText path = true := by
  obtain ⟨v, hresolve, hcontainer⟩ := h.container
  obtain ⟨found, hfound⟩ := exists_locate_eq_ok h.limit data
  rw [resolve, hfound] at hresolve
  cases found with
  | none =>
    obtain rfl := Except.ok.inj hresolve
    cases hcontainer
  | some there =>
    obtain ⟨place, w⟩ := there
    obtain rfl : w = v := Except.ok.inj hresolve
    obtain ⟨rfl, hholds⟩ := (locate_eq_some_iff h.limit).mp hfound
    exact ⟨place, w, hfound, hcontainer, rfl, Place.isPathText_text hholds.ne_nil hholds.steps⟩

end NamesContainer
end Path

/-- A path to a container is an operand with this value and place. -/
theorem Term.locate_path {data v : Value} {path : List Char} {place : Place}
    (h : Path.locate data path = .ok (some ⟨place, v⟩)) (hcontainer : v.isContainer = true) :
    (Term.path path).locate data = .ok ⟨place, v⟩ := by
  rw [Term.locate, h]
  cases v with
  | list _ | object _ => rfl
  | _ => cases hcontainer

/-- A conditional expression that compares two paths; its branches do not matter. -/
def Phrase.ofPaths {p q : List Char} (hp : Path.isPathText p = true)
    (hq : Path.isPathText q = true) (op : Operator) : Phrase where
  left := .path p
  operator := op
  right := .path q
  whenTrue := .path ['x']
  whenFalse := .path ['x']
  leftPadding := { after := [' '] }
  rightPadding := { before := [' '] }
  left_wellFormed := hp
  right_wellFormed := hq
  true_wellFormed := by change Path.isPathText _ = true; decide
  false_wellFormed := by change Path.isPathText _ = true; decide
  left_free op := op.not_infix_of_forall (Path.not_mem_marks_of_isPathText hp)
  right_free op := op.not_infix_of_forall (Path.not_mem_marks_of_isPathText hq)
  left_end c hc := Path.not_mem_marks_of_isPathText hp c (List.mem_of_getLast? hc)
  right_start c hc := Path.not_mem_marks_of_isPathText hq c (List.mem_of_head? hc)

namespace Expression

variable {data : Value} {p q : List Char}

/-- The condition that compares two operands, with a space on both sides of the operator. -/
def comparison (p : List Char) (op : Operator) (q : List Char) : List Char :=
  p ++ ' ' :: (op.token.toList ++ ' ' :: q)

/-- A comparison of two paths compares what they lead to. -/
theorem holds_comparison (hp : Path.isPathText p = true) (hq : Path.isPathText q = true)
    (op : Operator) : holds (comparison p op q) data = (do
      let left ← (Term.path p).locate data
      let right ← (Term.path q).locate data
      (← op.apply left right).truthy) := by
  have htrim : trim (Phrase.ofPaths hp hq op).condition = comparison p op q := by
    rw [Phrase.trim_condition]
    simp [Phrase.trimmed, Phrase.ofPaths, Term.text, comparison]
  rw [← htrim]
  exact (Phrase.ofPaths hp hq op).holds_condition data

/-- A condition on two containers says what the operator says of their places, and two paths
lead to the same place if they are the same text. -/
theorem exists_holds_comparison (hp : Path.NamesContainer data p)
    (hq : Path.NamesContainer data q) : ∃ a b : Located, a.value.isContainer = true ∧
      b.value.isContainer = true ∧ (a.place = b.place ↔ p = q) ∧
      ∀ (op : Operator) (r : Bool), op.apply a b = .ok (.bool r) →
        holds (comparison p op q) data = .ok r := by
  obtain ⟨place, v, hleft, hv, htext, hpath⟩ := hp.exists_locate
  obtain ⟨other, w, hright, hw, htext', hpath'⟩ := hq.exists_locate
  refine ⟨⟨place, v⟩, ⟨other, w⟩, hv, hw, ⟨?_, ?_⟩, fun op r hr => ?_⟩
  · rintro rfl
    exact htext.symm.trans htext'
  · rintro rfl
    exact congrArg Located.place (Option.some.inj (Except.ok.inj (hleft.symm.trans hright)))
  · rw [holds_comparison hpath hpath', Term.locate_path hleft hv, Term.locate_path hright hw]
    change (do (← op.apply ⟨place, v⟩ ⟨other, w⟩).truthy) = Except.ok r
    rw [hr]
    rfl

/-- **Containers are compared by the texts of their paths.**  Whatever they hold, two containers
are equal if their paths are the same text and unequal if not.  A container is in no relation
with what is no container; only an integer beyond the range is left out, since asking for its
order fails. -/
theorem containers_compared (hp : Path.NamesContainer data p) (hq : Path.NamesContainer data q) :
    (∀ op ∈ [Operator.strictlyEqual, .equal],
      holds (comparison p op q) data = .ok (decide (p = q))) ∧
    (∀ op ∈ [Operator.strictlyUnequal, .unequal],
      holds (comparison p op q) data = .ok (decide (p ≠ q))) ∧
    ∀ a b : Located, a.value.isContainer = true → b.value.isContainer = false →
      b.value.Below Binary64.overflow → ∀ op ∈ Operator.relations,
        op.apply a b = .ok (.bool false) ∧ op.apply b a = .ok (.bool false) := by
  obtain ⟨a, b, ha, hb, hsame, hholds⟩ := exists_holds_comparison hp hq
  obtain ⟨hequal, hunequal⟩ := Operator.apply_of_containers ha hb
  refine ⟨fun op hop => hholds op _ ?_, fun op hop => hholds op _ ?_,
    fun a b ha hb hbelow => Operator.apply_of_container ha hb hbelow⟩
  · rw [hequal op hop, decide_eq_decide.mpr hsame]
  · rw [hunequal op hop, decide_not, decide_eq_decide.mpr hsame]

/-- Two lists of equal items are unequal, and each is equal to itself. -/
theorem containers_compared_lists :
    let data : Value := .object [("a", .list [.int 1]), ("b", .list [.int 1])]
    Path.NamesContainer data ['a'] ∧ Path.NamesContainer data ['b'] ∧
      holds (comparison ['a'] .equal ['b']) data = .ok false ∧
      holds (comparison ['a'] .strictlyUnequal ['b']) data = .ok true ∧
      holds (comparison ['a'] .strictlyEqual ['a']) data = .ok true := by
  intro data
  have ha : Path.NamesContainer data ['a'] := ⟨by decide, ⟨.list [.int 1], rfl, rfl⟩⟩
  have hb : Path.NamesContainer data ['b'] := ⟨by decide, ⟨.list [.int 1], rfl, rfl⟩⟩
  obtain ⟨hequal, hunequal, -⟩ := containers_compared ha hb
  exact ⟨ha, hb, hequal .equal (by decide), hunequal .strictlyUnequal (by decide),
    (containers_compared ha ha).1 .strictlyEqual (by decide)⟩

end Expression
end WebhookRelay
