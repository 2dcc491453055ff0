import WebhookRelay.Proofs.Expression.Term
import WebhookRelay.Proofs.Template.Faults
import WebhookRelay.Proofs.Value.Addressable

/-! # Paths are names of places

A place of a payload has a text: the segments of its steps, a key itself and the canonical
numeral of a position, with points between them.  A place is **addressable** if it is not the
root and all its keys can be named by paths.  This module proves that paths are exactly the
texts of addressable places.

* Following a path leads to a place and a value if and only if the path is the text of that
  place, the place is addressable and the payload holds the value there
  (`Path.locate_eq_some_iff`).
* Two addressable places of one payload with the same text are the same place
  (`Value.HoldsAt.eq_of_text_eq`), although a text of digits is a key of an object and a
  position of a list: what the payload holds on the way decides which of the two is meant.

Together they say what a path resolves to (`Path.resolve_named_places`).
-/

namespace WebhookRelay

/-! ## The texts of places -/

namespace Step

/-- Can a path take the step?  Every position of a list has a numeral. -/
def isAddressable : Step → Bool
  | key name => Value.isAddressable name
  | index _ => true

/-- The segment of a step: the key, or the canonical numeral of the position.  A key that is
garbled has none. -/
def segment : Step → List Char
  | key name => (name.string?.getD "").toList
  | index i => Numeral.ofNat i

/-- Does the step have a segment? -/
def isSpelled : Step → Bool
  | key name => !name.isGarbled
  | index _ => true

/-- The steps that a path can take have segments. -/
theorem isSpelled_of_isAddressable {step : Step} (h : step.isAddressable = true) :
    step.isSpelled = true := by
  cases step with
  | index _ => rfl
  | key name =>
    cases name with
    | text _ => rfl
    | garbled _ => cases h

/-- Digits alone make no reserved word: each of these holds an `o`. -/
theorem isSegment_of_isDigits {digits : List Char} (h : IsDigits digits) :
    Path.isSegment digits = true := by
  obtain ⟨hne, hdigits⟩ := h
  have hreserved : String.ofList digits ∉ Path.reserved := by
    intro hmem
    have hall : Path.reserved.all (fun word => word.toList.contains 'o') = true := by decide
    have ho := List.all_eq_true.mp hall _ hmem
    rw [String.toList_ofList, List.contains_iff_mem] at ho
    exact absurd (hdigits 'o' ho) (by decide)
  rw [Path.isSegment, Bool.and_eq_true]
  refine ⟨by simpa using hne, ?_⟩
  simpa using hreserved

/-- The segment of an addressable step may occur in a path. -/
theorem isSegment_segment {step : Step} (h : step.isAddressable = true) :
    Path.isSegment step.segment = true := by
  cases step with
  | index i => exact isSegment_of_isDigits (isDigits_ofNat i)
  | key name =>
    cases name with
    | garbled _ => cases h
    | text name =>
      rw [isAddressable, Value.isAddressable, Bool.and_eq_true, Bool.and_eq_true] at h
      obtain ⟨⟨hne, hreserved⟩, -⟩ := h
      rw [segment, Wide.string?, Option.getD_some, Path.isSegment, Bool.and_eq_true,
        String.ofList_toList]
      exact ⟨by simpa using hne, hreserved⟩

/-- The segment of an addressable step consists of the characters of paths but the point. -/
theorem isPathChar_of_mem_segment {step : Step} (h : step.isAddressable = true) {c : Char}
    (hc : c ∈ step.segment) : Path.isPathChar c = true ∧ c ≠ '.' := by
  cases step with
  | index i =>
    have hdigit : c.isDigit = true := Numeral.isDigit_of_mem_ofNat hc
    refine ⟨isPathChar_of_isDigit hdigit, ?_⟩
    rintro rfl
    exact absurd hdigit (by decide)
  | key name =>
    cases name with
    | garbled _ => cases h
    | text name =>
      rw [isAddressable, Value.isAddressable, Bool.and_eq_true, List.all_eq_true] at h
      have hchar := h.2 c hc
      refine ⟨?_, ?_⟩
      · rw [Path.isPathChar, hchar, Bool.true_or]
      · rintro rfl
        exact absurd hchar (by decide)

end Step

/-- The text of a place: the segments of its steps with points between them. -/
def Place.text (place : Place) : List Char := ['.'].intercalate (place.map Step.segment)

/-- The payload holds a value at an addressable place: the place is not the root, and paths
can name all its keys.  That its positions are in range is part of holding something there. -/
structure Value.HoldsAt (root : Value) (place : Place) (v : Value) : Prop where
  ne_nil : place ≠ []
  steps : ∀ step ∈ place, step.isAddressable = true
  held : root.at? place = some v

namespace Place

variable {place : Place}

/-- The segments of the text of a place are those of its steps. -/
theorem segments_text (hne : place ≠ []) (hsteps : ∀ step ∈ place, step.isAddressable = true) :
    Path.segments place.text = place.map Step.segment := by
  refine Text.splitOn_intercalate (by simpa using hne) fun part hpart hpoint => ?_
  obtain ⟨step, hstep, rfl⟩ := List.mem_map.mp hpart
  exact (Step.isPathChar_of_mem_segment (hsteps step hstep) hpoint).2 rfl

/-- The text of a place has the form of a path. -/
theorem isPathText_text (hne : place ≠ []) (hsteps : ∀ step ∈ place, step.isAddressable = true) :
    Path.isPathText place.text = true := by
  refine isPathText_iff.mpr ⟨fun hnil => ?_, fun c hc => ?_⟩
  · -- an empty text would be a single step with an empty segment
    have hsegments := segments_text hne hsteps
    rw [hnil] at hsegments
    have hmem : [] ∈ place.map Step.segment := hsegments ▸ List.mem_singleton_self []
    obtain ⟨step, hstep, hempty⟩ := List.mem_map.mp hmem
    have hsegment := Step.isSegment_segment (hsteps step hstep)
    rw [hempty] at hsegment
    exact absurd hsegment (by decide)
  · obtain rfl | ⟨part, hpart, hmem⟩ := Text.mem_intercalate hc
    · decide
    · obtain ⟨step, hstep, rfl⟩ := List.mem_map.mp hpart
      exact (Step.isPathChar_of_mem_segment (hsteps step hstep) hmem).1

end Place

/-! ## Following a path -/

namespace Path

variable {v w : Value} {step : Step} {segment : List Char} {here there : Located}

/-- A segment is taken for the step whose segment it is. -/
theorem segment_of_step? (h : step? v segment = .ok (some step)) :
    step.isSpelled = true ∧ step.segment = segment := by
  cases v with
  | object entries =>
    obtain rfl := Option.some.inj (Except.ok.inj h)
    exact ⟨rfl, String.toList_ofList⟩
  | list items =>
    rw [step?] at h
    split at h
    · cases hnumber : Numeral.toNat segment with
      | error fault =>
        rw [hnumber] at h
        cases h
      | ok i =>
        rw [hnumber] at h
        by_cases hcanonical : Numeral.ofNat i = segment
        · simp only [Except.map, if_pos hcanonical] at h
          obtain rfl := Option.some.inj (Except.ok.inj h)
          exact ⟨rfl, hcanonical⟩
        · simp only [Except.map, if_neg hcanonical] at h
          cases h
    · cases h
  | _ => cases h

/-- A step that leads somewhere is taken on its segment, unless that is too long. -/
theorem step?_segment (hspelled : step.isSpelled = true) (h : v.child? step = some w)
    (hlimit : step.segment.length ≤ digitLimit) : step? v step.segment = .ok (some step) := by
  cases v with
  | object entries =>
    cases step with
    | key name =>
      cases name with
      | text name =>
        rw [Step.segment, Wide.string?, Option.getD_some, step?, String.ofList_toList]
      | garbled _ => cases hspelled
    | index i => cases h
  | list items =>
    cases step with
    | key name => cases h
    | index i =>
      have hdigits : (Numeral.ofNat i).all Char.isDigit = true :=
        List.all_eq_true.mpr fun c hc => Numeral.isDigit_of_mem_ofNat hc
      have hshort : (Numeral.ofNat i).length ≤ digitLimit := hlimit
      have hnumber : Numeral.toNat (Numeral.ofNat i) = .ok i := by
        rw [Numeral.toNat, if_pos hshort, Numeral.value_ofNat]
      rw [Step.segment, step?, if_pos hdigits, hnumber]
      simp only [Except.map, if_true]
  | _ => cases h

/-- A segment leads to what the value holds under a step of this segment. -/
theorem advance_eq_some_iff (hlimit : segment.length ≤ digitLimit) :
    advance segment here = .ok (some there) ↔ ∃ step : Step, step.isSpelled = true ∧
      step.segment = segment ∧ here.value.child? step = some there.value ∧
      there.place = here.place ++ [step] := by
  constructor
  · intro h
    rw [advance] at h
    cases htaken : step? here.value segment with
    | error fault =>
      rw [htaken] at h
      cases h
    | ok taken =>
      rw [htaken] at h
      have h := Except.ok.inj h
      obtain ⟨step, rfl, h⟩ := Option.bind_eq_some_iff.mp h
      obtain ⟨v, hv, rfl⟩ := Option.map_eq_some_iff.mp h
      obtain ⟨hspelled, hsegment⟩ := segment_of_step? htaken
      exact ⟨step, hspelled, hsegment, hv, rfl⟩
  · rintro ⟨step, hspelled, rfl, hchild, hplace⟩
    rw [advance, step?_segment hspelled hchild hlimit]
    simp only [Except.map, Option.bind_some, hchild, Option.map_some, ← hplace]

/-- Segments lead to what the value holds at the place of these segments. -/
theorem walk_eq_some_iff {segments : List (List Char)}
    (hlimit : ∀ segment ∈ segments, segment.length ≤ digitLimit) :
    walk segments here = .ok (some there) ↔ ∃ place : Place,
      (∀ step ∈ place, step.isSpelled = true) ∧ place.map Step.segment = segments ∧
      here.value.at? place = some there.value ∧ there.place = here.place ++ place := by
  induction segments generalizing here with
  | nil =>
    constructor
    · intro h
      rw [walk] at h
      obtain rfl := Option.some.inj (Except.ok.inj h)
      exact ⟨[], List.forall_mem_nil _, rfl, rfl, (List.append_nil _).symm⟩
    · rintro ⟨place, -, hplace, hheld, hthere⟩
      obtain rfl := List.map_eq_nil_iff.mp hplace
      rw [Value.at?_nil] at hheld
      rw [List.append_nil] at hthere
      obtain ⟨before, v⟩ := here
      obtain ⟨after, w⟩ := there
      obtain rfl : after = before := hthere
      obtain rfl : v = w := Option.some.inj hheld
      rw [walk]
  | cons segment rest ih =>
    have hfirst : ∀ next : Located, advance segment here = .ok (some next) ↔
        ∃ step : Step, step.isSpelled = true ∧ step.segment = segment ∧
          here.value.child? step = some next.value ∧ next.place = here.place ++ [step] :=
      fun next => advance_eq_some_iff (hlimit segment List.mem_cons_self)
    have hrest : ∀ other ∈ rest, other.length ≤ digitLimit := fun other hother =>
      hlimit other (List.mem_cons_of_mem segment hother)
    rw [walk_cons]
    constructor
    · intro h
      cases hstep : advance segment here with
      | error fault =>
        rw [hstep] at h
        cases h
      | ok found =>
        cases found with
        | none =>
          rw [hstep] at h
          cases h
        | some next =>
          rw [hstep] at h
          obtain ⟨step, hspelled, rfl, hchild, hnext⟩ := (hfirst next).mp hstep
          obtain ⟨place, hspelled', rfl, hheld, hplace⟩ := (ih hrest).mp h
          refine ⟨step :: place, List.forall_mem_cons.mpr ⟨hspelled, hspelled'⟩, rfl, ?_, ?_⟩
          · rw [Value.at?_cons, hchild, Option.bind_some, hheld]
          · rw [hplace, hnext, List.append_assoc, List.singleton_append]
    · rintro ⟨place, hspelled, hplace, hheld, hthere⟩
      obtain ⟨step, place, rfl, rfl, rfl⟩ := List.map_eq_cons_iff.mp hplace
      obtain ⟨hspelled, hspelled'⟩ := List.forall_mem_cons.mp hspelled
      rw [Value.at?_cons] at hheld
      obtain ⟨v, hchild, hheld⟩ := Option.bind_eq_some_iff.mp hheld
      rw [(hfirst ⟨here.place ++ [step], v⟩).mpr ⟨step, hspelled, rfl, hchild, rfl⟩]
      refine (ih hrest).mpr ⟨place, hspelled', rfl, hheld, ?_⟩
      rw [hthere, List.append_assoc, List.singleton_append]

variable {root : Value} {path : List Char} {place : Place}

/-- **A path leads to the place that it is the text of**, if that is addressable, and to what
the payload holds there. -/
theorem locate_eq_some_iff (hlimit : ∀ segment ∈ segments path, segment.length ≤ digitLimit) :
    locate root path = .ok (some ⟨place, v⟩) ↔ place.text = path ∧ root.HoldsAt place v := by
  have hwalk : walk (segments path) ⟨[], root⟩ = .ok (some ⟨place, v⟩) ↔
      ∃ steps : Place, (∀ step ∈ steps, step.isSpelled = true) ∧
        steps.map Step.segment = segments path ∧ root.at? steps = some v ∧ place = steps :=
    walk_eq_some_iff hlimit
  rw [locate]
  constructor
  · intro h
    split at h
    · rename_i hform
      rw [Bool.and_eq_true, List.all_eq_true] at hform
      obtain ⟨place, hspelled, hsegments, hheld, rfl⟩ := hwalk.mp h
      refine ⟨?_, ?_, fun step hstep => ?_, hheld⟩
      · rw [Place.text, hsegments]
        exact Text.intercalate_splitOn '.' path
      · rintro rfl
        exact Text.splitOn_ne_nil '.' path hsegments.symm
      · have hmem : step.segment ∈ segments path := hsegments ▸ List.mem_map_of_mem hstep
        cases step with
        | index i => rfl
        | key name =>
          have hkey := isAddressable_of_mem_segments hform.1 hmem (hform.2 _ hmem)
          cases name with
          | text name =>
            rwa [Step.segment, Wide.string?, Option.getD_some, String.ofList_toList] at hkey
          | garbled _ => exact absurd (hspelled _ hstep) Bool.false_ne_true
    · cases h
  · rintro ⟨rfl, hne, hsteps, hheld⟩
    have hsegments := Place.segments_text hne hsteps
    have hform : (segments place.text).all isSegment = true := by
      rw [hsegments, List.all_map, List.all_eq_true]
      exact fun step hstep => Step.isSegment_segment (hsteps step hstep)
    rw [Place.isPathText_text hne hsteps, hform]
    exact hwalk.mpr ⟨place, fun step hstep => Step.isSpelled_of_isAddressable (hsteps step hstep),
      hsegments.symm, hheld, rfl⟩

/-- A path without overlong segments can be followed. -/
theorem exists_locate_eq_ok (hlimit : ∀ segment ∈ segments path, segment.length ≤ digitLimit)
    (root : Value) : ∃ found, locate root path = .ok found := by
  cases hfound : locate root path with
  | ok found => exact ⟨found, rfl⟩
  | error fault =>
    have hfault : resolve root path = .error fault := by rw [resolve, hfound, Except.map]
    obtain ⟨digits, hoverlong, -⟩ := resolve_eq_error_iff.mp hfault
    obtain ⟨-, -, before, segment, after, -, -, hparts, -, -, hlong, -⟩ := hoverlong
    have hmem : segment ∈ segments path := by
      rw [hparts]
      exact List.mem_append_right before List.mem_cons_self
    exact absurd (hlimit segment hmem) (Nat.not_le.mpr hlong)

end Path

/-! ## One place for a text -/

namespace Value

variable {root v w : Value}

/-- What a value holds is under one step of a segment only. -/
theorem eq_of_segment_eq {a b : Value} {step other : Step} (hstep : step.isSpelled = true)
    (hother : other.isSpelled = true) (ha : v.child? step = some a)
    (hb : v.child? other = some b) (h : step.segment = other.segment) : step = other := by
  cases v with
  | object entries =>
    cases step with
    | index i => cases ha
    | key name =>
      cases other with
      | index j => cases hb
      | key same =>
        cases name with
        | garbled _ => cases hstep
        | text name =>
          cases same with
          | garbled _ => cases hother
          | text same =>
            have hsame : name = same := String.toList_injective h
            rw [hsame]
  | list items =>
    cases step with
    | key name => cases ha
    | index i =>
      cases other with
      | key same => cases hb
      | index j => rw [Numeral.ofNat_injective h]
  | _ => cases ha

/-- What a value holds is at one place of a list of segments only. -/
theorem eq_of_segments_eq {p q : Place} {a b : Value}
    (hp : ∀ step ∈ p, step.isSpelled = true) (hq : ∀ step ∈ q, step.isSpelled = true)
    (ha : root.at? p = some a) (hb : root.at? q = some b)
    (h : p.map Step.segment = q.map Step.segment) : p = q := by
  induction p generalizing root q with
  | nil => exact (List.map_eq_nil_iff.mp h.symm).symm
  | cons step p ih =>
    obtain ⟨other, q, rfl, hsegment, hrest⟩ := List.map_eq_cons_iff.mp h.symm
    rw [at?_cons] at ha hb
    obtain ⟨next, hnext, ha⟩ := Option.bind_eq_some_iff.mp ha
    obtain ⟨same, hsame, hb⟩ := Option.bind_eq_some_iff.mp hb
    obtain ⟨hstep, hp'⟩ := List.forall_mem_cons.mp hp
    obtain ⟨hother, hq'⟩ := List.forall_mem_cons.mp hq
    obtain rfl := eq_of_segment_eq hstep hother hnext hsame hsegment.symm
    obtain rfl : next = same := Option.some.inj (hnext.symm.trans hsame)
    rw [ih hp' hq' ha hb hrest.symm]

/-- **A text is the text of one addressable place at most.** -/
theorem HoldsAt.eq_of_text_eq {p q : Place} (hp : root.HoldsAt p v) (hq : root.HoldsAt q w)
    (h : p.text = q.text) : p = q := by
  refine eq_of_segments_eq (fun step hstep => Step.isSpelled_of_isAddressable (hp.steps step hstep))
    (fun step hstep => Step.isSpelled_of_isAddressable (hq.steps step hstep)) hp.held hq.held ?_
  rw [← Place.segments_text hp.ne_nil hp.steps, h, Place.segments_text hq.ne_nil hq.steps]

end Value

namespace Path

/-- **What a path resolves to.**  It resolves to a value other than null if and only if it is
the text of an addressable place that holds the value; it resolves to null in every other
case; and no two addressable places have the same text. -/
theorem resolve_named_places {path : List Char}
    (hlimit : ∀ segment ∈ segments path, segment.length ≤ digitLimit) (root : Value) :
    (∀ v, v ≠ .null → (resolve root path = .ok v ↔
      ∃ place : Place, place.text = path ∧ root.HoldsAt place v)) ∧
    ((¬ ∃ (place : Place) (v : Value), v ≠ .null ∧ place.text = path ∧ root.HoldsAt place v) →
      resolve root path = .ok .null) ∧
    (∀ (p q : Place) (v w : Value), root.HoldsAt p v → root.HoldsAt q w → p.text = q.text →
      p = q) := by
  obtain ⟨found, hfound⟩ := exists_locate_eq_ok hlimit root
  have hresolve : resolve root path = .ok ((found.map (·.value)).getD .null) := by
    rw [resolve, hfound, Except.map]
  have hvalue : ∀ v, v ≠ .null → (resolve root path = .ok v ↔
      ∃ place : Place, place.text = path ∧ root.HoldsAt place v) := by
    intro v hv
    constructor
    · intro h
      rw [hresolve] at h
      cases found with
      | none => exact absurd (Except.ok.inj h).symm hv
      | some there =>
        obtain ⟨place, w⟩ := there
        obtain rfl : w = v := Except.ok.inj h
        exact ⟨place, (locate_eq_some_iff hlimit).mp hfound⟩
    · rintro ⟨place, hplace⟩
      rw [resolve, (locate_eq_some_iff hlimit).mpr hplace]
      rfl
  refine ⟨hvalue, fun hnone => ?_, fun p q v w hp hq htext => hp.eq_of_text_eq hq htext⟩
  -- any value but null would be held by a place of this text
  rw [hresolve]
  by_cases hnull : (found.map (·.value)).getD .null = .null
  · rw [hnull]
  · obtain ⟨place, hplace⟩ := (hvalue _ hnull).mp hresolve
    exact absurd ⟨place, _, hnull, hplace⟩ hnone

/-- Both segments of `0.0` are digits: the first one is a position, the second one a key. -/
theorem resolve_named_places_digits :
    (∀ segment ∈ segments "0.0".toList, segment.length ≤ digitLimit) ∧
      resolve (.list [.object [("0", .text "zero")], .int 1]) "0.0".toList =
        .ok (.text "zero") := by
  have hlimit : ∀ segment ∈ segments "0.0".toList, segment.length ≤ digitLimit := by decide
  have hzero : Value.text "zero" ≠ .null := nofun
  refine ⟨hlimit, ((resolve_named_places hlimit _).1 _ hzero).mpr ?_⟩
  refine ⟨[.index 0, .key "0"], by decide, ⟨by decide, by decide, ?_⟩⟩
  rfl

end Path
end WebhookRelay
