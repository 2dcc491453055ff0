import WebhookRelay.Proofs.Expression.Comparison
import WebhookRelay.Proofs.Json.Compact
import WebhookRelay.Proofs.Json.Numbers
import WebhookRelay.Value.Shown

/-! # Numbers are shown alike if they are equal

Outside of containers a number is shown as an integer if it is equal to one, and otherwise with
the text of its own kind.  Two numbers are shown alike if and only if they are strictly equal
(`Located.shown_eq_iff_strictlyEquals`); what is not a number is left out, since it is equal to
nothing, and so are the integers of too many digits, which are not shown at all.

Two facts on the texts of binary64 numbers are behind that.  They are different for different
numbers (`Binary64.text_injective`): the text of a finite number reads back, and it holds no
letter of the words for the others.  And none of them is the numeral of an integer
(`Binary64.text_ne_ofInt`), since it holds a point, an exponent or a word.  So a number that is
shown with a text of its own shares it with no other number, and one that is shown as an integer
shares it with those that have the same exact value.
-/

namespace WebhookRelay

/-- What reads back is told apart by how it is written. -/
theorem Json.ReadsBack.eq_of_text_eq {limits : Json.Limits} {v w : Value} {s t : List Char}
    (hv : Json.ReadsBack limits v s) (hw : Json.ReadsBack limits w t) (h : s = t) : v = w := by
  have hread := hv.reads
  rw [h, hw.reads] at hread
  exact (Prod.mk.inj (Except.ok.inj hread)).1.symm

/-! ## Numerals of integers -/

namespace Numeral

/-- The numeral of an integer consists of digits and perhaps a minus. -/
theorem isDigit_or_eq_minus_of_mem_ofInt {n : Int} {c : Char} (h : c ∈ ofInt n) :
    c.isDigit = true ∨ c = '-' := by
  rw [ofInt] at h
  split at h
  · rcases List.mem_cons.mp h with hminus | hdigit
    · exact Or.inr hminus
    · exact Or.inl (isDigit_of_mem_ofNat hdigit)
  · exact Or.inl (isDigit_of_mem_ofNat h)

theorem minus_cons_ne_ofNat (s : List Char) (n : Nat) : '-' :: s ≠ ofNat n := fun h =>
  absurd (isDigit_of_mem_ofNat (h ▸ List.mem_cons_self)) (by decide)

theorem ofInt_injective {m n : Int} (h : ofInt m = ofInt n) : m = n := by
  rw [ofInt, ofInt] at h
  split at h <;> split at h
  · have := ofNat_injective (List.cons.inj h).2
    omega
  · exact absurd h (minus_cons_ne_ofNat _ _)
  · exact absurd h.symm (minus_cons_ne_ofNat _ _)
  · have := ofNat_injective h
    omega

end Numeral

/-! ## Texts of binary64 numbers -/

namespace Binary64

/-- A magnitude is written with a point or with an exponent. -/
theorem mark_mem_magnitudeText (rank : Nat) :
    '.' ∈ magnitudeText rank ∨ 'e' ∈ magnitudeText rank := by
  have hwrite : ∀ digits top, '.' ∈ layout.write digits top ∨ 'e' ∈ layout.write digits top := by
    intro digits top
    rw [Layout.write]
    split
    · refine Or.inl ?_
      rw [Layout.positional]
      split <;> simp
    · refine Or.inr ?_
      rw [Layout.scientific]
      simp
  rw [magnitudeText]
  split
  · exact Or.inl (by simp)
  · exact hwrite _ _

/-- The numbers that are not finite have words with a letter that stands in no numeral. -/
theorem mem_text_iff_not_isFinite {x : Binary64} : 'n' ∈ x.text ↔ x.isFinite = false := by
  cases x with
  | nan => exact iff_of_true (by decide) rfl
  | infinity negative => exact iff_of_true (by cases negative <;> decide) rfl
  | finite negative rank =>
    refine iff_of_false (fun hmem => ?_) (by simp [isFinite])
    rw [text] at hmem
    rcases List.mem_append.mp hmem with hsign | hmagnitude
    · cases negative <;> simp at hsign
    · exact absurd (Json.isNumeralChar_of_mem_magnitudeText rank _ hmagnitude) (by decide)

/-- A finite number is written in JSON with its own text. -/
theorem number_of_isFinite {x : Binary64} (h : x.isFinite = true) : Json.number x = x.text := by
  cases x with
  | finite negative rank => rfl
  | _ => cases h

/-- The words for the numbers that are not finite are different. -/
theorem eq_of_text_eq_of_not_isFinite {x y : Binary64} (hx : x.isFinite = false)
    (hy : y.isFinite = false) (h : x.text = y.text) : x = y := by
  cases x with
  | nan =>
    cases y with
    | nan => rfl
    | infinity other => cases other <;> exact absurd h (by decide)
    | finite other rank => cases hy
  | infinity negative =>
    cases y with
    | nan => cases negative <;> exact absurd h (by decide)
    | infinity other => cases negative <;> cases other <;> first | rfl | exact absurd h (by decide)
    | finite other rank => cases hy
  | finite negative rank => cases hx

/-- **Different numbers have different texts.** -/
theorem text_injective {x y : Binary64} (h : x.text = y.text) : x = y := by
  have hfinite : x.isFinite = y.isFinite := by
    rw [← Bool.not_inj_iff, Bool.eq_iff_iff, Bool.not_eq_true', Bool.not_eq_true',
      ← mem_text_iff_not_isFinite, ← mem_text_iff_not_isFinite, h]
  cases hx : x.isFinite with
  | false => exact eq_of_text_eq_of_not_isFinite hx (hfinite.symm.trans hx) h
  | true =>
    have hy : y.isFinite = true := hfinite.symm.trans hx
    have hnumber : Json.number x = Json.number y := by
      rw [number_of_isFinite hx, number_of_isFinite hy, h]
    exact Value.float.inj ((Json.readsBack_float x).eq_of_text_eq (Json.readsBack_float y) hnumber)

/-- **No text of a number is the numeral of an integer.** -/
theorem text_ne_ofInt (x : Binary64) (n : Int) : x.text ≠ Numeral.ofInt n := by
  intro h
  -- a point, the mark of an exponent or a letter of a word
  obtain ⟨c, hc, hdigit, hminus⟩ : ∃ c ∈ x.text, c.isDigit = false ∧ c ≠ '-' := by
    cases hfinite : x.isFinite with
    | false => exact ⟨'n', mem_text_iff_not_isFinite.mpr hfinite, rfl, by decide⟩
    | true =>
      cases x with
      | finite negative rank =>
        rcases mark_mem_magnitudeText rank with hmark | hmark
        · exact ⟨'.', List.mem_append_right _ hmark, rfl, by decide⟩
        · exact ⟨'e', List.mem_append_right _ hmark, rfl, by decide⟩
      | _ => cases hfinite
  rw [h] at hc
  rcases Numeral.isDigit_or_eq_minus_of_mem_ofInt hc with hd | hd
  · rw [hdigit] at hd
    cases hd
  · exact hminus hd

/-- Numbers of one exact value are the same, unless that value is an integer: only zero has two
representations. -/
theorem eq_of_extent?_eq {x y : Binary64} (h : x.extent? = y.extent?) (hwhole : x.toInt? = none) :
    x = y := by
  cases x with
  | nan =>
    cases y with
    | nan => rfl
    | _ => cases h
  | infinity negative =>
    cases y with
    | infinity other => rw [Extent.infinite.inj (Option.some.inj h)]
    | _ => cases h
  | finite negative rank =>
    cases y with
    | finite other third =>
      obtain ⟨hunits, hsign⟩ := signed_eq_iff.mp (Extent.finite.inj (Option.some.inj h))
      have hrank : rank = third := Fin.ext (units_injective hunits)
      rcases hsign with rfl | hzero
      · rw [hrank]
      · -- zero is an integer
        simp [toInt?, hzero] at hwhole
    | _ => cases h

end Binary64

/-! ## Shown numbers -/

namespace Value

/-- An integer that is not too long is shown as its numeral. -/
theorem shown_int {n : Int} (h : (int n).hasLongInteger = false) :
    (int n).shown = .ok (String.ofList (Numeral.ofInt n)) := by
  have hshort : Numeral.isLong n = false := (anyPart_leaf rfl).symm.trans h
  rw [shown, Numeral.ofInt?, hshort]
  rfl

/-- A number is shown as the integer that it is equal to, or else with the text of its kind. -/
theorem shown_of_extent? {v : Value} {e : Extent} (h : v.extent? = some e)
    (hshort : v.hasLongInteger = false) :
    (∃ n, e = Binary64.extentOfInt n ∧ v.shown = .ok (String.ofList (Numeral.ofInt n))) ∨
      ∃ x, v = float x ∧ x.toInt? = none ∧ v.shown = .ok (String.ofList x.text) := by
  cases v with
  | int n => exact Or.inl ⟨n, (Option.some.inj h).symm, shown_int hshort⟩
  | float x =>
    cases hx : x.toInt? with
    | none => exact Or.inr ⟨x, rfl, hx, by rw [shown, shownNumber, hx]⟩
    | some n =>
      have hextent := Binary64.toInt?_eq_some_iff.mp hx
      exact Or.inl ⟨n, Option.some.inj (h.symm.trans hextent), by rw [shown, shownNumber, hx]⟩
  | _ => cases h

/-- What is shown as an integer is not shown like a number that is equal to none. -/
theorem ofInt_ne_text_and_extent_ne {x : Binary64} {e : Extent} (hwhole : x.toInt? = none)
    (he : x.extent? = some e) (n : Int) :
    Numeral.ofInt n ≠ x.text ∧ Binary64.extentOfInt n ≠ e := by
  refine ⟨fun htext => x.text_ne_ofInt n htext.symm, ?_⟩
  rintro rfl
  rw [Binary64.toInt?_eq_some_iff.mpr he] at hwhole
  cases hwhole

theorem ok_text_inj {s t : List Char} :
    (Except.ok (Wide.text (String.ofList s)) : Except Fault Wide) =
      .ok (Wide.text (String.ofList t)) ↔ s = t := by
  rw [Except.ok.injEq, Wide.text.injEq, String.ofList_inj]

/-- **Numbers are shown alike if they have the same exact value**, and only then. -/
theorem shown_eq_iff_extent_eq {v w : Value} {e f : Extent} (hv : v.extent? = some e)
    (hw : w.extent? = some f) (hvshort : v.hasLongInteger = false)
    (hwshort : w.hasLongInteger = false) : v.shown = w.shown ↔ e = f := by
  rcases shown_of_extent? hv hvshort with ⟨m, rfl, hm⟩ | ⟨x, rfl, hx, hxText⟩ <;>
    rcases shown_of_extent? hw hwshort with ⟨n, rfl, hn⟩ | ⟨y, rfl, hy, hyText⟩
  · rw [hm, hn, ok_text_inj, Binary64.extentOfInt_inj]
    exact ⟨Numeral.ofInt_injective, congrArg Numeral.ofInt⟩
  · obtain ⟨htext, hextent⟩ := ofInt_ne_text_and_extent_ne hy hw m
    rw [hm, hyText, ok_text_inj]
    exact iff_of_false htext hextent
  · obtain ⟨htext, hextent⟩ := ofInt_ne_text_and_extent_ne hx hv n
    rw [hn, hxText, ok_text_inj]
    exact iff_of_false htext.symm hextent.symm
  · rw [hxText, hyText, ok_text_inj]
    constructor
    · intro htext
      rw [Binary64.text_injective htext] at hv
      exact Option.some.inj (hv.symm.trans hw)
    · rintro rfl
      rw [Binary64.eq_of_extent?_eq (hv.trans hw.symm) hx]

/-- A number has an exact value, unless it is no number at all. -/
theorem exists_extent?_of_isNumber {v : Value} (hnumber : v.isNumber = true)
    (hnan : v ≠ float .nan) : ∃ e, v.extent? = some e := by
  cases v with
  | int n => exact ⟨_, rfl⟩
  | float x =>
    cases x with
    | nan => exact absurd rfl hnan
    | infinity negative => exact ⟨_, rfl⟩
    | finite negative rank => exact ⟨_, rfl⟩
  | _ => cases hnumber

end Value

/-- **Numbers are shown alike if they are equal.**  Any two integers or binary64 numbers, integers
of too many digits apart, are shown, and they have the same text if and only if they are strictly
equal.  So a binary64 number that is equal to an integer is shown with the decimal of that
integer, whatever its size, and both zeros are shown as `0`. -/
theorem Located.shown_eq_iff_strictlyEquals {a b : Located} (ha : a.value.isNumber = true)
    (hb : b.value.isNumber = true) (haNan : a.value ≠ .float .nan)
    (hbNan : b.value ≠ .float .nan) (haShort : a.value.hasLongInteger = false)
    (hbShort : b.value.hasLongInteger = false) :
    (∃ s t, a.value.shown = .ok s ∧ b.value.shown = .ok t ∧
      (s = t ↔ a.strictlyEquals b = true)) ∧
      (∀ n, b.value = .int n → a.strictlyEquals b = true →
        a.value.shown = .ok (String.ofList (Numeral.ofInt n))) ∧
      ∀ negative, (Value.float (.zero negative)).shown = .ok "0" := by
  have hiff : a.value.shown = b.value.shown ↔ a.strictlyEquals b = true := by
    obtain ⟨e, he⟩ := Value.exists_extent?_of_isNumber ha haNan
    obtain ⟨f, hf⟩ := Value.exists_extent?_of_isNumber hb hbNan
    rw [Value.shown_eq_iff_extent_eq he hf haShort hbShort,
      Located.strictlyEquals_iff_extent? ha hb, he, hf]
    simp only [Option.some.injEq]
    exact ⟨fun h => ⟨e, rfl, h.symm⟩, fun ⟨_, h, h'⟩ => h.trans h'.symm⟩
  refine ⟨?_, fun n hn hequal => ?_, fun negative => ?_⟩
  · obtain ⟨s, hs⟩ := Value.exists_shown_of_short haShort
    obtain ⟨t, ht⟩ := Value.exists_shown_of_short hbShort
    rw [hs, ht, Except.ok.injEq] at hiff
    exact ⟨s, t, hs, ht, hiff⟩
  · rw [hiff.mpr hequal, hn, Value.shown_int (hn ▸ hbShort)]
  · cases negative <;> decide +kernel

/-- Ten to the 22nd is a binary64 number, and the next integer is none. -/
theorem Located.shown_eq_iff_strictlyEquals_large :
    let n : Int := 10000000000000000000000
    let a : Located := ⟨[.key "a"], .float (.ofInt n)⟩
    let b : Located := ⟨[.key "b"], .int n⟩
    let c : Located := ⟨[.key "c"], .int (n + 1)⟩
    (a.value.isNumber = true ∧ a.value ≠ .float .nan ∧ a.value.hasLongInteger = false) ∧
      (b.value.isNumber = true ∧ b.value ≠ .float .nan ∧ b.value.hasLongInteger = false) ∧
      (c.value.isNumber = true ∧ c.value ≠ .float .nan ∧ c.value.hasLongInteger = false) ∧
      a.value.shown = b.value.shown ∧ a.value.shown = .ok "10000000000000000000000" ∧
      a.value.shown ≠ c.value.shown := by
  intro n a b c
  have hnan : a.value ≠ .float .nan := fun h => Binary64.ofInt_ne_nan n (Value.float.inj h)
  have hequal : a.strictlyEquals b = true := by decide +kernel
  have hdifferent : a.strictlyEquals c = false := by decide +kernel
  have hshort : b.value.hasLongInteger = false ∧ c.value.hasLongInteger = false := by decide
  obtain ⟨⟨s, t, hs, ht, hsame⟩, hdecimal, -⟩ :=
    shown_eq_iff_strictlyEquals (a := a) (b := b) rfl rfl hnan nofun rfl hshort.1
  obtain ⟨⟨s', t', hs', ht', hother⟩, -⟩ :=
    shown_eq_iff_strictlyEquals (a := a) (b := c) rfl rfl hnan nofun rfl hshort.2
  have htext : String.ofList (Numeral.ofInt n) = "10000000000000000000000" := by decide +kernel
  refine ⟨⟨rfl, hnan, rfl⟩, ⟨rfl, nofun, hshort.1⟩, ⟨rfl, nofun, hshort.2⟩, ?_, ?_, fun h => ?_⟩
  · rw [hs, ht, hsame.mpr hequal]
  · rw [hdecimal n rfl hequal, htext]
  · rw [hs', ht', Except.ok.injEq, hother, hdifferent] at h
    cases h

end WebhookRelay
