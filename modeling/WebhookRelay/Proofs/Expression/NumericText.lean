import WebhookRelay.Proofs.Binary64.Numerals
import WebhookRelay.Proofs.Expression.Equality

/-! # Texts that count as numbers

By the rule of expressions a text counts as a number in comparisons if it is **numeric**: blank,
the word `Infinity` or a decimal numeral with an optional sign, or an unsigned literal in base
16, 8 or 2 (`Value.IsNumeric`).  The conversion departs from the rule in three ways.

* Literals in base 16, 8 and 2 do not count (`Value.IsRadixLiteral`).
* The word for infinity counts in any letter case, and so does its short form; and underscores
  may stand between the digits of a numeral (`Value.IsLoose`).

These are all the departures: a text counts as the rule says if and only if it is none of them
(`Value.counts_iff_numeric`).  A text that does not count is neither loosely equal to any
number nor in any order with one, and a text that counts is loosely equal to some number.
-/

namespace WebhookRelay
open Text

namespace Value

/-! ## The rule and the departures from it -/

/-- The digits of the number system with this mark: base 16, 8 or 2.  Other marks have none. -/
def isRadixDigit (mark c : Char) : Bool :=
  match mark with
  | 'x' | 'X' => c.isDigit || ('a' ≤ c && c ≤ 'f') || ('A' ≤ c && c ≤ 'F')
  | 'o' | 'O' => '0' ≤ c && c ≤ '7'
  | 'b' | 'B' => c = '0' || c = '1'
  | _ => false

theorem mark_mem_of_isRadixDigit {mark c : Char} (h : isRadixDigit mark c = true) :
    mark ∈ ['x', 'X', 'o', 'O', 'b', 'B'] := by
  rw [isRadixDigit.eq_def] at h
  split at h
  case h_7 => cases h
  all_goals decide

theorem isRadixDigit_underscore (mark : Char) : isRadixDigit mark '_' = false := by
  rw [isRadixDigit.eq_def]
  split <;> rfl

/-- A literal such as `0x1F`, `0o17` or `0b11`. -/
def IsRadixLiteral (s : List Char) : Prop :=
  ∃ mark digits, s = '0' :: mark :: digits ∧ digits ≠ [] ∧ ∀ c ∈ digits, isRadixDigit mark c = true

/-- The texts without blanks around them that count as numbers by the rule. -/
inductive IsNumeric : List Char → Prop where
  | blank : IsNumeric []
  | infinity {sign : List Char} (hsign : IsSign sign) : IsNumeric (sign ++ "Infinity".toList)
  | decimal {sign body : List Char} (hsign : IsSign sign) (hbody : Decimal.IsNumeral body) :
    IsNumeric (sign ++ body)
  | radix {s : List Char} (h : IsRadixLiteral s) : IsNumeric s

/-- The texts that count as numbers although the rule does not say so. -/
inductive IsLoose : List Char → Prop where
  /-- The word for infinity is short or in other letters. -/
  | word {sign word : List Char} (hsign : IsSign sign) (hword : Binary64.IsInfinityWord word)
      (hne : word ≠ "Infinity".toList) : IsLoose (sign ++ word)
  /-- Underscores stand between the digits of a numeral. -/
  | grouped {s sign body : List Char} (hgrouped : Numeral.Grouped false s) (hmem : '_' ∈ s)
      (hsign : IsSign sign) (hbody : Decimal.IsNumeral body)
      (hplain : s.filter (· ≠ '_') = sign ++ body) : IsLoose s

theorem isInfinityWord_infinity : Binary64.IsInfinityWord "Infinity".toList :=
  Or.inr (by decide)

theorem not_isNumeral_of_isInfinityWord {word : List Char} (h : Binary64.IsInfinityWord word) :
    ¬ Decimal.IsNumeral word := by
  refine Binary64.not_isNumeral_of_word ?_
  rcases h with h | h
  · rw [h]
    decide
  · rw [h]
    decide

/-- A letter of a word for infinity, in lower case. -/
theorem toLower_mem_of_mem {word : List Char} {c : Char} (h : Binary64.IsInfinityWord word)
    (hc : c ∈ word) : c.toLower ∈ "infinity".toList := by
  have hmem : c.toLower ∈ word.map Char.toLower := List.mem_map_of_mem hc
  rcases h with h | h
  · rw [h] at hmem
    have hall : "inf".toList.all ("infinity".toList.contains ·) = true := by decide
    exact List.contains_iff_mem.mp (List.all_eq_true.mp hall _ hmem)
  · rwa [h] at hmem

/-- No underscore is read as part of a number. -/
theorem underscore_not_mem_signed {sign body : List Char} (hsign : IsSign sign)
    (h : Binary64.IsMagnitude body) : '_' ∉ sign ++ body := by
  intro hmem
  rcases List.mem_append.mp hmem with hmem | hmem
  · exact absurd (Decimal.isNumeralChar_of_isSign hsign _ hmem) (by decide)
  · rcases h with h | h
    · exact absurd (toLower_mem_of_mem h hmem) (by decide)
    · exact absurd (h.isNumeralChar _ hmem) (by decide)

/-- Neither a sign nor a word for infinity holds a digit. -/
theorem isDigit_of_mem_word {sign word : List Char} (hsign : IsSign sign)
    (h : Binary64.IsInfinityWord word) : ∀ c ∈ sign ++ word, c.isDigit = false := by
  intro c hc
  refine Bool.eq_false_iff.mpr fun hdigit => ?_
  rcases List.mem_append.mp hc with hc | hc
  · rcases hsign with rfl | rfl | rfl
    · cases hc
    · obtain rfl := List.mem_singleton.mp hc
      cases hdigit
    · obtain rfl := List.mem_singleton.mp hc
      cases hdigit
  · have hletter := toLower_mem_of_mem h hc
    rw [Binary64.toLower_of_isDigit hdigit] at hletter
    have hletters : "infinity".toList.all (!·.isDigit) = true := by decide
    have hnot := List.all_eq_true.mp hletters c hletter
    rw [hdigit] at hnot
    cases hnot

/-- A literal with a mark is not read as a number: the mark is no character of numerals. -/
theorem IsRadixLiteral.not_isMagnitude {sign body : List Char} (hsign : IsSign sign)
    (hbody : Binary64.IsMagnitude body) : ¬ IsRadixLiteral (sign ++ body) := by
  rintro ⟨mark, digits, heq, hne, hdigits⟩
  obtain ⟨c, hc⟩ := List.exists_mem_of_ne_nil digits hne
  have hmark := mark_mem_of_isRadixDigit (hdigits c hc)
  have hzero : body = '0' :: mark :: digits := by
    rcases hsign with rfl | rfl | rfl
    · exact heq
    · exact absurd (List.cons.inj heq).1 (by decide)
    · exact absurd (List.cons.inj heq).1 (by decide)
  subst hzero
  rcases hbody with hword | hnumeral
  · exact absurd (isDigit_of_mem_word (.inl rfl) hword '0' List.mem_cons_self) (by decide)
  · have hchar := hnumeral.isNumeralChar mark (List.mem_cons_of_mem _ List.mem_cons_self)
    have hmarks : ['x', 'X', 'o', 'O', 'b', 'B'].all (!Decimal.isNumeralChar ·) = true := by decide
    have hnot := List.all_eq_true.mp hmarks mark hmark
    rw [hchar] at hnot
    cases hnot

theorem IsRadixLiteral.underscore_not_mem {s : List Char} (h : IsRadixLiteral s) : '_' ∉ s := by
  obtain ⟨mark, digits, rfl, hne, hdigits⟩ := h
  obtain ⟨c, hc⟩ := List.exists_mem_of_ne_nil digits hne
  intro hmem
  rcases List.mem_cons.mp hmem with hmem | hmem
  · exact absurd hmem (by decide)
  · rcases List.mem_cons.mp hmem with rfl | hmem
    · exact absurd (mark_mem_of_isRadixDigit (hdigits c hc)) (by decide)
    · have hdigit := hdigits _ hmem
      rw [isRadixDigit_underscore] at hdigit
      cases hdigit

/-- **The departures are departures**: what counts loosely is not numeric. -/
theorem IsLoose.not_isNumeric {s : List Char} (h : IsLoose s) : ¬ IsNumeric s := by
  cases h with
  | @word sign word hsign hword hne =>
    have hbody : Binary64.IsMagnitude word := .inl hword
    generalize hs : sign ++ word = s
    intro hnumeric
    cases hnumeric with
    | blank =>
      obtain ⟨-, rfl⟩ := List.append_eq_nil_iff.mp hs
      rcases hword with h | h <;> cases h
    | infinity hother =>
      exact hne (hbody.eq_of_append_eq hsign hother (.inl isInfinityWord_infinity) hs)
    | decimal hother hnumeral =>
      have hsame := hbody.eq_of_append_eq hsign hother (.inr hnumeral) hs
      exact not_isNumeral_of_isInfinityWord hword (hsame ▸ hnumeral)
    | radix hradix => exact IsRadixLiteral.not_isMagnitude hsign hbody (hs ▸ hradix)
  | grouped hgrouped hmem hsign hbody hplain =>
    intro hnumeric
    cases hnumeric with
    | blank => cases hmem
    | infinity hother =>
      exact underscore_not_mem_signed hother (.inl isInfinityWord_infinity) hmem
    | decimal hother hnumeral => exact underscore_not_mem_signed hother (.inr hnumeral) hmem
    | radix hradix => exact hradix.underscore_not_mem hmem

/-! ## What is read -/

theorem filter_underscore {s : List Char} (h : '_' ∉ s) : s.filter (· ≠ '_') = s :=
  List.filter_eq_self.mpr fun _ hc => decide_eq_true fun heq => h (heq ▸ hc)

/-- A sign and a magnitude are read as they stand. -/
theorem ofText?_ne_nan_of_isMagnitude {sign body : List Char} (hsign : IsSign sign)
    (hbody : Binary64.IsMagnitude body) : (Binary64.ofText? (sign ++ body)).getD .nan ≠ .nan := by
  have hmem := underscore_not_mem_signed hsign hbody
  exact Binary64.ofText?_ne_nan_iff.mpr
    ⟨Numeral.grouped_of_not_mem hmem, sign, body, hsign, filter_underscore hmem, hbody⟩

/-- Underscores stand next to digits, which no word for infinity holds. -/
theorem isNumeral_of_grouped {s sign body : List Char} (hgrouped : Numeral.Grouped false s)
    (hmem : '_' ∈ s) (hsign : IsSign sign) (hplain : s.filter (· ≠ '_') = sign ++ body)
    (hbody : Binary64.IsMagnitude body) : Decimal.IsNumeral body := by
  refine hbody.resolve_left fun hword => ?_
  obtain ⟨c, hc, hdigit⟩ := hgrouped.exists_digit hmem
  have hne : c ≠ '_' := by
    rintro rfl
    cases hdigit
  have hkept : c ∈ s.filter (· ≠ '_') := List.mem_filter.mpr ⟨hc, decide_eq_true hne⟩
  rw [hplain] at hkept
  rw [isDigit_of_mem_word hsign hword c hkept] at hdigit
  cases hdigit

/-- What is read as a number is numeric or counts loosely. -/
theorem ofText?_ne_nan_iff {s : List Char} (hs : s ≠ []) :
    (Binary64.ofText? s).getD .nan ≠ .nan ↔ (IsNumeric s ∧ ¬ IsRadixLiteral s) ∨ IsLoose s := by
  constructor
  · intro h
    obtain ⟨hgrouped, sign, body, hsign, hplain, hbody⟩ := Binary64.ofText?_ne_nan_iff.mp h
    by_cases hmem : '_' ∈ s
    · have hnumeral := isNumeral_of_grouped hgrouped hmem hsign hplain hbody
      exact Or.inr (.grouped hgrouped hmem hsign hnumeral hplain)
    · rw [filter_underscore hmem] at hplain
      subst hplain
      have hradix := IsRadixLiteral.not_isMagnitude hsign hbody
      rcases hbody with hword | hnumeral
      · by_cases hspelled : body = "Infinity".toList
        · subst hspelled
          exact Or.inl ⟨.infinity hsign, hradix⟩
        · exact Or.inr (.word hsign hword hspelled)
      · exact Or.inl ⟨.decimal hsign hnumeral, hradix⟩
  · rintro (⟨hnumeric, hradix⟩ | hloose)
    · cases hnumeric with
      | blank => exact absurd rfl hs
      | infinity hsign => exact ofText?_ne_nan_of_isMagnitude hsign (.inl isInfinityWord_infinity)
      | decimal hsign hnumeral => exact ofText?_ne_nan_of_isMagnitude hsign (.inr hnumeral)
      | radix h => exact absurd h hradix
    · cases hloose with
      | word hsign hword _ => exact ofText?_ne_nan_of_isMagnitude hsign (.inl hword)
      | grouped hgrouped _ hsign hbody hkept =>
        exact Binary64.ofText?_ne_nan_iff.mpr ⟨hgrouped, _, _, hsign, hkept, .inr hbody⟩

/-- What is read as a number consists of basic characters. -/
theorem toNat_lt_of_ofText? {s : List Char} (h : (Binary64.ofText? s).getD .nan ≠ .nan) :
    ∀ c ∈ s, c.toNat < 128 := by
  obtain ⟨-, sign, body, hsign, hplain, hbody⟩ := Binary64.ofText?_ne_nan_iff.mp h
  intro c hc
  by_cases hne : c = '_'
  · subst hne
    decide
  · have hkept : c ∈ s.filter (· ≠ '_') := List.mem_filter.mpr ⟨hc, decide_eq_true hne⟩
    rw [hplain] at hkept
    rcases List.mem_append.mp hkept with hmem | hmem
    · exact Decimal.toNat_lt_of_isNumeralChar (Decimal.isNumeralChar_of_isSign hsign c hmem)
    · rcases hbody with hword | hbody
      · have hletters : "infinity".toList.all (·.toNat < 128) = true := by decide
        have hlower := List.all_eq_true.mp hletters _ (toLower_mem_of_mem hword hmem)
        rw [decide_eq_true_eq] at hlower
        rcases Binary64.toLower_cases c with hsame | hshift
        · rwa [hsame] at hlower
        · omega
      · exact Decimal.toNat_lt_of_isNumeralChar (hbody.isNumeralChar c hmem)

/-- A text counts as a number if it is blank or what is left without the blanks is read as
one. -/
theorem textNumber_ne_nan_iff (s : String) :
    textNumber s ≠ .nan ↔
      trim s.toList = [] ∨ (Binary64.ofText? (trim s.toList)).getD .nan ≠ .nan := by
  rw [textNumber]
  by_cases hempty : trim s.toList = []
  · simp [hempty, Binary64.zero, Binary64.ofRank_ne_nan]
  · have hfalse : (trim s.toList).isEmpty = false := by simpa using hempty
    simp only [hfalse, Bool.false_eq_true, if_false]
    rw [or_iff_right hempty]
    split
    · exact Iff.rfl
    · rename_i hforeign
      refine iff_of_false (fun h => h rfl) fun h => hforeign ?_
      exact List.all_eq_true.mpr fun c hc => decide_eq_true (toNat_lt_of_ofText? h c hc)

/-- **Which texts count**: the numeric ones but the literals with a mark, and the loose ones. -/
theorem counts_iff (s : String) :
    textNumber s ≠ .nan ↔ (IsNumeric (trim s.toList) ∧ ¬ IsRadixLiteral (trim s.toList)) ∨
      IsLoose (trim s.toList) := by
  rw [textNumber_ne_nan_iff]
  by_cases hempty : trim s.toList = []
  · refine iff_of_true (Or.inl hempty) (Or.inl ?_)
    rw [hempty]
    exact ⟨.blank, fun ⟨_, _, h, _⟩ => nomatch h⟩
  · rw [or_iff_right hempty, ofText?_ne_nan_iff hempty]

end Value

/-! ## Comparisons with numbers -/

namespace Operator

variable {op : Operator} {a b : Located}

/-- The operators that compare with numbers: loose equality and the orders. -/
def numeric : List Operator := equal :: orders

/-- What is in no order is not accepted by any operator. -/
theorem accepts_none (op : Operator) : op.accepts none = false := by
  cases op <;> rfl

/-- A numeric operator goes by the order of the converted operands, unless both are texts. -/
theorem relates_numeric_iff (hop : op ∈ numeric) (ha : a.value.isPlain = true)
    (hb : b.value.isPlain = true) (htexts : ¬ Located.BothTexts a b) :
    op.Relates a b ↔ ∃ x y, a.value.toNumber = .ok x ∧ b.value.toNumber = .ok y ∧
      op.accepts (x.order? y) = true := by
  have happly : op.apply a b =
      (Located.converted Binary64.order? a b).map fun o => .bool (op.accepts o) := by
    rw [← Located.order?_of_not_texts htexts]
    rcases List.mem_cons.mp hop with rfl | hop
    · rw [apply, Located.looselyEquals_eq_map_order? ha hb]
      cases a.order? b <;> rfl
    · exact apply_of_mem_orders hop
  rw [Relates, happly]
  constructor
  · intro h
    cases hx : a.value.toNumber with
    | error fault =>
      rw [Located.converted, hx] at h
      cases h
    | ok x =>
      cases hy : b.value.toNumber with
      | error fault =>
        rw [Located.converted, hx, hy] at h
        cases h
      | ok y =>
        rw [Located.converted_eq_ok hx hy] at h
        exact ⟨x, y, rfl, rfl, Value.bool.inj (Except.ok.inj h)⟩
  · rintro ⟨x, y, hx, hy, haccepts⟩
    rw [Located.converted_eq_ok hx hy, Except.map, haccepts]

end Operator

namespace Value

/-- The text is loosely equal to the value, or in an order with it. -/
def ComparesWith (s : String) (w : Value) : Prop :=
  ∃ op ∈ Operator.numeric, ∃ p q : Place,
    op.Relates ⟨p, .text s⟩ ⟨q, w⟩ ∨ op.Relates ⟨q, w⟩ ⟨p, .text s⟩

/-- A text that does not count as a number does not compare with any number. -/
theorem not_comparesWith {s : String} {w : Value} (hs : textNumber s = .nan)
    (hw : w.isNumber = true) : ¬ ComparesWith s w := by
  have hplain := isPlain_of_isNumber hw
  have hnot : ∀ t : Wide, w.wide? ≠ some t := by
    intro t ht
    rw [wide?_eq_some_iff.mp ht, isNumber_ofWide] at hw
    cases hw
  rintro ⟨op, hop, p, q, h | h⟩
  · obtain ⟨x, y, hx, -, haccepts⟩ := (Operator.relates_numeric_iff hop rfl hplain
      fun ⟨_, t, _, ht⟩ => hnot t ht).mp h
    obtain rfl : x = .nan := (Except.ok.inj hx).symm.trans hs
    rw [Binary64.order?_eq_none_iff.mpr (Or.inl rfl), Operator.accepts_none] at haccepts
    cases haccepts
  · obtain ⟨x, y, -, hy, haccepts⟩ := (Operator.relates_numeric_iff hop hplain rfl
      fun ⟨t, _, ht, _⟩ => hnot t ht).mp h
    obtain rfl : y = .nan := (Except.ok.inj hy).symm.trans hs
    rw [Binary64.order?_eq_none_iff.mpr (Or.inr rfl), Operator.accepts_none] at haccepts
    cases haccepts

/-- A text that counts as a number is loosely equal to that number. -/
theorem comparesWith_textNumber {s : String} (hs : textNumber s ≠ .nan) :
    ComparesWith s (.float (textNumber s)) := by
  refine ⟨.equal, List.mem_cons_self, [], [], Or.inl ?_⟩
  have hequals : Located.looselyEquals ⟨[], .text s⟩ ⟨[], .float (textNumber s)⟩ = .ok true :=
    Located.looselyEquals_of_eq rfl rfl nofun rfl rfl (Binary64.eq_self hs)
  rw [Operator.Relates, Operator.apply, hequals, Except.map]

/-- **Which texts count as numbers.**  They are the numeric texts but the literals with a mark,
and the loose texts.  So a text counts if and only if it is numeric, unless it is such a literal
or loose, and for these it is the other way round.  The texts that count are those that compare
with some number. -/
theorem counts_iff_numeric (s : String) :
    (textNumber s ≠ .nan ↔ (IsNumeric (trim s.toList) ∧ ¬ IsRadixLiteral (trim s.toList)) ∨
      IsLoose (trim s.toList)) ∧
    ((textNumber s ≠ .nan ↔ IsNumeric (trim s.toList)) ↔
      ¬ IsRadixLiteral (trim s.toList) ∧ ¬ IsLoose (trim s.toList)) ∧
    (textNumber s ≠ .nan ↔ ∃ w : Value, w.isNumber = true ∧ ComparesWith s w) := by
  refine ⟨counts_iff s, ?_, fun h => ⟨_, rfl, comparesWith_textNumber h⟩, ?_⟩
  · rw [counts_iff]
    constructor
    · intro h
      have hloose : ¬ IsLoose (trim s.toList) := fun hloose =>
        hloose.not_isNumeric (h.mp (Or.inr hloose))
      refine ⟨fun hradix => ?_, hloose⟩
      rcases h.mpr (.radix hradix) with hcounts | hcounts
      · exact hcounts.2 hradix
      · exact hloose hcounts
    · rintro ⟨hradix, hloose⟩
      rw [or_iff_left hloose]
      exact and_iff_left hradix
  · rintro ⟨w, hw, hcompares⟩ hs
    exact not_comparesWith hs hw hcompares

/-- The literal `0x10` is numeric and does not count; `1_000` and `inf` count, the first one as
the integer 1000, and are not numeric. -/
theorem numeric_texts_miscounted :
    (IsNumeric (trim "0x10".toList) ∧ textNumber "0x10" = .nan) ∧
    (¬ IsNumeric (trim "1_000".toList) ∧
      Operator.equal.Relates ⟨[], .text "1_000"⟩ ⟨[], .int 1000⟩) ∧
    (¬ IsNumeric (trim "inf".toList) ∧ textNumber "inf" = .infinity false) := by
  have hradix : IsNumeric "0x10".toList :=
    .radix ⟨'x', ['1', '0'], rfl, List.cons_ne_nil _ _, List.all_eq_true.mp (by decide)⟩
  have hgrouped : IsLoose "1_000".toList := by
    have hplain : Numeral.ungroup? false "1_000".toList = some "1000".toList := by decide
    have hnumeral : Decimal.IsNumeral "1000".toList :=
      ⟨"1000".toList, [], rfl, .whole ⟨by decide, List.all_eq_true.mp (by decide)⟩, .absent⟩
    exact .grouped (Numeral.ungroup?_eq_some_iff.mp hplain).1 (by decide) (.inl rfl) hnumeral
      (by decide)
  have hword : IsLoose "inf".toList :=
    .word (.inl rfl) (.inl (by decide)) (by decide)
  have hequals : Located.looselyEquals ⟨[], .text "1_000"⟩ ⟨[], .int 1000⟩ = .ok true := by
    decide +kernel
  refine ⟨⟨hradix, by decide +kernel⟩, ⟨hgrouped.not_isNumeric, ?_⟩,
    hword.not_isNumeric, by decide +kernel⟩
  rw [Operator.Relates, Operator.apply, hequals, Except.map]

end Value
end WebhookRelay
