import WebhookRelay.Binary64.Text
import WebhookRelay.Proofs.Expression.Term

/-! # What the reader of binary64 numbers accepts

A numeral is digits with an optional point among or around them and an optional exponent.
This module says what the reader accepts, without a look at how it reads
(`Binary64.ofText?_ne_nan_iff`): a numeral with an optional sign, in which underscores may
stand between digits, or a word for infinity with an optional sign.

The reader works from the outside in.  It takes the underscores away, splits off the sign,
takes maximal runs of digits around the point, and what is left has to be an exponent.  Each
layer has one lemma, and each lemma is an equivalence with the grammar of that layer
(`Numeral.ungroup?_eq_some_iff`, `Numeral.exists_splitSign`, `Decimal.isSome_readUnsigned?`,
`Decimal.isSome_readExponent?`).
-/

namespace WebhookRelay

/-! ## Signs and underscores -/

/-- A plus, a minus or no sign at all. -/
def IsSign (s : List Char) : Prop := s = [] ∨ s = ['+'] ∨ s = ['-']

namespace Numeral

/-- A sign is split off from a text that starts with none itself. -/
theorem splitSign_append {sign rest : List Char} (hsign : IsSign sign)
    (hrest : ∀ c, rest.head? = some c → c ≠ '+' ∧ c ≠ '-') :
    splitSign (sign ++ rest) = (decide (sign = ['-']), rest) := by
  rcases hsign with rfl | rfl | rfl
  · rw [List.nil_append, splitSign.eq_def]
    split
    · exact absurd rfl (hrest '-' rfl).2
    · exact absurd rfl (hrest '+' rfl).1
    · rfl
  · rfl
  · rfl

/-- Every text is a sign and what is left without it. -/
theorem exists_splitSign (s : List Char) : ∃ sign, IsSign sign ∧ s = sign ++ (splitSign s).2 := by
  rw [splitSign.eq_def]
  split
  · exact ⟨['-'], .inr (.inr rfl), rfl⟩
  · exact ⟨['+'], .inr (.inl rfl), rfl⟩
  · exact ⟨[], .inl rfl, rfl⟩

/-- Each underscore of a text stands between two digits, given whether a digit stands just
before the text. -/
def Grouped (afterDigit : Bool) (s : List Char) : Prop :=
  ∀ before after, s = before ++ '_' :: after →
    before.getLast?.elim afterDigit Char.isDigit = true ∧ after.head?.any Char.isDigit = true

/-- What a character says of the underscores: one at the start stands between digits, and so
do those of the rest. -/
theorem grouped_cons {afterDigit : Bool} {c : Char} {rest : List Char} :
    Grouped afterDigit (c :: rest) ↔
      (c = '_' → afterDigit = true ∧ rest.head?.any Char.isDigit = true) ∧
        Grouped c.isDigit rest := by
  constructor
  · intro h
    refine ⟨?_, fun before after hrest => ?_⟩
    · rintro rfl
      exact h [] rest rfl
    · obtain ⟨hbefore, hafter⟩ := h (c :: before) after (congrArg (c :: ·) hrest)
      refine ⟨?_, hafter⟩
      rw [List.getLast?_cons] at hbefore
      cases hlast : before.getLast? <;> simpa [hlast] using hbefore
  · rintro ⟨hfirst, hmore⟩ before after hsplit
    cases before with
    | nil =>
      obtain ⟨rfl, rfl⟩ := List.cons.inj hsplit
      exact hfirst rfl
    | cons d before =>
      obtain ⟨rfl, rfl⟩ := List.cons.inj hsplit
      obtain ⟨hbefore, hafter⟩ := hmore before after rfl
      refine ⟨?_, hafter⟩
      rw [List.getLast?_cons]
      cases hlast : before.getLast? <;> simpa [hlast] using hbefore

/-- A text without underscores is grouped. -/
theorem grouped_of_not_mem {afterDigit : Bool} {s : List Char} (h : '_' ∉ s) :
    Grouped afterDigit s := by
  rintro before after rfl
  exact absurd (List.mem_append_right before List.mem_cons_self) h

/-- A text with grouped digits holds a digit. -/
theorem Grouped.exists_digit {s : List Char} (h : Grouped false s) (hmem : '_' ∈ s) :
    ∃ c ∈ s, c.isDigit = true := by
  obtain ⟨before, after, rfl⟩ := List.append_of_mem hmem
  obtain ⟨-, hafter⟩ := h before after rfl
  obtain ⟨c, hc, hdigit⟩ := (Option.any_eq_true _ _).mp hafter
  exact ⟨c, List.mem_append_right before (List.mem_cons_of_mem _ (List.mem_of_head? hc)), hdigit⟩

/-- **Underscores are taken away** from a text if and only if they stand between digits. -/
theorem ungroup?_eq_some_iff {afterDigit : Bool} {s plain : List Char} :
    ungroup? afterDigit s = some plain ↔
      Grouped afterDigit s ∧ s.filter (· ≠ '_') = plain := by
  fun_induction ungroup? afterDigit s generalizing plain with
  | case1 afterDigit => simp [grouped_of_not_mem]
  | case2 afterDigit =>
    refine iff_of_false nofun fun h => ?_
    exact absurd ((grouped_cons.mp h.1).1 rfl).2 (by decide)
  | case3 afterDigit c rest hdigits ih =>
    rw [Bool.and_eq_true] at hdigits
    obtain ⟨hbefore, hc⟩ := hdigits
    have hne : c ≠ '_' := by
      rintro rfl
      cases hc
    have hgrouped : Grouped afterDigit ('_' :: c :: rest) ↔ Grouped true rest := by
      rw [grouped_cons, grouped_cons, hbefore, hc, List.head?_cons, Option.any_some, hc]
      simp [hne]
    have hfilter : ('_' :: c :: rest).filter (· ≠ '_') = c :: rest.filter (· ≠ '_') := by
      simp [hne]
    simp only [hgrouped, Option.map_eq_some_iff, ih, hfilter, and_assoc, exists_and_left,
      exists_eq_left']
  | case4 afterDigit c rest hdigits =>
    rw [Bool.and_eq_true] at hdigits
    refine iff_of_false nofun fun h => hdigits ?_
    simpa using (grouped_cons.mp h.1).1 rfl
  | case5 afterDigit c rest hlast hmore ih =>
    have hne : c ≠ '_' := by
      rintro rfl
      cases rest with
      | nil => exact hlast rfl rfl
      | cons d rest => exact hmore d rest rfl rfl
    have hgrouped : Grouped afterDigit (c :: rest) ↔ Grouped c.isDigit rest := by
      rw [grouped_cons]
      exact and_iff_right fun h => absurd h hne
    have hfilter : (c :: rest).filter (· ≠ '_') = c :: rest.filter (· ≠ '_') :=
      List.filter_cons_of_pos (decide_eq_true hne)
    simp only [hgrouped, Option.map_eq_some_iff, ih, hfilter, and_assoc, exists_and_left,
      exists_eq_left']

end Numeral

/-! ## Numerals -/

namespace Decimal

/-- The digits of a numeral: digits with an optional point and any digits behind it, or a
point and digits. -/
inductive IsMantissa : List Char → Prop where
  | whole {digits : List Char} (h : IsDigits digits) : IsMantissa digits
  | pointed {digits fraction : List Char} (h : IsDigits digits)
      (hfraction : ∀ c ∈ fraction, c.isDigit = true) : IsMantissa (digits ++ '.' :: fraction)
  | fraction {digits : List Char} (h : IsDigits digits) : IsMantissa ('.' :: digits)

/-- The exponent of a numeral: nothing, or a mark, an optional sign and digits. -/
inductive IsExponent : List Char → Prop where
  | absent : IsExponent []
  | present {mark : Char} {sign digits : List Char} (hmark : mark = 'e' ∨ mark = 'E')
      (hsign : IsSign sign) (h : IsDigits digits) : IsExponent (mark :: (sign ++ digits))

/-- An unsigned decimal numeral. -/
def IsNumeral (s : List Char) : Prop :=
  ∃ mantissa exponent, s = mantissa ++ exponent ∧ IsMantissa mantissa ∧ IsExponent exponent

theorem ne_sign_of_isDigit {c : Char} (h : c.isDigit = true) : c ≠ '+' ∧ c ≠ '-' := by
  constructor
  · rintro rfl
    cases h
  · rintro rfl
    cases h

theorem ne_sign_of_isDigits {digits : List Char} (h : IsDigits digits) :
    ∀ c, digits.head? = some c → c ≠ '+' ∧ c ≠ '-' := fun c hc =>
  ne_sign_of_isDigit (h.2 c (List.mem_of_head? hc))

/-- **The reader of exponents** accepts the exponents. -/
theorem isSome_readExponent? {s : List Char} :
    (readExponent? s).isSome = true ↔ IsExponent s := by
  constructor
  · intro h
    cases s with
    | nil => exact .absent
    | cons mark rest =>
      obtain ⟨sign, hsign, hrest⟩ := Numeral.exists_splitSign rest
      rw [readExponent?] at h
      dsimp only at h
      split at h
      · rename_i hform
        simp only [Bool.and_eq_true, Bool.or_eq_true, decide_eq_true_eq, Bool.not_eq_true',
          List.isEmpty_eq_false_iff, List.all_eq_true] at hform
        obtain ⟨⟨hmark, hne⟩, hdigits⟩ := hform
        rw [hrest]
        exact .present hmark hsign ⟨hne, hdigits⟩
      · cases h
  · intro h
    cases h with
    | absent => rfl
    | @present mark sign digits hmark hsign hdigits =>
      have hsplit := Numeral.splitSign_append hsign (ne_sign_of_isDigits hdigits)
      have hall : digits.all Char.isDigit = true := List.all_eq_true.mpr hdigits.2
      rw [readExponent?, hsplit]
      dsimp only
      rw [if_pos (by simp [hmark, hdigits.1, hall])]
      rfl

/-- An exponent does not go on with the digits before it. -/
theorem IsExponent.head?_not_digit {s : List Char} (h : IsExponent s) :
    ∀ c, s.head? = some c → c.isDigit = false := by
  intro c hc
  cases h with
  | absent => cases hc
  | present hmark hsign hdigits =>
    obtain rfl := Option.some.inj hc
    rcases hmark with rfl | rfl <;> rfl

variable {negative : Bool} {whole fraction exponent : List Char}

/-- A numeral with a point is read from the digits around it and the exponent. -/
theorem isSome_readUnsigned?_of_point (hwhole : ∀ c ∈ whole, c.isDigit = true)
    (hfraction : ∀ c ∈ fraction, c.isDigit = true)
    (hexponent : ∀ c, exponent.head? = some c → c.isDigit = false) :
    (readUnsigned? negative (whole ++ '.' :: (fraction ++ exponent))).isSome = true ↔
      (whole ≠ [] ∨ fraction ≠ []) ∧ (readExponent? exponent).isSome = true := by
  obtain ⟨htake, hdrop⟩ := takeWhile_isDigit hwhole ('.' :: (fraction ++ exponent)) (by simp)
  obtain ⟨htail, hrest⟩ := takeWhile_isDigit hfraction exponent hexponent
  simp only [readUnsigned?, htake, hdrop, htail, hrest, Bool.and_eq_true, List.isEmpty_iff]
  split
  · rename_i hempty
    exact iff_of_false nofun fun h => h.1.elim (· hempty.1) (· hempty.2)
  · rename_i hempty
    rw [Option.isSome_map]
    exact (and_iff_right (Classical.not_and_iff_not_or_not.mp hempty)).symm

/-- A numeral without a point is read from its digits and the exponent. -/
theorem isSome_readUnsigned?_of_whole (hwhole : ∀ c ∈ whole, c.isDigit = true)
    (hexponent : ∀ c, exponent.head? = some c → c.isDigit = false ∧ c ≠ '.') :
    (readUnsigned? negative (whole ++ exponent)).isSome = true ↔
      whole ≠ [] ∧ (readExponent? exponent).isSome = true := by
  obtain ⟨htake, hdrop⟩ := takeWhile_isDigit hwhole exponent fun c hc => (hexponent c hc).1
  simp only [readUnsigned?, htake, hdrop]
  split
  · exact absurd rfl (hexponent '.' rfl).2
  · by_cases hempty : whole = []
    · simp [hempty]
    · simp [hempty]

/-- A text is a run of digits and what does not go on with them. -/
theorem exists_digits_append (s : List Char) : ∃ digits rest, s = digits ++ rest ∧
    (∀ c ∈ digits, c.isDigit = true) ∧ ∀ c, rest.head? = some c → c.isDigit = false := by
  refine ⟨s.takeWhile Char.isDigit, s.dropWhile Char.isDigit,
    List.takeWhile_append_dropWhile.symm, List.all_eq_true.mp List.all_takeWhile, fun c hc => ?_⟩
  have hstop := List.head?_dropWhile_not Char.isDigit s
  rw [hc] at hstop
  exact hstop

/-- **The reader of unsigned numerals** accepts the numerals. -/
theorem isSome_readUnsigned? {s : List Char} :
    (readUnsigned? negative s).isSome = true ↔ IsNumeral s := by
  constructor
  · intro h
    obtain ⟨whole, rest, rfl, hwhole, hrest⟩ := exists_digits_append s
    by_cases hpoint : rest.head? = some '.'
    · obtain ⟨tail, rfl⟩ := List.head?_eq_some_iff.mp hpoint
      obtain ⟨fraction, exponent, rfl, hfraction, hexponent⟩ := exists_digits_append tail
      obtain ⟨hne, h⟩ := (isSome_readUnsigned?_of_point hwhole hfraction hexponent).mp h
      have hexponent := isSome_readExponent?.mp h
      by_cases hempty : whole = []
      · subst hempty
        exact ⟨'.' :: fraction, exponent, rfl,
          .fraction ⟨hne.resolve_left (absurd rfl), hfraction⟩, hexponent⟩
      · exact ⟨whole ++ '.' :: fraction, exponent, by simp, .pointed ⟨hempty, hwhole⟩ hfraction,
          hexponent⟩
    · obtain ⟨hne, h⟩ := (isSome_readUnsigned?_of_whole hwhole fun c hc =>
        ⟨hrest c hc, fun heq => hpoint (heq ▸ hc)⟩).mp h
      exact ⟨whole, rest, rfl, .whole ⟨hne, hwhole⟩, isSome_readExponent?.mp h⟩
  · rintro ⟨mantissa, exponent, rfl, hmantissa, hexponent⟩
    have hread := isSome_readExponent?.mpr hexponent
    have hstop := hexponent.head?_not_digit
    cases hmantissa with
    | whole hdigits =>
      refine (isSome_readUnsigned?_of_whole hdigits.2 fun c hc => ⟨hstop c hc, ?_⟩).mpr
        ⟨hdigits.1, hread⟩
      rintro rfl
      cases hexponent with
      | absent => cases hc
      | present hmark _ _ => rcases hmark with rfl | rfl <;> cases hc
    | @pointed digits fraction hdigits hfraction =>
      rw [List.append_assoc, List.cons_append]
      exact (isSome_readUnsigned?_of_point hdigits.2 hfraction hstop).mpr
        ⟨Or.inl hdigits.1, hread⟩
    | @fraction digits hdigits =>
      have hnone : ∀ c ∈ ([] : List Char), c.isDigit = true := fun c hc =>
        absurd hc List.not_mem_nil
      exact (isSome_readUnsigned?_of_point hnone hdigits.2 hstop).mpr ⟨Or.inr hdigits.1, hread⟩

/-! ### The characters of numerals -/

/-- The characters of unsigned numerals. -/
def isNumeralChar (c : Char) : Bool := c.isDigit || ['.', 'e', 'E', '+', '-'].contains c

theorem isNumeralChar_of_isDigit {c : Char} (h : c.isDigit = true) : isNumeralChar c = true := by
  rw [isNumeralChar, h, Bool.true_or]

theorem toNat_lt_of_isNumeralChar {c : Char} (h : isNumeralChar c = true) : c.toNat < 128 := by
  rw [isNumeralChar, Bool.or_eq_true, List.contains_iff_mem] at h
  rcases h with h | h
  · rw [Char.isDigit, Bool.and_eq_true, decide_eq_true_eq, decide_eq_true_eq] at h
    have hlast : c.toNat ≤ 57 := UInt32.le_iff_toNat_le.mp h.2
    omega
  · have hmarks : ['.', 'e', 'E', '+', '-'].all (·.toNat < 128) = true := by decide
    exact of_decide_eq_true (List.all_eq_true.mp hmarks c h)

theorem isNumeralChar_of_isSign {sign : List Char} (h : IsSign sign) :
    ∀ c ∈ sign, isNumeralChar c = true := by
  refine List.all_eq_true.mp ?_
  rcases h with rfl | rfl | rfl <;> decide

theorem IsMantissa.isNumeralChar {s : List Char} (h : IsMantissa s) :
    ∀ c ∈ s, isNumeralChar c = true := by
  intro c hc
  cases h with
  | whole hdigits => exact isNumeralChar_of_isDigit (hdigits.2 c hc)
  | pointed hdigits hfraction =>
    rcases List.mem_append.mp hc with hc | hc
    · exact isNumeralChar_of_isDigit (hdigits.2 c hc)
    · rcases List.mem_cons.mp hc with rfl | hc
      · decide
      · exact isNumeralChar_of_isDigit (hfraction c hc)
  | fraction hdigits =>
    rcases List.mem_cons.mp hc with rfl | hc
    · decide
    · exact isNumeralChar_of_isDigit (hdigits.2 c hc)

theorem IsExponent.isNumeralChar {s : List Char} (h : IsExponent s) :
    ∀ c ∈ s, isNumeralChar c = true := by
  intro c hc
  cases h with
  | absent => cases hc
  | present hmark hsign hdigits =>
    rcases List.mem_cons.mp hc with rfl | hc
    · rcases hmark with rfl | rfl <;> decide
    · rcases List.mem_append.mp hc with hc | hc
      · exact isNumeralChar_of_isSign hsign c hc
      · exact isNumeralChar_of_isDigit (hdigits.2 c hc)

theorem IsNumeral.isNumeralChar {s : List Char} (h : IsNumeral s) :
    ∀ c ∈ s, isNumeralChar c = true := by
  obtain ⟨mantissa, exponent, rfl, hmantissa, hexponent⟩ := h
  intro c hc
  rcases List.mem_append.mp hc with hc | hc
  · exact hmantissa.isNumeralChar c hc
  · exact hexponent.isNumeralChar c hc

/-- A numeral does not start with a sign. -/
theorem IsNumeral.head?_ne_sign {s : List Char} (h : IsNumeral s) :
    ∀ c, s.head? = some c → c ≠ '+' ∧ c ≠ '-' := by
  obtain ⟨mantissa, exponent, rfl, hmantissa, -⟩ := h
  have hdigits : ∀ {digits rest : List Char}, IsDigits digits →
      ∀ c, (digits ++ rest).head? = some c → c ≠ '+' ∧ c ≠ '-' := by
    rintro digits rest hdigits c hc
    obtain ⟨d, digits, rfl⟩ := List.exists_cons_of_ne_nil hdigits.1
    obtain rfl := Option.some.inj hc
    exact ne_sign_of_isDigit (hdigits.2 d List.mem_cons_self)
  cases hmantissa with
  | whole h => exact hdigits h
  | pointed h _ =>
    rw [List.append_assoc]
    exact hdigits h
  | fraction _ =>
    intro c hc
    obtain rfl := Option.some.inj hc
    decide

end Decimal

/-! ## Numbers -/

namespace Binary64

theorem ofRank_ne_nan (negative : Bool) (rank : Nat) : ofRank negative rank ≠ nan := by
  rw [ofRank]
  split <;> nofun

/-- A decimal is a number. -/
theorem toBinary64_ne_nan (d : Decimal) : d.toBinary64 ≠ nan := by
  rw [Decimal.toBinary64]
  split
  · exact ofRank_ne_nan _ _
  · split
    · nofun
    · split
      · exact ofRank_ne_nan _ _
      · split
        · exact ofRank_ne_nan _ _
        · exact ofRank_ne_nan _ _

/-- The words for infinity, in any letter case. -/
def IsInfinityWord (s : List Char) : Prop :=
  s.map Char.toLower = "inf".toList ∨ s.map Char.toLower = "infinity".toList

/-- Only a character of the basic alphabet is changed to lower case, by 32 places. -/
theorem toLower_cases (c : Char) : c.toLower = c ∨ c.toLower.toNat = c.toNat + 32 := by
  by_cases hletter : c.val ≥ 'A'.val ∧ c.val ≤ 'Z'.val
  · have hupper : c.toLower.val = c.val + 32 := congrArg Char.val (dif_pos hletter)
    have hlast : c.val.toNat ≤ 90 := UInt32.le_iff_toNat_le.mp hletter.2
    have hshift : (c.val + 32).toNat = (c.val.toNat + 32) % 2 ^ 32 := UInt32.toNat_add c.val 32
    rw [Nat.mod_eq_of_lt (by omega), ← hupper] at hshift
    exact Or.inr hshift
  · exact Or.inl (dif_neg hletter)

theorem toLower_of_isDigit {c : Char} (h : c.isDigit = true) : c.toLower = c := by
  rw [Char.isDigit, Bool.and_eq_true, decide_eq_true_eq, decide_eq_true_eq] at h
  refine dif_neg fun hletter => ?_
  have hlow : 65 ≤ c.val.toNat := UInt32.le_iff_toNat_le.mp hletter.1
  have hhigh : c.val.toNat ≤ 57 := UInt32.le_iff_toNat_le.mp h.2
  omega

theorem eq_of_toLower_eq_n {c : Char} (h : c.toLower = 'n') : c = 'n' ∨ c = 'N' := by
  rcases toLower_cases c with hsame | hshift
  · exact Or.inl (hsame.symm.trans h)
  · rw [h] at hshift
    have hcode : 'N'.toNat + 32 = c.toNat + 32 := hshift
    exact Or.inr (Char.toNat_inj.mp (Nat.add_right_cancel hcode).symm)

/-- A word that holds an `n` is no numeral. -/
theorem not_isNumeral_of_word {s : List Char} (h : 'n' ∈ s.map Char.toLower) :
    ¬ Decimal.IsNumeral s := by
  obtain ⟨c, hc, hn⟩ := List.mem_map.mp h
  intro hnumeral
  have hchar := hnumeral.isNumeralChar c hc
  rcases eq_of_toLower_eq_n hn with rfl | rfl <;> cases hchar

theorem IsInfinityWord.head?_ne_sign {s : List Char} (h : IsInfinityWord s) :
    ∀ c, s.head? = some c → c ≠ '+' ∧ c ≠ '-' := by
  intro c hc
  have hlower : (s.map Char.toLower).head? = some c.toLower := by rw [List.head?_map, hc]; rfl
  have hi : c.toLower = 'i' := by
    rcases h with h | h
    · rw [h] at hlower
      exact (Option.some.inj hlower).symm
    · rw [h] at hlower
      exact (Option.some.inj hlower).symm
  constructor
  · rintro rfl
    exact absurd hi (by decide)
  · rintro rfl
    exact absurd hi (by decide)

/-- What is read as a number, after any sign. -/
def IsMagnitude (body : List Char) : Prop := IsInfinityWord body ∨ Decimal.IsNumeral body

theorem IsMagnitude.head?_ne_sign {body : List Char} (h : IsMagnitude body) :
    ∀ c, body.head? = some c → c ≠ '+' ∧ c ≠ '-' :=
  h.elim (·.head?_ne_sign) (·.head?_ne_sign)

/-- Only one sign can be split off from what is read as a number. -/
theorem IsMagnitude.eq_of_append_eq {sign other body rest : List Char} (hsign : IsSign sign)
    (hother : IsSign other) (hbody : IsMagnitude body) (hrest : IsMagnitude rest)
    (h : sign ++ body = other ++ rest) : body = rest := by
  have hsplit := Numeral.splitSign_append hsign hbody.head?_ne_sign
  rw [h, Numeral.splitSign_append hother hrest.head?_ne_sign] at hsplit
  exact (Prod.mk.inj hsplit).2.symm

/-- Reads a number without its sign from a text without underscores. -/
def readMagnitude? (negative : Bool) (body : List Char) : Option Binary64 :=
  let word := String.ofList (body.map Char.toLower)
  if word = "inf" || word = "infinity" then some (infinity negative)
  else if word = "nan" then some nan
  else (Decimal.readUnsigned? negative body).map Decimal.toBinary64

/-- A text is read without underscores and without its sign. -/
theorem ofText?_of_ungroup? {s plain : List Char} (h : Numeral.ungroup? false s = some plain) :
    ofText? s = readMagnitude? (Numeral.splitSign plain).1 (Numeral.splitSign plain).2 := by
  rw [ofText?, h]
  rfl

/-- The words for infinity and the numerals are read as numbers, and nothing else is. -/
theorem readMagnitude?_ne_nan_iff {negative : Bool} {body : List Char} :
    (readMagnitude? negative body).getD nan ≠ nan ↔ IsMagnitude body := by
  have hword : ∀ word : String, String.ofList (body.map Char.toLower) = word ↔
      body.map Char.toLower = word.toList := by
    intro word
    rw [← String.toList_inj, String.toList_ofList]
  simp only [readMagnitude?, hword, Bool.or_eq_true, decide_eq_true_eq]
  split
  · rename_i hinfinity
    exact iff_of_true nofun (Or.inl hinfinity)
  · rename_i hinfinity
    split
    · rename_i hnan
      refine iff_of_false (fun h => h rfl) fun h => ?_
      refine not_isNumeral_of_word ?_ (h.resolve_left hinfinity)
      rw [hnan]
      decide
    · rw [IsMagnitude, ← @Decimal.isSome_readUnsigned? negative body]
      cases hread : Decimal.readUnsigned? negative body with
      | none => exact iff_of_false (fun h => h rfl) fun h => h.elim hinfinity nofun
      | some d => exact iff_of_true (toBinary64_ne_nan d) (Or.inr rfl)

/-- **What is read as a number**: a word for infinity or a numeral, with an optional sign, in
which underscores may stand between digits. -/
theorem ofText?_ne_nan_iff {s : List Char} :
    (ofText? s).getD nan ≠ nan ↔ Numeral.Grouped false s ∧ ∃ sign body, IsSign sign ∧
      s.filter (· ≠ '_') = sign ++ body ∧ IsMagnitude body := by
  cases hplain : Numeral.ungroup? false s with
  | none =>
    refine iff_of_false (fun h => h (by rw [ofText?, hplain]; rfl)) fun h => ?_
    rw [Numeral.ungroup?_eq_some_iff.mpr ⟨h.1, rfl⟩] at hplain
    cases hplain
  | some plain =>
    obtain ⟨hgrouped, rfl⟩ := Numeral.ungroup?_eq_some_iff.mp hplain
    rw [ofText?_of_ungroup? hplain, readMagnitude?_ne_nan_iff]
    refine Iff.trans ?_ (and_iff_right hgrouped).symm
    constructor
    · intro h
      obtain ⟨sign, hsign, hrest⟩ := Numeral.exists_splitSign (s.filter (· ≠ '_'))
      exact ⟨sign, _, hsign, hrest, h⟩
    · rintro ⟨sign, body, hsign, hrest, h⟩
      rwa [hrest, Numeral.splitSign_append hsign h.head?_ne_sign]

end Binary64
end WebhookRelay
