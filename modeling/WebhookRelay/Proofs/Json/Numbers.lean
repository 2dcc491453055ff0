import WebhookRelay.Proofs.Binary64.Numerals
import WebhookRelay.Proofs.Binary64.Shortest
import WebhookRelay.Proofs.Json.RoundTrip

/-! # Written numbers read back

An integer is read back from its numeral if that is not longer than the limit allows
(`readsBack_int`), and every binary64 number is read back from its text
(`readsBack_float`).

The text of a finite number is a numeral whose value is that of the decimal from which it was
made, whatever the layout (`denotes_magnitudeText`): zeros at the end of the digits are left out
and come back as part of the exponent.  With that the number is read back because its decimal
lies in its interval.
-/

namespace WebhookRelay
namespace Json
open Numeral (value ofNat)
open Binary64 (RoundsDecimal)
open scoped Binary64

/-! ## Digits -/

/-- Zeros in front of digits do not change their value. -/
theorem value_zeros_append (k : Nat) (digits : List Char) :
    value (List.replicate k '0' ++ digits) = value digits := by
  rw [value, Nat.ofDigitChars_append, Nat.ofDigitChars_replicate_zero, Nat.mul_zero, value]

/-- Zeros behind digits are factors of ten. -/
theorem value_append_zeros (digits : List Char) (k : Nat) :
    value (digits ++ List.replicate k '0') = value digits * 10 ^ k := by
  rw [value, Nat.ofDigitChars_append, Nat.ofDigitChars_replicate_zero, Nat.mul_comm, value]

theorem isDigit_of_mem_zeros {k : Nat} : ∀ c ∈ List.replicate k '0', c.isDigit = true := by
  intro c hc
  rw [List.eq_of_mem_replicate hc]
  rfl

theorem isDigits_zero : IsDigits ['0'] :=
  ⟨List.cons_ne_nil _ _, fun _ hc => by rw [List.mem_singleton.mp hc]; rfl⟩

theorem head?_append_of_ne_nil {s : List Char} (h : s ≠ []) (rest : List Char) :
    (s ++ rest).head? = s.head? := by
  obtain ⟨c, s, rfl⟩ := List.exists_cons_of_ne_nil h
  rfl

/-- Only the numeral of zero starts with a zero. -/
theorem head?_ofNat_ne_zero {n : Nat} (h : n ≠ 0) : (ofNat n).head? ≠ some '0' := by
  induction n using Nat.strongRecOn with
  | ind n ih =>
    rw [ofNat]
    by_cases hsmall : n < 10
    · rw [Nat.toDigits_of_lt_base hsmall]
      simpa using h
    · have hquotient : n / 10 ≠ 0 := by omega
      have hne : Nat.toDigits 10 (n / 10) ≠ [] := Nat.toDigits_ne_nil
      rw [Nat.toDigits_of_base_le (by omega) (by omega), head?_append_of_ne_nil hne]
      exact ih (n / 10) (by omega) hquotient

/-! ## Parts of numerals -/

/-- The whole part is read up to what does not go on with its digits. -/
theorem readWhole?_append {whole rest : List Char} (hwhole : IsDigits whole)
    (hlead : whole.head? ≠ some '0' ∨ whole = ['0'])
    (hrest : ∀ c, rest.head? = some c → c.isDigit = false) :
    readWhole? (whole ++ rest) = some (whole, rest) := by
  obtain ⟨htake, hdrop⟩ := takeWhile_isDigit hwhole.2 rest hrest
  rcases hlead with hlead | rfl
  · unfold readWhole?
    split
    · rename_i heq
      cases whole with
      | nil => exact absurd rfl hwhole.1
      | cons c whole =>
        rw [List.cons_append, List.cons.injEq] at heq
        rw [heq.1] at hlead
        exact absurd rfl hlead
    · rw [htake, hdrop]
      simp only [List.isEmpty_iff, hwhole.1, if_false]
  · rfl

/-- A whole part starts with a digit. -/
theorem readWhole?_eq_none {c : Char} (h : c.isDigit = false) (rest : List Char) :
    readWhole? (c :: rest) = none := by
  unfold readWhole?
  split
  · rename_i heq
    rw [(List.cons.inj heq).1] at h
    cases h
  · simp [h]

/-- So does everything that the reader of numbers without sign can do something with. -/
theorem starts_of_readDigits {limits : Limits} {negative : Bool} {s : List Char}
    (h : readDigits limits negative s ≠ .error .malformed) :
    ∃ c t, s = c :: t ∧ c.isDigit = true := by
  cases s with
  | nil => exact absurd rfl h
  | cons c t =>
    cases hdigit : c.isDigit with
    | true => exact ⟨c, t, rfl, hdigit⟩
    | false => exact absurd (by rw [readDigits, readWhole?_eq_none hdigit]) h

theorem readFraction_point {fraction rest : List Char} (hfraction : IsDigits fraction)
    (hrest : ∀ c, rest.head? = some c → c.isDigit = false) :
    readFraction ('.' :: (fraction ++ rest)) = (fraction, rest) := by
  obtain ⟨htake, hdrop⟩ := takeWhile_isDigit hfraction.2 rest hrest
  rw [readFraction, htake, hdrop]
  simp only [List.isEmpty_iff, hfraction.1, if_false]

theorem readFraction_none {rest : List Char} (hrest : ∀ c, rest.head? = some c → c ≠ '.') :
    readFraction rest = ([], rest) := by
  unfold readFraction
  split
  · exact absurd rfl (hrest '.' rfl)
  · rfl

theorem readExponent_some {sign digits rest : List Char} (hsign : IsSign sign)
    (hdigits : IsDigits digits) (hrest : ∀ c, rest.head? = some c → c.isDigit = false) :
    readExponent ('e' :: (sign ++ (digits ++ rest))) =
      (some (Numeral.signed (sign = ['-']) (value digits)), rest) := by
  have hhead : ∀ c, (digits ++ rest).head? = some c → c ≠ '+' ∧ c ≠ '-' := by
    intro c hc
    rw [head?_append_of_ne_nil hdigits.1] at hc
    exact Decimal.ne_sign_of_isDigits hdigits c hc
  obtain ⟨htake, hdrop⟩ := takeWhile_isDigit hdigits.2 rest hrest
  rw [readExponent, Numeral.splitSign_append hsign hhead]
  dsimp only
  rw [htake, hdrop]
  simp only [List.isEmpty_iff, hdigits.1]
  rfl

/-! ## Numbers without sign -/

section Unsigned

variable {negative : Bool} {whole fraction : List Char}

/-- An integer is read from its digits. -/
theorem readDigits_whole (hwhole : IsDigits whole)
    (hlead : whole.head? ≠ some '0' ∨ whole = ['0']) (hlength : whole.length ≤ digitLimit) :
    readDigits {} negative whole =
      .ok (.int (Numeral.signed negative (value whole)), []) := by
  have hread : readWhole? (whole ++ []) = some (whole, []) := readWhole?_append hwhole hlead nofun
  rw [List.append_nil] at hread
  rw [readDigits, hread]
  simp [readFraction, readExponent, Limits.admitsWhole, Numeral.toNat, hlength]

/-- The text of an unsigned numeral is read as the decimal `coefficient * 10 ^ exponent`, with
zeros at the end of the coefficient or without. -/
def Denotes (text : List Char) (coefficient : Nat) (exponent : Int) : Prop :=
  ∀ negative, ∃ k : Nat, readDigits {} negative text =
    .ok (.float (Decimal.toBinary64 ⟨negative, coefficient * 10 ^ k, exponent - k⟩), [])

/-- Zeros at the end of the coefficient are as well part of the exponent. -/
theorem Denotes.drop_zeros {text : List Char} {coefficient k : Nat} {exponent : Int}
    (h : Denotes text (coefficient * 10 ^ k) exponent) :
    Denotes text coefficient (exponent + k) := by
  intro negative
  obtain ⟨more, hread⟩ := h negative
  refine ⟨k + more, ?_⟩
  have hexponent : exponent + k - (k + more : Nat) = exponent - more := by omega
  rw [hread, hexponent, Nat.pow_add, Nat.mul_assoc]

/-- A numeral whose decimal lies in the interval of a rank is read as the number of that
rank. -/
theorem Denotes.readDigits_eq {text : List Char} {coefficient rank : Nat} {exponent : Int}
    (h : Denotes text coefficient exponent) (hrounds : RoundsDecimal coefficient exponent rank)
    (hrank : rank < Binary64.rankCount) (hne : rank ≠ 0) :
    readDigits {} negative text = .ok (.float (.ofRank negative rank), []) := by
  obtain ⟨k, hread⟩ := h negative
  have hshift : RoundsDecimal (coefficient * 10 ^ k) (exponent - k) rank := by
    rw [Binary64.roundsDecimal_shift, Int.sub_add_cancel]
    exact hrounds
  rw [hread, Binary64.toBinary64_of_roundsDecimal negative hshift hrank hne]

/-- A number with a point is read from the digits around it. -/
theorem denotes_pointed (hwhole : IsDigits whole)
    (hlead : whole.head? ≠ some '0' ∨ whole = ['0']) (hfraction : IsDigits fraction) :
    Denotes (whole ++ '.' :: fraction) (value (whole ++ fraction)) (-fraction.length) := by
  intro negative
  have hread : readWhole? (whole ++ '.' :: fraction) = some (whole, '.' :: fraction) :=
    readWhole?_append hwhole hlead (by simp)
  have hpoint : readFraction ('.' :: (fraction ++ [])) = (fraction, []) :=
    readFraction_point hfraction nofun
  rw [List.append_nil] at hpoint
  refine ⟨0, ?_⟩
  rw [readDigits, hread]
  dsimp only
  rw [hpoint]
  simp [readExponent, Limits.admitsWhole, hfraction.1]

/-- A number with an exponent is read from the digits around the point and the exponent. -/
theorem denotes_scientific {point sign digits : List Char} (hwhole : IsDigits whole)
    (hlead : whole.head? ≠ some '0' ∨ whole = ['0'])
    (hpoint : point = [] ∧ fraction = [] ∨ point = '.' :: fraction ∧ IsDigits fraction)
    (hsign : IsSign sign) (hdigits : IsDigits digits) :
    Denotes (whole ++ (point ++ 'e' :: (sign ++ digits))) (value (whole ++ fraction))
      (Numeral.signed (sign = ['-']) (value digits) - fraction.length) := by
  intro negative
  have hread : readWhole? (whole ++ (point ++ 'e' :: (sign ++ digits))) =
      some (whole, point ++ 'e' :: (sign ++ digits)) := by
    refine readWhole?_append hwhole hlead fun c hc => ?_
    rcases hpoint with ⟨rfl, -⟩ | ⟨rfl, -⟩ <;> obtain rfl := Option.some.inj hc <;> rfl
  have hfraction : readFraction (point ++ 'e' :: (sign ++ digits)) =
      (fraction, 'e' :: (sign ++ digits)) := by
    rcases hpoint with ⟨rfl, rfl⟩ | ⟨rfl, hfraction⟩
    · exact readFraction_none (by simp)
    · rw [List.cons_append]
      exact readFraction_point hfraction (by simp)
  have hend : ∀ c, ([] : List Char).head? = some c → c.isDigit = false := nofun
  have hexponent := readExponent_some hsign hdigits hend
  rw [List.append_nil] at hexponent
  refine ⟨0, ?_⟩
  rw [readDigits, hread]
  dsimp only
  rw [hfraction]
  dsimp only
  rw [hexponent]
  simp [Limits.admitsWhole]

end Unsigned

/-! ## Layouts -/

section Layouts
open Binary64 (Layout)

variable {digits : List Char} {top : Int}

theorem isDigits_zeros_append (hdigits : IsDigits digits) (k : Nat) :
    IsDigits (List.replicate k '0' ++ digits) := by
  refine ⟨List.append_ne_nil_of_right_ne_nil _ hdigits.1, fun c hc => ?_⟩
  rcases List.mem_append.mp hc with hzero | hdigit
  · exact isDigit_of_mem_zeros c hzero
  · exact hdigits.2 c hdigit

/-- Below one, the digits stand behind the point and zeros. -/
theorem denotes_positional_of_neg (hdigits : IsDigits digits) (htop : top < 0) :
    Denotes (Layout.positional digits top) (value digits) (top + 1 - digits.length) := by
  have hvalue : value (['0'] ++ (List.replicate (-top - 1).toNat '0' ++ digits)) = value digits :=
    (value_zeros_append 1 _).trans (value_zeros_append _ digits)
  have hexponent : -((List.replicate (-top - 1).toNat '0' ++ digits).length : Int) =
      top + 1 - digits.length := by
    rw [List.length_append, List.length_replicate]
    omega
  have h := denotes_pointed isDigits_zero (.inr rfl)
    (isDigits_zeros_append hdigits (-top - 1).toNat)
  rw [hvalue, hexponent] at h
  rw [Layout.positional, if_pos htop]
  exact h

/-- If all digits stand before the point, zeros fill the places up to it. -/
theorem denotes_positional_of_le (hdigits : IsDigits digits) (hlead : digits.head? ≠ some '0')
    (htop : ¬ top < 0) (hlength : digits.length ≤ top.toNat + 1) :
    Denotes (Layout.positional digits top) (value digits) (top + 1 - digits.length) := by
  have htext : Layout.positional digits top =
      digits ++ List.replicate (top.toNat + 1 - digits.length) '0' ++ ['.', '0'] := by
    rw [Layout.positional, if_neg htop, List.take_of_length_le hlength,
      List.drop_of_length_le hlength]
    simp
  have hwhole : IsDigits (digits ++ List.replicate (top.toNat + 1 - digits.length) '0') := by
    refine ⟨List.append_ne_nil_of_left_ne_nil hdigits.1 _, fun c hc => ?_⟩
    rcases List.mem_append.mp hc with hdigit | hzero
    · exact hdigits.2 c hdigit
    · exact isDigit_of_mem_zeros c hzero
  have hhead : (digits ++ List.replicate (top.toNat + 1 - digits.length) '0').head? ≠
      some '0' := by
    rw [head?_append_of_ne_nil hdigits.1]
    exact hlead
  -- the zero behind the point is one more zero behind the digits
  have hvalue : value (digits ++ List.replicate (top.toNat + 1 - digits.length) '0' ++ ['0']) =
      value digits * 10 ^ (top.toNat + 1 - digits.length + 1) := by
    rw [List.append_assoc, ← value_append_zeros, List.replicate_succ']
  have h := denotes_pointed hwhole (.inl hhead) isDigits_zero
  rw [hvalue] at h
  have hexponent : -((['0'] : List Char).length : Int) +
      (top.toNat + 1 - digits.length + 1 : Nat) = top + 1 - digits.length := by
    rw [List.length_singleton]
    omega
  rw [htext, ← hexponent]
  exact h.drop_zeros

/-- If the point stands among the digits, they keep their value. -/
theorem denotes_positional_of_lt (hdigits : IsDigits digits) (hlead : digits.head? ≠ some '0')
    (htop : ¬ top < 0) (hlength : top.toNat + 1 < digits.length) :
    Denotes (Layout.positional digits top) (value digits) (top + 1 - digits.length) := by
  have hfraction : digits.drop (top.toNat + 1) ≠ [] := by
    intro hnil
    have := List.drop_eq_nil_iff.mp hnil
    omega
  have htext : Layout.positional digits top =
      digits.take (top.toNat + 1) ++ '.' :: digits.drop (top.toNat + 1) := by
    rw [Layout.positional, if_neg htop]
    simp [hfraction, Nat.min_eq_left (Nat.le_of_lt hlength)]
  have hwhole : digits.take (top.toNat + 1) ≠ [] := by
    intro hnil
    rw [List.take_eq_nil_iff] at hnil
    rcases hnil with hzero | hnil
    · omega
    · exact hdigits.1 hnil
  have hhead : (digits.take (top.toNat + 1)).head? ≠ some '0' := by
    rw [← head?_append_of_ne_nil hwhole (digits.drop (top.toNat + 1)), List.take_append_drop]
    exact hlead
  have h := denotes_pointed ⟨hwhole, fun c hc => hdigits.2 c (List.mem_of_mem_take hc)⟩
    (.inl hhead) ⟨hfraction, fun c hc => hdigits.2 c (List.mem_of_mem_drop hc)⟩
  have hexponent : -((digits.drop (top.toNat + 1)).length : Int) = top + 1 - digits.length := by
    rw [List.length_drop]
    omega
  rw [List.take_append_drop, hexponent] at h
  rw [htext]
  exact h

/-- With an exponent, the first digit stands before the point. -/
theorem denotes_scientific_layout (l : Layout) (hdigits : IsDigits digits)
    (hlead : digits.head? ≠ some '0') :
    Denotes (l.scientific digits top) (value digits) (top + 1 - digits.length) := by
  obtain ⟨first, more, rfl⟩ := List.exists_cons_of_ne_nil hdigits.1
  have hfirst : IsDigits [first] := ⟨List.cons_ne_nil _ _, fun c hc =>
    hdigits.2 c (List.mem_cons.mpr (.inl (List.mem_singleton.mp hc)))⟩
  have hpoint : (if (first :: more).length ≤ 1 then [] else '.' :: more) = [] ∧ more = [] ∨
      (if (first :: more).length ≤ 1 then [] else '.' :: more) = '.' :: more ∧
        IsDigits more := by
    cases more with
    | nil => exact .inl ⟨rfl, rfl⟩
    | cons second more =>
      exact .inr ⟨if_neg (by simp), List.cons_ne_nil _ _, fun c hc =>
        hdigits.2 c (List.mem_cons_of_mem _ hc)⟩
  have hsign : IsSign [if top < 0 then '-' else '+'] := by
    by_cases htop : top < 0
    · rw [if_pos htop]
      exact .inr (.inr rfl)
    · rw [if_neg htop]
      exact .inr (.inl rfl)
  have hexponent : Numeral.signed ([if top < 0 then '-' else '+'] = ['-']) top.natAbs = top := by
    by_cases htop : top < 0
    · rw [if_pos htop]
      show -(top.natAbs : Int) = top
      omega
    · rw [if_neg htop]
      show (top.natAbs : Int) = top
      omega
  have h := denotes_scientific hfirst (.inl hlead) hpoint hsign
    (isDigits_zeros_append (isDigits_ofNat top.natAbs)
      (l.exponentDigits - (ofNat top.natAbs).length))
  rw [value_zeros_append, Numeral.value_ofNat, hexponent] at h
  have hlength : top - more.length = top + 1 - (first :: more).length := by
    rw [List.length_cons]
    omega
  rw [← hlength]
  unfold Layout.scientific
  simpa using h

/-- **The text of a number denotes the decimal of its digits.** -/
theorem denotes_write (l : Layout) (top : Int) (hdigits : IsDigits digits)
    (hlead : digits.head? ≠ some '0') :
    Denotes (l.write digits top) (value digits) (top + 1 - digits.length) := by
  unfold Layout.write
  split
  · by_cases htop : top < 0
    · exact denotes_positional_of_neg hdigits htop
    · by_cases hlength : digits.length ≤ top.toNat + 1
      · exact denotes_positional_of_le hdigits hlead htop hlength
      · exact denotes_positional_of_lt hdigits hlead htop (Nat.lt_of_not_le hlength)
  · exact denotes_scientific_layout l hdigits hlead

end Layouts

/-! ## Magnitudes -/

/-- The digits of a number are those without the zeros at the end, and these zeros. -/
theorem exists_zeros (digits : List Char) :
    ∃ k, digits = (digits.reverse.dropWhile (· = '0')).reverse ++ List.replicate k '0' := by
  have hzeros : ∀ c ∈ digits.reverse.takeWhile (· = '0'), c = '0' := fun c hc =>
    of_decide_eq_true (List.all_eq_true.mp List.all_takeWhile c hc)
  have hsplit : digits = (digits.reverse.dropWhile (· = '0')).reverse ++
      (digits.reverse.takeWhile (· = '0')).reverse := by
    rw [← List.reverse_append, List.takeWhile_append_dropWhile, List.reverse_reverse]
  rw [List.eq_replicate_of_mem hzeros, List.reverse_replicate] at hsplit
  exact ⟨_, hsplit⟩

/-- The text of a positive magnitude denotes its shortest decimal. -/
theorem denotes_magnitudeText {rank : Nat} (hne : rank ≠ 0) :
    ∃ coefficient exponent, Denotes (Binary64.magnitudeText rank) coefficient exponent ∧
      RoundsDecimal coefficient exponent rank := by
  have hrounds := Binary64.roundsDecimal_shortest rank
  have hfactor := hrounds.coefficient_ne_zero hne
  unfold Binary64.magnitudeText
  rw [if_neg hne]
  generalize Binary64.shortest rank = decimal at hrounds hfactor
  obtain ⟨factor, exponent⟩ := decimal
  dsimp only at hrounds hfactor ⊢
  obtain ⟨k, hdigits⟩ := exists_zeros (ofNat factor)
  generalize ((ofNat factor).reverse.dropWhile (· = '0')).reverse = significant at hdigits ⊢
  have hvalue : factor = value significant * 10 ^ k := by
    rw [← value_append_zeros, ← hdigits, Numeral.value_ofNat]
  have hsignificant : IsDigits significant := by
    refine ⟨?_, fun c hc => ?_⟩
    · rintro rfl
      exact hfactor (hvalue.trans (Nat.zero_mul _))
    · refine (isDigits_ofNat factor).2 c ?_
      rw [hdigits]
      exact List.mem_append_left _ hc
  have hlead : significant.head? ≠ some '0' := by
    have hhead := head?_ofNat_ne_zero hfactor
    rw [hdigits, head?_append_of_ne_nil hsignificant.1] at hhead
    exact hhead
  have htop : exponent + (ofNat factor).length - 1 + 1 - significant.length = exponent + k := by
    rw [hdigits, List.length_append, List.length_replicate]
    omega
  have hdenotes := denotes_write Binary64.layout (exponent + (ofNat factor).length - 1)
    hsignificant hlead
  rw [htop] at hdenotes
  rw [hvalue, Binary64.roundsDecimal_shift] at hrounds
  exact ⟨_, _, hdenotes, hrounds⟩

/-! ## Numbers -/

section Reading

variable {limits : Limits} {c : Char} {rest : List Char}

/-- What starts with a digit or a minus is read as a number. -/
theorem readScalar_number (h : c.isDigit = true ∨ c = '-') :
    readScalar limits (c :: rest) = readNumber limits (c :: rest) := by
  unfold readScalar
  split
  case h_6 => rfl
  all_goals
    rename_i heq
    obtain rfl := (List.cons.inj heq).1
    exact absurd h (by decide)

theorem readNumber_digit (h : c.isDigit = true) :
    readNumber limits (c :: rest) = readDigits limits false (c :: rest) := by
  unfold readNumber
  split
  case h_3 => rfl
  all_goals
    rename_i heq
    obtain rfl := (List.cons.inj heq).1
    exact absurd h (by decide)

theorem readNumber_minus (h : c.isDigit = true) :
    readNumber limits ('-' :: c :: rest) = readDigits limits true (c :: rest) := by
  unfold readNumber
  split
  case h_1 =>
    rename_i heq
    obtain rfl := (List.cons.inj (List.cons.inj heq).2).1
    exact absurd h (by decide)
  case h_2 =>
    rename_i heq
    rw [(List.cons.inj heq).2]
  case h_3 =>
    rename_i hne
    exact absurd rfl (hne _)

/-- A number is read from its sign and a text that starts with a digit. -/
theorem readScalar_signed {negative : Bool} {text : List Char}
    (h : ∃ c s, text = c :: s ∧ c.isDigit = true) :
    readScalar limits ((if negative then ['-'] else []) ++ text) =
      readDigits limits negative text := by
  obtain ⟨c, s, rfl, hc⟩ := h
  cases negative with
  | false => exact (readScalar_number (.inl hc)).trans (readNumber_digit hc)
  | true => exact (readScalar_number (.inr rfl)).trans (readNumber_minus hc)

end Reading

section Characters
open Binary64 (Layout)
open Decimal (isNumeralChar isNumeralChar_of_isDigit)

/-- The characters of numerals may stand in numbers. -/
theorem isScalarChar_of_isNumeralChar {c : Char} (h : isNumeralChar c = true) :
    isScalarChar c = true := by
  rw [isNumeralChar, Bool.or_eq_true, List.contains_iff_mem] at h
  rcases h with hdigit | hmark
  · simp [isScalarChar, Char.isAlphanum, hdigit]
  · have hmarks : ['.', 'e', 'E', '+', '-'].all isScalarChar = true := by decide
    exact List.all_eq_true.mp hmarks c hmark

/-- A number is laid out with the characters of numerals. -/
theorem isNumeralChar_of_mem_write {l : Layout} {digits : List Char} {top : Int}
    (h : ∀ c ∈ digits, c.isDigit = true) : ∀ c ∈ l.write digits top, isNumeralChar c = true := by
  have hdigits : ∀ c ∈ digits, isNumeralChar c = true := fun c hc =>
    isNumeralChar_of_isDigit (h c hc)
  have hzeros : ∀ k, ∀ c ∈ List.replicate k '0', isNumeralChar c = true := by
    intro k c hc
    rw [List.eq_of_mem_replicate hc]
    rfl
  intro c hc
  unfold Layout.write at hc
  split at hc
  · unfold Layout.positional at hc
    split at hc
    · simp only [List.mem_append, List.mem_cons, List.not_mem_nil, or_false] at hc
      rcases hc with (((rfl | rfl) | hc) | hc)
      · rfl
      · rfl
      · exact hzeros _ c hc
      · exact hdigits c hc
    · simp only [List.mem_append, List.mem_cons, List.not_mem_nil, or_false] at hc
      rcases hc with (((hc | hc) | rfl) | hc)
      · exact hdigits c (List.mem_of_mem_take hc)
      · exact hzeros _ c hc
      · rfl
      · split at hc
        · rw [List.mem_singleton.mp hc]
          rfl
        · exact hdigits c (List.mem_of_mem_drop hc)
  · unfold Layout.scientific at hc
    simp only [List.mem_append, List.mem_cons, List.not_mem_nil, or_false] at hc
    rcases hc with ((((hc | hc) | (rfl | rfl)) | hc) | hc)
    · exact hdigits c (List.mem_of_mem_take hc)
    · split at hc
      · exact absurd hc List.not_mem_nil
      · rcases List.mem_cons.mp hc with rfl | hc
        · rfl
        · exact hdigits c (List.mem_of_mem_drop hc)
    · rfl
    · split <;> rfl
    · exact hzeros _ c hc
    · exact isNumeralChar_of_isDigit (Numeral.isDigit_of_mem_ofNat hc)

theorem isNumeralChar_of_mem_magnitudeText (rank : Nat) :
    ∀ c ∈ Binary64.magnitudeText rank, isNumeralChar c = true := by
  intro c hc
  unfold Binary64.magnitudeText at hc
  split at hc
  · have hzero : ['0', '.', '0'].all isNumeralChar = true := rfl
    exact List.all_eq_true.mp hzero c hc
  · refine isNumeralChar_of_mem_write (fun d hd => ?_) c hc
    -- the digits without the zeros at the end are still digits
    rw [List.mem_reverse] at hd
    have hdigit := List.mem_reverse.mp ((List.dropWhile_sublist _).mem hd)
    exact Numeral.isDigit_of_mem_ofNat hdigit

end Characters

/-- A number that is written as a sign and a text that starts with a digit is read back if
`readDigits` reads it from that text. -/
theorem readsBack_signed {limits : Limits} {v : Value} {negative : Bool} {text : List Char}
    (htext : ∃ c s, text = c :: s ∧ c.isDigit = true)
    (hscalar : ∀ c ∈ text, isScalarChar c = true)
    (hread : readDigits limits negative text = .ok (v, [])) :
    ReadsBack limits v ((if negative then ['-'] else []) ++ text) := by
  refine ⟨?_, fun c hc => ?_, (readScalar_signed htext).trans hread⟩
  · obtain ⟨c, s, rfl, -⟩ := htext
    simp
  · rcases List.mem_append.mp hc with hc | hc
    · split at hc
      · rw [List.mem_singleton.mp hc]
        rfl
      · exact absurd hc List.not_mem_nil
    · exact hscalar c hc

/-! ## Integers -/

/-- An integer is written as a sign and the digits of its magnitude. -/
theorem ofInt_eq_append (n : Int) :
    Numeral.ofInt n = (if decide (n < 0) then ['-'] else []) ++ ofNat n.natAbs := by
  rw [Numeral.ofInt]
  by_cases hneg : n < 0 <;> simp [hneg]

theorem ofNat_lead (n : Nat) : (ofNat n).head? ≠ some '0' ∨ ofNat n = ['0'] := by
  by_cases hzero : n = 0
  · rw [hzero]
    exact .inr rfl
  · exact .inl (head?_ofNat_ne_zero hzero)

theorem ofNat_starts (n : Nat) : ∃ c s, ofNat n = c :: s ∧ c.isDigit = true := by
  obtain ⟨c, s, hcons⟩ := List.exists_cons_of_ne_nil (isDigits_ofNat n).1
  refine ⟨c, s, hcons, (isDigits_ofNat n).2 c ?_⟩
  rw [hcons]
  exact List.mem_cons_self

theorem isScalarChar_of_mem_ofNat {n : Nat} {c : Char} (h : c ∈ ofNat n) :
    isScalarChar c = true :=
  isScalarChar_of_isNumeralChar (Decimal.isNumeralChar_of_isDigit (Numeral.isDigit_of_mem_ofNat h))

/-- **An integer is read back** from at most as many digits as the limit allows. -/
theorem readsBack_int {n : Int} (h : (ofNat n.natAbs).length ≤ digitLimit) :
    ReadsBack {} (.int n) (Numeral.ofInt n) := by
  rw [ofInt_eq_append]
  refine readsBack_signed (ofNat_starts _) (fun _ => isScalarChar_of_mem_ofNat) ?_
  rw [readDigits_whole (isDigits_ofNat n.natAbs) (ofNat_lead _) h, Numeral.value_ofNat,
    Binary64.signed_natAbs]

/-- What denotes a decimal starts with a digit. -/
theorem Denotes.starts {text : List Char} {coefficient : Nat} {exponent : Int}
    (h : Denotes text coefficient exponent) : ∃ c s, text = c :: s ∧ c.isDigit = true := by
  obtain ⟨k, hread⟩ := h false
  have hgood : readDigits {} false text ≠ .error .malformed := by
    rw [hread]
    exact nofun
  exact starts_of_readDigits hgood

/-- Zero has a text of its own. -/
theorem denotes_magnitudeText_zero : Denotes (Binary64.magnitudeText 0) 0 (-1) :=
  denotes_pointed isDigits_zero (.inr rfl) isDigits_zero

theorem magnitudeText_starts (rank : Nat) :
    ∃ c s, Binary64.magnitudeText rank = c :: s ∧ c.isDigit = true := by
  by_cases hzero : rank = 0
  · rw [hzero]
    exact denotes_magnitudeText_zero.starts
  · obtain ⟨_, _, hdenotes, -⟩ := denotes_magnitudeText hzero
    exact hdenotes.starts

/-- A magnitude is read back from its text, with any sign. -/
theorem readDigits_magnitudeText (negative : Bool) {rank : Nat}
    (hrank : rank < Binary64.rankCount) :
    readDigits {} negative (Binary64.magnitudeText rank) =
      .ok (.float (.ofRank negative rank), []) := by
  by_cases hzero : rank = 0
  · rw [hzero]
    obtain ⟨k, hread⟩ := denotes_magnitudeText_zero negative
    rw [hread, Nat.zero_mul]
    rfl
  · obtain ⟨_, _, hdenotes, hrounds⟩ := denotes_magnitudeText hzero
    exact hdenotes.readDigits_eq hrounds hrank hzero

/-- **A binary64 number is read back**, whatever it is. -/
theorem readsBack_float (x : Binary64) : ReadsBack {} (.float x) (number x) := by
  cases x with
  | nan => exact ⟨by decide, List.all_eq_true.mp rfl, rfl⟩
  | infinity negative => cases negative <;> exact ⟨by decide, List.all_eq_true.mp rfl, rfl⟩
  | finite negative rank =>
    have hwrite : number (.finite negative rank) =
        (if negative then ['-'] else []) ++ Binary64.magnitudeText rank := rfl
    rw [hwrite]
    refine readsBack_signed (magnitudeText_starts rank) (fun c hc => ?_) ?_
    · exact isScalarChar_of_isNumeralChar (isNumeralChar_of_mem_magnitudeText rank c hc)
    · rw [readDigits_magnitudeText negative rank.isLt, Binary64.ofRank, dif_pos rank.isLt]

end Json
end WebhookRelay
