import WebhookRelay.Text.Percent

/-! # Percent escapes read back

The bytes of a text are decoded to that text (`Utf8.decode_encode`), and escapes are read
as the bytes that they stand for (`Percent.decodeBytes_encodeByte`).

The decoder of bytes is a machine, so what it does with the bytes of one character is said
with any bytes behind them (`Utf8.decodeFrom_encodeChar`): the machine is then where it
was before.  There is a case for each number of bytes.  The first byte sets bounds on the
second one, and these hold because a character is neither overlong nor a surrogate.
-/

namespace WebhookRelay

namespace Utf8

theorem toNat_ofNat_of_lt {n : Nat} (h : n < 256) : (UInt8.ofNat n).toNat = n := by
  rw [UInt8.toNat_ofNat']
  exact Nat.mod_eq_of_lt h

/-- A byte of the basic alphabet is a character. -/
theorem decodeFrom_basic {n : Nat} (h : n < 0x80) (rest : List UInt8) :
    decodeFrom none (UInt8.ofNat n :: rest) = Char.ofNat n :: decodeFrom none rest := by
  have hn := toNat_ofNat_of_lt (show n < 256 by omega)
  have hlt : UInt8.ofNat n < 0x80 := UInt8.lt_iff_toNat_lt.mpr (by rw [hn]; exact h)
  rw [decodeFrom, next, first, if_pos hlt, hn]
  rfl

/-- The first byte of a character of several bytes tells how many are to come, and the
bounds of the second one. -/
theorem decodeFrom_begin {n : Nat} (hlow : 0xC2 ≤ n) (hhigh : n < 0xF5) (rest : List UInt8) :
    decodeFrom none (UInt8.ofNat n :: rest) = decodeFrom (some
      (if n < 0xE0 then ⟨n % 32, 1, 0x80, 0xBF⟩
      else if n < 0xF0 then
        ⟨n % 16, 2, if n = 0xE0 then 0xA0 else 0x80, if n = 0xED then 0x9F else 0xBF⟩
      else ⟨n % 8, 3, if n = 0xF0 then 0x90 else 0x80, if n = 0xF4 then 0x8F else 0xBF⟩))
      rest := by
  have hn := toNat_ofNat_of_lt (show n < 256 by omega)
  have hlt : ∀ m : UInt8, UInt8.ofNat n < m ↔ n < m.toNat := by
    intro m
    rw [UInt8.lt_iff_toNat_lt, hn]
  have heq : ∀ m : UInt8, UInt8.ofNat n = m ↔ n = m.toNat := by
    intro m
    rw [← UInt8.toNat_inj, hn]
  have hbasic : ¬ n < 128 := by omega
  have hcontinued : ¬ n < 194 := by omega
  rw [decodeFrom, next, first]
  simp only [hlt, heq, hn, UInt8.reduceToNat, hbasic, hcontinued, hhigh, if_false, if_true]
  split
  · rfl
  · split <;> rfl

section Continuation

variable {code missing n : Nat} {least greatest : UInt8}

/-- A byte within the bounds continues the begun character. -/
theorem next_continue (hlow : least.toNat ≤ n) (hhigh : n ≤ greatest.toNat) :
    next (some ⟨code, missing, least, greatest⟩) (UInt8.ofNat n) =
      if missing = 1 then ([Char.ofNat (code * 64 + n % 64)], none)
      else ([], some ⟨code * 64 + n % 64, missing - 1, 0x80, 0xBF⟩) := by
  have hn := toNat_ofNat_of_lt (Nat.lt_of_le_of_lt hhigh greatest.toNat_lt)
  have hleast : least ≤ UInt8.ofNat n := UInt8.le_iff_toNat_le.mpr (by rw [hn]; exact hlow)
  have hgreatest : UInt8.ofNat n ≤ greatest :=
    UInt8.le_iff_toNat_le.mpr (by rw [hn]; exact hhigh)
  simp only [next, hleast, hgreatest, decide_true, Bool.and_self, if_true, hn]

/-- The last byte completes the character. -/
theorem decodeFrom_last (hlow : least.toNat ≤ n) (hhigh : n ≤ greatest.toNat)
    (rest : List UInt8) :
    decodeFrom (some ⟨code, 1, least, greatest⟩) (UInt8.ofNat n :: rest) =
      Char.ofNat (code * 64 + n % 64) :: decodeFrom none rest := by
  rw [decodeFrom, next_continue hlow hhigh, if_pos rfl]
  rfl

/-- A byte before the last one adds six bits. -/
theorem decodeFrom_more (hmissing : missing ≠ 1) (hlow : least.toNat ≤ n)
    (hhigh : n ≤ greatest.toNat) (rest : List UInt8) :
    decodeFrom (some ⟨code, missing, least, greatest⟩) (UInt8.ofNat n :: rest) =
      decodeFrom (some ⟨code * 64 + n % 64, missing - 1, 0x80, 0xBF⟩) rest := by
  rw [decodeFrom, next_continue hlow hhigh, if_neg hmissing]
  rfl

end Continuation

section Lengths

variable {v : Nat} (rest : List UInt8)

theorem decodeFrom_two (hlow : 0x7F < v) (hhigh : v ≤ 0x7FF) :
    decodeFrom none (UInt8.ofNat (v / 64 % 32 + 192) :: UInt8.ofNat (v % 64 + 128) :: rest) =
      Char.ofNat v :: decodeFrom none rest := by
  have hlast : v % 64 + 128 ≤ 0xBF := by omega
  have hcode : (v / 64 % 32 + 192) % 32 * 64 + (v % 64 + 128) % 64 = v := by omega
  rw [decodeFrom_begin (by omega) (by omega), if_pos (by omega),
    decodeFrom_last (Nat.le_add_left 128 _) hlast, hcode]

theorem decodeFrom_three (hlow : 0x7FF < v) (hhigh : v ≤ 0xFFFF)
    (hvalid : v < 0xD800 ∨ 0xDFFF < v) :
    decodeFrom none (UInt8.ofNat (v / 4096 % 16 + 224) :: UInt8.ofNat (v / 64 % 64 + 128) ::
      UInt8.ofNat (v % 64 + 128) :: rest) = Char.ofNat v :: decodeFrom none rest := by
  have hlast : v % 64 + 128 ≤ 0xBF := by omega
  have hcode : ((v / 4096 % 16 + 224) % 16 * 64 + (v / 64 % 64 + 128) % 64) * 64
      + (v % 64 + 128) % 64 = v := by omega
  rw [decodeFrom_begin (by omega) (by omega), if_neg (by omega), if_pos (by omega),
    decodeFrom_more (by decide), decodeFrom_last (Nat.le_add_left 128 _) hlast, hcode]
  -- the bounds of the second byte: no overlong form, and no surrogate
  · split <;> simp only [UInt8.reduceToNat] <;> omega
  · split <;> simp only [UInt8.reduceToNat] <;> omega

theorem decodeFrom_four (hlow : 0xFFFF < v) (hhigh : v < 0x110000) :
    decodeFrom none (UInt8.ofNat (v / 262144 % 8 + 240) :: UInt8.ofNat (v / 4096 % 64 + 128) ::
      UInt8.ofNat (v / 64 % 64 + 128) :: UInt8.ofNat (v % 64 + 128) :: rest) =
      Char.ofNat v :: decodeFrom none rest := by
  have hthird : v / 64 % 64 + 128 ≤ 0xBF := by omega
  have hlast : v % 64 + 128 ≤ 0xBF := by omega
  have hcode : (((v / 262144 % 8 + 240) % 8 * 64 + (v / 4096 % 64 + 128) % 64) * 64
      + (v / 64 % 64 + 128) % 64) * 64 + (v % 64 + 128) % 64 = v := by omega
  rw [decodeFrom_begin (by omega) (by omega), if_neg (by omega), if_neg (by omega),
    decodeFrom_more (by decide), decodeFrom_more (by decide) (Nat.le_add_left 128 _) hthird,
    decodeFrom_last (Nat.le_add_left 128 _) hlast, hcode]
  -- the bounds of the second byte: no overlong form, and nothing beyond the last code point
  · split <;> simp only [UInt8.reduceToNat] <;> omega
  · split <;> simp only [UInt8.reduceToNat] <;> omega

end Lengths

/-- **A character is read from its bytes**, whatever bytes follow. -/
theorem decodeFrom_encodeChar (c : Char) (rest : List UInt8) :
    decodeFrom none (String.utf8EncodeChar c ++ rest) = c :: decodeFrom none rest := by
  have hvalid : c.val.toNat < 0xD800 ∨ 0xDFFF < c.val.toNat ∧ c.val.toNat < 0x110000 := c.valid
  have hchar : Char.ofNat c.val.toNat = c := Char.ofNat_toNat c
  rw [String.utf8EncodeChar]
  generalize c.val.toNat = v at hvalid hchar
  rw [← hchar]
  split
  · exact decodeFrom_basic (by omega) rest
  · split
    · exact decodeFrom_two rest (by omega) (by omega)
    · split
      · exact decodeFrom_three rest (by omega) (by omega) (by omega)
      · exact decodeFrom_four rest (by omega) (by omega)

/-- **The bytes of a text are decoded to that text.** -/
theorem decode_encode (s : List Char) : decode (encode s) = s := by
  induction s with
  | nil => rfl
  | cons c s ih =>
    rw [encode, List.flatMap_cons, decode, decodeFrom_encodeChar]
    exact congrArg (c :: ·) ih

end Utf8

namespace Percent

theorem hexValue?_hexDigit : ∀ n < 16, hexValue? (hexDigit n) = some n := by decide

theorem isAlphanum_hexDigit : ∀ n < 16, (hexDigit n).isAlphanum = true := by decide

/-- An escape is read as its byte. -/
theorem decodeBytes_encodeByte (b : UInt8) (rest : List Char) :
    decodeBytes (encodeByte b ++ rest) = b :: decodeBytes rest := by
  have hb : b.toNat < 256 := b.toNat_lt
  have hhigh := hexValue?_hexDigit (b.toNat / 16) (by omega)
  have hlow := hexValue?_hexDigit (b.toNat % 16) (by omega)
  have hbyte : UInt8.ofNat (16 * (b.toNat / 16) + b.toNat % 16) = b := by
    rw [Nat.div_add_mod, UInt8.ofNat_toNat]
  rw [encodeByte, List.cons_append, List.cons_append, List.cons_append, List.nil_append,
    decodeBytes, hhigh, hlow]
  exact congrArg (· :: decodeBytes rest) hbyte

/-- The escapes of bytes are read as these bytes. -/
theorem decodeBytes_encodeBytes (bytes : List UInt8) (rest : List Char) :
    decodeBytes (bytes.flatMap encodeByte ++ rest) = bytes ++ decodeBytes rest := by
  induction bytes with
  | nil => rfl
  | cons b bytes ih =>
    rw [List.flatMap_cons, List.append_assoc, decodeBytes_encodeByte, ih, List.cons_append]

/-- A character that is no percent sign is read as its own bytes. -/
theorem decodeBytes_cons {c : Char} (h : c ≠ '%') (rest : List Char) :
    decodeBytes (c :: rest) = String.utf8EncodeChar c ++ decodeBytes rest := by
  rw [decodeBytes]
  rintro a b tail hc
  exact absurd hc h

/-- An escape consists of percent signs and hexadecimal digits. -/
theorem mem_encodeChar {c d : Char} (h : d ∈ encodeChar c) : d = '%' ∨ d.isAlphanum = true := by
  obtain ⟨b, -, hd⟩ := List.mem_flatMap.mp h
  have hb : b.toNat < 256 := b.toNat_lt
  simp only [encodeByte, List.mem_cons, List.not_mem_nil, or_false] at hd
  rcases hd with rfl | rfl | rfl
  · exact Or.inl rfl
  · exact Or.inr (isAlphanum_hexDigit _ (by omega))
  · exact Or.inr (isAlphanum_hexDigit _ (by omega))

end Percent
end WebhookRelay
