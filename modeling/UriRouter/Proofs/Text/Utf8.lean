import UriRouter.Text.Utf8

/-!
# A text and its bytes

The bytes of a text are read back as that text: the first byte of a character tells how many there
are, and the bits that the bytes carry are those of the code point.

* `Utf8.decodeFrom_encodeChar` : one character, whatever comes after it;
* `Utf8.decode_encode` : a whole text.
-/

set_option autoImplicit false

namespace UriRouter.Text.Utf8

/-! ## Bytes -/

theorem toNat_ofNat {n : Nat} (h : n < 256) : (UInt8.ofNat n).toNat = n :=
  UInt8.toNat_ofNat_of_lt' h

theorem ofNat_eq_iff {n : Nat} (h : n < 256) (b : UInt8) : UInt8.ofNat n = b ↔ n = b.toNat := by
  rw [← UInt8.toNat_inj, toNat_ofNat h]

/-- A byte is in a range if its number is. -/
theorem decide_mem_range {n : Nat} (h : n < 256) {a b : UInt8} (ha : a.toNat ≤ n)
    (hb : n ≤ b.toNat) : (decide (a ≤ UInt8.ofNat n) && decide (UInt8.ofNat n ≤ b)) = true := by
  rw [Bool.and_eq_true, decide_eq_true_eq, decide_eq_true_eq, UInt8.le_iff_toNat_le,
    UInt8.le_iff_toNat_le, toNat_ofNat h]
  exact ⟨ha, hb⟩

/-- A byte that carries six bits continues a character. -/
theorem isTail_ofNat (n : Nat) : isTail (UInt8.ofNat (n % 64 + 128)) = true :=
  decide_mem_range (by omega) (show 128 ≤ _ by omega) (show _ ≤ 191 by omega)

/-- The six bits are those it was made of. -/
theorem tailBits_ofNat (n : Nat) : tailBits (UInt8.ofNat (n % 64 + 128)) = n % 64 := by
  rw [tailBits, toNat_ofNat (by omega)]
  omega

/-- The second byte of three is in the range that the first one leaves to it. -/
theorem isSecondOfThree_ofNat {v : Nat} (hlow : 2047 < v) (hhigh : v ≤ 65535)
    (hv : v < 0xD800 ∨ 0xDFFF < v) :
    isSecondOfThree (UInt8.ofNat (v / 4096 % 16 + 224)) (UInt8.ofNat (v / 64 % 64 + 128)) =
      true := by
  have hfirst : v / 4096 % 16 + 224 < 256 := by omega
  have hsecond : v / 64 % 64 + 128 < 256 := by omega
  simp only [isSecondOfThree, beq_iff_eq, ofNat_eq_iff hfirst, isTail_ofNat]
  split
  · rename_i h
    have h' : v / 4096 % 16 + 224 = 224 := h
    exact decide_mem_range hsecond (show 160 ≤ _ by omega) (show _ ≤ 191 by omega)
  · split
    · rename_i h
      have h' : v / 4096 % 16 + 224 = 237 := h
      exact decide_mem_range hsecond (show 128 ≤ _ by omega) (show _ ≤ 159 by omega)
    · rfl

/-- The second byte of four is in the range that the first one leaves to it. -/
theorem isSecondOfFour_ofNat {v : Nat} (hlow : 65535 < v) (hhigh : v < 0x110000) :
    isSecondOfFour (UInt8.ofNat (v / 262144 % 8 + 240)) (UInt8.ofNat (v / 4096 % 64 + 128)) =
      true := by
  have hfirst : v / 262144 % 8 + 240 < 256 := by omega
  have hsecond : v / 4096 % 64 + 128 < 256 := by omega
  simp only [isSecondOfFour, beq_iff_eq, ofNat_eq_iff hfirst, isTail_ofNat]
  split
  · rename_i h
    have h' : v / 262144 % 8 + 240 = 240 := h
    exact decide_mem_range hsecond (show 144 ≤ _ by omega) (show _ ≤ 191 by omega)
  · split
    · rename_i h
      have h' : v / 262144 % 8 + 240 = 244 := h
      exact decide_mem_range hsecond (show 128 ≤ _ by omega) (show _ ≤ 143 by omega)
    · rfl

/-! ## Characters -/

section Lengths

variable {a b c d : UInt8} (index : Nat) (rest : List UInt8)

theorem decodeFrom_one (ha : a.toNat < 128) :
    decodeFrom index (a :: rest) = (Char.ofNat a.toNat :: ·) <$> decodeFrom (index + 1) rest := by
  rw [decodeFrom.eq_def]
  exact if_pos (UInt8.lt_iff_toNat_lt.2 ha)

theorem decodeFrom_two (hlow : 194 ≤ a.toNat) (hhigh : a.toNat ≤ 223) (hb : isTail b = true) :
    decodeFrom index (a :: b :: rest) =
      (Char.ofNat (a.toNat % 32 * 64 + tailBits b) :: ·) <$> decodeFrom (index + 2) rest := by
  rw [decodeFrom.eq_def]
  simp only [UInt8.lt_iff_toNat_lt, UInt8.le_iff_toNat_le, UInt8.reduceToNat, Bool.and_eq_true,
    decide_eq_true_eq, hb, ↓reduceIte]
  rw [if_neg (by omega), if_pos ⟨hlow, hhigh⟩]

theorem decodeFrom_three (hlow : 224 ≤ a.toNat) (hhigh : a.toNat ≤ 239)
    (hb : isSecondOfThree a b = true) (hc : isTail c = true) :
    decodeFrom index (a :: b :: c :: rest) =
      (Char.ofNat ((a.toNat % 16 * 64 + tailBits b) * 64 + tailBits c) :: ·) <$>
        decodeFrom (index + 3) rest := by
  rw [decodeFrom.eq_def]
  simp only [UInt8.lt_iff_toNat_lt, UInt8.le_iff_toNat_le, UInt8.reduceToNat, Bool.and_eq_true,
    decide_eq_true_eq, hb, hc, ↓reduceIte]
  rw [if_neg (by omega), if_neg (by omega), if_pos ⟨hlow, hhigh⟩]

theorem decodeFrom_four (hlow : 240 ≤ a.toNat) (hhigh : a.toNat ≤ 244)
    (hb : isSecondOfFour a b = true) (hc : isTail c = true) (hd : isTail d = true) :
    decodeFrom index (a :: b :: c :: d :: rest) =
      (Char.ofNat (((a.toNat % 8 * 64 + tailBits b) * 64 + tailBits c) * 64 + tailBits d) :: ·) <$>
        decodeFrom (index + 4) rest := by
  rw [decodeFrom.eq_def]
  simp only [UInt8.lt_iff_toNat_lt, UInt8.le_iff_toNat_le, UInt8.reduceToNat, Bool.and_eq_true,
    decide_eq_true_eq, hb, hc, hd, ↓reduceIte]
  rw [if_neg (by omega), if_neg (by omega), if_neg (by omega), if_pos ⟨hlow, hhigh⟩]

end Lengths

/-- **The bytes of a character are read back as the character**, whatever comes after them. -/
theorem decodeFrom_encodeChar (c : Char) (index : Nat) (rest : List UInt8) :
    decodeFrom index (String.utf8EncodeChar c ++ rest) =
      (c :: ·) <$> decodeFrom (index + (String.utf8EncodeChar c).length) rest := by
  have hc : c.val.toNat < 0xD800 ∨ 0xDFFF < c.val.toNat ∧ c.val.toNat < 0x110000 := c.valid
  have hback : Char.ofNat c.val.toNat = c := Char.ofNat_toNat c
  unfold String.utf8EncodeChar
  generalize c.val.toNat = v at hc hback
  -- the cases are those of the encoding: one byte, two, three or four
  simp only
  split
  · have ha : (UInt8.ofNat v).toNat = v := toNat_ofNat (by omega)
    have h := decodeFrom_one (a := UInt8.ofNat v) index rest (by omega)
    rw [ha, hback] at h
    exact h
  split
  · have ha : (UInt8.ofNat (v / 64 % 32 + 192)).toNat = v / 64 % 32 + 192 := toNat_ofNat (by omega)
    have h := decodeFrom_two index rest (by omega : 194 ≤ (UInt8.ofNat (v / 64 % 32 + 192)).toNat)
      (by omega) (isTail_ofNat v)
    have hpoint : (v / 64 % 32 + 192) % 32 * 64 + v % 64 = v := by omega
    rw [ha, tailBits_ofNat, hpoint, hback] at h
    exact h
  split
  · have ha : (UInt8.ofNat (v / 4096 % 16 + 224)).toNat = v / 4096 % 16 + 224 :=
      toNat_ofNat (by omega)
    have h := decodeFrom_three index rest
      (by omega : 224 ≤ (UInt8.ofNat (v / 4096 % 16 + 224)).toNat) (by omega)
      (isSecondOfThree_ofNat (by omega) (by omega) (by omega)) (isTail_ofNat v)
    have hpoint : ((v / 4096 % 16 + 224) % 16 * 64 + v / 64 % 64) * 64 + v % 64 = v := by omega
    rw [ha, tailBits_ofNat, tailBits_ofNat, hpoint, hback] at h
    exact h
  · have ha : (UInt8.ofNat (v / 262144 % 8 + 240)).toNat = v / 262144 % 8 + 240 :=
      toNat_ofNat (by omega)
    have h := decodeFrom_four index rest
      (by omega : 240 ≤ (UInt8.ofNat (v / 262144 % 8 + 240)).toNat) (by omega)
      (isSecondOfFour_ofNat (by omega) (by omega)) (isTail_ofNat (v / 64)) (isTail_ofNat v)
    have hpoint : (((v / 262144 % 8 + 240) % 8 * 64 + v / 4096 % 64) * 64 + v / 64 % 64) * 64 +
        v % 64 = v := by omega
    rw [ha, tailBits_ofNat, tailBits_ofNat, tailBits_ofNat, hpoint, hback] at h
    exact h

/-! ## Texts -/

theorem decodeFrom_encode (cs : List Char) (index : Nat) :
    decodeFrom index (encode cs) = .ok cs := by
  induction cs generalizing index with
  | nil => rfl
  | cons c cs ih =>
    rw [encode, List.flatMap_cons, decodeFrom_encodeChar, ← encode, ih]
    rfl

/-- **The bytes of a text are read back as the text.** -/
theorem decode_encode (cs : List Char) : decode (encode cs) = .ok cs := decodeFrom_encode cs 0

end UriRouter.Text.Utf8
