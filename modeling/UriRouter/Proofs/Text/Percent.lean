import UriRouter.Proofs.Text.Utf8
import UriRouter.Text.Letter
import UriRouter.Text.Percent

/-!
# Percent-encoded text

A text is percent-encoded byte by byte. A byte may be written as an escape, with the digits in
either case, and the letters and digits of ASCII and four other characters may also stand for
themselves. Decoding gives the text back, however it has been encoded.

* `Percent.EncodesBytes`, `Percent.Encodes` : the encodings of bytes, and those of a text;
* `Percent.encode` : one of them;
* `Percent.Encodes.isPiece` : an encoded text is a piece of a path;
* `Percent.decode_of_encodes` : what it is decoded to.
-/

set_option autoImplicit false

namespace UriRouter.Text.Percent

/-! ## Encodings -/

/-- A character that needs no escape: a letter or digit of ASCII, or one of `_`, `-`, `.`, `~`. -/
def isUnreserved (c : Char) : Bool := isAsciiWordChar c || ['-', '.', '~'].contains c

/-- A hexadecimal digit, in either case. -/
def IsHexDigit (n : Nat) (c : Char) : Prop := c = n.digitChar ∨ c = n.digitChar.toUpper

/-- The byte of an ASCII character. -/
def asciiByte (c : Char) : UInt8 := UInt8.ofNat c.toNat

/-- The texts that bytes can be written as. -/
inductive EncodesBytes : List UInt8 → List Char → Prop
  | nil : EncodesBytes [] []
  | plain {c : Char} {bytes : List UInt8} {t : List Char} (hc : isUnreserved c = true)
    (h : EncodesBytes bytes t) : EncodesBytes (asciiByte c :: bytes) (c :: t)
  | escape {b : UInt8} {hi lo : Char} {bytes : List UInt8} {t : List Char}
    (hhi : IsHexDigit (b.toNat / 16) hi) (hlo : IsHexDigit (b.toNat % 16) lo)
    (h : EncodesBytes bytes t) : EncodesBytes (b :: bytes) ('%' :: hi :: lo :: t)

/-- The texts that a text can be encoded as. -/
def Encodes (v t : String) : Prop := EncodesBytes (Utf8.encode v.toList) t.toList

/-- A byte by itself where it may stand so, or else as an escape. -/
def encodeByte (b : UInt8) : List Char :=
  if isUnreserved (Char.ofNat b.toNat) then [Char.ofNat b.toNat]
  else ['%', (b.toNat / 16).digitChar.toUpper, (b.toNat % 16).digitChar.toUpper]

/-- The encoding with the fewest escapes. -/
def encode (v : String) : String := String.ofList ((Utf8.encode v.toList).flatMap encodeByte)

theorem asciiByte_ofNat (b : UInt8) : asciiByte (Char.ofNat b.toNat) = b := by
  have hb := b.toNat_lt
  have hvalid : b.toNat.isValidChar := .inl (by omega)
  have hnat : (Char.ofNat b.toNat).toNat = b.toNat := by
    rw [Char.ofNat, dif_pos hvalid]
    rfl
  rw [asciiByte, hnat]
  exact UInt8.ofNat_toNat

/-- Every text has an encoding. -/
theorem encodes_encode (v : String) : Encodes v (encode v) := by
  have h : ∀ bytes, EncodesBytes bytes (bytes.flatMap encodeByte) := by
    intro bytes
    induction bytes with
    | nil => exact .nil
    | cons b bytes ih =>
      rw [List.flatMap_cons, encodeByte]
      split
      · rename_i hb
        have hplain := EncodesBytes.plain hb ih
        rw [asciiByte_ofNat] at hplain
        exact hplain
      · exact .escape (.inr rfl) (.inr rfl) ih
  rw [Encodes, encode, String.toList_ofList]
  exact h _

/-! ## The characters of an encoded text -/

theorem isAscii_of_isUnreserved {c : Char} (h : isUnreserved c = true) : c.toNat < 128 := by
  rcases Bool.or_eq_true_iff.1 h with hword | hother
  · exact of_decide_eq_true (isAscii_of_isAsciiWordChar hword)
  · simp only [List.contains_iff_mem, List.mem_cons, List.not_mem_nil, or_false] at hother
    rcases hother with rfl | rfl | rfl <;> decide

/-- A character that reads as a digit and stands for itself in a path. -/
def IsPlainDigit (n : Nat) (c : Char) : Prop :=
  hexValue (asciiByte c) = some (UInt8.ofNat n) ∧ c.toNat < 128 ∧ c ≠ '/'

instance (n : Nat) (c : Char) : Decidable (IsPlainDigit n c) :=
  inferInstanceAs (Decidable (_ ∧ _ ∧ _))

theorem isPlainDigit_digitChar :
    ∀ n < 16, IsPlainDigit n n.digitChar ∧ IsPlainDigit n n.digitChar.toUpper := by
  decide

theorem IsHexDigit.isPlainDigit {n : Nat} {c : Char} (hn : n < 16) (h : IsHexDigit n c) :
    IsPlainDigit n c := by
  rcases h with rfl | rfl
  · exact (isPlainDigit_digitChar n hn).1
  · exact (isPlainDigit_digitChar n hn).2

/-- An encoded text is ASCII, and no `/` is left in it. -/
theorem EncodesBytes.isPlain {bytes : List UInt8} {t : List Char} (h : EncodesBytes bytes t) :
    ∀ c ∈ t, c.toNat < 128 ∧ c ≠ '/' := by
  induction h with
  | nil => exact nofun
  | plain hc _ ih =>
    refine List.forall_mem_cons.2 ⟨⟨isAscii_of_isUnreserved hc, ?_⟩, ih⟩
    rintro rfl
    revert hc
    decide
  | @escape b hi lo bytes t hhi hlo _ ih =>
    have hb := b.toNat_lt
    exact List.forall_mem_cons.2 ⟨by decide, List.forall_mem_cons.2
      ⟨(hhi.isPlainDigit (by omega)).2, List.forall_mem_cons.2
        ⟨(hlo.isPlainDigit (by omega)).2, ih⟩⟩⟩

theorem EncodesBytes.ne_nil {bytes : List UInt8} {t : List Char} (h : EncodesBytes bytes t)
    (hb : bytes ≠ []) : t ≠ [] := by
  cases h with
  | nil => exact absurd rfl hb
  | plain => exact List.cons_ne_nil _ _
  | escape => exact List.cons_ne_nil _ _

theorem encode_ne_nil {cs : List Char} (h : cs ≠ []) : Utf8.encode cs ≠ [] := by
  intro hnil
  have hback := Utf8.decode_encode cs
  rw [hnil] at hback
  cases hback
  exact h rfl

/-- **An encoded text is a piece of a path**, if it is one of any text at all. -/
theorem Encodes.isPiece {v t : String} (h : Encodes v t) (hv : v ≠ "") :
    t ≠ "" ∧ '/' ∉ t.toList := by
  constructor
  · have hbytes : Utf8.encode v.toList ≠ [] :=
      encode_ne_nil fun hnil => hv (String.toList_eq_nil_iff.1 hnil)
    exact fun ht => EncodesBytes.ne_nil h hbytes (String.toList_eq_nil_iff.2 ht)
  · exact fun hmem => (EncodesBytes.isPlain h _ hmem).2 rfl

/-! ## Decoding -/

/-- ASCII characters are bytes. -/
theorem encode_of_isAscii {t : List Char} (h : ∀ c ∈ t, c.toNat < 128) :
    Utf8.encode t = t.map asciiByte := by
  induction t with
  | nil => rfl
  | cons c t ih =>
    obtain ⟨hc, ht⟩ := List.forall_mem_cons.1 h
    have hone : String.utf8EncodeChar c = [asciiByte c] :=
      if_pos (show c.val.toNat ≤ 127 from Nat.le_of_lt_succ hc)
    rw [Utf8.encode, List.flatMap_cons, hone, ← Utf8.encode, ih ht]
    rfl

theorem decodeBytes_cons_of_ne {b : UInt8} (h : b ≠ 0x25) (rest : List UInt8) :
    decodeBytes (b :: rest) = b :: decodeBytes rest := by
  rw [decodeBytes]
  exact fun _ _ _ hb _ => h hb

/-- An escape is decoded to the byte that its digits make. -/
theorem byteOf_of_isHexDigit {b : UInt8} {hi lo : Char} (hhi : IsHexDigit (b.toNat / 16) hi)
    (hlo : IsHexDigit (b.toNat % 16) lo) : byteOf (asciiByte hi) (asciiByte lo) = some b := by
  have hb := b.toNat_lt
  rw [byteOf, (hhi.isPlainDigit (by omega)).1, (hlo.isPlainDigit (by omega)).1]
  refine congrArg some (UInt8.toNat_inj.1 ?_)
  rw [UInt8.toNat_add, UInt8.toNat_mul, Utf8.toNat_ofNat (by omega), Utf8.toNat_ofNat (by omega)]
  show (b.toNat / 16 * 16 % 256 + b.toNat % 16) % 256 = b.toNat
  omega

/-- Decoding encoded bytes gives the bytes. -/
theorem decodeBytes_of_encodes {bytes : List UInt8} {t : List Char} (h : EncodesBytes bytes t) :
    decodeBytes (t.map asciiByte) = bytes := by
  induction h with
  | nil => rfl
  | @plain c bytes t hc _ ih =>
    have hne : asciiByte c ≠ 0x25 := by
      intro he
      have hlt := isAscii_of_isUnreserved hc
      have hnat := congrArg UInt8.toNat he
      rw [asciiByte, Utf8.toNat_ofNat (by omega)] at hnat
      obtain rfl : c = '%' := Char.toNat_inj.1 hnat
      revert hc
      decide
    rw [List.map_cons, decodeBytes_cons_of_ne hne, ih]
  | escape hhi hlo _ ih =>
    show decodeBytes (0x25 :: asciiByte _ :: asciiByte _ :: _) = _
    rw [decodeBytes, byteOf_of_isHexDigit hhi hlo, ih]

/-- **Decoding an encoded text gives the text.** -/
theorem decode_of_encodes {v t : String} (h : Encodes v t) : decode t = .ok v := by
  have hascii : ∀ c ∈ t.toList, c.toNat < 128 := fun c hc => (EncodesBytes.isPlain h c hc).1
  rw [decode, encode_of_isAscii hascii, decodeBytes_of_encodes h, Utf8.decode_encode]
  exact congrArg Except.ok String.ofList_toList

end UriRouter.Text.Percent
