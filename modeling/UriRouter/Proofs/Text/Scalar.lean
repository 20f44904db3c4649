import Mathlib.Algebra.Group.Int.Defs
import Mathlib.Algebra.Group.Nat.Defs
import Mathlib.Data.Nat.Basic
import UriRouter.Text.Letter
import UriRouter.Text.Scalar

/-!
# Reading numbers

A text of digits is read digit by digit, and refused at the first digit that goes beyond the limit.
So it is refused exactly if its value does, however many digits it has and however many zeros it
begins with.

* `IsRunOf`, `IsSignedDigits` : the texts that are meant;
* `signedValue` : the value of a text of digits, perhaps with a `-` before them;
* `readNatural_of_digits`, `readInteger_of_signedDigits` : what reading them comes to;
* `eq_tooLarge_of_digits`, `eq_tooLarge_or_tooSmall_of_signedDigits` : what can be wrong with them.
-/

set_option autoImplicit false

namespace UriRouter.Text

/-! ## Texts of digits -/

/-- A text of characters of a class, at least one. -/
structure IsRunOf (p : Char → Bool) (s : List Char) : Prop where
  nonempty : s ≠ []
  all : ∀ c ∈ s, p c = true

/-- Digits, perhaps with a `-` before them. -/
def IsSignedDigits (s : List Char) : Prop :=
  ∃ digits, IsRunOf isAsciiDigit digits ∧ (s = digits ∨ s = '-' :: digits)

/-- The value of digits, perhaps with a `-` before them. -/
def signedValue : List Char → Int
  | '-' :: digits => -(Nat.ofDigitChars 10 digits 0 : Int)
  | digits => Nat.ofDigitChars 10 digits 0

theorem digitValue?_of_isAsciiDigit {c : Char} (h : isAsciiDigit c = true) :
    digitValue? c = some (c.toNat - '0'.toNat) := if_pos h

/-! ## Reading digit by digit -/

/-- Digits that follow make a number no smaller. -/
theorem le_ofDigitChars (value : Nat) (s : List Char) : value ≤ Nat.ofDigitChars 10 s value := by
  induction s generalizing value with
  | nil => exact Nat.le_refl value
  | cons c s ih =>
    rw [Nat.ofDigitChars_cons]
    have hc := ih (10 * value + (c.toNat - '0'.toNat))
    omega

/-- Digits are refused at the first that goes beyond the limit, and all numbers after it are beyond
the limit as well. -/
theorem readDigits_of_digits {limit value : Nat} {excess : ReadFault} {s : List Char}
    (hs : ∀ c ∈ s, isAsciiDigit c = true) (hv : value ≤ limit) :
    readDigits limit excess value s =
      if Nat.ofDigitChars 10 s value ≤ limit then .ok (Nat.ofDigitChars 10 s value)
      else .error excess := by
  induction s generalizing value with
  | nil =>
    rw [readDigits, Nat.ofDigitChars_nil, if_pos hv]
  | cons c s ih =>
    obtain ⟨hc, hs⟩ := List.forall_mem_cons.1 hs
    rw [readDigits, digitValue?_of_isAsciiDigit hc, Nat.ofDigitChars_cons, Nat.mul_comm 10 value]
    by_cases hlimit : value * 10 + (c.toNat - '0'.toNat) ≤ limit
    · simp only [if_neg (Nat.not_lt.2 hlimit)]
      exact ih hs hlimit
    · have hle := le_ofDigitChars (value * 10 + (c.toNat - '0'.toNat)) s
      simp only [if_pos (Nat.lt_of_not_le hlimit)]
      rw [if_neg fun h => hlimit (Nat.le_trans hle h)]

theorem readMagnitude_of_digits {limit : Nat} {excess : ReadFault} {s : List Char}
    (h : IsRunOf isAsciiDigit s) :
    readMagnitude limit excess s =
      if Nat.ofDigitChars 10 s 0 ≤ limit then .ok (Nat.ofDigitChars 10 s 0) else .error excess := by
  rw [readMagnitude]
  · exact readDigits_of_digits h.all (Nat.zero_le limit)
  · exact h.nonempty

theorem le_numberRange {n bits : Nat} : n ≤ numberRange bits - 1 ↔ n < 2 ^ bits :=
  Nat.le_sub_one_iff_lt (Nat.two_pow_pos bits)

/-- **Digits read as a number** of some width are its value, if that is not too large. -/
theorem readNatural_of_digits {s : String} (bits : Nat) (h : IsRunOf isAsciiDigit s.toList) :
    readNatural bits s =
      if Nat.ofDigitChars 10 s.toList 0 < 2 ^ bits then .ok (Nat.ofDigitChars 10 s.toList 0)
      else .error .tooLarge := by
  unfold readNatural
  split
  · rename_i hnil
    exact absurd hnil h.nonempty
  · rename_i hplus
    have hdigit := h.all '+' (by rw [hplus]; exact List.mem_cons_self)
    cases hdigit
  · rw [readMagnitude_of_digits h]
    simp only [le_numberRange]

/-! ## Signs -/

theorem signedValue_of_digits {s : List Char} (h : IsRunOf isAsciiDigit s) :
    signedValue s = Nat.ofDigitChars 10 s 0 := by
  unfold signedValue
  split
  · have hdigit := h.all '-' List.mem_cons_self
    cases hdigit
  · rfl

theorem readInteger_of_digits {s : String} (bits : Nat) (h : IsRunOf isAsciiDigit s.toList) :
    readInteger bits s =
      if Nat.ofDigitChars 10 s.toList 0 < 2 ^ (bits - 1) then
        .ok (Nat.ofDigitChars 10 s.toList 0 : Int)
      else .error .tooLarge := by
  unfold readInteger
  split
  · rename_i hnil
    exact absurd hnil h.nonempty
  · rename_i hplus
    have hdigit := h.all '+' (by rw [hplus]; exact List.mem_cons_self)
    cases hdigit
  · rename_i hminus
    have hdigit := h.all '-' (by rw [hminus]; exact List.mem_cons_self)
    cases hdigit
  · rw [readMagnitude_of_digits h]
    simp only [le_numberRange]
    split <;> rfl

theorem readInteger_of_minus {s : String} {digits : List Char} (bits : Nat)
    (hs : s.toList = '-' :: digits) (h : IsRunOf isAsciiDigit digits) :
    readInteger bits s =
      if Nat.ofDigitChars 10 digits 0 ≤ 2 ^ (bits - 1) then
        .ok (-(Nat.ofDigitChars 10 digits 0 : Int))
      else .error .tooSmall := by
  rw [readInteger, hs]
  simp only [readMagnitude_of_digits h, numberRange]
  show _ <$> (if Nat.ofDigitChars 10 digits 0 ≤ 2 ^ (bits - 1) then _ else _) = _
  split <;> rfl

/-- **Digits read as an integer** of some width, perhaps after a `-`, are its value, if that is
neither too large nor too small. There is one number more below zero than above. -/
theorem readInteger_of_signedDigits {s : String} (bits : Nat) (h : IsSignedDigits s.toList) :
    readInteger bits s =
      if signedValue s.toList < -2 ^ (bits - 1) then .error .tooSmall
      else if signedValue s.toList < 2 ^ (bits - 1) then .ok (signedValue s.toList)
      else .error .tooLarge := by
  have hpos : (0 : Int) < 2 ^ (bits - 1) := Int.pow_pos (by decide)
  have hcast : ((2 ^ (bits - 1) : Nat) : Int) = 2 ^ (bits - 1) := Int.natCast_pow 2 (bits - 1)
  obtain ⟨digits, hdigits, hs | hs⟩ := h
  · have hrun : IsRunOf isAsciiDigit s.toList := hs ▸ hdigits
    rw [readInteger_of_digits bits hrun, signedValue_of_digits hrun]
    by_cases hlt : Nat.ofDigitChars 10 s.toList 0 < 2 ^ (bits - 1)
    · rw [if_pos hlt, if_neg (by omega), if_pos (by omega)]
    · rw [if_neg hlt, if_neg (by omega), if_neg (by omega)]
  · have hvalue : signedValue s.toList = -(Nat.ofDigitChars 10 digits 0 : Int) := by
      rw [hs]
      rfl
    rw [readInteger_of_minus bits hs hdigits, hvalue]
    by_cases hle : Nat.ofDigitChars 10 digits 0 ≤ 2 ^ (bits - 1)
    · rw [if_pos hle, if_neg (by omega), if_pos (by omega)]
    · rw [if_neg hle, if_pos (by omega)]

/-! ## What digits can be refused for -/

/-- Digits can only make too large a number. -/
theorem eq_tooLarge_of_digits {s : String} {bits : Nat} {fault : ReadFault}
    (h : IsRunOf isAsciiDigit s.toList) (hf : readNatural bits s = .error fault) :
    fault = .tooLarge := by
  rw [readNatural_of_digits bits h] at hf
  split at hf
  · cases hf
  · exact (Except.error.inj hf).symm

/-- After a `-` they can also make too small a number. -/
theorem eq_tooLarge_or_tooSmall_of_signedDigits {s : String} {bits : Nat} {fault : ReadFault}
    (h : IsSignedDigits s.toList) (hf : readInteger bits s = .error fault) :
    fault = .tooLarge ∨ fault = .tooSmall := by
  rw [readInteger_of_signedDigits bits h] at hf
  split at hf
  · exact .inr (Except.error.inj hf).symm
  · split at hf
    · cases hf
    · exact .inl (Except.error.inj hf).symm

end UriRouter.Text
