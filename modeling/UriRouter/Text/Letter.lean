import UriRouter.Text.Data.Letters
import UriRouter.Text.Data.Words

/-!
# Letters, digits, word characters and blanks

The character properties that regular expressions and names ask for. Each is Unicode's; its
characters beyond ASCII are looked up in `UriRouter.Text.Data`.
-/

set_option autoImplicit false

namespace UriRouter.Text

/-- Whether a number lies in one of the ranges, which ascend. -/
def inRanges : List (Nat × Nat) → Nat → Bool
  | [], _ => false
  | (lo, hi) :: rest, n => if n < lo then false else n ≤ hi || inRanges rest n

/-- The ASCII letters. -/
def isAsciiLetter (c : Char) : Bool :=
  ('a' ≤ c && c ≤ 'z') || ('A' ≤ c && c ≤ 'Z')

/-- The ASCII digits. -/
def isAsciiDigit (c : Char) : Bool := '0' ≤ c && c ≤ '9'

/-- The ASCII letters, digits and `_`. -/
def isAsciiWordChar (c : Char) : Bool := isAsciiLetter c || isAsciiDigit c || c == '_'

/-- Whether a character is one of the first 128. -/
def isAscii (c : Char) : Bool := c.toNat < 0x80

theorem isAscii_of_isAsciiWordChar {c : Char} (h : isAsciiWordChar c = true) :
    isAscii c = true := by
  have hle : ∀ d : Char, c ≤ d → d.toNat < 0x80 → isAscii c = true := fun d hcd hd =>
    decide_eq_true (Nat.lt_of_le_of_lt hcd hd)
  simp only [isAsciiWordChar, isAsciiLetter, isAsciiDigit, Bool.or_eq_true, Bool.and_eq_true,
    decide_eq_true_eq, beq_iff_eq] at h
  rcases h with ((⟨-, hc⟩ | ⟨-, hc⟩) | ⟨-, hc⟩) | rfl
  · exact hle 'z' hc (by decide)
  · exact hle 'Z' hc (by decide)
  · exact hle '9' hc (by decide)
  · rfl

/-- The Unicode property Alphabetic. -/
def isAlphabetic (c : Char) : Bool :=
  if isAscii c then isAsciiLetter c else inRanges alphabeticRanges c.toNat

/-- The letters and the numbers of every kind. -/
def isAlphanumeric (c : Char) : Bool :=
  if isAscii c then isAsciiLetter c || isAsciiDigit c
  else inRanges alphabeticRanges c.toNat || inRanges numberRanges c.toNat

/-- The characters words are made of: letters, marks, decimal digits, connecting punctuation and
joiners. -/
def isWordChar (c : Char) : Bool :=
  if isAscii c then isAsciiWordChar c else inRanges wordRanges c.toNat

/-- The code points with the Unicode property White_Space. -/
def blankRanges : List (Nat × Nat) :=
  [(0x9, 0xD), (0x20, 0x20), (0x85, 0x85), (0xA0, 0xA0), (0x1680, 0x1680), (0x2000, 0x200A),
   (0x2028, 0x2029), (0x202F, 0x202F), (0x205F, 0x205F), (0x3000, 0x3000)]

/-- The Unicode property White_Space. -/
def isBlank (c : Char) : Bool := inRanges blankRanges c.toNat

end UriRouter.Text
