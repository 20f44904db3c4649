import UriRouter.Text.Data.Case
import UriRouter.Text.Letter

/-!
# Letter case

Unicode letter case, one character at a time and for a whole text.

* `isUppercase`, `isLowercase` : the properties Uppercase and Lowercase;
* `lowercaseChar` : the lower-case mapping of a character, which may be several characters;
* `lowercase` : the lower-case form of a text, where a capital sigma that ends a word becomes the
  final small sigma;
* `asciiLowercase` : the same for the ASCII letters alone.
-/

set_option autoImplicit false

namespace UriRouter.Text

/-- The Unicode property Uppercase. -/
def isUppercase (c : Char) : Bool :=
  if isAscii c then 'A' ≤ c && c ≤ 'Z' else uppercaseSpans.any (·.covers c.toNat)

/-- The Unicode property Lowercase. -/
def isLowercase (c : Char) : Bool :=
  if isAscii c then 'a' ≤ c && c ≤ 'z' else lowercaseSpans.any (·.covers c.toNat)

/-- The letters that have case: capital, small and titlecase ones. -/
def isCased (c : Char) : Bool :=
  isUppercase c || isLowercase c || inRanges titlecaseRanges c.toNat

/-- The characters that the final-sigma rule looks through. -/
def isCaseIgnorable (c : Char) : Bool :=
  if isAscii c then ['\x27', '.', ':', '^', '\x60'].contains c
  else inRanges ignorableRanges c.toNat

/-- The small letter of an ASCII capital; any other character as it is. -/
def asciiLowercaseChar (c : Char) : Char :=
  if 'A' ≤ c && c ≤ 'Z' then Char.ofNat (c.toNat + 0x20) else c

/-- The text with its ASCII capitals replaced by small letters. -/
def asciiLowercase (s : String) : String := String.ofList (s.toList.map asciiLowercaseChar)

/-- The lower-case mapping of a character. The dotted capital I is the one character whose mapping
has two. -/
def lowercaseChar (c : Char) : List Char :=
  if isAscii c then [asciiLowercaseChar c]
  else if c == '\u0130' then ['i', '\u0307']
  else match smallLetterShifts.findSome? (·.image? c.toNat) with
    | some n => [Char.ofNat n]
    | none => [c]

/-- Whether the text, less the ignorable characters it begins with, begins with a cased letter. -/
def beginsCased (s : List Char) : Bool :=
  match s.dropWhile isCaseIgnorable with
  | c :: _ => isCased c
  | [] => false

/-- The lower-case form of what follows `before`, which holds the characters already read, the
last one first. A capital sigma ends a word when a cased letter comes before it and none after. -/
def lowercaseAfter (before : List Char) : List Char → List Char
  | [] => []
  | c :: rest =>
    (if c == '\u03A3' then
      if beginsCased before && !beginsCased rest then ['\u03C2'] else ['\u03C3']
    else lowercaseChar c) ++ lowercaseAfter (c :: before) rest

/-- The lower-case form of a text. -/
def lowercase (s : String) : String := String.ofList (lowercaseAfter [] s.toList)

/-- No ASCII capital is left. -/
theorem not_isCapital_asciiLowercaseChar (c : Char) :
    ¬ ('A' ≤ asciiLowercaseChar c ∧ asciiLowercaseChar c ≤ 'Z') := by
  unfold asciiLowercaseChar
  split
  · rename_i h
    have hA : 'A'.toNat = 65 := rfl
    have hZ : 'Z'.toNat = 90 := rfl
    have hc : 'A'.toNat ≤ c.toNat ∧ c.toNat ≤ 'Z'.toNat := by
      simp only [Bool.and_eq_true, decide_eq_true_eq] at h
      exact h
    have hv : (c.toNat + 0x20).isValidChar := by
      left
      omega
    have hn : (Char.ofNat (c.toNat + 0x20)).toNat = c.toNat + 0x20 := by
      rw [Char.ofNat, dif_pos hv]
      rfl
    intro h'
    have hd : 'A'.toNat ≤ (Char.ofNat (c.toNat + 0x20)).toNat ∧
        (Char.ofNat (c.toNat + 0x20)).toNat ≤ 'Z'.toNat := h'
    omega
  · rename_i h
    simpa using h

/-- A small letter is its own lower-case form. -/
theorem asciiLowercaseChar_idem (c : Char) :
    asciiLowercaseChar (asciiLowercaseChar c) = asciiLowercaseChar c := by
  have hsmall := not_isCapital_asciiLowercaseChar c
  generalize asciiLowercaseChar c = d at hsmall
  rw [asciiLowercaseChar, if_neg]
  simpa using hsmall

/-- Lowering twice is lowering once. -/
theorem asciiLowercase_idem (s : String) :
    asciiLowercase (asciiLowercase s) = asciiLowercase s := by
  simp only [asciiLowercase, String.toList_ofList, List.map_map]
  congr 2
  exact funext asciiLowercaseChar_idem

end UriRouter.Text
