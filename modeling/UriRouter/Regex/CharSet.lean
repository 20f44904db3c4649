import UriRouter.Text.Folding
import UriRouter.Text.Letter

/-!
# Sets of characters

The sets that one step of a regular expression may consume. A set is the list of its ranges of
code points, in ascending order, no two of which touch, so that equal sets are equal as lists.

* `CharSet.mem` : membership;
* `CharSet.ofRanges`, `CharSet.union`, `CharSet.complement`, `CharSet.intersection`,
  `CharSet.difference`, `CharSet.fold` : the operations;
* `CharSet.mem_asciiDigits`, `CharSet.mem_asciiWord` : the ASCII classes hold what they should.
-/

set_option autoImplicit false

namespace UriRouter.Regex

open UriRouter.Text

/-- A set of characters. -/
structure CharSet where
  /-- The first and the last code point of each range. -/
  ranges : List (Nat × Nat)
  deriving DecidableEq, Repr

namespace CharSet

/-- Whether a character is in the set. -/
def mem (s : CharSet) (c : Char) : Bool := inRanges s.ranges c.toNat

/-- The set of no character. -/
def empty : CharSet := ⟨[]⟩

/-- Whether no character is in the set. -/
def isEmpty (s : CharSet) : Bool := s.ranges.isEmpty

/-- The characters from one to another. -/
def range (first last : Char) : CharSet := ⟨[(first.toNat, last.toNat)]⟩

/-- The set of one character. -/
def single (c : Char) : CharSet := range c c

/-- Whether the set holds one character only. -/
def isSingle (s : CharSet) : Bool :=
  match s.ranges with
  | [(first, last)] => first == last
  | _ => false

/-! ## Union -/

/-- Joins a range with those after it, which ascend, as far as they touch. -/
def joinFrom (r : Nat × Nat) : List (Nat × Nat) → List (Nat × Nat)
  | [] => [r]
  | q :: rest => if q.1 ≤ r.2 + 1 then joinFrom (r.1, max r.2 q.2) rest else r :: joinFrom q rest

/-- Joins those of the ascending ranges that touch. -/
def joined : List (Nat × Nat) → CharSet
  | [] => empty
  | r :: rest => ⟨joinFrom r rest⟩

/-- Whether one range begins before another. -/
def beginsBefore (r q : Nat × Nat) : Bool := r.1 ≤ q.1

/-- The union of ranges in any order. -/
def ofRanges (ranges : List (Nat × Nat)) : CharSet := joined (ranges.mergeSort beginsBefore)

/-- The characters of both sets. -/
def union (s t : CharSet) : CharSet := joined (s.ranges.merge t.ranges beginsBefore)

/-- The union of ranges between characters. -/
def ofList (ranges : List (Char × Char)) : CharSet :=
  ofRanges (ranges.map fun (first, last) => (first.toNat, last.toNat))

/-! ## Complement -/

/-- The last code point there is. -/
def lastCode : Nat := 0x10FFFF

/-- The code point after one; there is none between 0xD7FF and 0xE000. -/
def nextCode (n : Nat) : Nat := if n = 0xD7FF then 0xE000 else n + 1

/-- The code point before one. -/
def previousCode (n : Nat) : Nat := if n = 0xE000 then 0xD7FF else n - 1

/-- What lies between a code point and the one after the end of a range. Where nothing lies
between, which happens only around the code points that are no characters, the range goes from the
one to the other. -/
def between (lo hi : Nat) : Nat × Nat := (min lo hi, max lo hi)

/-- The ranges between the ascending ranges, the first of which begins after one that ended
before `lo`. -/
def gapsFrom (lo : Nat) : List (Nat × Nat) → List (Nat × Nat)
  | [] => if lo ≤ lastCode then [(lo, lastCode)] else []
  | r :: rest => between lo (previousCode r.1) :: gapsFrom (nextCode r.2) rest

/-- The characters that are not in the set. -/
def complement (s : CharSet) : CharSet :=
  match s.ranges with
  | [] => ⟨[(0, lastCode)]⟩
  | (first, last) :: rest =>
    ⟨if first = 0 then gapsFrom (nextCode last) rest
      else (0, previousCode first) :: gapsFrom (nextCode last) rest⟩

/-- The complement, if `negated`. -/
def complementIf (negated : Bool) (s : CharSet) : CharSet := if negated then s.complement else s

/-! ## Intersection and difference -/

/-- What the ascending ranges share with those of the second list. -/
def shared : List (Nat × Nat) → List (Nat × Nat) → List (Nat × Nat)
  | [], _ => []
  | r :: rest, ranges =>
    let ranges := ranges.dropWhile (·.2 < r.1)
    (ranges.takeWhile (·.1 ≤ r.2)).map (fun q => (max r.1 q.1, min r.2 q.2)) ++ shared rest ranges

/-- The characters that are in both sets. -/
def intersection (s t : CharSet) : CharSet := ⟨shared s.ranges t.ranges⟩

/-- What is left of the code points from `lo` to `hi` without the ascending ranges. -/
def remainder (lo hi : Nat) : List (Nat × Nat) → List (Nat × Nat)
  | [] => [(lo, hi)]
  | r :: rest =>
    if r.2 < lo then remainder lo hi rest
    else if hi < r.1 then [(lo, hi)]
    else (if lo < r.1 then [(lo, previousCode r.1)] else []) ++
      (if r.2 < hi then remainder (nextCode r.2) hi rest else [])

/-- What is left of ascending ranges without those of the second list. -/
def remainders : List (Nat × Nat) → List (Nat × Nat) → List (Nat × Nat)
  | [], _ => []
  | r :: rest, ranges =>
    let ranges := ranges.dropWhile (·.2 < r.1)
    remainder r.1 r.2 ranges ++ remainders rest ranges

/-- The characters that are in the first set only. -/
def difference (s t : CharSet) : CharSet := ⟨remainders s.ranges t.ranges⟩

/-- The characters that are in just one of the sets. -/
def symmetricDifference (s t : CharSet) : CharSet := (s.union t).difference (s.intersection t)

/-! ## Case -/

/-- The set with the case relatives of its characters. -/
def fold (s : CharSet) : CharSet :=
  ofRanges (s.ranges ++ s.ranges.flatMap fun r => relativesOf r.1 r.2)

/-- The case closure of the set, if `ignoreCase`. -/
def foldIf (ignoreCase : Bool) (s : CharSet) : CharSet := if ignoreCase then s.fold else s

/-! ## Classes -/

/-- The characters words are made of. -/
def word : CharSet := ⟨wordRanges⟩

/-- The decimal digits of every script. -/
def digit : CharSet := ⟨digitRanges⟩

/-- The blanks of every kind. -/
def blank : CharSet := ⟨blankRanges⟩

/-- The digits `0` to `9`. -/
def asciiDigits : CharSet := range '0' '9'

/-- The characters `0-9`, `A-Z`, `a-z` and `_`. -/
def asciiWord : CharSet := ⟨[(0x30, 0x39), (0x41, 0x5A), (0x5F, 0x5F), (0x61, 0x7A)]⟩

/-- The class with a POSIX name. Every one is a set of ASCII characters. -/
def posix? (name : String) : Option CharSet :=
  match name with
  | "alnum" => some (ofList [('0', '9'), ('A', 'Z'), ('a', 'z')])
  | "alpha" => some (ofList [('A', 'Z'), ('a', 'z')])
  | "ascii" => some (range '\x00' '\x7f')
  | "blank" => some (ofList [('\t', '\t'), (' ', ' ')])
  | "cntrl" => some (ofList [('\x00', '\x1f'), ('\x7f', '\x7f')])
  | "digit" => some asciiDigits
  | "graph" => some (range '!' '~')
  | "lower" => some (range 'a' 'z')
  | "print" => some (range ' ' '~')
  | "punct" => some (ofList [('!', '/'), (':', '@'), ('[', '\x60'), ('\x7b', '~')])
  | "space" => some (ofList [('\t', '\r'), (' ', ' ')])
  | "upper" => some (range 'A' 'Z')
  | "word" => some asciiWord
  | "xdigit" => some (ofList [('0', '9'), ('A', 'F'), ('a', 'f')])
  | _ => none

/-- The digits are those of ASCII. -/
theorem mem_asciiDigits (c : Char) : asciiDigits.mem c = isAsciiDigit c := by
  rw [Bool.eq_iff_iff]
  simp only [mem, asciiDigits, range, inRanges, isAsciiDigit, Bool.or_false, Bool.and_eq_true,
    decide_eq_true_eq, Char.le_def, UInt32.le_iff_toNat_le, Char.toNat]
  split
  · rename_i h
    exact iff_of_false Bool.false_ne_true fun hd => Nat.not_le.2 h hd.1
  · rename_i h
    rw [decide_eq_true_eq]
    exact (and_iff_right (Nat.le_of_not_lt h)).symm

/-- The word characters are those of ASCII. -/
theorem mem_asciiWord (c : Char) : asciiWord.mem c = isAsciiWordChar c := by
  have h : (c == '_') = decide (c.toNat = 0x5F) := by
    rw [Bool.eq_iff_iff, beq_iff_eq, decide_eq_true_eq]
    exact (Char.toNat_inj (d := '_')).symm
  rw [Bool.eq_iff_iff]
  simp only [mem, asciiWord, inRanges, isAsciiWordChar, isAsciiLetter, isAsciiDigit, h,
    Bool.or_false, Bool.and_eq_true, Bool.or_eq_true, decide_eq_true_eq, Char.le_def,
    UInt32.le_iff_toNat_le, ← Char.toNat_val]
  repeat' split
  all_goals simp_all
  all_goals omega

end CharSet

end UriRouter.Regex
