import Mathlib.Data.List.Infix
import UriRouter.Proofs.Derive.Path

/-!
# The text of derived paths

The signs `/` of a derived path stand one by one, and what stands between them are the letters of the
name, in their order and in small.

* `lettersOf` : the letters that a name gives to its path;
* `wordsOf_extendPath` : what the rest of a name adds to the letters of a path;
* `isApart_extendPath` : no two signs `/` come to stand side by side;
* `isWordPath_derivePath` : the text of a derived path.
-/

set_option autoImplicit false

namespace UriRouter

open UriRouter.Text

/-! ## Small letters -/

/-- The letters that a name gives to its path. -/
def lettersOf (s : List Char) : List Char := (s.filter (· != '_')).flatMap smallLetters

/-- Every small letter in the table is one of the code points from 0x61 on. -/
theorem lt_of_image? {n m : Nat} (h : smallLetterShifts.findSome? (·.image? n) = some m) :
    0x60 < m := by
  have htargets : ∀ shift ∈ smallLetterShifts, 0x60 < shift.target := by decide +kernel
  obtain ⟨shift, hshift, himage⟩ := List.exists_of_findSome?_eq_some h
  have htarget := htargets shift hshift
  unfold Shift.image? at himage
  split at himage
  · have hm := Option.some.inj himage
    omega
  · cases himage

/-- The character of a code point is none of those before it; only what is no code point gives the
first character. -/
theorem ofNat_ne {n : Nat} {c : Char} (hn : c.toNat < n) (hc : 0 < c.toNat) : Char.ofNat n ≠ c := by
  rintro rfl
  by_cases hvalid : n.isValidChar
  · have hself : (Char.ofNat n).toNat = n := by
      rw [Char.ofNat, dif_pos hvalid]
      rfl
    omega
  · have hzero : (Char.ofNat n).toNat = 0 := by
      rw [Char.ofNat, dif_neg hvalid]
      rfl
    omega

/-- No small letter is a sign that paths or names are divided by. -/
theorem ne_of_mem_lowercaseChar {c d : Char} (hc : isUppercase c = true)
    (hd : d ∈ lowercaseChar c) : d ≠ '/' ∧ d ≠ '_' := by
  by_cases hascii : isAscii c = true
  · have hall : (lowercaseChar c).all (fun d => d != '/' && d != '_') = true :=
      forall_of_isAscii
        (P := fun c => isUppercase c = true →
          (lowercaseChar c).all (fun d => d != '/' && d != '_') = true)
        (by decide +kernel) hascii hc
    simpa using List.all_eq_true.1 hall d hd
  · rw [lowercaseChar, if_neg hascii] at hd
    split at hd
    · rcases List.mem_cons.1 hd with rfl | hd
      · decide
      · rw [List.mem_singleton.1 hd]
        decide
    · split at hd
      · rename_i n hn
        have hlt := lt_of_image? hn
        rw [List.mem_singleton.1 hd]
        exact ⟨ofNat_ne (show 0x2F < n by omega) (by decide),
          ofNat_ne (show 0x5F < n by omega) (by decide)⟩
      · rw [List.mem_singleton.1 hd]
        constructor
        · rintro rfl
          exact hascii rfl
        · rintro rfl
          exact hascii rfl

theorem lowercaseChar_ne_nil (c : Char) : lowercaseChar c ≠ [] := by
  rw [lowercaseChar]
  split
  · exact List.cons_ne_nil _ _
  · split
    · exact List.cons_ne_nil _ _
    · split
      · exact List.cons_ne_nil _ _
      · exact List.cons_ne_nil _ _

theorem smallLetters_ne_nil (c : Char) : smallLetters c ≠ [] := by
  rw [smallLetters]
  split
  · exact lowercaseChar_ne_nil c
  · exact List.cons_ne_nil _ _

/-- Characters that divide nothing become letters that divide nothing. -/
theorem ne_of_mem_smallLetters {c d : Char} (hslash : c ≠ '/') (hunder : c ≠ '_')
    (hd : d ∈ smallLetters c) : d ≠ '/' ∧ d ≠ '_' := by
  rw [smallLetters] at hd
  split at hd
  · rename_i hc
    exact ne_of_mem_lowercaseChar hc hd
  · rw [List.mem_singleton.1 hd]
    exact ⟨hslash, hunder⟩

theorem lettersOf_underscore (s : List Char) : lettersOf ('_' :: s) = lettersOf s := rfl

theorem lettersOf_cons {c : Char} (h : c ≠ '_') (s : List Char) :
    lettersOf (c :: s) = smallLetters c ++ lettersOf s := by
  rw [lettersOf, List.filter_cons_of_pos (by simpa using h), List.flatMap_cons]
  rfl

/-- A name without letters has none but signs `_`. -/
theorem lettersOf_eq_nil_iff {s : List Char} : lettersOf s = [] ↔ ∀ c ∈ s, c = '_' := by
  rw [lettersOf, List.flatMap_eq_nil_iff]
  constructor
  · intro h c hc
    by_contra hne
    exact smallLetters_ne_nil c (h c (List.mem_filter.2 ⟨hc, by simpa using hne⟩))
  · intro h c hc
    obtain ⟨hmem, hne⟩ := List.mem_filter.1 hc
    rw [h c hmem] at hne
    cases hne

theorem notMem_lettersOf {s : List Char} (hs : '/' ∉ s) : '_' ∉ lettersOf s := by
  intro h
  obtain ⟨c, hc, hd⟩ := List.mem_flatMap.1 h
  obtain ⟨hmem, hne⟩ := List.mem_filter.1 hc
  have hslash : c ≠ '/' := fun he => hs (he ▸ hmem)
  exact (ne_of_mem_smallLetters hslash (by simpa using hne) hd).2 rfl

/-! ## The letters of a path -/

/-- What is not a sign `/` in a path. -/
def wordsOf (path : List Char) : List Char := path.filter (· != '/')

theorem wordsOf_slash (path : List Char) : wordsOf ('/' :: path) = wordsOf path := rfl

theorem wordsOf_append (added path : List Char) :
    wordsOf (added ++ path) = wordsOf added ++ wordsOf path := List.filter_append _ _

theorem wordsOf_of_notMem {added : List Char} (h : ∀ d ∈ added, d ≠ '/') :
    wordsOf added = added :=
  List.filter_eq_self.2 fun d hd => by simpa using h d hd

/-- The letters of a name are added to those of the path, one after the other. -/
theorem wordsOf_extendPath {s : List Char} (hs : '/' ∉ s) (path : List Char) (afterSmall : Bool) :
    wordsOf (extendPath path afterSmall s) = (lettersOf s).reverse ++ wordsOf path := by
  induction s generalizing path afterSmall with
  | nil => rfl
  | cons c s ih =>
    obtain ⟨hslash, hrest⟩ := not_or.1 (List.mem_cons.not.1 hs)
    by_cases hunder : c = '_'
    · subst hunder
      rw [extendPath_underscore, ih hrest, lettersOf_underscore]
      split
      · rfl
      · rw [wordsOf_slash]
    · obtain ⟨before, afterSmall', heq, hbefore⟩ := extendPath_letter hunder path afterSmall s
      have hadded : wordsOf (smallLetters c).reverse = (smallLetters c).reverse :=
        wordsOf_of_notMem fun d hd =>
          (ne_of_mem_smallLetters (Ne.symm hslash) hunder (List.mem_reverse.1 hd)).1
      have hwords : wordsOf before = wordsOf path := by
        rcases hbefore with ⟨rfl, -⟩ | ⟨rfl, -⟩
        · exact wordsOf_slash path
        · rfl
      rw [heq, ih hrest, wordsOf_append, hadded, hwords, lettersOf_cons hunder,
        List.reverse_append, List.append_assoc]

/-! ## The signs between words -/

/-- No two signs `/` stand side by side. -/
def IsApart (path : List Char) : Prop := ¬ ['/', '/'] <:+: path

theorem isApart_nil : IsApart [] := by simp [IsApart]

theorem IsApart.cons {path : List Char} (h : IsApart path) {c : Char}
    (hc : c = '/' → path.head? ≠ some '/') : IsApart (c :: path) := by
  intro hinfix
  rcases List.infix_cons_iff.1 hinfix with hpre | hinfix
  · obtain ⟨hslash, hpre⟩ := List.cons_prefix_cons.1 hpre
    obtain ⟨rest, rfl⟩ := hpre
    exact hc hslash.symm rfl
  · exact h hinfix

theorem IsApart.append {path : List Char} (h : IsApart path) {added : List Char}
    (ha : ∀ d ∈ added, d ≠ '/') : IsApart (added ++ path) := by
  induction added with
  | nil => exact h
  | cons d added ih =>
    obtain ⟨hd, ha⟩ := List.forall_mem_cons.1 ha
    exact (ih ha).cons fun he => absurd he hd

theorem head?_append_ne {added : List Char} (hne : added ≠ []) (ha : ∀ d ∈ added, d ≠ '/')
    (path : List Char) : (added ++ path).head? ≠ some '/' := by
  cases added with
  | nil => exact absurd rfl hne
  | cons d added =>
    intro hhead
    exact ha d List.mem_cons_self (Option.some.inj hhead)

/-- Where a `/` is added, none comes last: after a `_` this is looked at, and a small letter or a
digit that comes last is none. -/
theorem isApart_extendPath {s : List Char} (hs : '/' ∉ s) {path : List Char} {afterSmall : Bool}
    (h : IsApart path) (hlast : afterSmall = true → path.head? ≠ some '/') :
    IsApart (extendPath path afterSmall s) := by
  induction s generalizing path afterSmall with
  | nil => exact h
  | cons c s ih =>
    obtain ⟨hslash, hrest⟩ := not_or.1 (List.mem_cons.not.1 hs)
    by_cases hunder : c = '_'
    · subst hunder
      rw [extendPath_underscore]
      refine ih hrest ?_ fun hfalse => nomatch hfalse
      split
      · exact h
      · rename_i hends
        refine h.cons fun _ hhead => hends ?_
        rw [hhead]
        simp
    · obtain ⟨before, afterSmall', heq, hbefore⟩ := extendPath_letter hunder path afterSmall s
      have hadded : ∀ d ∈ (smallLetters c).reverse, d ≠ '/' := fun d hd =>
        (ne_of_mem_smallLetters (Ne.symm hslash) hunder (List.mem_reverse.1 hd)).1
      have hne : (smallLetters c).reverse ≠ [] := by
        simpa using smallLetters_ne_nil c
      have hapart : IsApart before := by
        rcases hbefore with ⟨rfl, hempty | hsmall⟩ | ⟨rfl, -⟩
        · rw [hempty]
          exact isApart_nil.cons fun _ hnone => nomatch hnone
        · exact h.cons fun _ => hlast hsmall
        · exact h
      rw [heq]
      exact ih hrest (hapart.append hadded) fun _ => head?_append_ne hne hadded before

/-! ## Derived paths -/

section

variable {rest : String}

theorem toList_derivePath_eq (rest : String) : (derivePath rest).toList =
    ((extendPath [] false rest.toList).dropWhile (· == '/')).reverse := by
  rw [derivePath, String.toList_ofList]

/-- Cutting off the signs `/` at the end takes no letter away. -/
theorem wordsOf_dropWhile (path : List Char) :
    wordsOf (path.dropWhile (· == '/')) = wordsOf path := by
  induction path with
  | nil => rfl
  | cons c path ih =>
    by_cases hc : c = '/'
    · subst hc
      exact ih
    · rw [List.dropWhile_cons_of_neg (by simpa using hc)]

theorem wordsOf_derivePath (h : '/' ∉ rest.toList) :
    wordsOf (derivePath rest).toList = lettersOf rest.toList := by
  rw [toList_derivePath_eq, wordsOf, List.filter_reverse, ← wordsOf, wordsOf_dropWhile,
    wordsOf_extendPath h, List.reverse_append, List.reverse_reverse]
  rfl

theorem isApart_derivePath (h : '/' ∉ rest.toList) : IsApart (derivePath rest).toList := by
  have hapart : IsApart (extendPath [] false rest.toList) :=
    isApart_extendPath h isApart_nil fun hfalse => nomatch hfalse
  intro hinfix
  rw [toList_derivePath_eq] at hinfix
  have hkept : ['/', '/'] <:+: (extendPath [] false rest.toList).dropWhile (· == '/') :=
    List.reverse_infix.1 hinfix
  exact hapart (hkept.trans (List.dropWhile_suffix _).isInfix)

theorem getLast?_derivePath_ne (rest : String) : (derivePath rest).toList.getLast? ≠ some '/' := by
  rw [toList_derivePath_eq, List.getLast?_reverse]
  intro hhead
  have hkept := List.head?_dropWhile_not (· == '/') (extendPath [] false rest.toList)
  rw [hhead] at hkept
  cases hkept

/-- A path is the text of a name. It is empty, or else begins with `/`; it has no `/` at its end,
none after another, and no `_`; and all else in it are the letters of the name. -/
structure IsWordPath (name path : List Char) : Prop where
  eq_nil_iff : path = [] ↔ ∀ c ∈ name, c = '_'
  begins : path ≠ [] → path.head? = some '/'
  ends : path.getLast? ≠ some '/'
  apart : ¬ ['/', '/'] <:+: path
  noUnderscore : '_' ∉ path
  letters : path.filter (· != '/') = (name.filter (· != '_')).flatMap smallLetters

/-- **The text of a derived path.** Its words are the letters of the name, none of which is lost,
repeated or put in another place, and there is one `/` before each word and nothing else. -/
theorem isWordPath_derivePath (h : '/' ∉ rest.toList) :
    IsWordPath rest.toList (derivePath rest).toList where
  eq_nil_iff := by
    constructor
    · intro hnil
      rw [← lettersOf_eq_nil_iff, ← wordsOf_derivePath h, hnil]
      rfl
    · intro hunder
      rw [derivePath_of_underscores hunder]
      rfl
  begins := by
    intro hne
    obtain ⟨c, path, hpath⟩ := toList_derivePath fun he => hne (String.toList_eq_nil_iff.2 he)
    rw [hpath]
    rfl
  ends := getLast?_derivePath_ne rest
  apart := isApart_derivePath h
  noUnderscore := by
    intro hmem
    have hword : '_' ∈ wordsOf (derivePath rest).toList := List.mem_filter.2 ⟨hmem, rfl⟩
    rw [wordsOf_derivePath h] at hword
    exact notMem_lettersOf h hword
  letters := wordsOf_derivePath h

end

/-- A name with signs `_` at its ends and side by side, and with capitals beyond ASCII, one of which
has two characters for its small letter. -/
theorem isWordPath_dottedName :
    '/' ∉ "_\u0130dBar9__\u00C9t\u00E9X_".toList ∧
    derivePath "_\u0130dBar9__\u00C9t\u00E9X_" = "/i\u0307d/bar9/\u00E9t\u00E9/x" ∧
    IsWordPath "_\u0130dBar9__\u00C9t\u00E9X_".toList "/i\u0307d/bar9/\u00E9t\u00E9/x".toList := by
  have hslash : '/' ∉ "_\u0130dBar9__\u00C9t\u00E9X_".toList := by decide
  have htext : derivePath "_\u0130dBar9__\u00C9t\u00E9X_" = "/i\u0307d/bar9/\u00E9t\u00E9/x" := by
    decide +kernel
  exact ⟨hslash, htext, htext ▸ isWordPath_derivePath hslash⟩

end UriRouter
