import UriRouter.Derive.Path
import UriRouter.Proofs.Pattern.Rendering

/-!
# The shape of derived paths

* `extendPath_underscore`, `extendPath_letter` : what one character adds to a path;
* `toList_derivePath` : a derived path is empty, or begins with `/` and goes on after it;
* `derivePath_of_underscores` : it is empty if there is nothing but `_`;
* `notMem_delimiters_derivePath` : it is literal text of a pattern if the name is in ASCII.
-/

set_option autoImplicit false

namespace UriRouter

open UriRouter.Text UriRouter.Pattern

/-! ## One character -/

/-- The small letter of a capital, which may be several characters; any other character as it is. -/
def smallLetters (c : Char) : List Char := if isUppercase c then lowercaseChar c else [c]

/-- A `_` adds a `/` at most. -/
theorem extendPath_underscore (path : List Char) (afterSmall : Bool) (rest : List Char) :
    extendPath path afterSmall ('_' :: rest) =
      extendPath (if path.isEmpty || path.head? == some '/' then path else '/' :: path) false
        rest := by
  rw [extendPath, if_pos (by rfl)]

/-- Any other character adds its small letters, after a `/` where they come first or where a capital
follows a small letter or a digit. -/
theorem extendPath_letter {c : Char} (h : c ≠ '_') (path : List Char) (afterSmall : Bool)
    (rest : List Char) : ∃ before afterSmall',
      extendPath path afterSmall (c :: rest) =
        extendPath ((smallLetters c).reverse ++ before) afterSmall' rest ∧
      (before = '/' :: path ∧ (path = [] ∨ afterSmall = true) ∨ before = path ∧ path ≠ []) := by
  rw [extendPath, if_neg (by simpa using h), smallLetters]
  split
  · refine ⟨_, false, rfl, ?_⟩
    split
    · rename_i hslash
      refine .inl ⟨rfl, ?_⟩
      rcases Bool.or_eq_true_iff.1 hslash with hsmall | hempty
      · exact .inr hsmall
      · exact .inl (List.isEmpty_iff.1 hempty)
    · rename_i hslash
      refine .inr ⟨rfl, fun hempty => hslash ?_⟩
      rw [hempty]
      exact Bool.or_true afterSmall
  · refine ⟨if path.isEmpty then ['/'] else path, _, rfl, ?_⟩
    split
    · rename_i hempty
      obtain rfl := List.isEmpty_iff.1 hempty
      exact .inl ⟨rfl, .inl rfl⟩
    · rename_i hne
      exact .inr ⟨rfl, fun hempty => hne (List.isEmpty_iff.2 hempty)⟩

/-! ## The beginning of a path -/

/-- A path that is kept with its last character first is empty or begins with `/`. -/
def IsRooted (path : List Char) : Prop := ∀ c ∈ path.getLast?, c = '/'

theorem isRooted_nil : IsRooted [] := fun _ h => nomatch h

theorem IsRooted.slash {path : List Char} (h : IsRooted path) : IsRooted ('/' :: path) := by
  cases path with
  | nil => exact fun c hc => (Option.some.inj hc).symm
  | cons d path =>
    intro c hc
    rw [List.getLast?_cons_cons] at hc
    exact h c hc

theorem IsRooted.append {path : List Char} (h : IsRooted path) (hne : path ≠ [])
    (added : List Char) : IsRooted (added ++ path) := by
  intro c hc
  rw [List.getLast?_append, List.getLast?_eq_some_getLast hne] at hc
  exact h c (by rw [List.getLast?_eq_some_getLast hne]; exact hc)

theorem isRooted_extendPath {path : List Char} (h : IsRooted path) (afterSmall : Bool)
    (s : List Char) : IsRooted (extendPath path afterSmall s) := by
  induction s generalizing path afterSmall with
  | nil => exact h
  | cons c s ih =>
    by_cases hc : c = '_'
    · subst hc
      rw [extendPath_underscore]
      split
      · exact ih h false
      · exact ih h.slash false
    · obtain ⟨before, afterSmall', heq, hbefore⟩ := extendPath_letter hc path afterSmall s
      rw [heq]
      rcases hbefore with ⟨rfl, -⟩ | ⟨rfl, hne⟩
      · exact ih (h.slash.append (List.cons_ne_nil _ _) _) afterSmall'
      · exact ih (h.append hne _) afterSmall'

/-- What is left of a rooted path without the signs `/` at its end still begins with `/`, and goes
on after it. -/
theorem IsRooted.dropWhile {path kept : List Char} {c : Char} (h : IsRooted path)
    (hd : path.dropWhile (· == '/') = c :: kept) : ∃ init, kept = init ++ ['/'] := by
  have hc : c ≠ '/' := by
    have hhead := List.head?_dropWhile_not (· == '/') path
    rw [hd] at hhead
    simpa using hhead
  have hsplit : path.takeWhile (· == '/') ++ c :: kept = path := by
    rw [← hd]
    exact List.takeWhile_append_dropWhile
  rcases List.eq_nil_or_concat kept with rfl | ⟨init, last, hkept⟩
  · refine absurd (h c ?_) hc
    rw [← hsplit]
    exact List.getLast?_concat
  · rw [List.concat_eq_append] at hkept
    have hlast : last = '/' := by
      refine h last ?_
      rw [← hsplit, hkept, ← List.cons_append, ← List.append_assoc]
      exact List.getLast?_concat
    exact ⟨init, hlast ▸ hkept⟩

/-- A derived path is empty, or begins with `/` and goes on after it. -/
theorem toList_derivePath {rest : String} (h : derivePath rest ≠ "") :
    ∃ c path, (derivePath rest).toList = '/' :: c :: path := by
  have hroot := isRooted_extendPath isRooted_nil false rest.toList
  rw [derivePath] at h
  rw [derivePath, String.toList_ofList]
  cases hd : (extendPath [] false rest.toList).dropWhile (· == '/') with
  | nil =>
    rw [hd] at h
    exact absurd rfl h
  | cons c kept =>
    obtain ⟨init, rfl⟩ := hroot.dropWhile hd
    cases hr : (c :: init).reverse with
    | nil => exact absurd (List.reverse_eq_nil_iff.1 hr) (List.cons_ne_nil _ _)
    | cons d path =>
      refine ⟨d, path, ?_⟩
      rw [← List.cons_append, List.reverse_append, hr]
      rfl

/-- Signs `_` alone make no word. -/
theorem derivePath_of_underscores {rest : String} (h : ∀ c ∈ rest.toList, c = '_') :
    derivePath rest = "" := by
  have hnil : ∀ s : List Char, (∀ c ∈ s, c = '_') → extendPath [] false s = [] := by
    intro s hs
    induction s with
    | nil => rfl
    | cons c s ih =>
      obtain rfl := hs c List.mem_cons_self
      exact ih fun d hd => hs d (List.mem_cons_of_mem _ hd)
  rw [derivePath, hnil _ h]
  rfl

/-! ## The characters of a path -/

/-- A property of the ASCII characters, checked one by one. -/
theorem forall_of_isAscii {P : Char → Prop} (h : ∀ n < 0x80, P (Char.ofNat n)) {c : Char}
    (hc : isAscii c = true) : P c := by
  have hn : c.toNat < 0x80 := of_decide_eq_true hc
  rw [← Char.ofNat_toNat c]
  exact h c.toNat hn

/-- The small letters of an ASCII word character are such characters as well. -/
theorem isAsciiWordChar_of_mem_smallLetters {c d : Char} (h : isAsciiWordChar c = true)
    (hd : d ∈ smallLetters c) : isAsciiWordChar d = true := by
  have hall : (smallLetters c).all isAsciiWordChar = true :=
    forall_of_isAscii
      (P := fun c => isAsciiWordChar c = true → (smallLetters c).all isAsciiWordChar = true)
      (by decide +kernel) (isAscii_of_isAsciiWordChar h) h
  exact List.all_eq_true.1 hall d hd

/-- The characters of paths that are derived from names in ASCII. -/
def IsPathChar (c : Char) : Prop := c = '/' ∨ isAsciiWordChar c = true

theorem isPathChar_extendPath {path s : List Char} {afterSmall : Bool}
    (hp : ∀ c ∈ path, IsPathChar c) (hs : ∀ c ∈ s, isAsciiWordChar c = true) :
    ∀ c ∈ extendPath path afterSmall s, IsPathChar c := by
  induction s generalizing path afterSmall with
  | nil => exact hp
  | cons c s ih =>
    obtain ⟨hc, hrest⟩ := List.forall_mem_cons.1 hs
    have hslash : ∀ d ∈ '/' :: path, IsPathChar d := List.forall_mem_cons.2 ⟨.inl rfl, hp⟩
    by_cases hunder : c = '_'
    · subst hunder
      rw [extendPath_underscore]
      refine ih ?_ hrest
      split
      · exact hp
      · exact hslash
    · obtain ⟨before, afterSmall', heq, hbefore⟩ := extendPath_letter hunder path afterSmall s
      rw [heq]
      refine ih (List.forall_mem_append.2 ⟨fun d hd => ?_, ?_⟩) hrest
      · exact .inr (isAsciiWordChar_of_mem_smallLetters hc (List.mem_reverse.1 hd))
      · rcases hbefore with ⟨rfl, -⟩ | ⟨rfl, -⟩
        · exact hslash
        · exact hp

theorem IsPathChar.notMem_delimiters {c : Char} (h : IsPathChar c) : c ∉ delimiters := by
  rintro hc
  simp only [delimiters, List.mem_cons, List.not_mem_nil, or_false] at hc
  rcases h with rfl | h
  · simp at hc
  · rcases hc with rfl | rfl | rfl | rfl <;> cases h

/-- A path that is derived from a name in ASCII is literal text of a pattern. -/
theorem notMem_delimiters_derivePath {rest : String}
    (h : ∀ c ∈ rest.toList, isAsciiWordChar c = true) :
    ∀ c ∈ (derivePath rest).toList, c ∉ delimiters := by
  intro c hc
  rw [derivePath, String.toList_ofList, List.mem_reverse] at hc
  have hmem := (List.dropWhile_sublist _).subset hc
  exact (isPathChar_extendPath (List.forall_mem_nil _) h c hmem).notMem_delimiters

end UriRouter
