import Mathlib.Logic.Relation
import UriRouter.Proofs.Derive.Path

/-!
# Two spellings of a name

The words of an operation's name are marked by a `_` before each, or by a capital at the beginning
of each. The path does not tell which, nor how many signs `_` there are where one is.

* `isWord`, `snakeCase`, `camelCase` : words in small letters, and what a name makes of them;
* `AddsUnderscore` : a text has one `_` more than another, at an end or beside a `_`;
* `derivePath_of_addsUnderscore` : such a `_` makes no difference, whatever the text;
* `derivePath_snakeCase_camelCase` : names of the same words derive the same path.
-/

set_option autoImplicit false

namespace UriRouter

open UriRouter.Text

/-! ## Words and spellings -/

/-- A small ASCII letter or digit. -/
def isSmall (c : Char) : Bool := c.isLower || c.isDigit

/-- A small ASCII letter, and then at least one small ASCII letter or digit. -/
def isWord (w : String) : Bool :=
  match w.toList with
  | c :: d :: rest => c.isLower && (d :: rest).all isSmall
  | _ => false

/-- The text with a capital at its beginning. -/
def capitalized : List Char → List Char
  | [] => []
  | c :: rest => c.toUpper :: rest

/-- The words with a `_` before each. -/
def snakeCase (words : List String) : String :=
  String.ofList (words.flatMap fun w => '_' :: w.toList)

/-- The words with a capital at the beginning of each. -/
def camelCase (words : List String) : String :=
  String.ofList (words.flatMap fun w => capitalized w.toList)

/-- A text has one `_` more than another: at its beginning, at its end, or beside a `_`. -/
def AddsUnderscore (s t : String) : Prop :=
  ∃ before after : List Char, s.toList = before ++ after ∧ t.toList = before ++ '_' :: after ∧
    (before = [] ∨ after = [] ∨ before.getLast? = some '_' ∨ after.head? = some '_')

theorem isWord_eq_true {w : String} (h : isWord w = true) :
    ∃ c d rest, w.toList = c :: d :: rest ∧ c.isLower = true ∧ ∀ e ∈ d :: rest, isSmall e = true := by
  unfold isWord at h
  split at h
  · rename_i c d rest hw
    rw [Bool.and_eq_true, List.all_eq_true] at h
    exact ⟨c, d, rest, hw, h⟩
  · cases h

/-! ## Letters -/

theorem isAsciiWordChar_of_isSmall {c : Char} (h : isSmall c = true) :
    isAsciiWordChar c = true := by
  obtain hlower | hdigit := Bool.or_eq_true_iff.1 h
  · have hletter : ('a' ≤ c && c ≤ 'z') = true := hlower
    rw [isAsciiWordChar, isAsciiLetter, hletter]
    rfl
  · have hascii : isAsciiDigit c = true := hdigit
    rw [isAsciiWordChar, hascii, Bool.or_true, Bool.true_or]

theorem isAscii_of_isSmall {c : Char} (h : isSmall c = true) : isAscii c = true :=
  isAscii_of_isAsciiWordChar (isAsciiWordChar_of_isSmall h)

theorem isSmall_of_isLower {c : Char} (h : c.isLower = true) : isSmall c = true := by
  rw [isSmall, h, Bool.true_or]

/-- What deriving a path asks of a character, for small letters and digits. -/
theorem isSmall_spec {c : Char} (h : isSmall c = true) :
    c ≠ '_' ∧ c ≠ '/' ∧ isUppercase c = false ∧ (isLowercase c || isAsciiDigit c) = true :=
  forall_of_isAscii
    (P := fun c => isSmall c = true →
      c ≠ '_' ∧ c ≠ '/' ∧ isUppercase c = false ∧ (isLowercase c || isAsciiDigit c) = true)
    (by decide +kernel) (isAscii_of_isSmall h) h

/-- What deriving a path asks of a character, for the capitals of small letters. -/
theorem toUpper_spec {c : Char} (h : c.isLower = true) :
    c.toUpper ≠ '_' ∧ isUppercase c.toUpper = true ∧ lowercaseChar c.toUpper = [c] :=
  forall_of_isAscii
    (P := fun c => c.isLower = true →
      c.toUpper ≠ '_' ∧ isUppercase c.toUpper = true ∧ lowercaseChar c.toUpper = [c])
    (by decide +kernel) (isAscii_of_isSmall (isSmall_of_isLower h)) h

/-! ## One word more -/

/-- Nothing has been read, or a word that ends with a small letter or a digit. -/
def IsAfterWord (path : List Char) (afterSmall : Bool) : Prop :=
  path = [] ∨ afterSmall = true ∧ ∃ c ∈ path.head?, c ≠ '/'

/-- In a spelling of words, each word is added to the path with a `/` before it. -/
def AddsWords (spell : String → List Char) : Prop :=
  ∀ {w : String}, isWord w = true → ∀ {path : List Char} {afterSmall : Bool},
    IsAfterWord path afterSmall → ∀ rest, extendPath path afterSmall (spell w ++ rest) =
      extendPath (w.toList.reverse ++ '/' :: path) true rest

theorem extendPath_small {c : Char} (h : isSmall c = true) (path : List Char) (afterSmall : Bool)
    (rest : List Char) : extendPath path afterSmall (c :: rest) =
      extendPath (c :: if path.isEmpty then ['/'] else path) true rest := by
  obtain ⟨hunder, -, hupper, hsmall⟩ := isSmall_spec h
  rw [extendPath, if_neg (by simpa using hunder), if_neg (by simp [hupper]), hsmall]

theorem extendPath_smalls {s : List Char} (hs : ∀ c ∈ s, isSmall c = true) {path : List Char}
    (hp : path ≠ []) (rest : List Char) :
    extendPath path true (s ++ rest) = extendPath (s.reverse ++ path) true rest := by
  induction s generalizing path with
  | nil => rfl
  | cons c s ih =>
    obtain ⟨hc, hs⟩ := List.forall_mem_cons.1 hs
    rw [List.cons_append, extendPath_small hc, if_neg (by simpa using hp),
      ih hs (List.cons_ne_nil _ _), List.reverse_cons, List.append_assoc]
    rfl

/-- After its first letter, a word makes no difference between the spellings. -/
theorem extendPath_of_first {c d : Char} {s : List Char} (hs : ∀ e ∈ d :: s, isSmall e = true)
    (path : List Char) (afterSmall : Bool) (rest : List Char) :
    extendPath (c :: '/' :: path) afterSmall (d :: s ++ rest) =
      extendPath ((c :: d :: s).reverse ++ '/' :: path) true rest := by
  obtain ⟨hd, hs⟩ := List.forall_mem_cons.1 hs
  rw [List.cons_append, extendPath_small hd, if_neg (by simp),
    extendPath_smalls hs (List.cons_ne_nil _ _)]
  simp

/-- A word after a `_` is added with a `/`. -/
theorem addsWords_snake : AddsWords fun w => '_' :: w.toList := by
  intro w hw path afterSmall h rest
  obtain ⟨c, d, s, hword, hc, hs⟩ := isWord_eq_true hw
  have hfirst : extendPath path afterSmall ('_' :: c :: (d :: s ++ rest)) =
      extendPath (c :: '/' :: path) true (d :: s ++ rest) := by
    obtain rfl | ⟨-, e, he, hslash⟩ := h
    · rw [extendPath_underscore, extendPath_small (isSmall_of_isLower hc)]
      rfl
    · cases path with
      | nil => cases he
      | cons f path =>
        obtain rfl := Option.some.inj he
        rw [extendPath_underscore, if_neg (by simpa using hslash),
          extendPath_small (isSmall_of_isLower hc)]
        rfl
  simp only [hword]
  exact hfirst.trans (extendPath_of_first hs path true rest)

/-- A word with a capital is added with a `/`, too. -/
theorem addsWords_camel : AddsWords fun w => capitalized w.toList := by
  intro w hw path afterSmall h rest
  obtain ⟨c, d, s, hword, hc, hs⟩ := isWord_eq_true hw
  obtain ⟨hunder, hupper, hlower⟩ := toUpper_spec hc
  have hslash : (afterSmall || path.isEmpty) = true := by
    obtain rfl | ⟨rfl, -⟩ := h
    · exact Bool.or_true _
    · exact Bool.true_or _
  have hfirst : extendPath path afterSmall (c.toUpper :: (d :: s ++ rest)) =
      extendPath (c :: '/' :: path) false (d :: s ++ rest) := by
    rw [extendPath, if_neg (by simpa using hunder), if_pos hupper, hlower, if_pos hslash]
    rfl
  simp only [hword]
  exact hfirst.trans (extendPath_of_first hs path false rest)

theorem isAfterWord_of_isWord {w : String} (hw : isWord w = true) (path : List Char) :
    IsAfterWord (w.toList.reverse ++ path) true := by
  obtain ⟨c, d, s, hword, -, hs⟩ := isWord_eq_true hw
  have hne : (d :: s) ≠ [] := List.cons_ne_nil _ _
  refine .inr ⟨rfl, (d :: s).getLast hne, ?_, (isSmall_spec (hs _ (List.getLast_mem hne))).2.1⟩
  rw [hword, List.reverse_cons, List.append_assoc, List.head?_append, List.head?_reverse,
    List.getLast?_eq_some_getLast hne]
  rfl

/-! ## Names -/

/-- The words of a name are added one after the other. -/
theorem AddsWords.flatMap {spell : String → List Char} (hspell : AddsWords spell)
    {words : List String} (hw : ∀ w ∈ words, isWord w = true) {path : List Char}
    {afterSmall : Bool} (h : IsAfterWord path afterSmall) :
    ∃ afterSmall', IsAfterWord ((words.flatMap fun w => '/' :: w.toList).reverse ++ path)
        afterSmall' ∧
      ∀ rest, extendPath path afterSmall (words.flatMap spell ++ rest) =
        extendPath ((words.flatMap fun w => '/' :: w.toList).reverse ++ path) afterSmall' rest := by
  induction words generalizing path afterSmall with
  | nil => exact ⟨afterSmall, h, fun rest => rfl⟩
  | cons w words ih =>
    obtain ⟨hfirst, hw⟩ := List.forall_mem_cons.1 hw
    obtain ⟨afterSmall', hafter, heq⟩ := ih hw (isAfterWord_of_isWord hfirst ('/' :: path))
    have hpath : ((w :: words).flatMap fun w => '/' :: w.toList).reverse ++ path =
        (words.flatMap fun w => '/' :: w.toList).reverse ++
          (w.toList.reverse ++ '/' :: path) := by
      simp
    refine ⟨afterSmall', hpath ▸ hafter, fun rest => ?_⟩
    rw [List.flatMap_cons, List.append_assoc, hspell hfirst h, heq, hpath]

theorem IsAfterWord.dropWhile {path : List Char} {afterSmall : Bool}
    (h : IsAfterWord path afterSmall) : path.dropWhile (· == '/') = path := by
  obtain rfl | ⟨-, c, hc, hslash⟩ := h
  · rfl
  · cases path with
    | nil => cases hc
    | cons d path =>
      obtain rfl := Option.some.inj hc
      exact List.dropWhile_cons_of_neg (by simpa using hslash)

theorem flatMap_slash {words : List String} (hne : words ≠ []) :
    String.ofList (words.flatMap fun w => '/' :: w.toList) = "/" ++ "/".intercalate words := by
  induction words with
  | nil => exact absurd rfl hne
  | cons w words ih =>
    cases words with
    | nil => simp
    | cons v words =>
      rw [List.flatMap_cons, String.ofList_append, ih (List.cons_ne_nil _ _),
        String.intercalate_cons_cons]
      simp [String.append_assoc]

theorem AddsWords.derivePath {spell : String → List Char} (hspell : AddsWords spell)
    {words : List String} (hne : words ≠ []) (hw : ∀ w ∈ words, isWord w = true) :
    derivePath (String.ofList (words.flatMap spell)) = "/" ++ "/".intercalate words := by
  obtain ⟨afterSmall, hafter, heq⟩ := hspell.flatMap hw (.inl rfl : IsAfterWord [] false)
  have hname := heq []
  rw [List.append_nil] at hname hafter
  rw [UriRouter.derivePath, String.toList_ofList, hname, List.append_nil, extendPath,
    hafter.dropWhile, List.reverse_reverse, flatMap_slash hne]

/-! ## More underscores -/

/-- Two texts add the same to every path, less the signs `/` at its end. -/
def AddSame (s t : List Char) : Prop :=
  ∀ path afterSmall, (extendPath path afterSmall s).dropWhile (· == '/') =
    (extendPath path afterSmall t).dropWhile (· == '/')

theorem AddSame.cons {s t : List Char} (h : AddSame s t) (c : Char) : AddSame (c :: s) (c :: t) := by
  intro path afterSmall
  rw [extendPath, extendPath]
  split
  · exact h _ _
  · split
    · exact h _ _
    · exact h _ _

theorem AddSame.append {s t : List Char} (h : AddSame s t) (before : List Char) :
    AddSame (before ++ s) (before ++ t) := by
  induction before with
  | nil => exact h
  | cons c before ih => exact ih.cons c

/-- A `_` at the end adds a `/` at most. -/
theorem addSame_underscore : AddSame [] ['_'] := by
  intro path afterSmall
  rw [extendPath_underscore, extendPath, extendPath]
  split
  · rfl
  · rfl

theorem addSame_underscores (after : List Char) : AddSame ('_' :: after) ('_' :: '_' :: after) := by
  intro path afterSmall
  rw [extendPath_underscore, extendPath_underscore, extendPath_underscore]
  congr 2
  split
  · rfl
  · rw [if_pos (by simp)]

/-- **A `_` more at an end, or beside another, does not change the path.** -/
theorem derivePath_of_addsUnderscore {s t : String} (h : AddsUnderscore s t) :
    derivePath t = derivePath s := by
  obtain ⟨before, after, hs, ht, hcases⟩ := h
  have hsame : AddSame (before ++ after) (before ++ '_' :: after) →
      derivePath t = derivePath s := by
    intro hsame
    rw [derivePath, derivePath, hs, ht, hsame]
  obtain rfl | rfl | hlast | hhead := hcases
  · -- a path that is empty stays so
    rw [derivePath, derivePath, hs, ht]
    rfl
  · exact hsame (addSame_underscore.append before)
  · obtain ⟨init, rfl⟩ := List.getLast?_eq_some_iff.1 hlast
    apply hsame
    rw [List.append_assoc, List.append_assoc]
    exact (addSame_underscores after).append init
  · obtain ⟨rest, rfl⟩ := List.head?_eq_some_iff.1 hhead
    exact hsame ((addSame_underscores rest).append before)

/-- **Names of the same words derive the same path**, the words with a `/` before each, whether
they are marked by `_` or by capitals, and however many signs `_` are added to those there are. -/
theorem derivePath_snakeCase_camelCase {words : List String} (hne : words ≠ [])
    (hw : ∀ w ∈ words, isWord w = true) :
    derivePath (snakeCase words) = "/" ++ "/".intercalate words ∧
      derivePath (camelCase words) = "/" ++ "/".intercalate words ∧
      ∀ name, Relation.ReflTransGen AddsUnderscore (snakeCase words) name →
        derivePath name = "/" ++ "/".intercalate words := by
  have hsnake : derivePath (snakeCase words) = "/" ++ "/".intercalate words :=
    addsWords_snake.derivePath hne hw
  refine ⟨hsnake, addsWords_camel.derivePath hne hw, fun name hname => ?_⟩
  induction hname with
  | refl => exact hsnake
  | tail _ hstep ih => exact (derivePath_of_addsUnderscore hstep).trans ih

/-- A name of three words, two of which have digits. -/
theorem derivePath_someTest2X9 :
    derivePath "_some_test2_x9" = "/some/test2/x9" ∧ derivePath "SomeTest2X9" = "/some/test2/x9" ∧
      derivePath "_some__test2_x9" = "/some/test2/x9" := by
  have hw : ∀ w ∈ ["some", "test2", "x9"], isWord w = true := by decide
  have h := derivePath_snakeCase_camelCase (List.cons_ne_nil _ _) hw
  have hstep : AddsUnderscore (snakeCase ["some", "test2", "x9"]) "_some__test2_x9" :=
    ⟨"_some_".toList, "test2_x9".toList, by decide, by decide, by decide⟩
  exact ⟨h.1, h.2.1, h.2.2 _ (.single hstep)⟩

end UriRouter
