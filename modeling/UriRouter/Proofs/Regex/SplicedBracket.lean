import Mathlib.Data.List.Forall2
import UriRouter.Proofs.Regex.Splicing
import UriRouter.Regex.Bracket

/-!
# Brackets put between parentheses

A shorthand between brackets may stand there written out, as a bracket of its own or as ranges. The
bracket is closed where it was closed before, although the set may be put together differently.

* `goes_openBracket`, `spliced_readPosix`, `spliced_readRange` : the readers of its pieces;
* `spelledBracket`, `OpenBracket.spell` : what a shorthand comes to that is written out;
* `BracketRelation` : what may be said of a bracket and of that in the larger text;
* `spliced_readBracket` : a whole bracket.
-/

set_option autoImplicit false

namespace UriRouter.Regex

open UriRouter.Text

variable {φ : Writing} {shorthands : Shorthands}

/-! ## Looking ahead -/

theorem Spliced.head? {rest s t : List Char} (h : Spliced φ rest s t) {d : Char}
    (hd : d = ']' ∨ d = '-') : t.head? = some d ↔ s.head? = some d := by
  have hne : d ≠ ')' ∧ d ≠ '[' ∧ d ≠ '0' ∧ d ≠ '\\' := by
    rcases hd with rfl | rfl <;> decide
  obtain ⟨h₁, h₂, h₃, h₄⟩ := hne
  constructor
  · intro ht
    cases t with
    | nil => cases ht
    | cons x t =>
      cases ht
      obtain ⟨s', rfl, -⟩ := h.of_cons_of_ne h₁ h₂ h₃ h₄
      rfl
  · intro hs
    cases s with
    | nil => cases hs
    | cons x s =>
      cases hs
      obtain ⟨t', rfl, -⟩ := h.cons h₄
      rfl

theorem Spliced.dropBlanks {rest s t : List Char} (h : Spliced φ rest s t) :
    Spliced φ rest (s.dropWhile isBlank) (t.dropWhile isBlank) := by
  induction h with
  | done => exact .done
  | lone => exact .lone
  | @char c s t hc h ih =>
    rw [List.dropWhile_cons, List.dropWhile_cons]
    split
    · exact ih
    · exact .char hc h
  | pair hw h => exact .pair hw h
  | @standIn c text s t hw hm h ih =>
    obtain ⟨-, -, d, more, rfl, hd⟩ := mem_standIns hm
    have hb : isBlank d = false := by
      rcases hd with rfl | rfl <;> rfl
    have ht : (d :: more ++ t).dropWhile isBlank = d :: more ++ t := by
      rw [List.cons_append, List.dropWhile_cons, hb]
      rfl
    rw [ht]
    exact .standIn hw hm h

/-- The text after blanks, the mark of one comment, and blanks. -/
def pastMark (s : List Char) : List Char :=
  if (s.dropWhile isBlank).head? = some '#' then (s.dropWhile isBlank).tail.dropWhile isBlank
  else s.dropWhile isBlank

theorem peekPast_true (s : List Char) : peekPast true s = (pastMark s).head?.or s.head? := by
  unfold peekPast pastMark
  simp only [↓reduceIte]
  split
  · rename_i rest he
    rw [he]
    rfl
  · rename_i hno
    rw [if_neg]
    intro hhead
    cases hs : s.dropWhile isBlank with
    | nil =>
      rw [hs] at hhead
      cases hhead
    | cons c rest =>
      rw [hs] at hhead
      cases hhead
      exact hno rest hs

theorem Spliced.pastMark {rest s t : List Char} (h : Spliced φ rest s t) :
    Spliced φ rest (pastMark s) (Regex.pastMark t) := by
  have hs := h.dropBlanks
  unfold Regex.pastMark
  split
  · rename_i he
    cases hsd : s.dropWhile isBlank with
    | nil =>
      rw [hsd] at he
      cases he
    | cons c s' =>
      rw [hsd] at he hs
      cases he
      obtain ⟨t', ht, hs'⟩ := hs.cons (by decide)
      rw [ht]
      exact hs'.dropBlanks
  · rename_i hne
    rw [if_neg]
    · exact hs
    · intro he
      cases htd : t.dropWhile isBlank with
      | nil =>
        rw [htd] at he
        cases he
      | cons c t' =>
        rw [htd] at he hs
        cases he
        obtain ⟨s', he', -⟩ := hs.of_cons_of_ne (by decide) (by decide) (by decide) (by decide)
        exact hne (by rw [he']; rfl)

/-- Where only blanks and the mark of a comment are left, the text begins with one of them. -/
theorem head?_pastMark {s : List Char} {d : Char} (hb : isBlank d = false) (hm : d ≠ '#') :
    (pastMark s).head?.or s.head? = some d ↔ (pastMark s).head? = some d := by
  cases hps : pastMark s with
  | cons x u => rfl
  | nil =>
    simp only [List.head?_nil, Option.none_or, reduceCtorEq, iff_false]
    intro hsd
    cases s with
    | nil => cases hsd
    | cons x s =>
      cases hsd
      simp [pastMark, hb, hm] at hps

/-- What `peekPast` looks for comes from the text. -/
theorem Spliced.peekPast {rest s t : List Char} (h : Spliced φ rest s t) (verbose : Bool) {d : Char}
    (hd : d = ']' ∨ d = '-') : peekPast verbose t = some d ↔ peekPast verbose s = some d := by
  have hb : isBlank d = false := by
    rcases hd with rfl | rfl <;> rfl
  have hm : d ≠ '#' := by
    rcases hd with rfl | rfl <;> decide
  cases verbose with
  | false => exact h.head? hd
  | true =>
    rw [peekPast_true, peekPast_true, head?_pastMark hb hm, head?_pastMark hb hm]
    exact h.pastMark.head? hd

/-! ## The beginning of a bracket -/

/-- Signs `-` are read through the filter for other runs. -/
theorem readDashes_eq (verbose : Bool) (s : List Char) :
    ∀ (inComment : Bool) (bracket : OpenBracket), readDashes verbose inComment bracket s =
      ((readFiltered verbose (· == '-') inComment s).1.foldl
        (fun b c => b.push (.plain (.single c))) bracket,
        (readFiltered verbose (· == '-') inComment s).2) := by
  induction s with
  | nil => intros; rfl
  | cons c s ih =>
    intro inComment bracket
    rw [readDashes, readFiltered]
    split
    · exact ih _ _
    · by_cases hc : c = '-'
      · subst hc
        have hb : isBlank '-' = false := by decide
        simp [hb, ih]
      · have hc' : (c == '-') = false := by simpa using hc
        simp only [hc', Bool.false_eq_true, ↓reduceIte]
        split
        · exact ih _ _
        · split
          · exact ih _ _
          · rfl

theorem goes_readDashes {verbose b inComment : Bool} {bracket bracket' : OpenBracket}
    {s r : List Char} (hb : b = true → s = [])
    (h : readDashes verbose inComment bracket s = (bracket', r)) (hr : r ≠ []) :
    Goes b s r fun t t' => readDashes verbose inComment bracket t = (bracket', t') := by
  obtain ⟨run, after, hrun⟩ : ∃ run after, readFiltered verbose (· == '-') inComment s =
      (run, after) := ⟨_, _, rfl⟩
  rw [readDashes_eq, hrun] at h
  cases h
  refine goes_of_spliced hb (fun hs => ?_) fun φ rest t hs => ?_
  · rw [hs] at hrun
    cases hrun
    exact hr rfl
  · obtain ⟨t', ht, hs'⟩ := hs.filtered (by decide) hrun hr fun _ => ⟨by decide, by decide⟩
    have hsuf := readFiltered_suffix verbose (· == '-') t inComment
    rw [ht] at hsuf
    exact ⟨t', by rw [readDashes_eq, ht], hsuf, hs'⟩

/-- Whether a bracket is negated, and the text after that. -/
def readNegation (verbose : Bool) (s : List Char) : Bool × List Char :=
  match skipBlanks verbose s with
  | '^' :: rest => (true, rest)
  | s => (false, s)

/-- A bracket begins with an optional `^`, signs `-`, and a `]` if there are no such signs. -/
theorem openBracket_eq (verbose : Bool) (s : List Char) :
    openBracket verbose s =
      match readDashes verbose false ⟨(readNegation verbose s).1, [], none⟩
          (readNegation verbose s).2 with
      | (⟨negated, [], left⟩, ']' :: rest) => (⟨negated, [.plain (.single ']')], left⟩, rest)
      | (bracket, s) => (bracket, s) := rfl

theorem goes_readNegation {verbose b negated : Bool} {s r : List Char} (hb : b = true → s = [])
    (h : readNegation verbose s = (negated, r)) (hr : r ≠ []) :
    Goes b s r fun t t' => readNegation verbose t = (negated, t') := by
  have hskip := goes_skipBlanks hb verbose
  unfold readNegation at h ⊢
  split at h
  · rename_i s₁ hs
    cases h
    rw [hs] at hskip
    refine (hskip.trans fun _ hb' => goes_char hb' (by decide)).imp ?_
    rintro t t' ⟨_, ht, rfl⟩
    simp only [ht]
  · rename_i hs
    cases h
    obtain ⟨b', hb', hgo⟩ := hskip
    refine ⟨b', hb', fun φ rest t hl => ?_⟩
    obtain ⟨t', ht, hsuf, hl'⟩ := hgo φ rest t hl
    refine ⟨t', ?_, hsuf, hl'⟩
    have hb'' : b' = false := Bool.eq_false_iff.2 fun h => hr (hb' h)
    subst hb''
    simp only [ht]
    split
    · rename_i u
      obtain ⟨s', he, -⟩ := Spliced.of_cons_of_ne hl' (by decide) (by decide) (by decide) (by decide)
      exact absurd he (hs s')
    · rfl

theorem goes_openBracket {verbose b : Bool} {bracket : OpenBracket} {s r : List Char}
    (hb : b = true → s = []) (h : openBracket verbose s = (bracket, r)) (hr : r ≠ []) :
    Goes b s r fun t t' => openBracket verbose t = (bracket, t') := by
  simp only [openBracket_eq] at h ⊢
  obtain ⟨negated, s₁, hn⟩ : ∃ negated s₁, readNegation verbose s = (negated, s₁) := ⟨_, _, rfl⟩
  obtain ⟨bracket₁, s₂, hd⟩ : ∃ bracket₁ s₂,
      readDashes verbose false ⟨negated, [], none⟩ s₁ = (bracket₁, s₂) := ⟨_, _, rfl⟩
  rw [hn, hd] at h
  have hs₂ : s₂ ≠ [] := by
    rintro rfl
    simp at h
    exact hr h.2
  have hs₁ : s₁ ≠ [] := by
    rintro rfl
    cases hd
    exact hs₂ rfl
  have hgo := (goes_readNegation hb hn hs₁).trans fun _ hb' => goes_readDashes hb' hd hs₂
  split at h
  · rename_i hbr
    cases hbr
    cases h
    refine (hgo.trans fun _ hb' => goes_char hb' (by decide)).imp ?_
    rintro t t' ⟨_, ⟨u, hu, ht⟩, rfl⟩
    simp only [hu, ht]
  · rename_i hno hbr
    cases hbr
    cases h
    obtain ⟨b', hb', hgo⟩ := hgo
    refine ⟨b', hb', fun φ rest t hl => ?_⟩
    obtain ⟨t', ⟨u, hu, ht⟩, hsuf, hl'⟩ := hgo φ rest t hl
    refine ⟨t', ?_, hsuf, hl'⟩
    have hb'' : b' = false := Bool.eq_false_iff.2 fun h => hr (hb' h)
    subst hb''
    simp only [hu, ht]
    split
    · rename_i he
      cases he
      obtain ⟨s', he, -⟩ := Spliced.of_cons_of_ne hl' (by decide) (by decide) (by decide) (by decide)
      exact absurd he (hno _ _ s' rfl)
    · rename_i he
      exact he.symm

/-! ## Named classes -/

/-- A character that the larger text takes over, and that it has only where it takes one over. -/
def IsKept (c : Char) : Prop := c ≠ ')' ∧ c ≠ '[' ∧ c ≠ '0' ∧ c ≠ '\\'

instance (c : Char) : Decidable (IsKept c) := inferInstanceAs (Decidable (_ ∧ _))

theorem Spliced.of_append {rest s t p : List Char} (hp : ∀ c ∈ p, IsKept c)
    (h : Spliced φ rest s (p ++ t)) : ∃ s', s = p ++ s' ∧ Spliced φ rest s' t := by
  induction p generalizing s with
  | nil => exact ⟨s, rfl, h⟩
  | cons c p ih =>
    obtain ⟨h₁, h₂, h₃, h₄⟩ := hp c (by simp)
    obtain ⟨s₁, rfl, hs₁⟩ := h.of_cons_of_ne h₁ h₂ h₃ h₄
    obtain ⟨s', rfl, hs'⟩ := ih (fun d hd => hp d (by simp [hd])) hs₁
    exact ⟨s', rfl, hs'⟩

theorem Spliced.append {rest s t p : List Char} (hp : ∀ c ∈ p, IsKept c)
    (h : Spliced φ rest (p ++ s) t) : ∃ t', t = p ++ t' ∧ Spliced φ rest s t' := by
  induction p generalizing t with
  | nil => exact ⟨t, rfl, h⟩
  | cons c p ih =>
    obtain ⟨t₁, rfl, ht₁⟩ := h.cons (hp c (by simp)).2.2.2
    obtain ⟨t', rfl, ht'⟩ := ih (fun d hd => hp d (by simp [hd])) ht₁
    exact ⟨t', rfl, ht'⟩

/-- The names of the classes are words of small letters. -/
theorem name_of_posix? {name : String} {set : CharSet} (h : CharSet.posix? name = some set) :
    ∀ c ∈ name.toList, IsKept c ∧ c ≠ ':' ∧ c ≠ '^' := by
  have hall : ∀ l : List Char, (l.all fun c => decide (IsKept c ∧ c ≠ ':' ∧ c ≠ '^')) = true →
      ∀ c ∈ l, IsKept c ∧ c ≠ ':' ∧ c ≠ '^' := by simp
  unfold CharSet.posix? at h
  split at h
  all_goals first
    | exact hall _ (by decide)
    | cases h

/-- Whether a named class is negated, and the text after that. -/
def classNegation (s : List Char) : Bool × List Char :=
  match s with
  | '^' :: rest => (true, rest)
  | s => (false, s)

theorem readPosix_cons (ignoreCase : Bool) (s : List Char) :
    readPosix ignoreCase (':' :: s) =
      match (classNegation s).2.dropWhile (· != ':') with
      | ':' :: ']' :: rest =>
        (CharSet.posix? (String.ofList ((classNegation s).2.takeWhile (· != ':')))).map
          fun set => (.complementIf (classNegation s).1 (set.foldIf ignoreCase), rest)
      | _ => none := rfl

theorem append_classNegation (s : List Char) :
    s = (if (classNegation s).1 then ['^'] else []) ++ (classNegation s).2 := by
  unfold classNegation
  split <;> rfl

theorem classNegation_append (negated : Bool) {s : List Char} (h : s.head? ≠ some '^') :
    classNegation ((if negated then ['^'] else []) ++ s) = (negated, s) := by
  unfold classNegation
  cases negated with
  | true => rfl
  | false =>
    split
    · rename_i rest he
      rw [if_neg (by simp), List.nil_append] at he
      rw [he] at h
      exact absurd rfl h
    · rfl

theorem readPosix_eq (ignoreCase negated : Bool) {name : List Char}
    (hname : ∀ c ∈ name, c ≠ ':' ∧ c ≠ '^') (u : List Char) :
    readPosix ignoreCase
        (':' :: ((if negated then ['^'] else []) ++ (name ++ ':' :: ']' :: u))) =
      (CharSet.posix? (String.ofList name)).map
        fun set => (.complementIf negated (set.foldIf ignoreCase), u) := by
  have hall : ∀ c ∈ name, (c != ':') = true := fun c hc => by simpa using (hname c hc).1
  have ht : (name ++ ':' :: ']' :: u).takeWhile (· != ':') = name := by
    rw [List.takeWhile_append_of_pos hall]
    simp
  have hd : (name ++ ':' :: ']' :: u).dropWhile (· != ':') = ':' :: ']' :: u := by
    rw [List.dropWhile_append_of_pos hall]
    simp
  have hh : (name ++ ':' :: ']' :: u).head? ≠ some '^' := by
    cases name with
    | nil => simp
    | cons c name => simpa using (hname c (by simp)).2
  simp only [readPosix_cons, classNegation_append negated hh, ht, hd]

/-- What makes a class, and that it does so before any text. -/
theorem readPosix_some {ignoreCase : Bool} {s r : List Char} {set : CharSet}
    (h : readPosix ignoreCase s = some (set, r)) :
    ∃ p, s = p ++ r ∧ (∀ c ∈ p, IsKept c) ∧ ∀ u, readPosix ignoreCase (p ++ u) = some (set, u) := by
  cases s with
  | nil => cases h
  | cons x s =>
    by_cases hx : x = ':'
    · subst hx
      rw [readPosix_cons] at h
      split at h
      · rename_i u hu
        obtain ⟨y, hy, he⟩ := Option.map_eq_some_iff.1 h
        cases he
        have hname := name_of_posix? hy
        rw [String.toList_ofList] at hname
        have hs : (classNegation s).2 =
            (classNegation s).2.takeWhile (· != ':') ++ ':' :: ']' :: r := by
          rw [← hu, List.takeWhile_append_dropWhile]
        refine ⟨':' :: ((if (classNegation s).1 then ['^'] else []) ++
          ((classNegation s).2.takeWhile (· != ':') ++ [':', ']'])), ?_, ?_, fun u => ?_⟩
        · conv => lhs; rw [append_classNegation s, hs]
          simp
        · intro c hc
          simp only [List.mem_cons, List.mem_append, List.not_mem_nil, or_false] at hc
          rcases hc with rfl | hc | hc | rfl | rfl
          · decide
          · split at hc
            · rw [List.mem_singleton.1 hc]
              decide
            · cases hc
          · exact (hname c hc).1
          · decide
          · decide
        · have := readPosix_eq ignoreCase (classNegation s).1 (fun c hc => (hname c hc).2) u
          rw [hy] at this
          simpa using this
      · cases h
    · unfold readPosix at h
      split at h
      · rename_i he
        cases he
        exact absurd rfl hx
      · cases h

/-- The larger text makes a class exactly where the text makes one. -/
theorem spliced_readPosix {ignoreCase : Bool} {rest s t : List Char} (h : Spliced φ rest s t) :
    (readPosix ignoreCase s = none → readPosix ignoreCase t = none) ∧
      ∀ set r, readPosix ignoreCase s = some (set, r) →
        ∃ t', readPosix ignoreCase t = some (set, t') ∧ t' <:+ t ∧ Spliced φ rest r t' := by
  constructor
  · intro hs
    cases ht : readPosix ignoreCase t with
    | none => rfl
    | some x =>
      obtain ⟨p, rfl, hp, hread⟩ := readPosix_some ht
      obtain ⟨s', rfl, -⟩ := h.of_append hp
      rw [hread] at hs
      cases hs
  · intro set r hs
    obtain ⟨p, rfl, hp, hread⟩ := readPosix_some hs
    obtain ⟨t', rfl, h'⟩ := h.append hp
    exact ⟨t', hread t', List.suffix_append p t', h'⟩

/-! ## Members and ranges -/

theorem Spliced.skip {verbose : Bool} {rest s t : List Char} (h : Spliced φ rest s t)
    (hs : skipBlanks verbose s ≠ []) :
    Spliced φ rest (skipBlanks verbose s) (skipBlanks verbose t) := by
  obtain ⟨b, hb, hgo⟩ := goes_skipBlanks (b := false) (s := s) (by simp) verbose
  obtain ⟨t', rfl, -, hl⟩ := hgo φ rest t h
  have hb' : b = false := Bool.eq_false_iff.2 fun h => hs (hb h)
  subst hb'
  exact hl

/-- What is taken from a text after blanks leaves less of it. -/
theorem suffix_of_skipBlanks {verbose : Bool} {p t t₂ : List Char} (hp : p ≠ [])
    (ht : skipBlanks verbose t = p ++ t₂) :
    t₂ <:+ t ∧ t₂.length < t.length := by
  have hsuf := skipBlanks_suffix verbose t
  rw [ht] at hsuf
  have hlen := hsuf.length_le
  have hpos := List.length_pos_iff.2 hp
  rw [List.length_append] at hlen
  exact ⟨(List.suffix_append p t₂).trans hsuf, by omega⟩

/-- What begins neither a bracket nor an operator nor ends the bracket is a part of it. -/
structure BeginsPart (s : List Char) : Prop where
  ne_nil : s ≠ []
  ne_open : ∀ u, s ≠ '[' :: u
  ne_close : ∀ u, s ≠ ']' :: u
  ne_and : ∀ u, s ≠ '&' :: '&' :: u
  ne_minus : ∀ u, s ≠ '-' :: '-' :: u
  ne_tilde : ∀ u, s ≠ '~' :: '~' :: u

/-- Where the larger text takes the first character over, it begins a part if the text does. -/
theorem BeginsPart.spliced {rest s t : List Char} (hb : BeginsPart s) (hs : Spliced φ rest s t)
    (hh : t.head? = s.head?) : BeginsPart t where
  ne_nil := hs.ne_nil
  ne_open := by
    rintro u rfl
    obtain ⟨s', he⟩ := List.head?_eq_some_iff.1 hh.symm
    exact hb.ne_open s' he
  ne_close := by
    rintro u rfl
    obtain ⟨s', he⟩ := List.head?_eq_some_iff.1 hh.symm
    exact hb.ne_close s' he
  ne_and := by
    rintro u rfl
    obtain ⟨s', he, -⟩ := Spliced.of_append (p := ['&', '&']) (by simp [IsKept]) hs
    exact hb.ne_and s' he
  ne_minus := by
    rintro u rfl
    obtain ⟨s', he, -⟩ := Spliced.of_append (p := ['-', '-']) (by simp [IsKept]) hs
    exact hb.ne_minus s' he
  ne_tilde := by
    rintro u rfl
    obtain ⟨s', he, -⟩ := Spliced.of_append (p := ['~', '~']) (by simp [IsKept]) hs
    exact hb.ne_tilde s' he

/-- The letters of the shorthands. -/
theorem isLetter_of_unicode {c : Char} {set : CharSet} (h : Shorthands.unicode c = some set) :
    c ∈ ['d', 'D', 's', 'S', 'w', 'W'] := by
  unfold Shorthands.unicode at h
  split at h
  all_goals first
    | simp; done
    | cases h

/-- An escape that is kept is read with the Unicode shorthands as it is with the others. -/
def Keeps (shorthands : Shorthands) (φ : Writing) : Prop :=
  ∀ c s set, φ ('\\' :: c :: s) ['\\', c] → shorthands c = some set →
    Shorthands.unicode c = some set

theorem keeps_unicode : Keeps .unicode φ := fun _ _ _ _ h => h

variable [PropertyTable] {verbose ignoreCase : Bool}

/-- An escape is a shorthand, or it is read in the same way with all shorthands. -/
theorem readEscape_cases {c : Char} {s r : List Char} {a : Atom}
    (h : readEscape shorthands verbose ignoreCase (c :: s) = some (a, r)) :
    (∃ set, shorthands c = some set ∧ a = .set set ∧ r = s) ∨
      shorthands c = none ∧ readEscape .unicode verbose ignoreCase (c :: s) = some (a, r) := by
  cases hc : shorthands c with
  | some set =>
    simp only [readEscape, hc] at h
    cases h
    exact .inl ⟨set, rfl, rfl, rfl⟩
  | none =>
    refine .inr ⟨rfl, ?_⟩
    cases hu : Shorthands.unicode c with
    | none => simpa only [readEscape, hc, hu] using h
    | some set =>
      -- the letter of a shorthand has no other meaning
      have hletter := isLetter_of_unicode hu
      simp only [List.mem_cons, List.not_mem_nil, or_false] at hletter
      rcases hletter with rfl | rfl | rfl | rfl | rfl | rfl
      all_goals simp [readEscape, hc, escapedAtom?, isAsciiLetter] at h

theorem Keeps.readEscape (hk : Keeps shorthands φ) {c : Char} {s r : List Char} {a : Atom}
    (hw : φ ('\\' :: c :: s) ['\\', c])
    (h : readEscape shorthands verbose ignoreCase (c :: s) = some (a, r)) :
    Regex.readEscape .unicode verbose ignoreCase (c :: s) = some (a, r) := by
  rcases readEscape_cases h with ⟨set, hset, rfl, rfl⟩ | ⟨-, h⟩
  · simp only [Regex.readEscape, hk c r set hw hset]
  · exact h

theorem readEscape_of_standIn {c : Char} {text s r : List Char} {a : Atom}
    (hm : text ∈ standIns c) (h : readEscape shorthands verbose ignoreCase (c :: s) = some (a, r)) :
    r = s ∧ ∃ set, a = .set set ∧ shorthands c = some set := by
  rcases readEscape_cases h with ⟨set, hset, rfl, rfl⟩ | ⟨hnone, -⟩
  · exact ⟨rfl, set, rfl, hset⟩
  · obtain ⟨hc, -⟩ := mem_standIns hm
    rcases hc with rfl | rfl
    all_goals simp [readEscape, hnone, escapedAtom?, isAsciiLetter] at h

theorem readMember_char {c : Char} (hc : c ≠ '\\') (u : List Char) :
    readMember shorthands verbose ignoreCase (c :: u) = some (.char c, u) := by
  unfold readMember
  split
  · rename_i he
    cases he
  · rename_i he
    cases he
    exact absurd rfl hc
  · rename_i he
    cases he
    rfl

/-- A member is the same in the larger text, unless it is a shorthand that is written out there. -/
theorem spliced_readMember {rest s t r : List Char} {a : Atom}
    (hk : Keeps shorthands φ) (hs : Spliced φ rest s t)
    (h : readMember shorthands verbose ignoreCase s = some (a, r)) (hr : r ≠ []) :
    (∃ t', readMember .unicode verbose ignoreCase t = some (a, t') ∧ t' <:+ t ∧
        t'.length < t.length ∧ t.head? = s.head? ∧ Spliced φ rest r t') ∨
      ∃ c text t' set, t = text ++ t' ∧ text ∈ standIns c ∧ Spliced φ rest r t' ∧ a = .set set ∧
        shorthands c = some set := by
  cases hs with
  | done => cases h
  | lone => cases h
  | @char c s t hc hs =>
    left
    rw [readMember_char hc] at h
    cases h
    exact ⟨t, readMember_char hc t, List.suffix_cons c t, by simp, rfl, hs⟩
  | @pair c s t hw hs =>
    left
    have h' : readEscape shorthands verbose ignoreCase (c :: s) = some (a, r) := h
    obtain ⟨b, hb, hgo⟩ := goes_readEscape (hk.readEscape hw h')
    obtain ⟨t', ht, hsuf, hl⟩ := hgo φ rest t hs
    have hb' : b = false := Bool.eq_false_iff.2 fun h => hr (hb h)
    subst hb'
    have hlen := hsuf.length_le
    refine ⟨t', ht, ?_, by simp; omega, rfl, hl⟩
    exact hsuf.trans ((List.suffix_cons c t).trans (List.suffix_cons '\\' (c :: t)))
  | @standIn c text s t hw hm hs =>
    right
    obtain ⟨rfl, set, hset⟩ := readEscape_of_standIn hm h
    exact ⟨c, text, t, set, rfl, hm, hs, hset⟩

/-- What comes of a member and the text after it: a range, or a part of its own. -/
def rangeFrom (shorthands : Shorthands) (verbose ignoreCase : Bool) (first : Atom) (s : List Char) :
    Option (CharSet × List Char) :=
  match s with
  | '-' :: after =>
    if peekPast verbose after = some ']' || peekPast verbose after = some '-' then
      first.toSet?.map (·, s)
    else
      match first, readMember shorthands verbose ignoreCase (skipBlanks verbose after) with
      | .char c, some (.char d, rest) => if c ≤ d then some (.range c d, rest) else none
      | _, _ => none
  | _ => first.toSet?.map (·, s)

theorem readRange_eq (shorthands : Shorthands) (verbose ignoreCase : Bool) (s : List Char) :
    readRange shorthands verbose ignoreCase s =
      (readMember shorthands verbose ignoreCase s).bind fun x =>
        rangeFrom shorthands verbose ignoreCase x.1 (skipBlanks verbose x.2) := by
  unfold readRange
  cases readMember shorthands verbose ignoreCase s with
  | none => rfl
  | some x => rfl

/-- A shorthand begins no range. -/
theorem rangeFrom_set {x set : CharSet} {s r : List Char}
    (h : rangeFrom shorthands verbose ignoreCase (.set x) s = some (set, r)) :
    r = s ∧ set = x ∧
      rangeFrom .unicode verbose ignoreCase (.char '_') s = some (.single '_', s) := by
  unfold rangeFrom at h ⊢
  split at h
  · split at h
    · rename_i hp
      cases h
      simp only [hp]
      exact ⟨trivial, trivial, rfl⟩
    · cases h
  · cases h
    exact ⟨rfl, rfl, rfl⟩

theorem spliced_rangeFrom {first : Atom} {rest s t r : List Char} {set : CharSet}
    (hk : Keeps shorthands φ) (hs : Spliced φ rest s t)
    (h : rangeFrom shorthands verbose ignoreCase first s = some (set, r)) (hr : r ≠ []) :
    ∃ t', rangeFrom .unicode verbose ignoreCase first t = some (set, t') ∧ t' <:+ t ∧
      Spliced φ rest r t' := by
  unfold rangeFrom at h
  split at h
  · rename_i after
    obtain ⟨u, rfl, hu⟩ := hs.cons (by decide)
    have h₁ := hu.peekPast verbose (d := ']') (.inl rfl)
    have h₂ := hu.peekPast verbose (d := '-') (.inr rfl)
    split at h
    · rename_i hp
      obtain ⟨x, hx, he⟩ := Option.map_eq_some_iff.1 h
      cases he
      refine ⟨'-' :: u, ?_, List.suffix_refl _, hs⟩
      simp only [rangeFrom, h₁, h₂, hx, hp]
      rfl
    · rename_i hp
      split at h
      · rename_i c d r' hm
        split at h
        · rename_i hle
          cases h
          have hne : skipBlanks verbose after ≠ [] := by
            intro he
            rw [he] at hm
            cases hm
          rcases spliced_readMember hk (hu.skip hne) hm hr with ⟨t', ht, hsuf, -, -, hs'⟩ | hset
          · refine ⟨t', ?_, ?_, hs'⟩
            · simp only [rangeFrom, h₁, h₂, ht, hle, hp]
              rfl
            · exact (hsuf.trans (skipBlanks_suffix verbose u)).trans (List.suffix_cons '-' u)
          · obtain ⟨_, _, _, _, -, -, -, hchar, -⟩ := hset
            cases hchar
        · cases h
      · cases h
  · rename_i hno
    obtain ⟨x, hx, he⟩ := Option.map_eq_some_iff.1 h
    cases he
    refine ⟨t, ?_, List.suffix_refl _, hs⟩
    unfold rangeFrom
    split
    · obtain ⟨s', rfl, -⟩ := hs.of_cons_of_ne (by decide) (by decide) (by decide) (by decide)
      exact absurd rfl (hno s')
    · rw [hx]
      rfl

/-- A part of a bracket is the same in the larger text, or it is a shorthand that is written out
there. -/
theorem spliced_readRange {rest s t r : List Char} {set : CharSet}
    (hk : Keeps shorthands φ) (hs : Spliced φ rest s t)
    (h : readRange shorthands verbose ignoreCase s = some (set, r)) (hr : r ≠ []) :
    (∃ t', readRange .unicode verbose ignoreCase t = some (set, t') ∧ t'.length < t.length ∧
        t' <:+ t ∧ t.head? = s.head? ∧ Spliced φ rest r t') ∨
      ∃ c text t', t = text ++ t' ∧ text ∈ standIns c ∧ shorthands c = some set ∧
        Spliced φ rest r (skipBlanks verbose t') ∧
        ∃ t'', readRange .unicode verbose ignoreCase ('_' :: t') = some (.single '_', t'') ∧
          t'' <:+ t' ∧ Spliced φ rest r t'' := by
  rw [readRange_eq] at h
  obtain ⟨⟨a, r₁⟩, hm, hf⟩ := Option.bind_eq_some_iff.1 h
  simp only at hf
  have hne : skipBlanks verbose r₁ ≠ [] := by
    intro he
    rw [he] at hf
    obtain ⟨x, hx, he⟩ := Option.map_eq_some_iff.1 hf
    cases he
    exact hr rfl
  have hr₁ : r₁ ≠ [] := by
    rintro rfl
    exact hne (by cases verbose <;> rfl)
  rcases spliced_readMember hk hs hm hr₁ with
    ⟨t₁, ht, hsuf, hlt, hhead, hs₁⟩ | ⟨c, text, t', x, ht, hmem, hs', rfl, hset⟩
  · obtain ⟨t', hf', hsuf', hs'⟩ := spliced_rangeFrom hk (hs₁.skip hne) hf hr
    have hsuf₁ := hsuf'.trans (skipBlanks_suffix verbose t₁)
    refine .inl ⟨t', ?_, ?_, hsuf₁.trans hsuf, hhead, hs'⟩
    · rw [readRange_eq, ht]
      exact hf'
    · have := hsuf₁.length_le
      omega
  · obtain ⟨rfl, rfl, hf'⟩ := rangeFrom_set hf
    obtain ⟨t'', hf'', hsuf, hs''⟩ := spliced_rangeFrom keeps_unicode (hs'.skip hne) hf' hr
    refine .inr ⟨c, text, t', ht, hmem, hset, hs'.skip hne, t'', ?_, ?_, hs''⟩
    · rw [readRange_eq]
      exact hf''
    · exact hsuf.trans (skipBlanks_suffix verbose t')

/-! ## Shorthands that are written out -/

/-- What is skipped before a part of a bracket may as well be left out. -/
theorem readBracketFrom_skipBlanks (verbose ignoreCase : Bool) (n : Nat) (bracket : OpenBracket)
    (outer : List OpenBracket) (s : List Char) :
    readBracketFrom .unicode verbose ignoreCase n bracket outer (skipBlanks verbose s) =
      readBracketFrom .unicode verbose ignoreCase n bracket outer s := by
  cases n with
  | zero => rfl
  | succ n => rw [readBracketFrom, readBracketFrom, skipBlanks_skipBlanks]

/-- A range between two characters with no meaning of their own. -/
theorem readRange_range {c d : Char} (hc : c ≠ '\\') (hd : d ≠ '\\')
    (hb : isBlank d = false) (hm : d ≠ '#') (h₁ : d ≠ ']') (h₂ : d ≠ '-') (hle : c ≤ d)
    (u : List Char) :
    readRange .unicode verbose ignoreCase (c :: '-' :: d :: u) = some (.range c d, u) := by
  have hskip : skipBlanks verbose ('-' :: d :: u) = '-' :: d :: u ∧
      skipBlanks verbose (d :: u) = d :: u := by
    cases verbose with
    | false => exact ⟨rfl, rfl⟩
    | true => exact ⟨rfl, skipBlanksFrom_stop hb hm u⟩
  have hpeek : peekPast verbose (d :: u) = some d := by
    cases verbose with
    | false => rfl
    | true => simp [peekPast, hb, hm]
  simp [readRange, readMember_char hc, readMember_char hd, hskip.1, hskip.2, hpeek, h₁, h₂, hle]

theorem readBracketFrom_part (verbose ignoreCase : Bool) {c : Char}
    (hc : c ∉ ['[', ']', '&', '-', '~', '#']) (hb : isBlank c = false) {s u : List Char}
    {set : CharSet} (h : readRange .unicode verbose ignoreCase (c :: s) = some (set, u)) (n : Nat)
    (bracket : OpenBracket) (outer : List OpenBracket) :
    readBracketFrom .unicode verbose ignoreCase (n + 1) bracket outer (c :: s) =
      readBracketFrom .unicode verbose ignoreCase n (bracket.push (.plain set)) outer u := by
  simp only [List.mem_cons, List.not_mem_nil, or_false, not_or] at hc
  obtain ⟨h₁, h₂, h₃, h₄, h₅, h₆⟩ := hc
  have hskip : skipBlanks verbose (c :: s) = c :: s := by
    cases verbose with
    | false => rfl
    | true => exact skipBlanksFrom_stop hb h₆ s
  rw [readBracketFrom, hskip]
  split
  · rename_i he
    cases he
  · rename_i he
    cases he
    exact absurd rfl h₁
  · rename_i he
    cases he
    exact absurd rfl h₂
  · rename_i he
    cases he
    exact absurd rfl h₃
  · rename_i he
    cases he
    exact absurd rfl h₄
  · rename_i he
    cases he
    exact absurd rfl h₅
  · rw [h]

/-- The parts that a shorthand comes to if its ranges are written out. -/
def spelledParts (c : Char) : List ClassPart :=
  if c = 'd' then [.plain (.range '0' '9')]
  else [.plain (.range '0' '9'), .plain (.range 'A' 'Z'), .plain (.range 'a' 'z'),
    .plain (.single '_')]

/-- The bracket that a shorthand comes to if its ranges are written in one. -/
def spelledBracket (ignoreCase : Bool) (c : Char) : ClassPart :=
  ((spelledParts c).foldl OpenBracket.push ⟨false, [], none⟩).close ignoreCase

/-- What a bracket holds after a shorthand that is written out as `text`, as a bracket of its own or as
ranges. -/
def OpenBracket.spell (ignoreCase : Bool) (bracket : OpenBracket) (c : Char) (text : List Char) :
    OpenBracket :=
  if text.head? = some '[' then
    bracket.push (spelledBracket ignoreCase c)
  else (spelledParts c).foldl push bracket

theorem readBracketFrom_digits (verbose ignoreCase : Bool) (n : Nat) (bracket : OpenBracket)
    (outer : List OpenBracket) (u : List Char) :
    readBracketFrom .unicode verbose ignoreCase (n + 1) bracket outer ("0-9".toList ++ u) =
      readBracketFrom .unicode verbose ignoreCase n (bracket.push (.plain (.range '0' '9'))) outer
        u :=
  readBracketFrom_part verbose ignoreCase (by decide) (by decide) (readRange_range (by decide)
    (by decide) (by decide) (by decide) (by decide) (by decide) (by decide) u) n bracket outer

theorem readBracketFrom_word (verbose ignoreCase : Bool) {t u : List Char}
    (h : readRange .unicode verbose ignoreCase ('_' :: t) = some (.single '_', u)) (n : Nat)
    (bracket : OpenBracket) (outer : List OpenBracket) :
    readBracketFrom .unicode verbose ignoreCase (n + 4) bracket outer
        ("0-9A-Za-z_".toList ++ t) =
      readBracketFrom .unicode verbose ignoreCase n
        ((spelledParts 'w').foldl OpenBracket.push bracket) outer u := by
  have h₁ := readBracketFrom_digits verbose ignoreCase (n + 3)
    bracket outer ("A-Za-z_".toList ++ t)
  have h₂ := readBracketFrom_part verbose ignoreCase (by decide)
    (by decide) (readRange_range (c := 'A') (d := 'Z') (by decide) (by decide) (by decide)
      (by decide) (by decide) (by decide) (by decide) ("a-z_".toList ++ t)) (n + 2)
      (bracket.push (.plain (.range '0' '9'))) outer
  have h₃ := readBracketFrom_part verbose ignoreCase (by decide)
    (by decide) (readRange_range (c := 'a') (d := 'z') (by decide) (by decide) (by decide)
      (by decide) (by decide) (by decide) (by decide) ('_' :: t)) (n + 1)
      ((bracket.push (.plain (.range '0' '9'))).push (.plain (.range 'A' 'Z'))) outer
  have h₄ := readBracketFrom_part verbose ignoreCase (by decide) (by decide) h n
    (((bracket.push (.plain (.range '0' '9'))).push (.plain (.range 'A' 'Z'))).push
      (.plain (.range 'a' 'z'))) outer
  exact h₁.trans (h₂.trans (h₃.trans h₄))

theorem readBracketFrom_open (verbose ignoreCase : Bool) (n : Nat) (bracket : OpenBracket)
    (outer : List OpenBracket) (s : List Char) :
    readBracketFrom .unicode verbose ignoreCase (n + 1) bracket outer ('[' :: '0' :: s) =
      readBracketFrom .unicode verbose ignoreCase n ⟨false, [], none⟩ (bracket :: outer)
        ('0' :: s) := by
  cases verbose <;> rfl

theorem readBracketFrom_close (verbose ignoreCase : Bool) (n : Nat) (bracket around : OpenBracket)
    (outer : List OpenBracket) (s : List Char) :
    readBracketFrom .unicode verbose ignoreCase (n + 1) bracket (around :: outer) (']' :: s) =
      readBracketFrom .unicode verbose ignoreCase n (around.push (bracket.close ignoreCase)) outer
        s := by
  cases verbose <;> rfl

/-- Getting through a shorthand that is written out between brackets. -/
theorem readBracketFrom_standIn {c : Char} {text t u : List Char}
    (hm : text ∈ standIns c)
    (h : readRange .unicode verbose ignoreCase ('_' :: t) = some (.single '_', u))
    {n : Nat} (hn : (text ++ t).length < n) (bracket : OpenBracket) (outer : List OpenBracket) :
    ∃ v n', (v = t ∨ v = u) ∧ t.length < n' ∧
      readBracketFrom .unicode verbose ignoreCase n bracket outer (text ++ t) =
        readBracketFrom .unicode verbose ignoreCase n' (bracket.spell ignoreCase c text) outer v := by
  have hclose : readRange .unicode verbose ignoreCase ('_' :: ']' :: t) =
      some (.single '_', ']' :: t) := by
    cases verbose <;> rfl
  unfold standIns at hm
  split at hm
  · simp only [List.mem_cons, List.not_mem_nil, or_false] at hm
    rcases hm with rfl | rfl
    · obtain ⟨k, rfl⟩ : ∃ k, n = k + 3 := ⟨n - 3, by simp at hn; omega⟩
      refine ⟨t, k, .inl rfl, by simp at hn; omega, ?_⟩
      exact (readBracketFrom_open verbose ignoreCase (k + 2) bracket outer _).trans
        ((readBracketFrom_digits verbose ignoreCase (k + 1) ⟨false, [], none⟩ (bracket :: outer)
          (']' :: t)).trans (readBracketFrom_close verbose ignoreCase k _ bracket outer t))
    · obtain ⟨k, rfl⟩ : ∃ k, n = k + 1 := ⟨n - 1, by simp at hn; omega⟩
      exact ⟨t, k, .inl rfl, by simp at hn; omega,
        readBracketFrom_digits verbose ignoreCase k bracket outer t⟩
  · simp only [List.mem_cons, List.not_mem_nil, or_false] at hm
    rcases hm with rfl | rfl
    · obtain ⟨k, rfl⟩ : ∃ k, n = k + 6 := ⟨n - 6, by simp at hn; omega⟩
      refine ⟨t, k, .inl rfl, by simp at hn; omega, ?_⟩
      exact (readBracketFrom_open verbose ignoreCase (k + 5) bracket outer _).trans
        ((readBracketFrom_word verbose ignoreCase hclose (k + 1) ⟨false, [], none⟩
          (bracket :: outer)).trans (readBracketFrom_close verbose ignoreCase k _ bracket outer t))
    · obtain ⟨k, rfl⟩ : ∃ k, n = k + 4 := ⟨n - 4, by simp at hn; omega⟩
      exact ⟨u, k, .inr rfl, by simp at hn; omega,
        readBracketFrom_word verbose ignoreCase h k bracket outer⟩
  · cases hm

/-! ## Whole brackets -/

/-- How brackets and parts of two readings go together. Both relations are kept by whatever is done in
both readings. -/
structure BracketCongruence (ignoreCase : Bool) where
  brackets : OpenBracket → OpenBracket → Prop
  parts : ClassPart → ClassPart → Prop
  refl : ∀ b, brackets b b
  plain : ∀ set, parts (.plain set) (.plain set)
  push : ∀ {b b' p p'}, brackets b b' → parts p p' → brackets (b.push p) (b'.push p')
  operator : ∀ {b b'} op, brackets b b' →
    brackets (b.operator ignoreCase op) (b'.operator ignoreCase op)
  close : ∀ {b b'}, brackets b b' → parts (b.close ignoreCase) (b'.close ignoreCase)

/-- How brackets and parts of the text go with those of the larger text, in which shorthands may be
written out. -/
structure BracketRelation (shorthands : Shorthands) (ignoreCase : Bool) extends
    BracketCongruence ignoreCase where
  spell : ∀ {b b' c text set}, brackets b b' → text ∈ standIns c → shorthands c = some set →
    brackets (b.push (.plain set)) (b'.spell ignoreCase c text)

/-- Nothing is said of the brackets. -/
def BracketRelation.any (shorthands : Shorthands) (ignoreCase : Bool) :
    BracketRelation shorthands ignoreCase where
  brackets _ _ := True
  parts _ _ := True
  refl _ := trivial
  plain _ := trivial
  push _ _ := trivial
  operator _ _ := trivial
  close _ := trivial
  spell _ _ _ := trivial

section

variable {R : BracketRelation shorthands ignoreCase}
variable {rest r s s₂ t : List Char} {bracket : OpenBracket} {outer : List OpenBracket} {x : ClassPart}

/-- From a text on every bracket that goes with one of the text is closed, as that one is closed as the
part `x`. What is left is what goes with `r`. Each turn leaves less of the text, so as many turns as it
has characters are enough. -/
def Closes (R : BracketRelation shorthands ignoreCase) (φ : Writing) (verbose : Bool)
    (rest : List Char) (bracket : OpenBracket) (outer : List OpenBracket) (x : ClassPart)
    (r t : List Char) : Prop :=
  ∀ (m : Nat) (bracket' : OpenBracket) (outer' : List OpenBracket), R.brackets bracket bracket' →
    List.Forall₂ R.brackets outer outer' → t.length < m →
    ∃ y t', readBracketFrom .unicode verbose ignoreCase m bracket' outer' t = some (y, t') ∧
      R.parts x y ∧ t' <:+ t ∧ Spliced φ rest r t'

/-- A turn, after which the bracket is closed. -/
theorem Closes.of_turn {b : OpenBracket} {o : List OpenBracket} {t₁ : List Char}
    (h : Closes R φ verbose rest b o x r t₁) (hsuf : t₁ <:+ t) (hlt : t₁.length < t.length)
    (hturn : ∀ (m : Nat) (bracket' : OpenBracket) (outer' : List OpenBracket),
      R.brackets bracket bracket' → List.Forall₂ R.brackets outer outer' →
      ∃ b' o', R.brackets b b' ∧ List.Forall₂ R.brackets o o' ∧
        readBracketFrom .unicode verbose ignoreCase (m + 1) bracket' outer' t =
          readBracketFrom .unicode verbose ignoreCase m b' o' t₁) :
    Closes R φ verbose rest bracket outer x r t := by
  intro m bracket' outer' hb ho hm
  obtain ⟨m, rfl⟩ : ∃ k, m = k + 1 := ⟨m - 1, by omega⟩
  obtain ⟨b', o', hb', ho', he⟩ := hturn m bracket' outer' hb ho
  obtain ⟨y, t', ht', hx, hsuf', hs'⟩ := h m b' o' hb' ho' (by omega)
  exact ⟨y, t', he.trans ht', hx, hsuf'.trans hsuf, hs'⟩

/-- An operator between the parts of a bracket. -/
theorem closes_operator {p : List Char} {op : SetOperator}
    (hp : p = ['&', '&'] ∧ op = .intersection ∨ p = ['-', '-'] ∧ op = .difference ∨
      p = ['~', '~'] ∧ op = .symmetricDifference)
    (hs : Spliced φ rest s t) (he : skipBlanks verbose s = p ++ s₂)
    (h : ∀ t₂, Spliced φ rest s₂ t₂ →
      Closes R φ verbose rest (bracket.operator ignoreCase op) outer x r t₂) :
    Closes R φ verbose rest bracket outer x r t := by
  have hne : p ≠ [] := by rcases hp with ⟨rfl, rfl⟩ | ⟨rfl, rfl⟩ | ⟨rfl, rfl⟩ <;> simp
  have hkept : ∀ c ∈ p, IsKept c := by rcases hp with ⟨rfl, rfl⟩ | ⟨rfl, rfl⟩ | ⟨rfl, rfl⟩ <;> simp [IsKept]
  obtain ⟨t₂, ht, hs₂⟩ := (he ▸ hs.skip (by simp [he, hne])).append hkept
  obtain ⟨hsuf, hlt⟩ := suffix_of_skipBlanks hne ht
  refine (h t₂ hs₂).of_turn hsuf hlt fun m bracket' outer' hb ho => ?_
  refine ⟨bracket'.operator ignoreCase op, outer', R.operator op hb, ho, ?_⟩
  rcases hp with ⟨rfl, rfl⟩ | ⟨rfl, rfl⟩ | ⟨rfl, rfl⟩ <;>
  · rw [readBracketFrom, ht]
    rfl

/-- The end of a bracket that is inside another. -/
theorem closes_inner {around : OpenBracket} (hs : Spliced φ rest s t)
    (he : skipBlanks verbose s = ']' :: s₂)
    (h : ∀ t₂, Spliced φ rest s₂ t₂ →
      Closes R φ verbose rest (around.push (bracket.close ignoreCase)) outer x r t₂) :
    Closes R φ verbose rest bracket (around :: outer) x r t := by
  obtain ⟨t₂, ht, hs₂⟩ := (he ▸ hs.skip (by simp [he])).cons (by decide)
  obtain ⟨hsuf, hlt⟩ := suffix_of_skipBlanks (p := [']']) (by simp) ht
  refine (h t₂ hs₂).of_turn hsuf hlt fun m bracket' outer' hb ho => ?_
  cases ho with
  | cons haround ho =>
    rw [readBracketFrom, ht]
    exact ⟨_, _, R.push haround (R.close hb), ho, rfl⟩

/-- The end of the bracket. -/
theorem closes_last (hs : Spliced φ rest s t) (he : skipBlanks verbose s = ']' :: r) :
    Closes R φ verbose rest bracket [] (bracket.close ignoreCase) r t := by
  obtain ⟨t₂, ht, hs₂⟩ := (he ▸ hs.skip (by simp [he])).cons (by decide)
  obtain ⟨hsuf, hlt⟩ := suffix_of_skipBlanks (p := [']']) (by simp) ht
  intro m bracket' outer' hb ho hm
  obtain ⟨m, rfl⟩ : ∃ k, m = k + 1 := ⟨m - 1, by omega⟩
  cases ho
  rw [readBracketFrom, ht]
  exact ⟨_, t₂, rfl, R.close hb, hsuf, hs₂⟩

/-- A named class. -/
theorem closes_posix {s₃ : List Char} {set : CharSet} (hs : Spliced φ rest s t)
    (he : skipBlanks verbose s = '[' :: s₂) (hp : readPosix ignoreCase s₂ = some (set, s₃))
    (h : ∀ t₃, Spliced φ rest s₃ t₃ →
      Closes R φ verbose rest (bracket.push (.plain set)) outer x r t₃) :
    Closes R φ verbose rest bracket outer x r t := by
  obtain ⟨t₂, ht, hs₂⟩ := (he ▸ hs.skip (by simp [he])).cons (by decide)
  obtain ⟨hsuf, hlt⟩ := suffix_of_skipBlanks (p := ['[']) (by simp) ht
  obtain ⟨t₃, ht₃, hsuf₃, hs₃⟩ := (spliced_readPosix hs₂).2 set s₃ hp
  have hlen := hsuf₃.length_le
  refine (h t₃ hs₃).of_turn (hsuf₃.trans hsuf) (by omega) fun m bracket' outer' hb ho => ?_
  rw [readBracketFrom, ht]
  simp only [ht₃]
  exact ⟨_, outer', R.push hb (R.plain set), ho, rfl⟩

/-- A bracket inside a bracket. -/
theorem closes_open {s₃ : List Char} {inner : OpenBracket} (hs : Spliced φ rest s t)
    (he : skipBlanks verbose s = '[' :: s₂) (hp : readPosix ignoreCase s₂ = none)
    (ho : openBracket verbose s₂ = (inner, s₃)) (hne : s₃ ≠ [])
    (h : ∀ t₃, Spliced φ rest s₃ t₃ → Closes R φ verbose rest inner (bracket :: outer) x r t₃) :
    Closes R φ verbose rest bracket outer x r t := by
  obtain ⟨t₂, ht, hs₂⟩ := (he ▸ hs.skip (by simp [he])).cons (by decide)
  obtain ⟨hsuf, hlt⟩ := suffix_of_skipBlanks (p := ['[']) (by simp) ht
  obtain ⟨b, hb, hgo⟩ := goes_openBracket (b := false) (by simp) ho hne
  obtain rfl : b = false := Bool.eq_false_iff.2 fun h => hne (hb h)
  obtain ⟨t₃, ht₃, hsuf₃, hs₃⟩ := hgo φ rest t₂ hs₂
  have hlen := hsuf₃.length_le
  refine (h t₃ hs₃).of_turn (hsuf₃.trans hsuf) (by omega) fun m bracket' outer' hb ho => ?_
  rw [readBracketFrom, ht]
  simp only [(spliced_readPosix hs₂).1 hp, ht₃]
  exact ⟨inner, bracket' :: outer', R.refl inner, .cons hb ho, rfl⟩

theorem BeginsPart.readBracketFrom_eq {u : List Char} {set : CharSet} (hb : BeginsPart s)
    (hs : skipBlanks verbose t = s) (hr : readRange .unicode verbose ignoreCase s = some (set, u))
    (m : Nat) (bracket : OpenBracket) (outer : List OpenBracket) :
    readBracketFrom .unicode verbose ignoreCase (m + 1) bracket outer t =
      readBracketFrom .unicode verbose ignoreCase m (bracket.push (.plain set)) outer u := by
  rw [readBracketFrom, hs]
  split
  · exact absurd rfl hb.ne_nil
  · exact absurd rfl (hb.ne_open _)
  · exact absurd rfl (hb.ne_close _)
  · exact absurd rfl (hb.ne_and _)
  · exact absurd rfl (hb.ne_minus _)
  · exact absurd rfl (hb.ne_tilde _)
  · rw [hr]

/-- A member or a range. -/
theorem closes_range {set : CharSet} (hk : Keeps shorthands φ) (hs : Spliced φ rest s t)
    (hb : BeginsPart (skipBlanks verbose s))
    (hr : readRange shorthands verbose ignoreCase (skipBlanks verbose s) = some (set, s₂))
    (hne : s₂ ≠ []) (h : ∀ t₂, Spliced φ rest s₂ t₂ →
      Closes R φ verbose rest (bracket.push (.plain set)) outer x r t₂) :
    Closes R φ verbose rest bracket outer x r t := by
  have hs₁ := hs.skip hb.ne_nil
  have hsuf := skipBlanks_suffix verbose t
  have hlen := hsuf.length_le
  rcases spliced_readRange hk hs₁ hr hne with
    ⟨t₂, ht, hlt, hsuf₂, hhead, hs₂⟩ | ⟨c, text, t₂, ht, hmem, hset, hs₂, t₃, hline, hsuf₃, hs₃⟩
  · refine (h t₂ hs₂).of_turn (hsuf₂.trans hsuf) (by omega) fun m bracket' outer' hb' ho => ?_
    exact ⟨_, outer', R.push hb' (R.plain set), ho,
      (hb.spliced hs₁ hhead).readBracketFrom_eq rfl ht m bracket' outer'⟩
  · -- the shorthand is written out, which takes some turns
    intro m bracket' outer' hb' ho hm
    have hsuf₂ : t₂ <:+ t := (List.suffix_append text t₂).trans (ht ▸ hsuf)
    obtain ⟨w, m', hw, hm', he⟩ := readBracketFrom_standIn (n := m) hmem hline
      (by rw [← ht]; omega) bracket' outer'
    have hspell := R.spell hb' hmem hset
    rw [← readBracketFrom_skipBlanks, ht, he]
    rcases hw with rfl | rfl
    · have hsuf₄ := skipBlanks_suffix verbose w
      have hlen₄ := hsuf₄.length_le
      obtain ⟨y, t', ht', hx, hsuf', hs'⟩ := h _ hs₂ m' _ outer' hspell ho (by omega)
      rw [readBracketFrom_skipBlanks] at ht'
      exact ⟨y, t', ht', hx, hsuf'.trans (hsuf₄.trans hsuf₂), hs'⟩
    · have hlen₃ := hsuf₃.length_le
      obtain ⟨y, t', ht', hx, hsuf', hs'⟩ := h _ hs₃ m' _ outer' hspell ho (by omega)
      exact ⟨y, t', ht', hx, hsuf'.trans (hsuf₃.trans hsuf₂), hs'⟩

theorem readBracketFrom_nil (n : Nat) (bracket : OpenBracket) (outer : List OpenBracket) :
    readBracketFrom shorthands verbose ignoreCase n bracket outer [] = none := by
  cases n with
  | zero => rfl
  | succ n => cases verbose <;> rfl

/-- The rest of a bracket is closed in the larger text where it is closed in the text. -/
theorem spliced_readBracketFrom (R : BracketRelation shorthands ignoreCase) (hk : Keeps shorthands φ)
    {n : Nat} (h : readBracketFrom shorthands verbose ignoreCase n bracket outer s = some (x, r))
    (hs : Spliced φ rest s t) : Closes R φ verbose rest bracket outer x r t := by
  induction n generalizing bracket outer s t with
  | zero => cases h
  | succ n ih =>
    have hne {b : OpenBracket} {o : List OpenBracket} {s₃ : List Char}
        (h : readBracketFrom shorthands verbose ignoreCase n b o s₃ = some (x, r)) : s₃ ≠ [] := by
      rintro rfl
      rw [readBracketFrom_nil] at h
      cases h
    rw [readBracketFrom] at h
    split at h
    · cases h
    · rename_i s₂ he
      split at h
      · rename_i set s₃ hp
        exact closes_posix hs he hp fun t₃ hs₃ => ih h hs₃
      · rename_i hp
        exact closes_open hs he hp rfl (hne h) fun t₃ hs₃ => ih h hs₃
    · rename_i s₂ he
      cases outer with
      | nil =>
        cases h
        exact closes_last hs he
      | cons around outer => exact closes_inner hs he fun t₂ hs₂ => ih h hs₂
    · rename_i s₂ he
      exact closes_operator (.inl ⟨rfl, rfl⟩) hs he fun t₂ hs₂ => ih h hs₂
    · rename_i s₂ he
      exact closes_operator (.inr (.inl ⟨rfl, rfl⟩)) hs he fun t₂ hs₂ => ih h hs₂
    · rename_i s₂ he
      exact closes_operator (.inr (.inr ⟨rfl, rfl⟩)) hs he fun t₂ hs₂ => ih h hs₂
    · rename_i hend hopen hclose hand hminus htilde
      split at h
      · rename_i set s₂ hrange
        exact closes_range hk hs ⟨hend, hopen, hclose, hand, hminus, htilde⟩ hrange (hne h)
          fun t₂ hs₂ => ih h hs₂
      · cases h

/-- A bracket is closed in the larger text where it is closed in the text. -/
theorem spliced_readBracket (R : BracketRelation shorthands ignoreCase) (hk : Keeps shorthands φ)
    (h : readBracket shorthands verbose ignoreCase s = some (x, r)) (hs : Spliced φ rest s t) :
    ∃ y t', readBracket .unicode verbose ignoreCase t = some (y, t') ∧ R.parts x y ∧ t' <:+ t ∧
      Spliced φ rest r t' := by
  unfold readBracket at h
  obtain ⟨bracket, s₁, hopen⟩ : ∃ bracket s₁, openBracket verbose s = (bracket, s₁) := ⟨_, _, rfl⟩
  simp only [hopen] at h
  have hne : s₁ ≠ [] := by
    rintro rfl
    rw [readBracketFrom_nil] at h
    cases h
  obtain ⟨b, hb, hgo⟩ := goes_openBracket (b := false) (by simp) hopen hne
  obtain rfl : b = false := Bool.eq_false_iff.2 fun h => hne (hb h)
  obtain ⟨t₁, ht₁, hsuf₁, hs₁⟩ := hgo φ rest t hs
  obtain ⟨y, t', ht', hx, hsuf', hs'⟩ := spliced_readBracketFrom R hk h hs₁ _ _ [] (R.refl bracket)
    .nil (Nat.lt_succ_self t₁.length)
  refine ⟨y, t', ?_, hx, hsuf'.trans hsuf₁, hs'⟩
  unfold readBracket
  simp only [ht₁]
  exact ht'

end

end UriRouter.Regex
