import UriRouter.Pattern.Item

/-!
# Texts put between parentheses

The text of a regular expression is put into a larger one: some of its shorthands are written out,
and a `)` and more text follow. Every reader that gets through the text by itself gets through it
there too, and stops where it stopped before the `)`; only a comment that the text leaves open can
carry it further.

* `Writing`, `Spliced` : a text, and how it stands in the larger one;
* `Goes` : what a reader leaves of both;
* `goes_skipBlanks`, `goes_readFiltered`, `goes_readHexChar`, `goes_readEscape` : one statement for each
  reader.
-/

set_option autoImplicit false

namespace UriRouter.Regex

open UriRouter.Text

/-! ## The two texts -/

/-- The texts that may stand for a shorthand. -/
def standIns : Char → List (List Char)
  | 'd' => ["[0-9]".toList, "0-9".toList]
  | 'w' => ["[0-9A-Za-z_]".toList, "0-9A-Za-z_".toList]
  | _ => []

/-- Which texts may stand in the larger text for the escape that a text begins with. -/
abbrev Writing := List Char → List Char → Prop

/-- Every text may stand for an escape. -/
def Writing.any : Writing := fun _ _ => True

/-- The second text is the first with some shorthands written out, then `)` and `rest`. -/
inductive Spliced (φ : Writing) (rest : List Char) : List Char → List Char → Prop
  | done : Spliced φ rest [] (')' :: rest)
  | lone : Spliced φ rest ['\\'] ('\\' :: ')' :: rest)
  | char {c : Char} {s t : List Char} : c ≠ '\\' → Spliced φ rest s t →
      Spliced φ rest (c :: s) (c :: t)
  | pair {c : Char} {s t : List Char} : φ ('\\' :: c :: s) ['\\', c] → Spliced φ rest s t →
      Spliced φ rest ('\\' :: c :: s) ('\\' :: c :: t)
  | standIn {c : Char} {text s t : List Char} : φ ('\\' :: c :: s) text → text ∈ standIns c →
      Spliced φ rest s t → Spliced φ rest ('\\' :: c :: s) (text ++ t)

variable {φ : Writing}

/-- A text that is taken over as it is. -/
theorem spliced_self (rest : List Char) : ∀ s, Spliced .any rest s (s ++ ')' :: rest)
  | [] => .done
  | ['\\'] => .lone
  | '\\' :: c :: s => .pair trivial (spliced_self rest s)
  | c :: s => by
    by_cases hc : c = '\\'
    · subst hc
      cases s with
      | nil => exact .lone
      | cons d s => exact .pair trivial (spliced_self rest s)
    · exact .char hc (spliced_self rest s)

/-- The text with which a constraint goes into an expression. -/
theorem spliced_asciiShorthands (rest : List Char) (depth : Nat) (s : List Char) :
    Spliced .any rest s (Pattern.asciiShorthands depth s ++ ')' :: rest) := by
  fun_induction Pattern.asciiShorthands depth s with
  | case1 => exact .done
  | case2 => exact .lone
  | case3 depth s ih =>
    rw [List.append_assoc]
    exact .standIn trivial (by split <;> simp [standIns]) ih
  | case4 depth s ih =>
    rw [List.append_assoc]
    exact .standIn trivial (by split <;> simp [standIns]) ih
  | case5 depth c s _ _ ih => exact .pair trivial ih
  | case6 depth s ih => exact .char (by decide) ih
  | case7 depth s ih => exact .char (by decide) ih
  | case8 depth c s hlone _ _ hpair _ _ ih =>
    refine .char ?_ ih
    rintro rfl
    cases s with
    | nil => exact hlone rfl rfl
    | cons d s => exact hpair d s rfl rfl

theorem mem_standIns {c : Char} {text : List Char} (h : text ∈ standIns c) :
    (c = 'd' ∨ c = 'w') ∧ ('\n' ∉ text) ∧
      ∃ d more, text = d :: more ∧ (d = '[' ∨ d = '0') := by
  unfold standIns at h
  split at h
  · simp only [List.mem_cons, List.not_mem_nil, or_false] at h
    rcases h with rfl | rfl
    · exact ⟨.inl rfl, by decide, '[', _, rfl, .inl rfl⟩
    · exact ⟨.inl rfl, by decide, '0', _, rfl, .inr rfl⟩
  · simp only [List.mem_cons, List.not_mem_nil, or_false] at h
    rcases h with rfl | rfl
    · exact ⟨.inr rfl, by decide, '[', _, rfl, .inl rfl⟩
    · exact ⟨.inr rfl, by decide, '0', _, rfl, .inr rfl⟩
  · cases h

theorem Spliced.nil {rest t : List Char} (h : Spliced φ rest [] t) : t = ')' :: rest := by
  cases h
  rfl

theorem Spliced.ne_nil {rest s t : List Char} (h : Spliced φ rest s t) : t ≠ [] := by
  cases h with
  | standIn _ hm _ =>
    obtain ⟨-, -, d, more, rfl, -⟩ := mem_standIns hm
    simp
  | _ => simp

/-- A character that is no backslash is taken over. -/
theorem Spliced.cons {rest s t : List Char} {c : Char} (h : Spliced φ rest (c :: s) t)
    (hc : c ≠ '\\') : ∃ t', t = c :: t' ∧ Spliced φ rest s t' := by
  cases h with
  | lone | pair | standIn => exact absurd rfl hc
  | char _ h => exact ⟨_, rfl, h⟩

/-- What the larger text goes on with is what the text goes on with, or one of a few characters. -/
theorem Spliced.of_cons {rest s t : List Char} {d : Char} (h : Spliced φ rest s (d :: t)) :
    d = ')' ∧ s = [] ∨ (d = '[' ∨ d = '0' ∨ d = '\\') ∧ s.head? = some '\\' ∨
      ∃ s', s = d :: s' ∧ Spliced φ rest s' t := by
  generalize ht : d :: t = u at h
  cases h with
  | done =>
    cases ht
    exact .inl ⟨rfl, rfl⟩
  | lone | pair =>
    cases ht
    exact .inr (.inl ⟨.inr (.inr rfl), rfl⟩)
  | char _ h =>
    cases ht
    exact .inr (.inr ⟨_, rfl, h⟩)
  | standIn _ hm h =>
    obtain ⟨-, -, x, more, rfl, hx⟩ := mem_standIns hm
    cases ht
    rcases hx with rfl | rfl
    · exact .inr (.inl ⟨.inl rfl, rfl⟩)
    · exact .inr (.inl ⟨.inr (.inl rfl), rfl⟩)

/-- Any other character that the larger text goes on with comes from the text. -/
theorem Spliced.of_cons_of_ne {rest s t : List Char} {d : Char} (h : Spliced φ rest s (d :: t))
    (h₁ : d ≠ ')') (h₂ : d ≠ '[') (h₃ : d ≠ '0') (h₄ : d ≠ '\\') :
    ∃ s', s = d :: s' ∧ Spliced φ rest s' t := by
  rcases h.of_cons with ⟨rfl, -⟩ | ⟨rfl | rfl | rfl, -⟩ | h
  · exact absurd rfl h₁
  · exact absurd rfl h₂
  · exact absurd rfl h₃
  · exact absurd rfl h₄
  · exact h

/-- Where the text does not go on with a character of a class, the larger text does not either, if
the class holds none of the characters that may stand there instead. -/
theorem Spliced.exists_unwanted {rest s t : List Char} {c : Char} {wanted : Char → Bool}
    (h : Spliced φ rest (c :: s) t) (hw : [')', '[', '0', '\\'].all fun d => !wanted d)
    (hc : wanted c = false) : ∃ d t', t = d :: t' ∧ wanted d = false := by
  simp only [List.all_cons, List.all_nil, Bool.and_true, Bool.and_eq_true, Bool.not_eq_true'] at hw
  obtain ⟨h₁, h₂, h₃, h₄⟩ := hw
  cases t with
  | nil => exact absurd rfl h.ne_nil
  | cons d t =>
    refine ⟨d, t, rfl, ?_⟩
    rcases h.of_cons with ⟨rfl, -⟩ | ⟨rfl | rfl | rfl, -⟩ | ⟨s', he, -⟩
    · exact h₁
    · exact h₂
    · exact h₃
    · exact h₄
    · cases he
      exact hc

/-! ## Blanks and comments -/

/-- Whether blanks and comments make up the whole text and the last comment is left open. The text
begins inside a comment if `inComment`. -/
def swallows : Bool → List Char → Bool
  | inComment, [] => inComment
  | inComment, c :: rest =>
    if inComment then swallows (c != '\n') rest
    else if isBlank c then swallows false rest
    else if c == '#' then swallows true rest
    else false

theorem skipBlanksFrom_of_swallows {s : List Char} : ∀ {inComment : Bool},
    swallows inComment s = true → skipBlanksFrom inComment s = [] := by
  induction s with
  | nil => intros; rfl
  | cons c s ih =>
    intro inComment h
    rw [swallows] at h
    rw [skipBlanksFrom]
    split
    · rename_i hi
      rw [if_pos hi] at h
      exact ih h
    · rename_i hi
      rw [if_neg hi] at h
      split
      · rename_i hb
        rw [if_pos hb] at h
        exact ih h
      · rename_i hb
        rw [if_neg hb] at h
        split
        · rename_i hs
          rw [if_pos hs] at h
          exact ih h
        · rename_i hs
          rw [if_neg hs] at h
          cases h

theorem skipBlanksFrom_suffix (s : List Char) :
    ∀ inComment : Bool, skipBlanksFrom inComment s <:+ s := by
  induction s with
  | nil => intro inComment; exact List.suffix_refl _
  | cons c s ih =>
    intro inComment
    have hs : s <:+ c :: s := List.suffix_cons c s
    rw [skipBlanksFrom]
    split
    · exact (ih _).trans hs
    · split
      · exact (ih _).trans hs
      · split
        · exact (ih _).trans hs
        · exact List.suffix_refl _

theorem skipBlanks_suffix (verbose : Bool) (s : List Char) : skipBlanks verbose s <:+ s := by
  unfold skipBlanks
  split
  · exact skipBlanksFrom_suffix s false
  · exact List.suffix_refl s

/-- Nothing but the end of its line ends a comment. -/
theorem skipBlanksFrom_comment {s : List Char} (h : '\n' ∉ s) (t : List Char) :
    skipBlanksFrom true (s ++ t) = skipBlanksFrom true t := by
  induction s with
  | nil => rfl
  | cons c s ih =>
    rw [List.mem_cons, not_or] at h
    have hc : (c != '\n') = true := by simpa using Ne.symm h.1
    rw [List.cons_append, skipBlanksFrom, if_pos rfl, hc, ih h.2]

/-- What begins outside a comment with no blank and no `#` is not skipped. -/
theorem skipBlanksFrom_stop {c : Char} (h : isBlank c = false) (h' : c ≠ '#') (s : List Char) :
    skipBlanksFrom false (c :: s) = c :: s := by
  simp [skipBlanksFrom, h, h']

/-- What is left after blanks and comments begins with neither. -/
theorem skipBlanksFrom_cons {s u : List Char} {c : Char} : ∀ {inComment : Bool},
    skipBlanksFrom inComment s = c :: u → isBlank c = false ∧ c ≠ '#' := by
  induction s with
  | nil =>
    intro inComment h
    cases h
  | cons d s ih =>
    intro inComment h
    rw [skipBlanksFrom] at h
    split at h
    · exact ih h
    · split at h
      · exact ih h
      · split at h
        · exact ih h
        · rename_i hb hm
          cases h
          exact ⟨by simpa using hb, by simpa using hm⟩

/-- There are no blanks and comments to skip after they were skipped. -/
theorem skipBlanks_skipBlanksFrom (verbose inComment : Bool) (s : List Char) :
    skipBlanks verbose (skipBlanksFrom inComment s) = skipBlanksFrom inComment s := by
  cases verbose with
  | false => rfl
  | true =>
    show skipBlanksFrom false (skipBlanksFrom inComment s) = _
    cases h : skipBlanksFrom inComment s with
    | nil => rfl
    | cons c u =>
      obtain ⟨hb, hm⟩ := skipBlanksFrom_cons h
      exact skipBlanksFrom_stop hb hm u

theorem skipBlanks_skipBlanks (verbose : Bool) (s : List Char) :
    skipBlanks verbose (skipBlanks verbose s) = skipBlanks verbose s := by
  cases verbose with
  | false => rfl
  | true => exact skipBlanks_skipBlanksFrom true false s

theorem dropBlanks_skipBlanksFrom (inComment : Bool) (s : List Char) :
    (skipBlanksFrom inComment s).dropWhile isBlank = skipBlanksFrom inComment s := by
  cases h : skipBlanksFrom inComment s with
  | nil => rfl
  | cons c u => simp [(skipBlanksFrom_cons h).1]

/-- Skipping blanks and comments keeps the two texts side by side, unless the text ends inside a
comment. -/
theorem Spliced.skipped {rest s t : List Char} (h : Spliced φ rest s t) :
    ∀ inComment : Bool, if swallows inComment s
      then skipBlanksFrom inComment t = skipBlanksFrom true (')' :: rest)
      else Spliced φ rest (skipBlanksFrom inComment s) (skipBlanksFrom inComment t) := by
  induction h with
  | done =>
    intro inComment
    cases inComment with
    | true => rfl
    | false => exact .done
  | lone =>
    intro inComment
    cases inComment with
    | true => rfl
    | false => exact .lone
  | @char c s t hc h ih =>
    intro inComment
    generalize skipBlanksFrom true (')' :: rest) = after at ih ⊢
    rw [swallows, skipBlanksFrom, skipBlanksFrom]
    split
    · exact ih _
    · split
      · exact ih _
      · split
        · exact ih _
        · exact .char hc h
  | @pair c s t hw h ih =>
    intro inComment
    cases inComment with
    | true => exact ih _
    | false => exact .pair hw h
  | @standIn c text s t hw hm h ih =>
    obtain ⟨hc, hn, x, more, rfl, hx⟩ := mem_standIns hm
    intro inComment
    cases inComment with
    | true =>
      rw [skipBlanksFrom_comment hn]
      rcases hc with rfl | rfl
      · exact ih true
      · exact ih true
    | false =>
      have hs : skipBlanksFrom false (x :: more ++ t) = x :: more ++ t := by
        rcases hx with rfl | rfl
        · exact skipBlanksFrom_stop (by decide) (by decide) _
        · exact skipBlanksFrom_stop (by decide) (by decide) _
      rw [hs]
      exact .standIn hw hm h

/-! ## From one place to another -/

/-- What may be left once a comment has been skipped: all that comes `after` it. Only where that
begins with a `?` is it not known how much, since the `?` belongs to a repetition before the
comment. -/
def Remains (t after : List Char) : Prop := t <:+ after ∧ (after.head? ≠ some '?' → t = after)

theorem Remains.skip {t after : List Char} (h : Remains t after) {f : List Char → List Char}
    (hs : f t <:+ t) (hf : f after = after) : Remains (f t) after :=
  ⟨hs.trans h.1, fun hn => by rw [h.2 hn, hf]⟩

/-- What is left of the two texts. If a comment that the text leaves open has been `skipped`, it is
what remains after that comment. -/
def Left (φ : Writing) (rest : List Char) (skipped : Bool) (s t : List Char) : Prop :=
  if skipped then s = [] ∧ Remains t (skipBlanksFrom true (')' :: rest)) else Spliced φ rest s t

/-- Whatever the larger text is, `P` gets through it as far as from `s` to `r`. It may hang on whether
a comment that the text leaves open has then been skipped. -/
def GoesWith (skipped : Bool) (s r : List Char) (P : Bool → List Char → List Char → Prop) : Prop :=
  ∃ after : Bool, (after = true → r = []) ∧ ∀ φ rest t, Left φ rest skipped s t →
    ∃ t', P after t t' ∧ t' <:+ t ∧ Left φ rest after r t'

/-- Whatever the larger text is, `P` gets through it as far as from `s` to `r`. -/
def Goes (skipped : Bool) (s r : List Char) (P : List Char → List Char → Prop) : Prop :=
  GoesWith skipped s r fun _ => P

theorem Goes.refl {b : Bool} {s : List Char} (hb : b = true → s = []) : Goes b s s Eq :=
  ⟨b, hb, fun _ _ t h => ⟨t, rfl, List.suffix_refl t, h⟩⟩

theorem Goes.transWith {b : Bool} {s r q : List Char} {P : List Char → List Char → Prop}
    {Q : Bool → List Char → List Char → Prop} (h : Goes b s r P)
    (h' : ∀ b', (b' = true → r = []) → GoesWith b' r q Q) :
    GoesWith b s q fun after t t'' => ∃ t', P t t' ∧ Q after t' t'' := by
  obtain ⟨b₁, hb₁, h⟩ := h
  obtain ⟨b₂, hb₂, h'⟩ := h' b₁ hb₁
  refine ⟨b₂, hb₂, fun φ rest t hl => ?_⟩
  obtain ⟨t', hp, hs, hl⟩ := h φ rest t hl
  obtain ⟨t'', hq, hs', hl⟩ := h' φ rest t' hl
  exact ⟨t'', ⟨t', hp, hq⟩, hs'.trans hs, hl⟩

theorem Goes.trans {b : Bool} {s r q : List Char} {P Q : List Char → List Char → Prop}
    (h : Goes b s r P) (h' : ∀ b', (b' = true → r = []) → Goes b' r q Q) :
    Goes b s q fun t t'' => ∃ t', P t t' ∧ Q t' t'' := h.transWith h'

theorem GoesWith.imp {b : Bool} {s r : List Char} {P Q : Bool → List Char → List Char → Prop}
    (h : GoesWith b s r P) (hQ : ∀ after t t', P after t t' → Q after t t') : GoesWith b s r Q := by
  obtain ⟨b', hb', h⟩ := h
  refine ⟨b', hb', fun φ rest t hl => ?_⟩
  obtain ⟨t', hp, hs, hl⟩ := h φ rest t hl
  exact ⟨t', hQ b' t t' hp, hs, hl⟩

theorem Goes.imp {b : Bool} {s r : List Char} {P Q : List Char → List Char → Prop}
    (h : Goes b s r P) (hQ : ∀ t t', P t t' → Q t t') : Goes b s r Q := GoesWith.imp h fun _ => hQ

/-- Where the text is not at its end, no comment has been skipped that it left open. -/
theorem goes_of_spliced {b : Bool} {s r : List Char} {P : List Char → List Char → Prop}
    (hb : b = true → s = []) (hs : s ≠ [])
    (h : ∀ φ rest t, Spliced φ rest s t → ∃ t', P t t' ∧ t' <:+ t ∧ Spliced φ rest r t') :
    Goes b s r P := by
  cases b with
  | true => exact absurd (hb rfl) hs
  | false => exact ⟨false, by simp, h⟩

theorem goes_char {b : Bool} {c : Char} {s : List Char} (hb : b = true → c :: s = [])
    (hc : c ≠ '\\') : Goes b (c :: s) s fun t t' => t = c :: t' := by
  refine goes_of_spliced hb (by simp) fun φ rest t h => ?_
  obtain ⟨t', rfl, h'⟩ := h.cons hc
  exact ⟨t', rfl, List.suffix_cons c t', h'⟩

theorem goes_peek {b : Bool} {c : Char} {s : List Char} (hb : b = true → c :: s = [])
    (hc : c ≠ '\\') : Goes b (c :: s) (c :: s) fun t t' => t = t' ∧ ∃ u, t = c :: u := by
  refine goes_of_spliced hb (by simp) fun φ rest t h => ?_
  obtain ⟨t', rfl, h'⟩ := h.cons hc
  exact ⟨c :: t', ⟨rfl, t', rfl⟩, List.suffix_refl _, h⟩

theorem goes_skipBlanks {b : Bool} {s : List Char} (hb : b = true → s = []) (verbose : Bool) :
    Goes b s (skipBlanks verbose s) fun t t' => skipBlanks verbose t = t' := by
  cases b with
  | true =>
    obtain rfl := hb rfl
    refine ⟨true, by cases verbose <;> simp [skipBlanks, skipBlanksFrom], fun φ rest t hl => ?_⟩
    have hsuf := skipBlanks_suffix verbose t
    refine ⟨_, rfl, hsuf, ?_, hl.2.skip hsuf (skipBlanks_skipBlanksFrom _ _ _)⟩
    cases verbose <;> rfl
  | false =>
    cases verbose with
    | false => exact ⟨false, by simp, fun _ _ t hl => ⟨t, rfl, List.suffix_refl t, hl⟩⟩
    | true =>
      refine ⟨swallows false s, skipBlanksFrom_of_swallows, fun φ rest t hl => ?_⟩
      refine ⟨_, rfl, skipBlanksFrom_suffix t false, ?_⟩
      have h := Spliced.skipped (by simpa [Left] using hl) false
      unfold Left
      split
      · rename_i hs
        rw [if_pos hs] at h
        refine ⟨skipBlanksFrom_of_swallows hs, ?_⟩
        rw [← h]
        exact ⟨List.suffix_refl _, fun _ => rfl⟩
      · rename_i hs
        rw [if_neg hs] at h
        exact h

/-! ## Characters that are read through a filter -/

/-- What a character comes to hangs on nothing after it: either the reading goes on with the next one
in some way, or the character ends the run. -/
theorem readFiltered_cons (verbose : Bool) (wanted : Char → Bool) (inComment : Bool) (c : Char) :
    (∃ (next : Bool) (f : List Char → List Char), ∀ s,
      readFiltered verbose wanted inComment (c :: s) =
        (f (readFiltered verbose wanted next s).1, (readFiltered verbose wanted next s).2)) ∨
    ∀ s, readFiltered verbose wanted inComment (c :: s) = ([], c :: s) := by
  by_cases hi : inComment
  · exact .inl ⟨c != '\n', id, fun s => by rw [readFiltered, if_pos hi]; rfl⟩
  by_cases hw : wanted c
  · exact .inl ⟨false, (c :: ·), fun s => by rw [readFiltered, if_neg hi, if_pos hw]⟩
  by_cases hb : (verbose && isBlank c) = true
  · exact .inl ⟨false, id, fun s => by rw [readFiltered, if_neg hi, if_neg hw, if_pos hb]; rfl⟩
  by_cases hm : (verbose && c == '#') = true
  · refine .inl ⟨true, id, fun s => ?_⟩
    rw [readFiltered, if_neg hi, if_neg hw, if_neg hb, if_pos hm]
    rfl
  · refine .inr fun s => ?_
    rw [readFiltered, if_neg hi, if_neg hw, if_neg hb, if_neg hm]

theorem readFiltered_suffix (verbose : Bool) (wanted : Char → Bool) (s : List Char) :
    ∀ inComment : Bool, (readFiltered verbose wanted inComment s).2 <:+ s := by
  induction s with
  | nil => intro inComment; exact List.suffix_refl _
  | cons c s ih =>
    intro inComment
    rcases readFiltered_cons verbose wanted inComment c with ⟨next, f, hcons⟩ | hstop
    · rw [hcons]
      exact (ih next).trans (List.suffix_cons c s)
    · exact (hstop s).symm ▸ List.suffix_refl (c :: s)

theorem readFiltered_comment {verbose : Bool} {wanted : Char → Bool} {s : List Char}
    (h : '\n' ∉ s) (t : List Char) :
    readFiltered verbose wanted true (s ++ t) = readFiltered verbose wanted true t := by
  induction s with
  | nil => rfl
  | cons c s ih =>
    rw [List.mem_cons, not_or] at h
    have hc : (c != '\n') = true := by simpa using Ne.symm h.1
    rw [List.cons_append, readFiltered, if_pos rfl, hc, ih h.2]

/-- A character that is not wanted, and not left out either, ends the run. -/
theorem readFiltered_stop {verbose : Bool} {wanted : Char → Bool} {c : Char} (hw : wanted c = false)
    (hb : isBlank c = false) (hm : c ≠ '#') (s : List Char) :
    readFiltered verbose wanted false (c :: s) = ([], c :: s) := by
  simp [readFiltered, hw, hb, hm]

/-- A run that ends before the text does is read in both texts. Where it ends before a shorthand
that is written out, it must not go on there. -/
theorem Spliced.filtered {verbose : Bool} {wanted : Char → Bool} (hw : wanted '\\' = false)
    {rest s t : List Char} (h : Spliced φ rest s t) :
    ∀ {inComment : Bool} {run after : List Char},
      readFiltered verbose wanted inComment s = (run, after) → after ≠ [] →
      (after.head? = some '\\' → wanted '[' = false ∧ wanted '0' = false) →
      ∃ t', readFiltered verbose wanted inComment t = (run, t') ∧ Spliced φ rest after t' := by
  have hstop (s : List Char) :
      readFiltered verbose wanted false ('\\' :: s) = ([], '\\' :: s) :=
    readFiltered_stop hw (by decide) (by decide) s
  induction h with
  | done =>
    intro inComment run after h hne _
    cases h
    exact absurd rfl hne
  | lone =>
    intro inComment run after h hne _
    cases inComment with
    | true =>
      cases h
      exact absurd rfl hne
    | false =>
      rw [hstop] at h ⊢
      cases h
      exact ⟨_, rfl, .lone⟩
  | @char c s t hc hs ih =>
    intro inComment run after h hne hd
    rcases readFiltered_cons verbose wanted inComment c with ⟨next, f, hcons⟩ | hend
    · rw [hcons] at h ⊢
      obtain ⟨rfl, rfl⟩ := Prod.mk.inj h
      obtain ⟨t', ht, hs'⟩ := ih rfl hne hd
      exact ⟨t', by rw [ht], hs'⟩
    · rw [hend] at h ⊢
      cases h
      exact ⟨_, rfl, .char hc hs⟩
  | @pair c s t hwrite hs ih =>
    intro inComment run after h hne hd
    cases inComment with
    | true =>
      rw [readFiltered, if_pos rfl, readFiltered, if_pos (by decide)] at h ⊢
      exact ih h hne hd
    | false =>
      rw [hstop] at h ⊢
      cases h
      exact ⟨_, rfl, .pair hwrite hs⟩
  | @standIn c text s t hwrite hm hs ih =>
    obtain ⟨hc, hn, d, more, rfl, hdt⟩ := mem_standIns hm
    intro inComment run after h hne hd
    cases inComment with
    | true =>
      rw [readFiltered_comment hn]
      rw [readFiltered, if_pos rfl, readFiltered, if_pos (by decide)] at h
      rcases hc with rfl | rfl
      · exact ih h hne hd
      · exact ih h hne hd
    | false =>
      rw [hstop] at h
      cases h
      obtain ⟨hbracket, hdigit⟩ := hd rfl
      have hdw : wanted d = false ∧ isBlank d = false ∧ d ≠ '#' := by
        rcases hdt with rfl | rfl
        · exact ⟨hbracket, by decide, by decide⟩
        · exact ⟨hdigit, by decide, by decide⟩
      exact ⟨_, readFiltered_stop hdw.1 hdw.2.1 hdw.2.2 (more ++ t), .standIn hwrite hm hs⟩

theorem goes_readFiltered {verbose : Bool} {wanted : Char → Bool} (hw : wanted '\\' = false)
    {b inComment : Bool} {s run after : List Char} {d : Char} (hb : b = true → s = [])
    (h : readFiltered verbose wanted inComment s = (run, d :: after)) (hd : d ≠ '\\') :
    Goes b s after fun t t' => readFiltered verbose wanted inComment t = (run, d :: t') := by
  refine goes_of_spliced hb (fun hs => by rw [hs] at h; cases h) fun φ rest t hs => ?_
  obtain ⟨t₁, ht, hs₁⟩ := hs.filtered hw h (by simp) (by simp [hd])
  obtain ⟨t', rfl, hs'⟩ := hs₁.cons hd
  refine ⟨t', ht, ?_, hs'⟩
  have := readFiltered_suffix verbose wanted t inComment
  rw [ht] at this
  exact (List.suffix_cons d t').trans this

/-! ## Escapes -/

theorem goes_hexDigits {verbose : Bool} : ∀ (n value : Nat) {b : Bool} {s r : List Char} {c : Char},
    (b = true → s = []) → readHexChar.go verbose n value s = some (c, r) →
    Goes b s r fun t t' => readHexChar.go verbose n value t = some (c, t')
  | 0, value, b, s, r, c, hb, h => by
    rw [readHexChar.go] at h
    obtain ⟨x, hx, he⟩ := Option.map_eq_some_iff.1 h
    cases he
    refine (Goes.refl hb).imp fun t t' ht => ?_
    rw [readHexChar.go, hx, ht]
    rfl
  | n + 1, value, b, [], r, c, hb, h => by
    rw [readHexChar.go] at h
    cases h
  | n + 1, value, b, d :: s, r, c, hb, h => by
    rw [readHexChar.go] at h
    split at h
    · rename_i k hk
      have hd : d ≠ '\\' := by
        rintro rfl
        cases hk
      refine (((goes_char hb hd).trans fun _ hb' => goes_skipBlanks hb' verbose).trans
        fun _ hb' => goes_hexDigits n _ hb' h).imp ?_
      rintro t t' ⟨_, ⟨u, rfl, rfl⟩, ht⟩
      rw [readHexChar.go, hk]
      exact ht
    · cases h

theorem goes_readHexChar {verbose : Bool} {n : Nat} {b : Bool} {s r : List Char} {c : Char}
    (hb : b = true → s = []) (h : readHexChar verbose (n + 1) s = some (c, r)) :
    Goes b s r fun t t' => readHexChar verbose (n + 1) t = some (c, t') := by
  have hskip := goes_skipBlanks hb verbose
  unfold readHexChar at h
  split at h
  · rename_i s₁ hs
    rw [hs] at hskip
    split at h
    · cases h
    · rename_i digits s₂ hf hd
      obtain ⟨x, hx, he⟩ := Option.map_eq_some_iff.1 h
      cases he
      refine ((((hskip.trans fun _ hb' => goes_char hb' (by decide)).trans
        fun _ hb' => goes_skipBlanks hb' verbose).trans
        fun _ hb' => goes_readFiltered (by decide) hb' hd (by decide)).trans
        fun _ hb' => goes_skipBlanks hb' verbose).imp ?_
      rintro t t' ⟨u, ⟨_, ⟨_, ⟨v, hv, rfl⟩, rfl⟩, hu⟩, rfl⟩
      unfold readHexChar
      simp only [hv, hu, hx]
      rfl
    · cases h
  · rename_i hs
    refine (hskip.trans fun _ hb' => goes_hexDigits (n + 1) 0 hb' h).imp ?_
    rintro t t' ⟨u, rfl, hu⟩
    unfold readHexChar
    split
    · -- a brace is no digit
      rename_i ht
      rw [ht] at hu
      cases hu
    · exact hu

theorem goes_readBoundary {verbose : Bool} {s r : List Char} {a : Atom}
    (h : readBoundary verbose s = some (a, r)) :
    Goes false s r fun t t' => readBoundary verbose t = some (a, t') := by
  have hfalse {s : List Char} : false = true → s = [] := by simp
  unfold readBoundary at h
  split at h
  · rename_i s₁
    have hbrace := goes_char (s := s₁) hfalse (by decide : '\x7b' ≠ '\\')
    split at h
    · cases h
    · rename_i c inside hs
      have hskip := hbrace.trans fun _ hb' => goes_skipBlanks hb' verbose
      rw [hs] at hskip
      split at h
      · rename_i hc
        have hne : c ≠ '\\' := by
          rintro rfl
          exact absurd hc (by decide)
        split at h
        · rename_i name s₂ hf
          obtain ⟨x, hx, he⟩ := Option.map_eq_some_iff.1 h
          cases he
          refine ((hskip.trans fun _ hb' => goes_peek hb' hne).trans
            fun _ hb' => goes_readFiltered (by decide) hb' hf (by decide)).imp ?_
          rintro t t' ⟨_, ⟨u, ⟨_, rfl, hu⟩, rfl, v, rfl⟩, ht⟩
          simp only [readBoundary, hu, hc, ht, hx]
          rfl
        · cases h
      · rename_i hc
        cases h
        -- braces of another kind are left where they are
        refine ⟨false, by simp, fun φ rest t hl => ⟨t, ?_, List.suffix_refl t, hl⟩⟩
        obtain ⟨b', hb', hgo⟩ := hskip
        obtain ⟨u, ⟨_, rfl, hu⟩, -, hl'⟩ := hgo φ rest t hl
        have hb'' : b' = false := by
          cases b' with
          | false => rfl
          | true => cases hb' rfl
        subst hb''
        obtain ⟨d, u', rfl, hd⟩ := hl'.exists_unwanted (by decide) (Bool.eq_false_iff.2 hc)
        simp only [readBoundary, hu, hd]
        rfl
  · rename_i hs
    cases h
    refine ⟨false, by simp, fun φ rest t hl => ⟨t, ?_, List.suffix_refl t, hl⟩⟩
    show readBoundary verbose t = _
    unfold readBoundary
    split
    · obtain ⟨s', rfl, -⟩ := Spliced.of_cons_of_ne hl (by decide) (by decide) (by decide) (by decide)
      exact absurd rfl (hs s')
    · rfl

variable [PropertyTable]

theorem readProperty_letter {verbose ignoreCase negated : Bool} {c : Char} {s s₁ : List Char}
    (hs : skipBlanks verbose s = c :: s₁) (hc : isAsciiLetter c = true) :
    readProperty verbose ignoreCase negated s =
      (propertyAtom? ignoreCase negated [c]).map (·, skipBlanks verbose s₁) := by
  unfold readProperty
  rw [hs]
  split
  · rename_i he
    cases he
  · rename_i he
    cases he
    exact absurd hc (by decide)
  · rename_i he
    cases he
    rw [if_pos hc]

/-- What ends the name of a property is a `}`, which no shorthand is written out to. -/
theorem goes_readProperty {verbose ignoreCase negated : Bool} {s r : List Char} {a : Atom}
    (h : readProperty verbose ignoreCase negated s = some (a, r)) :
    Goes false s r fun t t' => readProperty verbose ignoreCase negated t = some (a, t') := by
  have hskip := goes_skipBlanks (b := false) (s := s) (by simp) verbose
  unfold readProperty at h
  split at h
  · cases h
  · rename_i s₁ hs
    rw [hs] at hskip
    split at h
    · rename_i name s₂ hf
      obtain ⟨x, hx, he⟩ := Option.map_eq_some_iff.1 h
      cases he
      have hwanted : isPropertyChar verbose '\\' = false := by cases verbose <;> rfl
      refine ((hskip.trans fun _ hb' => goes_char hb' (by decide)).trans
        fun _ hb' => goes_readFiltered hwanted hb' hf (by decide)).imp ?_
      rintro t t' ⟨_, ⟨u, hu, rfl⟩, ht⟩
      simp only [readProperty, hu, ht, hx]
      rfl
    · cases h
  · rename_i c s₁ _ hs
    rw [hs] at hskip
    split at h
    · rename_i hc
      obtain ⟨x, hx, he⟩ := Option.map_eq_some_iff.1 h
      cases he
      have hne : c ≠ '\\' := by
        rintro rfl
        exact absurd hc (by decide)
      refine ((hskip.trans fun _ hb' => goes_char hb' hne).trans
        fun _ hb' => goes_skipBlanks hb' verbose).imp ?_
      rintro t t' ⟨u, ⟨_, hu, rfl⟩, rfl⟩
      rw [readProperty_letter hu hc, hx]
      rfl
    · cases h

/-- The character after the backslash is given. -/
theorem goes_readEscape {shorthands : Shorthands} {verbose ignoreCase : Bool} {c : Char}
    {s r : List Char} {a : Atom}
    (h : readEscape shorthands verbose ignoreCase (c :: s) = some (a, r)) :
    Goes false s r fun t t' =>
      readEscape shorthands verbose ignoreCase (c :: t) = some (a, t') := by
  have hfalse {s : List Char} : false = true → s = [] := by simp
  simp only [readEscape] at h ⊢
  split at h
  · rename_i set hset
    cases h
    exact (Goes.refl hfalse).imp fun t t' ht => by rw [ht]
  · split at h
    · obtain ⟨⟨d, r'⟩, hd, he⟩ := Option.map_eq_some_iff.1 h
      cases he
      exact (goes_readHexChar hfalse hd).imp fun t t' ht => by rw [ht]; rfl
    · obtain ⟨⟨d, r'⟩, hd, he⟩ := Option.map_eq_some_iff.1 h
      cases he
      exact (goes_readHexChar hfalse hd).imp fun t t' ht => by rw [ht]; rfl
    · obtain ⟨⟨d, r'⟩, hd, he⟩ := Option.map_eq_some_iff.1 h
      cases he
      exact (goes_readHexChar hfalse hd).imp fun t t' ht => by rw [ht]; rfl
    · exact goes_readBoundary h
    · exact goes_readProperty h
    · exact goes_readProperty h
    · obtain ⟨x, hx, he⟩ := Option.map_eq_some_iff.1 h
      cases he
      exact (Goes.refl hfalse).imp fun t t' ht => by rw [hx, ht]; rfl

end UriRouter.Regex
