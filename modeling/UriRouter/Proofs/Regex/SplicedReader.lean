import UriRouter.Proofs.Regex.Reading
import UriRouter.Proofs.Regex.SplicedBracket

/-!
# Expressions put between parentheses

A text that is an expression by itself is put between parentheses in a larger one. Reading the
larger text comes, after the text, to the parenthesis that was put there, in the group that was
open before the text; unless the text ends inside a comment, which takes the parenthesis along.

* `Alike`, `StateRelation` : the reader's state in the text, and in the larger one;
* `Turns`, `Embeds` : what a turn comes to in the larger text, and all turns to the end;
* `embeds_of_readFrom` : where the reader gets to in the larger text;
* `endsInComment` : whether a comment takes the parenthesis along;
* `Ends.of_spliced`, `Ends.of_comment` : what is left of the larger text, and which group is open.
-/

set_option autoImplicit false

namespace UriRouter.Regex

open UriRouter.Text

namespace ReaderState

/-! ## States -/

/-- The groups that are open in the larger text are those of the text and, around them, those that
were open in `base`, where the text begins; and so with the names that have been given. Of the parts
read so far only the last one counts, and only whether it can be repeated. -/
structure Alike (base st st' : ReaderState) : Prop where
  flags : st'.flags = st.flags
  outer : ∃ groups, st'.outer = groups ++ base.outer ∧
    groups.map (·.flags) = st.outer.map (·.flags)
  names : st'.names = st.names ++ base.names
  last : st'.items.head?.map (·.repeatable) = st.items.head?.map (·.repeatable)

variable {φ : Writing} {shorthands : Shorthands} {base st st' st₁ : ReaderState}

/-- The text may begin in any group, before its first part. -/
theorem alike_base (hf : base.flags = {}) (hi : base.items = []) : Alike base {} base :=
  ⟨hf, ⟨[], rfl, rfl⟩, rfl, by rw [hi]⟩

theorem Alike.push (h : Alike base st st') {p p' : Part} (hp : p'.repeatable = p.repeatable) :
    Alike base (st.push p) (st'.push p') :=
  ⟨h.flags, h.outer, h.names, by simp [ReaderState.push, hp]⟩

theorem Alike.nextBranch (h : Alike base st st') : Alike base st.nextBranch st'.nextBranch :=
  ⟨h.flags, h.outer, h.names, rfl⟩

theorem Alike.openGroup (h : Alike base st st') (kind kind' : GroupKind) (flags : Flags) :
    Alike base (st.openGroup kind flags) (st'.openGroup kind' flags) := by
  obtain ⟨groups, ho, hf⟩ := h.outer
  refine ⟨rfl, ⟨⟨kind', st'.items, st'.branches, st'.flags⟩ :: groups, ?_, ?_⟩, h.names, rfl⟩
  · simp [ReaderState.openGroup, ho]
  · simp [ReaderState.openGroup, hf, h.flags]

theorem Alike.closeGroup? (h : Alike base st st') (hc : st.closeGroup? = some st₁) :
    ∃ st₁', st'.closeGroup? = some st₁' ∧ Alike base st₁ st₁' := by
  obtain ⟨groups, ho, hf⟩ := h.outer
  unfold ReaderState.closeGroup? at hc ⊢
  split at hc
  · cases hc
  · rename_i group outer hout
    cases hc
    cases groups with
    | nil => simp [hout] at hf
    | cons group' groups =>
      simp only [hout, List.map_cons, List.cons.injEq] at hf
      rw [ho]
      exact ⟨_, rfl, hf.1, ⟨groups, rfl, hf.2⟩, h.names, rfl⟩

theorem Alike.outer_of_nil (h : Alike base st st') (ho : st.outer = []) :
    st'.outer = base.outer := by
  obtain ⟨groups, hout, hflags⟩ := h.outer
  rw [ho] at hflags
  obtain rfl := List.map_eq_nil_iff.1 hflags
  exact hout

theorem Alike.repeatLast? (h : Alike base st st') {min : Nat} {max : Option Nat} {greedy : Bool}
    (hr : st.repeatLast? min max greedy = some st₁) (greedy' : Bool) :
    ∃ st₁', st'.repeatLast? min max greedy' = some st₁' ∧ Alike base st₁ st₁' := by
  have hl := h.last
  unfold ReaderState.repeatLast? at hr ⊢
  split at hr
  · cases hr
  · rename_i p items hi
    split at hr
    · rename_i hp
      cases hr
      cases hi' : st'.items with
      | nil => simp [hi, hi'] at hl
      | cons p' items' =>
        simp only [hi, hi', List.head?_cons, Option.map_some, Option.some.injEq] at hl
        rw [hp] at hl
        simp only [hl, ↓reduceIte]
        exact ⟨_, rfl, h.flags, h.outer, h.names, rfl⟩
    · cases hr

/-- How states in the text go with those in the larger text, where the text begins in `base`. States
that go together are alike, and the relation is kept by whatever is done to both of them. -/
structure StateRelation where
  holds : ReaderState → ReaderState → ReaderState → Prop
  alike : ∀ {base st st'}, holds base st st' → Alike base st st'
  push : ∀ {base st st'} p, holds base st st' → holds base (st.push p) (st'.push p)
  nextBranch : ∀ {base st st'}, holds base st st' → holds base st.nextBranch st'.nextBranch
  openGroup : ∀ {base st st'} kind flags, holds base st st' →
    holds base (st.openGroup kind flags) (st'.openGroup kind flags)
  giveName : ∀ {base st st'} name, holds base st st' →
    holds base { st with names := name :: st.names } { st' with names := name :: st'.names }
  setFlags : ∀ {base st st'} flags, holds base st st' →
    holds base { st with flags := flags } { st' with flags := flags }
  closeGroup? : ∀ {base st st' st₁}, holds base st st' → st.closeGroup? = some st₁ →
    ∃ st₁', st'.closeGroup? = some st₁' ∧ holds base st₁ st₁'
  repeatLast? : ∀ {base st st' st₁ min max greedy}, holds base st st' →
    st.repeatLast? min max greedy = some st₁ →
    ∃ st₁', st'.repeatLast? min max greedy = some st₁' ∧ holds base st₁ st₁'

/-- No more is said of states than that they are alike. -/
def StateRelation.likeness : StateRelation where
  holds := Alike
  alike h := h
  push _ h := h.push rfl
  nextBranch h := h.nextBranch
  openGroup kind flags h := h.openGroup kind kind flags
  giveName name h := ⟨h.flags, h.outer, congrArg (name :: ·) h.names, h.last⟩
  setFlags _ h := ⟨rfl, h.outer, h.names, h.last⟩
  closeGroup? h := h.closeGroup?
  repeatLast? h hr := h.repeatLast? hr _

variable {L : StateRelation}

theorem StateRelation.pushAtom (h : L.holds base st st') (a : Atom) :
    L.holds base (st.pushAtom a) (st'.pushAtom a) := by
  cases a with
  | char c =>
    rw [ReaderState.pushAtom, ReaderState.pushAtom, (L.alike h).flags]
    exact L.push _ h
  | set s => exact L.push _ h
  | assertion a => exact L.push _ h

/-- What becomes of the relation: once a comment that the text leaves open has been `skipped`, the
states are no more than alike. -/
def StateRelation.after (L : StateRelation) (skipped : Bool) (base st st' : ReaderState) : Prop :=
  if skipped then Alike base st st' else L.holds base st st'

theorem StateRelation.after_of_holds (h : L.holds base st st') (skipped : Bool) :
    L.after skipped base st st' := by
  cases skipped with
  | false => exact h
  | true => exact L.alike h

theorem StateRelation.after_alike {skipped : Bool} (h : L.after skipped base st st') :
    Alike base st st' := by
  cases skipped with
  | false => exact L.alike h
  | true => exact h

/-! ## Repetitions -/

/-- A step in the text is one in the larger text. There a name may be taken already. -/
def Follows? (L : StateRelation) (f : ReaderState → List Char → Option (ReaderState × List Char))
    (st st₁ : ReaderState) (skipped : Bool) (t t' : List Char) : Prop :=
  ∀ base st', L.holds base st st' → (base.names ≠ [] ∧ f st' t = none) ∨
    ∃ st₁', f st' t = some (st₁', t') ∧ L.after skipped base st₁ st₁'

theorem goes_stepRepeat {b : Bool} {s r : List Char} {min : Nat} {max : Option Nat}
    (hb : b = true → s = []) (h : st.stepRepeat min max s = some (st₁, r)) :
    GoesWith b s r (Follows? L (fun st t => st.stepRepeat min max t) st st₁) := by
  unfold stepRepeat at h
  split at h
  · rename_i s₁
    obtain ⟨st₂, hr, he⟩ := Option.map_eq_some_iff.1 h
    cases he
    refine GoesWith.imp (goes_char hb (by decide)) ?_
    rintro after t t' rfl base st' ha
    obtain ⟨st₁', hr', ha'⟩ := L.repeatLast? ha hr
    exact .inr ⟨st₁', by simp [stepRepeat, hr'], L.after_of_holds ha' after⟩
  · rename_i hno
    obtain ⟨st₂, hr, he⟩ := Option.map_eq_some_iff.1 h
    cases he
    refine ⟨b, hb, fun φ rest t hl => ?_⟩
    -- a `?` comes only after a comment that has been skipped
    by_cases ht : ∃ u, t = '?' :: u
    · obtain ⟨u, rfl⟩ := ht
      cases b with
      | false =>
        obtain ⟨s', rfl, -⟩ :=
          Spliced.of_cons_of_ne hl (by decide) (by decide) (by decide) (by decide)
        exact absurd rfl (hno s')
      | true =>
        have hsuf := List.suffix_cons '?' u
        have hrem : Remains u (skipBlanksFrom true (')' :: rest)) :=
          ⟨hsuf.trans hl.2.1, fun hn => absurd rfl (hl.2.2 hn ▸ hn)⟩
        refine ⟨u, fun base st' ha => ?_, hsuf, hl.1, hrem⟩
        obtain ⟨st₁', hr', ha'⟩ := (L.alike ha).repeatLast? hr false
        exact .inr ⟨st₁', by simp [stepRepeat, hr'], ha'⟩
    · refine ⟨t, fun base st' ha => ?_, List.suffix_refl t, hl⟩
      obtain ⟨st₁', hr', ha'⟩ := L.repeatLast? ha hr
      refine .inr ⟨st₁', ?_, L.after_of_holds ha' b⟩
      show st'.stepRepeat min max t = _
      unfold stepRepeat
      split
      · rename_i u
        exact absurd ⟨u, rfl⟩ ht
      · rw [hr']
        rfl

theorem goes_dropBlanks {b : Bool} {s : List Char} (hb : b = true → s = []) :
    Goes b s (s.dropWhile isBlank) fun t t' => t.dropWhile isBlank = t' := by
  cases b with
  | true =>
    obtain rfl := hb rfl
    refine ⟨true, by simp, fun φ rest t hl => ?_⟩
    have hsuf := List.dropWhile_suffix (l := t) isBlank
    exact ⟨_, rfl, hsuf, rfl, hl.2.skip hsuf (dropBlanks_skipBlanksFrom _ _)⟩
  | false =>
    exact ⟨false, by simp, fun φ rest t hl =>
      ⟨_, rfl, List.dropWhile_suffix isBlank, Spliced.dropBlanks hl⟩⟩

theorem goes_readDecimal {b verbose : Bool} {s r : List Char} {n : Nat} {d : Char}
    (hb : b = true → s = []) (h : readDecimal verbose s = some (n, d :: r)) (hd : d ≠ '\\') :
    Goes b s r fun t t' => readDecimal verbose t = some (n, d :: t') := by
  unfold readDecimal at h
  split at h
  · cases h
  · rename_i digits s₁ hdig hf
    simp only at h
    split at h
    · rename_i hlt
      have hblanks := goes_dropBlanks hb
      simp only [Option.some.injEq, Prod.mk.injEq] at h
      obtain ⟨rfl, he⟩ := h
      cases digits with
      | nil => exact absurd rfl hdig
      | cons x₁ digits =>
        cases s₁ with
        | nil => cases he
        | cons x s₁ =>
          by_cases hx : isBlank x
          · have hne : x ≠ '\\' := by
              rintro rfl
              exact absurd hx (by decide)
            rw [List.dropWhile_cons, if_pos hx] at he
            refine (((hblanks.trans fun _ hb' => goes_readFiltered (by decide) hb' hf hne).trans
              fun _ hb' => goes_dropBlanks hb').trans
                fun _ hb' => he ▸ goes_char (he ▸ hb') hd).imp ?_
            rintro t t' ⟨_, ⟨u, ⟨_, rfl, hu⟩, rfl⟩, ht⟩
            simp only [readDecimal, hu, hlt, List.dropWhile_cons, hx, ht]
            rfl
          · rw [List.dropWhile_cons, if_neg hx] at he
            cases he
            refine (hblanks.trans fun _ hb' => goes_readFiltered (by decide) hb' hf hd).imp ?_
            rintro t t' ⟨_, rfl, hu⟩
            simp only [readDecimal, hu, hlt, List.dropWhile_cons, hx]
            rfl
    · cases h

theorem goes_readBounds {b verbose : Bool} {s r : List Char} {min : Nat} {max : Option Nat}
    (hb : b = true → s = []) (h : readBounds verbose s = some (min, max, r)) :
    Goes b s r fun t t' => readBounds verbose t = some (min, max, t') := by
  have hskip := goes_skipBlanks hb verbose
  unfold readBounds at h
  split at h
  · cases h
  · rename_i hmin
    cases h
    refine (hskip.trans fun _ hb' => goes_readDecimal hb' hmin (by decide)).imp ?_
    rintro t t' ⟨_, rfl, hu⟩
    simp only [readBounds, hu]
  · rename_i n s₁ hmin
    have hcomma := (hskip.trans fun _ hb' => goes_readDecimal hb' hmin (by decide)).trans
      fun _ hb' => goes_skipBlanks hb' verbose
    split at h
    · rename_i s₂ hs₂
      cases h
      rw [hs₂] at hcomma
      refine (hcomma.trans fun _ hb' => goes_char hb' (by decide)).imp ?_
      rintro t t' ⟨_, ⟨u, ⟨_, rfl, hu⟩, ht⟩, rfl⟩
      simp only [readBounds, hu, ht]
    · rename_i hno
      split at h
      · rename_i n' s₂ hmax
        split at h
        · rename_i hle
          cases h
          refine (hcomma.trans fun _ hb' => goes_readDecimal hb' hmax (by decide)).imp ?_
          rintro t t' ⟨_, ⟨u, ⟨_, rfl, hu⟩, rfl⟩, ht⟩
          simp only [readBounds, hu]
          split
          · -- no number begins with a brace
            rename_i he
            rw [he] at ht
            cases verbose <;> cases ht
          · simp only [ht, hle]
            rfl
        · cases h
      · cases h
  · cases h

/-! ## The beginning of a group -/

theorem goes_readName {b : Bool} : ∀ {s name r : List Char} {first : Bool}, (b = true → s = []) →
    readName first s = some (name, r) →
    Goes b s r fun t t' => readName first t = some (name, t')
  | [], name, r, first, hb, h => by cases h
  | c :: s, name, r, first, hb, h => by
    rw [readName] at h
    split at h
    · rename_i hc
      cases h
      rw [beq_iff_eq] at hc
      subst hc
      refine (goes_char hb (by decide)).imp ?_
      rintro t t' rfl
      rfl
    · rename_i hc
      split at h
      · rename_i hn
        obtain ⟨⟨name', r'⟩, hr, he⟩ := Option.map_eq_some_iff.1 h
        cases he
        have hne : c ≠ '\\' := by
          rintro rfl
          cases first <;> exact absurd hn (by decide)
        have hb₀ : b = false := Bool.eq_false_iff.2 fun h => by cases hb h
        subst hb₀
        obtain ⟨b', hb', hgo⟩ := goes_readName (b := false) (by simp) hr
        refine ⟨b', hb', fun φ rest t hl => ?_⟩
        obtain ⟨t₁, rfl, hl₁⟩ := Spliced.cons hl hne
        obtain ⟨t', ht, hsuf, hl'⟩ := hgo φ rest t₁ hl₁
        refine ⟨t', ?_, hsuf.trans (List.suffix_cons c t₁), hl'⟩
        show readName first (c :: t₁) = _
        rw [readName, if_neg hc, if_pos hn, ht]
        rfl
      · cases h

theorem goes_readFlags {b : Bool} : ∀ {s r : List Char} {text text' : FlagText} {d : Char},
    (b = true → s = []) → readFlags text s = some (text', d, r) →
    Goes b s r fun t t' => readFlags text t = some (text', d, t')
  | [], r, text, text', d, hb, h => by cases h
  | c :: s, r, text, text', d, hb, h => by
    have hne : c ≠ '\\' := by
      rintro rfl
      simp [readFlags, Flags.set?] at h
    have hchar := goes_char hb hne
    unfold readFlags at h
    split at h
    · rename_i hc
      cases h
      refine hchar.imp ?_
      rintro t t' rfl
      unfold readFlags
      rw [if_pos hc]
    · rename_i hc
      split at h
      · rename_i hm
        split at h
        · cases h
        · rename_i x s
          split at h
          · cases h
          · rename_i hx
            have hne' : x ≠ '\\' := by
              rintro rfl
              simp [readFlags, Flags.set?] at h
            refine ((hchar.trans fun _ hb' => goes_peek hb' hne').trans
              fun _ hb' => goes_readFlags hb' h).imp ?_
            rintro t t' ⟨_, ⟨_, rfl, rfl, u, rfl⟩, ht⟩
            unfold readFlags
            simp only [hc, hm, hx, ht]
            rfl
      · rename_i hm
        split at h
        · cases h
        · rename_i hl
          split at h
          · cases h
          · rename_i flags hf
            refine (hchar.trans fun _ hb' => goes_readFlags hb' h).imp ?_
            rintro t t' ⟨_, rfl, ht⟩
            unfold readFlags
            simp only [hc, hm, hl, hf, ht]
            rfl

theorem goes_openNamed? {b : Bool} {s r : List Char} (hb : b = true → s = [])
    (h : st.openNamed? s = some (st₁, r)) : GoesWith b s r (Follows? L openNamed? st st₁) := by
  unfold openNamed? at h
  split at h
  · cases h
  · rename_i name s₁ hn
    split at h
    · cases h
    · rename_i hfree
      cases h
      refine GoesWith.imp (goes_readName hb hn) fun after t t' ht base st' ha => ?_
      have hlike := L.alike ha
      unfold openNamed?
      simp only [ht]
      split
      · rename_i htaken
        refine .inl ⟨fun hbase => hfree ?_, rfl⟩
        rwa [hlike.names, hbase, List.append_nil] at htaken
      · right
        have hopen := L.giveName (String.ofList name)
          (L.openGroup (.noting (some (String.ofList name))) st.flags ha)
        exact ⟨_, rfl, L.after_of_holds (hlike.flags ▸ hopen) after⟩

/-- Flags begin with no `P` and no `<`. -/
theorem ne_of_readFlags {u : List Char} {x : FlagText × Char × List Char}
    (hu : readFlags { flags := st.flags } u = some x) :
    (∀ v, u ≠ 'P' :: '<' :: v) ∧ ∀ v, u ≠ '<' :: v := by
  refine ⟨?_, ?_⟩
  · rintro v rfl
    simp [readFlags, Flags.set?] at hu
  · rintro v rfl
    simp [readFlags, Flags.set?] at hu

theorem stepOpen_setFlags {s u r : List Char} {text : FlagText}
    (hs : skipBlanks st.flags.verbose s = '?' :: u)
    (hu : readFlags { flags := st.flags } u = some (text, ')', r))
    (hl : text.letters.isEmpty = false) :
    st.stepOpen s =
      some ({ st with flags := text.flags, items := ⟨.empty, 0, false⟩ :: st.items }, r) := by
  obtain ⟨hP, hless⟩ := ne_of_readFlags hu
  unfold stepOpen
  rw [hs]
  split
  · rename_i he
    cases he
    exact absurd rfl (hP _)
  · rename_i he
    cases he
    exact absurd rfl (hless _)
  · rename_i he
    cases he
    simp [hu, hl]
  · rename_i hno
    exact absurd rfl (hno u)

theorem stepOpen_plain {s u r : List Char} {text : FlagText} {d : Char}
    (hs : skipBlanks st.flags.verbose s = '?' :: u)
    (hu : readFlags { flags := st.flags } u = some (text, d, r)) (hd : d ≠ ')') :
    st.stepOpen s = some (st.openGroup .plain text.flags, r) := by
  obtain ⟨hP, hless⟩ := ne_of_readFlags hu
  unfold stepOpen
  rw [hs]
  split
  · rename_i he
    cases he
    exact absurd rfl (hP _)
  · rename_i he
    cases he
    exact absurd rfl (hless _)
  · rename_i he
    cases he
    simp [hu]
  · rename_i hno
    exact absurd rfl (hno u)

theorem goes_stepOpen {b : Bool} {s r : List Char} (hb : b = true → s = [])
    (hs : skipBlanks st.flags.verbose s ≠ []) (h : st.stepOpen s = some (st₁, r)) :
    GoesWith b s r (Follows? L stepOpen st st₁) := by
  have hskip := goes_skipBlanks hb st.flags.verbose
  unfold stepOpen at h
  split at h
  · rename_i s₁ he
    rw [he] at hskip
    refine ((((hskip.trans fun _ hb' => goes_char hb' (by decide)).trans
      fun _ hb' => goes_char hb' (by decide)).trans
      fun _ hb' => goes_char hb' (by decide)).transWith fun _ hb' => goes_openNamed? (L := L) hb' h).imp ?_
    rintro after t t' ⟨_, ⟨_, ⟨_, ⟨_, ht, rfl⟩, rfl⟩, rfl⟩, hopen⟩ base st' ha
    unfold stepOpen
    rw [(L.alike ha).flags, ht]
    exact hopen base st' ha
  · rename_i s₁ he
    rw [he] at hskip
    refine (((hskip.trans fun _ hb' => goes_char hb' (by decide)).trans
      fun _ hb' => goes_char hb' (by decide)).transWith fun _ hb' => goes_openNamed? (L := L) hb' h).imp ?_
    rintro after t t' ⟨_, ⟨_, ⟨_, ht, rfl⟩, rfl⟩, hopen⟩ base st' ha
    unfold stepOpen
    rw [(L.alike ha).flags, ht]
    exact hopen base st' ha
  · rename_i s₁ hP hL he
    rw [he] at hskip
    have hmark := hskip.trans fun _ hb' => goes_char hb' (by decide)
    split at h
    · cases h
    · rename_i text after hf
      split at h
      · cases h
      · rename_i hl
        cases h
        refine GoesWith.imp (hmark.trans fun _ hb' => goes_readFlags hb' hf) ?_
        rintro after t t' ⟨u, ⟨_, ht, rfl⟩, hu⟩ base st' ha
        rw [Bool.not_eq_true] at hl
        rw [← (L.alike ha).flags] at ht hu
        exact .inr ⟨_, stepOpen_setFlags ht hu hl,
          L.after_of_holds (L.setFlags _ (L.push _ ha)) after⟩
    · rename_i text d after hd hf
      cases h
      refine GoesWith.imp (hmark.trans fun _ hb' => goes_readFlags hb' hf) ?_
      rintro after t t' ⟨u, ⟨_, ht, rfl⟩, hu⟩ base st' ha
      rw [← (L.alike ha).flags] at ht hu
      exact .inr ⟨_, stepOpen_plain ht hu hd, L.after_of_holds (L.openGroup .plain _ ha) after⟩
  · rename_i hno
    cases h
    obtain ⟨b', hb', hgo⟩ := hskip
    refine ⟨b', hb', fun φ rest t hl => ?_⟩
    obtain ⟨t', ht, hsuf, hl'⟩ := hgo φ rest t hl
    refine ⟨t', fun base st' ha => .inr ?_, hsuf, hl'⟩
    have hb₀ : b' = false := Bool.eq_false_iff.2 fun h => hs (hb' h)
    subst hb₀
    have hq : ∀ u, t' ≠ '?' :: u := by
      rintro u rfl
      obtain ⟨s', he, -⟩ := Spliced.of_cons_of_ne hl' (by decide) (by decide) (by decide) (by decide)
      exact hno s' he
    unfold stepOpen
    rw [(L.alike ha).flags, ht]
    split
    · exact absurd rfl (hq _)
    · exact absurd rfl (hq _)
    · exact absurd rfl (hq _)
    · exact ⟨_, rfl, L.openGroup (.noting none) _ ha⟩

/-! ## Plain text -/

/-- A character that stands for itself where no bracket is open. -/
def isPlain (c : Char) : Bool :=
  !isBlank c && !(['(', ')', '|', '[', '?', '*', '+', '\x7b', '\\', '.', '^', '$', '#'].contains c)

/-- What is not written in a bracket is plain text. -/
theorem all_isPlain_of_standIn {c : Char} {text : List Char} (hm : text ∈ standIns c)
    (hopen : text.head? ≠ some '[') : text.all isPlain = true := by
  unfold standIns at hm
  split at hm
  · simp only [List.mem_cons, List.not_mem_nil, or_false] at hm
    rcases hm with rfl | rfl
    · exact absurd rfl hopen
    · decide
  · simp only [List.mem_cons, List.not_mem_nil, or_false] at hm
    rcases hm with rfl | rfl
    · exact absurd rfl hopen
    · decide
  · cases hm

/-- The reader has got through a shorthand: all but the sequence is as it was, and the last part can
be repeated. -/
structure Passed (st st₁ : ReaderState) : Prop where
  flags : st₁.flags = st.flags
  outer : st₁.outer = st.outer
  names : st₁.names = st.names
  last : st₁.items.head?.map (·.repeatable) = some true

theorem passed_push (st : ReaderState) (e : Expr) (depth : Nat) :
    Passed st (st.push ⟨e, depth, true⟩) :=
  ⟨rfl, rfl, rfl, rfl⟩

theorem Passed.trans {st st₁ st₂ : ReaderState} (h : Passed st st₁) (h' : Passed st₁ st₂) :
    Passed st st₂ :=
  ⟨h'.flags.trans h.flags, h'.outer.trans h.outer, h'.names.trans h.names, h'.last⟩

theorem Alike.pass (h : Alike base st st') (hp : Passed st' st₁) (set : CharSet) :
    Alike base (st.pushAtom (.set set)) st₁ :=
  ⟨hp.flags.trans h.flags, hp.outer ▸ h.outer, hp.names.trans h.names, hp.last⟩

/-! ## One construct -/

theorem goes_push {b : Bool} {s : List Char} (hb : b = true → s = [])
    {f : ReaderState → ReaderState}
    (hf : ∀ base st', L.holds base st st' → L.holds base (f st) (f st')) :
    GoesWith b s s (Follows? L (fun st t => some (f st, t)) st (f st)) := by
  refine GoesWith.imp (Goes.refl hb) ?_
  rintro after t t' rfl base st' ha
  exact .inr ⟨_, rfl, L.after_of_holds (hf base st' ha) after⟩

variable [PropertyTable]

/-- A group that the text does not go on with stays open. -/
theorem skipBlanks_ne_nil_of_stepOpen {c : Char} {s s₁ : List Char} (hend : s₁ = [] → st₁.outer = [])
    (h : st.step shorthands c s = some (st₁, s₁)) (hc : c = '(') :
    skipBlanks st.flags.verbose s ≠ [] := by
  subst hc
  intro hskip
  have hopen : st.stepOpen s = some (st.openGroup (.noting none) st.flags, []) := by
    simp [stepOpen, hskip]
  have h' : st.stepOpen s = some (st₁, s₁) := h
  rw [hopen] at h'
  cases h'
  exact absurd (hend rfl) (by simp [openGroup])

/-- A construct other than an escape or a bracket. -/
theorem goes_step {b : Bool} {c : Char} {s r : List Char} (hb : b = true → s = []) (hc : c ≠ '\\')
    (hbracket : c ≠ '[') (hopen : c = '(' → skipBlanks st.flags.verbose s ≠ [])
    (h : st.step shorthands c s = some (st₁, r)) :
    GoesWith b s r (Follows? L (fun st t => st.step .unicode c t) st st₁) := by
  unfold step at h
  split at h
  · exact goes_stepOpen hb (hopen rfl) h
  · obtain ⟨st₂, hclose, he⟩ := Option.map_eq_some_iff.1 h
    cases he
    refine GoesWith.imp (Goes.refl hb) ?_
    rintro after t t' rfl base st' ha
    obtain ⟨st₁', hclose', ha'⟩ := L.closeGroup? ha hclose
    exact .inr ⟨st₁', by simp [step, hclose'], L.after_of_holds ha' after⟩
  · cases h
    exact goes_push hb fun base st' ha => L.nextBranch ha
  · exact absurd rfl hbracket
  · exact goes_stepRepeat hb h
  · exact goes_stepRepeat hb h
  · exact goes_stepRepeat hb h
  · split at h
    · rename_i min max s₁ hbounds
      refine (((goes_readBounds hb hbounds).trans fun _ hb' => goes_skipBlanks hb' _).transWith
        fun _ hb' => goes_stepRepeat (L := L) hb' h).imp ?_
      rintro after t t' ⟨_, ⟨u, hu, rfl⟩, ht⟩ base st' ha
      have := ht base st' ha
      simp only [step, (L.alike ha).flags, hu]
      exact this
    · cases h
  · exact absurd rfl hc
  · cases h
    refine goes_push hb fun base st' ha => ?_
    rw [(L.alike ha).flags]
    exact L.push _ ha
  · cases h
    refine goes_push (f := fun st => st.pushAtom (.assertion st.flags.startAssertion)) hb
      fun base st' ha => ?_
    rw [(L.alike ha).flags]
    exact L.pushAtom ha _
  · cases h
    refine goes_push (f := fun st => st.pushAtom (.assertion st.flags.endAssertion)) hb
      fun base st' ha => ?_
    rw [(L.alike ha).flags]
    exact L.pushAtom ha _
  · cases h
    refine GoesWith.imp (Goes.refl hb) ?_
    rintro after t t' rfl base st' ha
    exact .inr ⟨st'.pushAtom (.char c), by simp [step],
      L.after_of_holds (L.pushAtom ha (.char c)) after⟩

/-! ## Shorthands that are written out -/

theorem advance_plain {c : Char} (hc : isPlain c = true) (st : ReaderState) (t : List Char) :
    st.advance .unicode (c :: t) = some (st.pushAtom (.char c), t) := by
  simp only [isPlain, Bool.and_eq_true, Bool.not_eq_true', List.contains_eq_mem, List.mem_cons,
    List.not_mem_nil, or_false, decide_eq_false_iff_not, not_or] at hc
  obtain ⟨hb, h₁, h₂, h₃, h₄, h₅, h₆, h₇, h₈, h₉, h₁₀, h₁₁, h₁₂, h₁₃⟩ := hc
  have hskip : skipBlanks st.flags.verbose (c :: t) = c :: t := by
    cases st.flags.verbose with
    | false => rfl
    | true => exact skipBlanksFrom_stop hb h₁₃ t
  simp [advance, hskip, step]

theorem reaches_plain {text : List Char} (h : text.all isPlain = true) (hne : text ≠ [])
    (st : ReaderState) (t : List Char) :
    ∃ n st₁, n ≤ text.length ∧ Reaches .unicode n st (text ++ t) st₁ t ∧ Passed st st₁ := by
  induction text generalizing st with
  | nil => exact absurd rfl hne
  | cons c text ih =>
    rw [List.all_cons, Bool.and_eq_true] at h
    have hstep := advance_plain h.1 st (text ++ t)
    cases text with
    | nil => exact ⟨1, _, Nat.le_refl _, .one hstep, passed_push _ _ _⟩
    | cons d text =>
      obtain ⟨n, st₁, hn, hr, hp⟩ := ih h.2 (by simp) (st.pushAtom (.char c))
      exact ⟨n + 1, st₁, Nat.succ_le_succ hn, .turn hstep hr, (passed_push _ _ _).trans hp⟩

/-- A bracket that is written for a shorthand is read in one turn. -/
theorem reaches_spelled {c : Char} {text : List Char} (hm : text ∈ standIns c)
    (hopen : text.head? = some '[') (st : ReaderState) (t : List Char) :
    Reaches .unicode 1 st (text ++ t) (st.push ⟨.chars (spelledBracket st.flags.ignoreCase c).set,
      (spelledBracket st.flags.ignoreCase c).nesting, true⟩) t := by
  obtain ⟨u, rfl, hu⟩ : ∃ u, text = '[' :: u ∧ ∀ verbose ignoreCase,
      readBracket .unicode verbose ignoreCase (u ++ t) = some (spelledBracket ignoreCase c, t) := by
    unfold standIns at hm
    split at hm
    · simp only [List.mem_cons, List.not_mem_nil, or_false] at hm
      rcases hm with rfl | rfl
      · exact ⟨_, rfl, fun verbose ignoreCase => by cases verbose <;> cases ignoreCase <;> rfl⟩
      · cases hopen
    · simp only [List.mem_cons, List.not_mem_nil, or_false] at hm
      rcases hm with rfl | rfl
      · exact ⟨_, rfl, fun verbose ignoreCase => by cases verbose <;> cases ignoreCase <;> rfl⟩
      · cases hopen
    · cases hm
  have hskip : skipBlanks st.flags.verbose ('[' :: u ++ t) = '[' :: u ++ t := by
    cases st.flags.verbose <;> rfl
  refine .one ?_
  rw [advance, hskip]
  simp [step, hu]

/-- A shorthand that is written out comes to some parts of which the last can be repeated. -/
theorem reaches_standIn {c : Char} {text : List Char} (hm : text ∈ standIns c) (st : ReaderState)
    (t : List Char) :
    ∃ n st₁, n ≤ text.length ∧ Reaches .unicode n st (text ++ t) st₁ t ∧ Passed st st₁ := by
  obtain ⟨-, -, d, more, rfl, -⟩ := mem_standIns hm
  by_cases hopen : (d :: more).head? = some '['
  · exact ⟨1, _, by simp, reaches_spelled hm hopen st t, passed_push _ _ _⟩
  · exact reaches_plain (all_isPlain_of_standIn hm hopen) (by simp) st t

/-! ## Whole texts -/

/-- Reading a text to its end leads from one state to another. -/
def Ends (st : ReaderState) (s : List Char) (final : ReaderState) : Prop :=
  ∃ n, readFrom .unicode n st s = some final

theorem Ends.of_reaches {n : Nat} {st st₁ final : ReaderState} {s s₁ : List Char}
    (h : Ends st s final) (hr : Reaches .unicode n st s st₁ s₁) : Ends st₁ s₁ final := by
  obtain ⟨m, hm⟩ := h
  exact ⟨m, hr.readFrom_eq hm⟩

theorem Ends.of_nil {st final : ReaderState} (h : Ends st [] final) : final = st := by
  obtain ⟨n, hn⟩ := h
  exact eq_of_readFrom_nil hn

theorem Ends.turn {st final : ReaderState} {s : List Char} (h : Ends st s final)
    (hs : skipBlanks st.flags.verbose s ≠ []) :
    ∃ st₁ s₁, st.advance .unicode s = some (st₁, s₁) ∧ Ends st₁ s₁ final := by
  obtain ⟨n, hn⟩ := h
  rcases readFrom_cases hn with ⟨he, -⟩ | ⟨m, st₁, s₁, -, ha, hr⟩
  · exact absurd he hs
  · exact ⟨st₁, s₁, ha, m, hr⟩

/-- Reading one text comes to reading another one, after some turns, of which each consumes
something. -/
def Leads (st : ReaderState) (s : List Char) (st₁ : ReaderState) (s₁ : List Char) : Prop :=
  ∃ n, n + s₁.length ≤ s.length ∧
    ∀ m, readFrom .unicode (n + m) st s = readFrom .unicode m st₁ s₁

theorem Leads.trans {st st₁ st₂ : ReaderState} {s s₁ s₂ : List Char} (h : Leads st s st₁ s₁)
    (h' : Leads st₁ s₁ st₂ s₂) : Leads st s st₂ s₂ := by
  obtain ⟨n, hn, hr⟩ := h
  obtain ⟨n', hn', hr'⟩ := h'
  exact ⟨n + n', by omega, fun m => by rw [Nat.add_assoc, hr, hr']⟩

theorem Leads.of_reaches {n : Nat} {st st₁ : ReaderState} {s s₁ : List Char}
    (h : Reaches .unicode n st s st₁ s₁) (hn : n + s₁.length ≤ s.length) : Leads st s st₁ s₁ :=
  ⟨n, hn, fun m => h.readFrom_add_eq m⟩

theorem leads_skipBlanks (st : ReaderState) (s : List Char) :
    Leads st s st (skipBlanks st.flags.verbose s) := by
  refine ⟨0, ?_, fun m => ?_⟩
  · rw [Nat.zero_add]
    exact (skipBlanks_suffix _ s).length_le
  · rw [Nat.zero_add]
    conv => lhs; unfold readFrom
    conv => rhs; unfold readFrom
    rw [skipBlanks_skipBlanks]

theorem Leads.ends_iff {st st₁ final : ReaderState} {s s₁ : List Char} (h : Leads st s st₁ s₁) :
    Ends st s final ↔ Ends st₁ s₁ final := by
  obtain ⟨n, -, hr⟩ := h
  constructor
  · rintro ⟨m, hm⟩
    refine ⟨m, ?_⟩
    rw [← hr, Nat.add_comm]
    exact readFrom_add n hm
  · rintro ⟨m, hm⟩
    exact ⟨n + m, (hr m).trans hm⟩

/-- No more turns are needed than the text is long. -/
theorem Leads.readFrom_length {st st₁ : ReaderState} {s : List Char} (h : Leads st s st₁ []) :
    readFrom .unicode s.length st s = some st₁ := by
  obtain ⟨n, hn, hr⟩ := h
  obtain ⟨k, hk⟩ := Nat.exists_eq_add_of_le hn
  rw [List.length_nil, Nat.add_zero] at hk
  rw [hk, hr]
  exact readFrom_of_skipBlanks (by cases st₁.flags.verbose <;> rfl)

/-- The larger text cannot be read, and the reason is that a name was given before. -/
def Clashes (base st' : ReaderState) (t : List Char) : Prop :=
  base.names ≠ [] ∧ ∀ final, ¬ Ends st' t final

theorem Clashes.of_leads {st₁' : ReaderState} {t t' : List Char} (h : Clashes base st₁' t')
    (hl : Leads st' t st₁' t') : Clashes base st' t :=
  ⟨h.1, fun final he => h.2 final (hl.ends_iff.1 he)⟩

/-- What a turn in the text comes to in the larger text. -/
def Turns (L : StateRelation) (φ : Writing) (st st₁ : ReaderState) (s s₁ : List Char) : Prop :=
  ∃ b : Bool, (b = true → s₁ = []) ∧ ∀ rest t base st', Spliced φ rest s t → L.holds base st st' →
    Clashes base st' t ∨
      ∃ st₁' t', Leads st' t st₁' t' ∧ L.after b base st₁ st₁' ∧ Left φ rest b s₁ t'

theorem turns_of_goes {c : Char} {s s₁ s₂ : List Char}
    (hs : skipBlanks st.flags.verbose s = c :: s₂) (hc : c ≠ '\\')
    (h : ∀ b, (b = true → s₂ = []) →
      GoesWith b s₂ s₁ (Follows? L (fun st t => st.step .unicode c t) st st₁)) :
    Turns L φ st st₁ s s₁ := by
  have hskip := goes_skipBlanks (b := false) (s := s) (by simp) st.flags.verbose
  rw [hs] at hskip
  obtain ⟨b, hb, hgo⟩ := hskip.trans fun _ hb' => goes_char hb' hc
  obtain ⟨b', hb', hgo'⟩ := h b hb
  refine ⟨b', hb', fun rest t base st' hsp ha => ?_⟩
  obtain ⟨u, ⟨_, ht, rfl⟩, -, hl⟩ := hgo φ rest t hsp
  obtain ⟨t', hstep, hsuf, hl'⟩ := hgo' φ rest u hl
  rw [← (L.alike ha).flags] at ht
  have hadv : st'.advance .unicode t = st'.step .unicode c u := by
    unfold advance
    rw [ht]
  rcases hstep base st' ha with ⟨hnames, hnone⟩ | ⟨st₁', hsome, ha'⟩
  · refine .inl ⟨hnames, fun final he => ?_⟩
    obtain ⟨st₂, t₂, hadv', -⟩ := he.turn (by rw [ht]; simp)
    rw [hadv] at hadv'
    exact absurd (hnone.symm.trans hadv') (by simp)
  · refine .inr ⟨st₁', t', .of_reaches (.one (hadv.trans hsome)) ?_, ha', hl'⟩
    have hlen := (skipBlanks_suffix st'.flags.verbose t).length_le
    rw [ht, List.length_cons] at hlen
    have := hsuf.length_le
    omega

/-- A bracket in the text is one in the larger text. -/
theorem turns_of_bracket {s s₁ s₂ : List Char} {x : ClassPart}
    (R : BracketRelation shorthands st.flags.ignoreCase) (hk : Keeps shorthands φ)
    (hs : skipBlanks st.flags.verbose s = '[' :: s₂)
    (h : readBracket shorthands st.flags.verbose st.flags.ignoreCase s₂ = some (x, s₁))
    (hpush : ∀ {base st' y}, L.holds base st st' → R.parts x y →
      L.holds base (st.push ⟨.chars x.set, x.nesting, true⟩)
        (st'.push ⟨.chars y.set, y.nesting, true⟩)) :
    Turns L φ st (st.push ⟨.chars x.set, x.nesting, true⟩) s s₁ := by
  refine ⟨false, by simp, fun rest t base st' hsp ha => .inr ?_⟩
  obtain ⟨u, hu, hs₂⟩ := (hs ▸ hsp.skip (by simp [hs])).cons (by decide)
  obtain ⟨y, t', ht', hx, hsuf, hs₁⟩ := spliced_readBracket R hk h hs₂
  obtain ⟨-, hlt⟩ := suffix_of_skipBlanks (p := ['[']) (by simp) hu
  have hlen := hsuf.length_le
  rw [← (L.alike ha).flags] at ht' hu
  refine ⟨_, t', .of_reaches (.one ?_) (by omega), hpush ha hx, hs₁⟩
  rw [advance, hu]
  simp [step, ht']

/-- Reading an escape that is taken over. -/
theorem leads_of_pair {st : ReaderState} {c : Char} {t t' t₁ : List Char} {a : Atom}
    (ht : skipBlanks st.flags.verbose t = '\\' :: c :: t₁)
    (hr : readEscape .unicode st.flags.verbose st.flags.ignoreCase (c :: t₁) = some (a, t'))
    (hsuf : t' <:+ t₁) : Leads st t (st.pushAtom a) t' := by
  refine .of_reaches (.one ?_) ?_
  · rw [advance, ht]
    simp [step, hr]
  · have hlen := (skipBlanks_suffix st.flags.verbose t).length_le
    have := hsuf.length_le
    rw [ht, List.length_cons, List.length_cons] at hlen
    omega

/-- An escape in the text is one in the larger text, or a shorthand that is written out there. -/
theorem turns_of_escape {c : Char} {s s₁ s₂ : List Char} {a : Atom} (hk : Keeps shorthands φ)
    (hs : skipBlanks st.flags.verbose s = '\\' :: c :: s₂)
    (h : readEscape shorthands st.flags.verbose st.flags.ignoreCase (c :: s₂) = some (a, s₁))
    (hspell : ∀ {set text base st'} (t : List Char), shorthands c = some set →
      φ ('\\' :: c :: s₂) text → text ∈ standIns c → L.holds base st st' →
      ∃ n st₂, n ≤ text.length ∧ Reaches .unicode n st' (text ++ t) st₂ t ∧
        L.holds base (st.pushAtom (.set set)) st₂) :
    Turns L φ st (st.pushAtom a) s s₁ := by
  have hsplit {rest t : List Char} (hsp : Spliced φ rest s t) :
      Spliced φ rest ('\\' :: c :: s₂) (skipBlanks st.flags.verbose t) := by
    rw [← hs]
    exact hsp.skip (by rw [hs]; simp)
  rcases readEscape_cases h with ⟨set, hset, rfl, rfl⟩ | ⟨hnone, hr⟩
  · refine ⟨false, by simp, fun rest t base st' hsp ha => .inr ?_⟩
    generalize ht : skipBlanks st.flags.verbose t = t₁
    have hsp₁ := hsplit hsp
    rw [ht] at hsp₁
    rw [← (L.alike ha).flags] at ht
    cases hsp₁ with
    | char hne => exact absurd rfl hne
    | @pair _ _ t₁ hw hsp₁ =>
      have hread : readEscape .unicode st'.flags.verbose st'.flags.ignoreCase (c :: t₁) =
          some (.set set, t₁) := by
        simp only [readEscape, hk c s₁ set hw hset]
      exact ⟨_, t₁, leads_of_pair ht hread (List.suffix_refl t₁), L.pushAtom ha _, hsp₁⟩
    | @standIn _ text _ t₁ hw hm hsp₁ =>
      obtain ⟨n, st₂, hn, hreach, ha₂⟩ := hspell t₁ hset hw hm ha
      refine ⟨st₂, t₁, (leads_skipBlanks st' t).trans ?_, ha₂, hsp₁⟩
      rw [ht]
      exact .of_reaches hreach (by rw [List.length_append]; omega)
  · obtain ⟨b, hb, hgo⟩ := goes_readEscape hr
    refine ⟨b, hb, fun rest t base st' hsp ha => .inr ?_⟩
    generalize ht : skipBlanks st.flags.verbose t = t₁
    have hsp₁ := hsplit hsp
    rw [ht] at hsp₁
    rw [← (L.alike ha).flags] at ht hgo
    cases hsp₁ with
    | char hne => exact absurd rfl hne
    | @pair _ _ t₁ hw hsp₁ =>
      obtain ⟨t', hr', hsuf, hl⟩ := hgo φ rest t₁ hsp₁
      exact ⟨_, t', leads_of_pair ht hr' hsuf, L.after_of_holds (L.pushAtom ha a) b, hl⟩
    | @standIn _ text _ t₁ hw hm hsp₁ =>
      obtain ⟨-, set, -, hset⟩ := readEscape_of_standIn hm h
      rw [hnone] at hset
      cases hset

/-- What reading a text to its end comes to in a larger text. A comment that the text leaves open
may have been `skipped` there. -/
def Embeds (L : StateRelation) (φ : Writing) (skipped : Bool) (st final : ReaderState)
    (s : List Char) : Prop :=
  ∀ rest t base st', Spliced φ rest s t → L.holds base st st' → Clashes base st' t ∨
    ∃ st₁' t', Leads st' t st₁' t' ∧ L.after skipped base final st₁' ∧ Left φ rest skipped [] t'

theorem embeds_of_blank {s : List Char} (hs : skipBlanks st.flags.verbose s = []) :
    ∃ b, Embeds L φ b st st s := by
  obtain ⟨b, -, hgo⟩ := goes_skipBlanks (b := false) (s := s) (by simp) st.flags.verbose
  refine ⟨b, fun rest t base st' hsp ha => .inr ?_⟩
  obtain ⟨t', ht, -, hl⟩ := hgo φ rest t hsp
  refine ⟨st', t', ?_, L.after_of_holds ha b, hs ▸ hl⟩
  rw [← ht, ← (L.alike ha).flags]
  exact leads_skipBlanks st' t

theorem embeds_of_turns {s s₁ : List Char} {final : ReaderState} (ht : Turns L φ st st₁ s s₁)
    (hf : s₁ = [] → final = st₁) (h : ∃ b, Embeds L φ b st₁ final s₁) :
    ∃ b, Embeds L φ b st final s := by
  obtain ⟨b, hb, hgo⟩ := ht
  cases b with
  | true =>
    obtain rfl := hb rfl
    obtain rfl := hf rfl
    exact ⟨true, hgo⟩
  | false =>
    obtain ⟨b, hgo'⟩ := h
    refine ⟨b, fun rest t base st' hsp ha => ?_⟩
    rcases hgo rest t base st' hsp ha with hclash | ⟨st₁', t', hlead, ha', hl⟩
    · exact .inl hclash
    · rcases hgo' rest t' base st₁' hl ha' with hclash | ⟨st₂', t'', hlead', ha'', hl'⟩
      · exact .inl (hclash.of_leads hlead)
      · exact .inr ⟨st₂', t'', hlead.trans hlead', ha'', hl'⟩

/-- A turn in the text is one or more turns in the larger text. -/
theorem turns_of_advance {s s₁ : List Char} (h : st.advance .unicode s = some (st₁, s₁))
    (hend : s₁ = [] → st₁.outer = []) : Turns .likeness φ st st₁ s s₁ := by
  unfold advance at h
  split at h
  · cases h
  · rename_i c s₂ hs
    by_cases hc : c = '\\'
    · subst hc
      obtain ⟨⟨a, s₃⟩, hr, he⟩ := Option.map_eq_some_iff.1 h
      cases he
      cases s₂ with
      | nil => cases hr
      | cons c s₂ =>
        refine turns_of_escape keeps_unicode hs hr fun t _ _ hm ha => ?_
        obtain ⟨n, st₂, hn, hreach, hp⟩ := reaches_standIn hm _ t
        exact ⟨n, st₂, hn, hreach, Alike.pass ha hp _⟩
    · by_cases hbracket : c = '['
      · subst hbracket
        obtain ⟨⟨x, s₃⟩, hx, he⟩ := Option.map_eq_some_iff.1 h
        cases he
        exact turns_of_bracket (.any .unicode _) keeps_unicode hs hx fun ha _ => Alike.push ha rfl
      · exact turns_of_goes hs hc fun b hb => goes_step hb hc hbracket
          (skipBlanks_ne_nil_of_stepOpen hend h) h

/-- **Where the reader gets to in the larger text.** A text that can be read by itself, and leaves
no group open then, is read in a larger text in the same way, from any state that begins a group,
unless a name clashes. What is left is the `)` that was put after it; or, if the text leaves a
comment open, what remains after the comment. -/
theorem embeds_of_readFrom {n : Nat} {s : List Char} {final : ReaderState}
    (h : readFrom .unicode n st s = some final) (hf : final.outer = []) :
    ∃ b, Embeds .likeness φ b st final s := by
  induction n generalizing s st with
  | zero =>
    rcases readFrom_cases h with ⟨hs, rfl⟩ | ⟨m, st₁, s₁, hm, -⟩
    · exact embeds_of_blank hs
    · cases hm
  | succ n ih =>
    rcases readFrom_cases h with ⟨hs, rfl⟩ | ⟨m, st₁, s₁, hm, ha, hr⟩
    · exact embeds_of_blank hs
    · have hend : s₁ = [] → final = st₁ := by
        rintro rfl
        exact Ends.of_nil ⟨m, hr⟩
      obtain rfl : n = m := by omega
      refine embeds_of_turns (turns_of_advance ha fun hs₁ => ?_) hend (ih hr)
      rw [← hend hs₁]
      exact hf

/-! ## Texts that end inside a comment -/

/-- Whether an expression ends inside a comment. Then a `)` that no parenthesis opens may stand after
it, because the comment takes it along. -/
def endsInComment (s : List Char) : Bool := (readFrom .unicode (s.length + 1) {} (s ++ [')'])).isSome

/-- The names of the groups in an expression. -/
def namesIn (s : List Char) : List String :=
  ((readFrom .unicode s.length {} s).map (·.names)).getD []

theorem readFrom_of_read? {s : List Char} {e : Expr} (h : read? s = some e) :
    ∃ final, readFrom .unicode s.length {} s = some final ∧ final.outer = [] ∧
      e = final.content.expr := by
  unfold read? readWith? at h
  split at h
  · cases h
  · rename_i part hp
    split at h
    · cases h
      obtain ⟨final, hr, hfin⟩ := Option.bind_eq_some_iff.1 hp
      unfold finish? at hfin
      split at hfin
      · rename_i ho
        cases hfin
        exact ⟨final, hr, List.isEmpty_iff.1 ho, rfl⟩
      · cases hfin
    · cases h

/-- Reading a text that begins with a `)` ends a group. -/
theorem Ends.closeGroup {final : ReaderState} {tail : List Char} (h : Ends st (')' :: tail) final) :
    ∃ st₁, st.closeGroup? = some st₁ ∧ Ends st₁ tail final := by
  have hskip : skipBlanks st.flags.verbose (')' :: tail) = ')' :: tail := by
    cases st.flags.verbose with
    | false => rfl
    | true =>
      show skipBlanksFrom false (')' :: tail) = ')' :: tail
      exact skipBlanksFrom_stop (by decide) (by decide) tail
  obtain ⟨st₁, s₁, ha, he⟩ := h.turn (by rw [hskip]; simp)
  rw [advance, hskip] at ha
  obtain ⟨st₂, hc, hst⟩ := Option.map_eq_some_iff.1 ha
  cases hst
  exact ⟨st₁, hc, he⟩

/-- An expression is read in a larger text up to the `)` after it or, if it ends inside a comment, to
the end of that comment. -/
theorem embeds_of_read? {s : List Char} {e : Expr} (h : read? s = some e) :
    ∃ final, final.outer = [] ∧ final.names = namesIn s ∧
      Embeds .likeness .any (endsInComment s) {} final s := by
  obtain ⟨final, hr, ho, -⟩ := readFrom_of_read? h
  obtain ⟨b, hgo⟩ := embeds_of_readFrom hr ho
  suffices hb : endsInComment s = b from ⟨final, ho, by simp [namesIn, hr], hb ▸ hgo⟩
  -- the least larger text has no group for its `)`
  rcases hgo [] (s ++ [')']) {} {} (spliced_self [] s) (alike_base rfl rfl) with
    ⟨hnames, -⟩ | ⟨st₁, t', hlead, ha, hl⟩
  · exact absurd rfl hnames
  · cases b with
    | true =>
      obtain rfl : t' = [] := List.suffix_nil.1 hl.2.1
      have hread := hlead.readFrom_length
      rw [List.length_append, List.length_singleton] at hread
      rw [endsInComment, hread]
      rfl
    | false =>
      obtain rfl := Spliced.nil hl
      refine Bool.eq_false_iff.2 fun hs => ?_
      obtain ⟨final', hread⟩ := Option.isSome_iff_exists.1 hs
      obtain ⟨st₂, hclose, -⟩ := (hlead.ends_iff.1 ⟨_, hread⟩).closeGroup
      rw [closeGroup?, ha.outer_of_nil ho] at hclose
      cases hclose

/-- **An expression that does not end inside a comment keeps to its parentheses.** Wherever it is
put, reading it leads to the `)` after it, in the group that was open before it. -/
theorem Ends.of_spliced {s t rest : List Char} {e : Expr} {final : ReaderState}
    (hs : read? s = some e) (hc : endsInComment s = false) (hsp : Spliced .any rest s t)
    (hf : base.flags = {}) (hi : base.items = []) (h : Ends base t final) :
    ∃ st₁, Ends st₁ (')' :: rest) final ∧ st₁.outer = base.outer := by
  obtain ⟨fin, ho, -, hgo⟩ := embeds_of_read? hs
  rw [hc] at hgo
  rcases hgo rest t base base hsp (alike_base hf hi) with hclash | ⟨st₁, t', hlead, ha, hl⟩
  · exact absurd h (hclash.2 final)
  · obtain rfl := Spliced.nil hl
    exact ⟨st₁, hlead.ends_iff.1 h, ha.outer_of_nil ho⟩

/-- **An expression that ends inside a comment leaves its group open.** Wherever it is put, reading it
leads past the `)` after it to where the comment ends, and the group that was open before is open
still. -/
theorem Ends.of_comment {s t rest : List Char} {e : Expr} {final : ReaderState}
    (hs : read? s = some e) (hc : endsInComment s = true) (hsp : Spliced .any rest s t)
    (hf : base.flags = {}) (hi : base.items = []) (h : Ends base t final) :
    ∃ st₁ t', Ends st₁ t' final ∧ st₁.outer = base.outer ∧ st₁.names = namesIn s ++ base.names ∧
      Remains t' (skipBlanksFrom true (')' :: rest)) := by
  obtain ⟨fin, ho, hn, hgo⟩ := embeds_of_read? hs
  rw [hc] at hgo
  rcases hgo rest t base base hsp (alike_base hf hi) with hclash | ⟨st₁, t', hlead, ha, hl⟩
  · exact absurd h (hclash.2 final)
  · exact ⟨st₁, t', hlead.ends_iff.1 h, ha.outer_of_nil ho, hn ▸ ha.names, hl.2⟩

end ReaderState

end UriRouter.Regex
