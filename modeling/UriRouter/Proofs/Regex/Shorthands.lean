import UriRouter.Proofs.Regex.SplicedReader

/-!
# Readings with other shorthands

What the shorthands stand for has no bearing on how a text is read: where one reading gets through,
another one does, with the same groups and the same depth, if it knows the same shorthands.

* `Shorthands.ascii` : the shorthands for ASCII characters;
* `PartView`, `Sees` : what two readings have in common, part by part;
* `readBracket_congr`, `step_congr` : a construct in two readings;
* `readWith?_ascii_of_read?` : what can be read with Unicode shorthands can be read with these.
-/

set_option autoImplicit false

namespace UriRouter.Regex

open UriRouter.Text

/-- The shorthands with `\d` and `\w` for ASCII characters only. -/
def Shorthands.ascii : Shorthands := fun c =>
  if c = 'd' then some .asciiDigits else if c = 'w' then some .asciiWord else Shorthands.unicode c

/-- The same shorthands, but no `\w` where case is disregarded. -/
def Shorthands.asciiIf (ignoreCase : Bool) : Shorthands := fun c =>
  if ignoreCase && c == 'w' then none else Shorthands.ascii c

theorem isLetter_of_ascii {c : Char} {set : CharSet} (h : Shorthands.ascii c = some set) :
    c ∈ ['d', 'D', 's', 'S', 'w', 'W'] := by
  unfold Shorthands.ascii at h
  split at h
  · rename_i hd
    simp [hd]
  · split at h
    · rename_i hw
      simp [hw]
    · exact isLetter_of_unicode h

/-- The shorthands `\d` and `\w` stand for ASCII characters only. -/
theorem isAscii_of_mem_ascii {c : Char} (hc : c = 'd' ∨ c = 'w') :
    ∃ set, Shorthands.ascii c = some set ∧ ∀ x, set.mem x = true → isAscii x = true := by
  rcases hc with rfl | rfl
  · refine ⟨.asciiDigits, rfl, fun x hx => isAscii_of_isAsciiWordChar ?_⟩
    rw [CharSet.mem_asciiDigits] at hx
    simp [isAsciiWordChar, hx]
  · refine ⟨.asciiWord, rfl, fun x hx => isAscii_of_isAsciiWordChar ?_⟩
    rwa [CharSet.mem_asciiWord] at hx

theorem ascii_of_asciiIf {ignoreCase : Bool} {c : Char} {set : CharSet}
    (h : Shorthands.asciiIf ignoreCase c = some set) : Shorthands.ascii c = some set := by
  unfold Shorthands.asciiIf at h
  split at h
  · cases h
  · exact h

/-! ## Brackets in two readings -/

section

variable {sh sh' : Shorthands} {verbose ignoreCase : Bool}

/-- An atom in one reading, and in the other one. -/
def BracketCongruence.atoms (R : BracketCongruence ignoreCase) (a a' : Atom) : Prop :=
  a' = a ∨ ∃ set set', a = .set set ∧ a' = .set set' ∧ R.parts (.plain set) (.plain set')

/-- The second reading knows all shorthands of the first one, and no letters that are none. -/
structure BracketCongruence.Covers (R : BracketCongruence ignoreCase) (sh sh' : Shorthands) :
    Prop where
  some : ∀ {c set}, sh c = .some set →
    ∃ set', sh' c = .some set' ∧ R.parts (.plain set) (.plain set')
  letters : ∀ {c set}, sh' c = .some set → c ∈ ['d', 'D', 's', 'S', 'w', 'W']

variable {R : BracketCongruence ignoreCase}

theorem toSet?_congr {a a' : Atom} (h : R.atoms a a') {set : CharSet} (hs : a.toSet? = some set) :
    ∃ set', a'.toSet? = some set' ∧ R.parts (.plain set) (.plain set') := by
  rcases h with rfl | ⟨x, x', rfl, rfl, hparts⟩
  · exact ⟨set, hs, R.plain set⟩
  · cases hs
    exact ⟨x', rfl, hparts⟩

variable [PropertyTable]

theorem readEscape_congr (hsh : R.Covers sh sh') {s r : List Char} {a : Atom}
    (h : readEscape sh verbose ignoreCase s = some (a, r)) :
    ∃ a', readEscape sh' verbose ignoreCase s = some (a', r) ∧ R.atoms a a' := by
  cases s with
  | nil => cases h
  | cons c s =>
    cases hc : sh c with
    | some set =>
      obtain ⟨set', hset', hparts⟩ := hsh.some hc
      simp only [readEscape, hc] at h
      cases h
      exact ⟨.set set', by simp only [readEscape, hset'], .inr ⟨set, set', rfl, rfl, hparts⟩⟩
    | none =>
      refine ⟨a, ?_, .inl rfl⟩
      cases hc' : sh' c with
      | none => simpa only [readEscape, hc, hc'] using h
      | some set =>
        have hletter := hsh.letters hc'
        simp only [List.mem_cons, List.not_mem_nil, or_false] at hletter
        rcases hletter with rfl | rfl | rfl | rfl | rfl | rfl
        all_goals simp [readEscape, hc, escapedAtom?, isAsciiLetter] at h

theorem readMember_congr (hsh : R.Covers sh sh') {s r : List Char} {a : Atom}
    (h : readMember sh verbose ignoreCase s = some (a, r)) :
    ∃ a', readMember sh' verbose ignoreCase s = some (a', r) ∧ R.atoms a a' := by
  unfold readMember at h ⊢
  split at h
  · cases h
  · exact readEscape_congr hsh h
  · cases h
    exact ⟨_, rfl, .inl rfl⟩

theorem rangeFrom_congr (hsh : R.Covers sh sh') {first first' : Atom} (ha : R.atoms first first')
    {s r : List Char} {set : CharSet}
    (h : rangeFrom sh verbose ignoreCase first s = some (set, r)) :
    ∃ set', rangeFrom sh' verbose ignoreCase first' s = some (set', r) ∧
      R.parts (.plain set) (.plain set') := by
  have halone (h : first.toSet?.map (·, s) = some (set, r)) :
      ∃ set', first'.toSet?.map (·, s) = some (set', r) ∧ R.parts (.plain set) (.plain set') := by
    obtain ⟨x, hx, he⟩ := Option.map_eq_some_iff.1 h
    cases he
    obtain ⟨set', hset', hparts⟩ := toSet?_congr ha hx
    exact ⟨set', by rw [hset']; rfl, hparts⟩
  unfold rangeFrom at h ⊢
  split at h
  · split at h
    · rename_i hp
      simp only [hp]
      exact halone h
    · rename_i hp
      simp only [hp]
      split at h
      · rename_i c d rest hm
        split at h
        · rename_i hle
          cases h
          -- both ends of a range are characters, which are the same in both readings
          obtain ⟨d', hd, hatom⟩ := readMember_congr hsh hm
          rcases hatom with rfl | ⟨_, _, hset, -⟩
          · rcases ha with rfl | ⟨_, _, hset, -⟩
            · exact ⟨_, by simp [hd, hle], R.plain _⟩
            · cases hset
          · cases hset
        · cases h
      · cases h
  · exact halone h

theorem readRange_congr (hsh : R.Covers sh sh') {s r : List Char} {set : CharSet}
    (h : readRange sh verbose ignoreCase s = some (set, r)) :
    ∃ set', readRange sh' verbose ignoreCase s = some (set', r) ∧
      R.parts (.plain set) (.plain set') := by
  rw [readRange_eq] at h ⊢
  obtain ⟨⟨a, r₁⟩, hm, hf⟩ := Option.bind_eq_some_iff.1 h
  obtain ⟨a', hm', ha⟩ := readMember_congr hsh hm
  rw [hm']
  exact rangeFrom_congr hsh ha hf

theorem readBracketFrom_congr (hsh : R.Covers sh sh') {n : Nat} {b b' : OpenBracket}
    {o o' : List OpenBracket} (hb : R.brackets b b') (ho : List.Forall₂ R.brackets o o')
    {s r : List Char} {x : ClassPart}
    (h : readBracketFrom sh verbose ignoreCase n b o s = some (x, r)) :
    ∃ y, readBracketFrom sh' verbose ignoreCase n b' o' s = some (y, r) ∧ R.parts x y := by
  induction n generalizing b b' o o' s with
  | zero => cases h
  | succ n ih =>
    rw [readBracketFrom] at h ⊢
    split at h
    · cases h
    · split at h
      · exact ih (R.push hb (R.plain _)) ho h
      · exact ih (R.refl _) (.cons hb ho) h
    · cases ho with
      | nil =>
        cases h
        exact ⟨_, rfl, R.close hb⟩
      | cons haround ho => exact ih (R.push haround (R.close hb)) ho h
    · exact ih (R.operator _ hb) ho h
    · exact ih (R.operator _ hb) ho h
    · exact ih (R.operator _ hb) ho h
    · split at h
      · rename_i hr
        obtain ⟨set', hr', hparts⟩ := readRange_congr hsh hr
        simp only [hr']
        exact ih (R.push hb hparts) ho h
      · cases h

theorem readBracket_congr (hsh : R.Covers sh sh') {s r : List Char} {x : ClassPart}
    (h : readBracket sh verbose ignoreCase s = some (x, r)) :
    ∃ y, readBracket sh' verbose ignoreCase s = some (y, r) ∧ R.parts x y :=
  readBracketFrom_congr hsh (R.refl _) .nil h

end

/-- The depth of what is made of members of the given depths. -/
def levels : List Nat → Nat
  | [] => 0
  | [d] => d
  | depths => 1 + depths.foldl max 0

theorem nesting_sideBySide (ps : List ClassPart) :
    (ClassPart.sideBySide ps).nesting = levels (ps.map (·.nesting)) := by
  match ps with
  | [] => rfl
  | [_] => rfl
  | _ :: _ :: _ => rfl

theorem nesting_content {b b' : OpenBracket} (ignoreCase : Bool)
    (hp : b'.parts.map (·.nesting) = b.parts.map (·.nesting))
    (hl : b'.left.map (·.2.nesting) = b.left.map (·.2.nesting)) :
    (b'.content ignoreCase).nesting = (b.content ignoreCase).nesting := by
  have hside : (ClassPart.sideBySide b'.parts.reverse).nesting =
      (ClassPart.sideBySide b.parts.reverse).nesting := by
    rw [nesting_sideBySide, nesting_sideBySide, List.map_reverse, List.map_reverse, hp]
  unfold OpenBracket.content
  cases hb : b.left with
  | none =>
    cases hb' : b'.left with
    | none => exact hside
    | some x => simp [hb, hb'] at hl
  | some x =>
    cases hb' : b'.left with
    | none => simp [hb, hb'] at hl
    | some x' =>
      rw [hb, hb'] at hl
      exact congrArg₂ (fun d d' => 1 + max d d') (Option.some.inj hl) hside

/-- Brackets and parts of the same depth go together. -/
def BracketCongruence.nesting (ignoreCase : Bool) : BracketCongruence ignoreCase where
  brackets b b' := b'.parts.map (·.nesting) = b.parts.map (·.nesting) ∧
    b'.left.map (·.2.nesting) = b.left.map (·.2.nesting)
  parts p p' := p'.nesting = p.nesting
  refl _ := ⟨rfl, rfl⟩
  plain _ := rfl
  push h hp := ⟨congrArg₂ List.cons hp h.1, h.2⟩
  operator _ h := ⟨rfl, congrArg some (nesting_content ignoreCase h.1 h.2)⟩
  close h := congrArg (1 + ·) (nesting_content ignoreCase h.1 h.2)

/-- Only what is equal goes together. -/
def BracketCongruence.equality (ignoreCase : Bool) : BracketCongruence ignoreCase where
  brackets b b' := b' = b
  parts p p' := p' = p
  refl _ := rfl
  plain _ := rfl
  push h hp := by rw [h, hp]
  operator op h := by rw [h]
  close h := by rw [h]

theorem covers_ascii (ignoreCase : Bool) :
    (BracketCongruence.nesting ignoreCase).Covers .unicode .ascii where
  some {c set} h := by
    unfold Shorthands.ascii
    split
    · exact ⟨_, rfl, rfl⟩
    · split
      · exact ⟨_, rfl, rfl⟩
      · exact ⟨set, h, rfl⟩
  letters := isLetter_of_ascii

theorem covers_asciiIf (ignoreCase ignoreCase' : Bool) :
    (BracketCongruence.equality ignoreCase').Covers (.asciiIf ignoreCase) .ascii where
  some h := ⟨_, ascii_of_asciiIf h, rfl⟩
  letters := isLetter_of_ascii

/-! ## What two readings have in common -/

/-- What is seen of a part. Of larger parts it hangs on what is seen of the smaller ones. -/
structure PartView (α : Type) where
  view : Part → α
  repeatable : ∀ {p q}, view p = view q → p.repeatable = q.repeatable
  sequence : ∀ {ps qs : List Part}, ps.map view = qs.map view →
    view (.sequence ps) = view (.sequence qs)
  choice : ∀ {ps qs : List Part}, ps.map view = qs.map view → view (.choice ps) = view (.choice qs)
  wrap : ∀ {p q} (kind : GroupKind), view p = view q →
    view ⟨kind.wrap p.expr, 1 + p.depth, true⟩ = view ⟨kind.wrap q.expr, 1 + q.depth, true⟩
  repeated : ∀ {p q} min max greedy, view p = view q →
    view ⟨.repeated min max greedy p.expr, 1 + p.depth, true⟩ =
      view ⟨.repeated min max greedy q.expr, 1 + q.depth, true⟩

theorem depthOf_eq (ps : List Part) : Part.depthOf ps = levels (ps.map (·.depth)) := by
  match ps with
  | [] => rfl
  | [_] => rfl
  | _ :: _ :: _ => rfl

/-- What is seen is some `f` of a part, and whether it can be repeated. All that the reader makes of
parts it has to make of what is seen of them. -/
def PartView.of {α : Type} (f : Part → α) (sequence choice : List α → α)
    (wrap : GroupKind → α → α) (repeated : Nat → Option Nat → Bool → α → α)
    (hsequence : ∀ ps, f (.sequence ps) = sequence (ps.map f))
    (hchoice : ∀ ps, f (.choice ps) = choice (ps.map f))
    (hwrap : ∀ (kind : GroupKind) p, f ⟨kind.wrap p.expr, 1 + p.depth, true⟩ = wrap kind (f p))
    (hrepeated : ∀ min max greedy p,
      f ⟨.repeated min max greedy p.expr, 1 + p.depth, true⟩ = repeated min max greedy (f p)) :
    PartView (α × Bool) where
  view p := (f p, p.repeatable)
  repeatable h := congrArg Prod.snd h
  sequence {ps qs} h := by
    have hmap : ps.map f = qs.map f := by
      simpa [Function.comp_def] using congrArg (List.map Prod.fst) h
    rw [hsequence, hsequence, hmap]
    rfl
  choice {ps qs} h := by
    have hmap : ps.map f = qs.map f := by
      simpa [Function.comp_def] using congrArg (List.map Prod.fst) h
    rw [hchoice, hchoice, hmap]
    rfl
  wrap kind h := by rw [hwrap, hwrap, (Prod.mk.inj h).1]
  repeated min max greedy h := by rw [hrepeated, hrepeated, (Prod.mk.inj h).1]

/-- Only the depth is seen. -/
def PartView.depth : PartView (Nat × Bool) :=
  .of (·.depth) levels levels (fun _ d => 1 + d) (fun _ _ _ d => 1 + d) depthOf_eq depthOf_eq
    (fun _ _ => rfl) (fun _ _ _ _ => rfl)

/-- Only the expression is seen. -/
def PartView.expr : PartView (Expr × Bool) :=
  .of (·.expr) Expr.sequence Expr.choice GroupKind.wrap Expr.repeated (fun _ => rfl) (fun _ => rfl)
    (fun _ _ => rfl) (fun _ _ _ _ => rfl)

namespace ReaderState

variable {α : Type}

/-- What is seen of an open group. -/
def groupView (V : PartView α) (group : OpenGroup) : GroupKind × List α × List α × Flags :=
  (group.kind, group.items.map V.view, group.branches.map V.view, group.flags)

/-- The second state is seen as the first one, with the groups around it that are open in `base` and
the names that have been given there. -/
structure Sees (V : PartView α) (base st st' : ReaderState) : Prop where
  flags : st'.flags = st.flags
  items : st'.items.map V.view = st.items.map V.view
  branches : st'.branches.map V.view = st.branches.map V.view
  outer : ∃ groups, st'.outer = groups ++ base.outer ∧
    groups.map (groupView V) = st.outer.map (groupView V)
  names : st'.names = st.names ++ base.names

variable {V : PartView α} {base st st' st₁ : ReaderState}

theorem Sees.alike (h : Sees V base st st') : Alike base st st' where
  flags := h.flags
  outer := by
    obtain ⟨groups, ho, hg⟩ := h.outer
    refine ⟨groups, ho, ?_⟩
    simpa [groupView, Function.comp_def] using congrArg (List.map (·.2.2.2)) hg
  names := h.names
  last := by
    have hitems := h.items
    cases hi : st.items with
    | nil =>
      rw [hi, List.map_nil] at hitems
      rw [List.map_eq_nil_iff.1 hitems]
    | cons p items =>
      cases hi' : st'.items with
      | nil => simp [hi, hi'] at hitems
      | cons p' items' =>
        rw [hi, hi', List.map_cons, List.map_cons, List.cons.injEq] at hitems
        exact congrArg some (V.repeatable hitems.1)

theorem Sees.push (h : Sees V base st st') {p p' : Part} (hp : V.view p' = V.view p) :
    Sees V base (st.push p) (st'.push p') :=
  ⟨h.flags, congrArg₂ List.cons hp h.items, h.branches, h.outer, h.names⟩

theorem Sees.sequence (h : Sees V base st st') :
    V.view (.sequence st'.items.reverse) = V.view (.sequence st.items.reverse) :=
  V.sequence (by rw [List.map_reverse, List.map_reverse, h.items])

theorem Sees.nextBranch (h : Sees V base st st') : Sees V base st.nextBranch st'.nextBranch :=
  ⟨h.flags, rfl, congrArg₂ List.cons h.sequence h.branches, h.outer, h.names⟩

theorem Sees.content (h : Sees V base st st') : V.view st'.content = V.view st.content :=
  V.choice (by simp [h.sequence, h.branches])

theorem Sees.openGroup (h : Sees V base st st') (kind : GroupKind) (flags : Flags) :
    Sees V base (st.openGroup kind flags) (st'.openGroup kind flags) := by
  obtain ⟨groups, ho, hg⟩ := h.outer
  refine ⟨rfl, rfl, rfl, ⟨⟨kind, st'.items, st'.branches, st'.flags⟩ :: groups, ?_, ?_⟩, h.names⟩
  · simp [ReaderState.openGroup, ho]
  · simp [ReaderState.openGroup, groupView, hg, h.flags, h.items, h.branches]

theorem Sees.closeGroup? (h : Sees V base st st') (hc : st.closeGroup? = some st₁) :
    ∃ st₁', st'.closeGroup? = some st₁' ∧ Sees V base st₁ st₁' := by
  obtain ⟨groups, ho, hg⟩ := h.outer
  unfold ReaderState.closeGroup? at hc ⊢
  split at hc
  · cases hc
  · rename_i group outer hout
    cases hc
    cases groups with
    | nil => simp [hout] at hg
    | cons group' groups =>
      rw [hout, List.map_cons, List.map_cons, List.cons.injEq] at hg
      obtain ⟨hgroup, hgroups⟩ := hg
      simp only [groupView, Prod.mk.injEq] at hgroup
      obtain ⟨hkind, hitems, hbranches, hflags⟩ := hgroup
      rw [ho]
      refine ⟨_, rfl, hflags, congrArg₂ List.cons ?_ hitems, hbranches, ⟨groups, rfl, hgroups⟩,
        h.names⟩
      rw [hkind]
      exact V.wrap _ h.content

theorem Sees.repeatLast? (h : Sees V base st st') {min : Nat} {max : Option Nat} {greedy : Bool}
    (hr : st.repeatLast? min max greedy = some st₁) :
    ∃ st₁', st'.repeatLast? min max greedy = some st₁' ∧ Sees V base st₁ st₁' := by
  have hitems := h.items
  unfold ReaderState.repeatLast? at hr ⊢
  split at hr
  · cases hr
  · rename_i p items hi
    split at hr
    · rename_i hp
      cases hr
      cases hi' : st'.items with
      | nil => simp [hi, hi'] at hitems
      | cons p' items' =>
        rw [hi, hi', List.map_cons, List.map_cons, List.cons.injEq] at hitems
        have hrep := (V.repeatable hitems.1).trans hp
        simp only [hrep, ↓reduceIte]
        refine ⟨_, rfl, h.flags, congrArg₂ List.cons ?_ hitems.2, h.branches, h.outer, h.names⟩
        rw [h.flags]
        exact V.repeated _ _ _ hitems.1
    · cases hr

/-- What is seen of states stays the same whatever is done to both of them. -/
def StateRelation.seen (V : PartView α) : StateRelation where
  holds := Sees V
  alike h := h.alike
  push _ h := h.push rfl
  nextBranch h := h.nextBranch
  openGroup kind flags h := h.openGroup kind flags
  giveName name h := ⟨h.flags, h.items, h.branches, h.outer, congrArg (name :: ·) h.names⟩
  setFlags _ h := ⟨rfl, h.items, h.branches, h.outer, h.names⟩
  closeGroup? h := h.closeGroup?
  repeatLast? h hr := h.repeatLast? hr

/-- A text may begin wherever a group begins, before its first part. -/
theorem sees_base (V : PartView α) (hf : base.flags = {}) (hi : base.items = [])
    (hb : base.branches = []) : Sees V base {} base :=
  ⟨hf, by rw [hi], by rw [hb], ⟨[], rfl, rfl⟩, rfl⟩

/-! ## One construct in two readings -/

variable {L : StateRelation} {c : Char} {s r : List Char}

theorem openNamed?_congr (hn : base.names = []) (h : L.holds base st st')
    (ho : st.openNamed? s = some (st₁, r)) :
    ∃ st₁', st'.openNamed? s = some (st₁', r) ∧ L.holds base st₁ st₁' := by
  have hlike := L.alike h
  have hnames : st'.names = st.names := by rw [hlike.names, hn, List.append_nil]
  unfold openNamed? at ho ⊢
  split at ho
  · cases ho
  · rename_i name s₁ hname
    split at ho
    · cases ho
    · rename_i hfree
      cases ho
      rw [← hnames] at hfree
      simp only [hfree]
      have hopen := L.giveName (String.ofList name)
        (L.openGroup (.noting (some (String.ofList name))) st.flags h)
      exact ⟨_, rfl, hlike.flags ▸ hopen⟩

theorem stepOpen_congr (hn : base.names = []) (h : L.holds base st st')
    (ho : st.stepOpen s = some (st₁, r)) :
    ∃ st₁', st'.stepOpen s = some (st₁', r) ∧ L.holds base st₁ st₁' := by
  have hflags := (L.alike h).flags
  unfold stepOpen at ho ⊢
  rw [hflags]
  split at ho
  · exact openNamed?_congr hn h ho
  · exact openNamed?_congr hn h ho
  · split at ho
    · cases ho
    · split at ho
      · cases ho
      · rename_i hl
        cases ho
        simp only [hl]
        exact ⟨_, rfl, L.setFlags _ (L.push _ h)⟩
    · cases ho
      exact ⟨_, rfl, L.openGroup .plain _ h⟩
  · cases ho
    exact ⟨_, rfl, L.openGroup (.noting none) _ h⟩

theorem stepRepeat_congr (h : L.holds base st st') {min : Nat} {max : Option Nat}
    (ho : st.stepRepeat min max s = some (st₁, r)) :
    ∃ st₁', st'.stepRepeat min max s = some (st₁', r) ∧ L.holds base st₁ st₁' := by
  unfold stepRepeat at ho ⊢
  split at ho
  all_goals
    obtain ⟨st₂, hr, he⟩ := Option.map_eq_some_iff.1 ho
    cases he
    obtain ⟨st₂', hr', h'⟩ := L.repeatLast? h hr
    exact ⟨st₂', by rw [hr']; rfl, h'⟩

variable [PropertyTable] {sh sh' : Shorthands}

/-- A construct other than an escape or a bracket. -/
theorem step_congr (hn : base.names = []) (hc : c ≠ '\\') (hbracket : c ≠ '[')
    (h : L.holds base st st') (ho : st.step sh c s = some (st₁, r)) :
    ∃ st₁', st'.step sh' c s = some (st₁', r) ∧ L.holds base st₁ st₁' := by
  have hflags := (L.alike h).flags
  unfold step at ho ⊢
  split at ho
  · exact stepOpen_congr hn h ho
  · obtain ⟨st₂, hclose, he⟩ := Option.map_eq_some_iff.1 ho
    cases he
    obtain ⟨st₂', hclose', h'⟩ := L.closeGroup? h hclose
    exact ⟨st₂', by rw [hclose']; rfl, h'⟩
  · cases ho
    exact ⟨_, rfl, L.nextBranch h⟩
  · exact absurd rfl hbracket
  · exact stepRepeat_congr h ho
  · exact stepRepeat_congr h ho
  · exact stepRepeat_congr h ho
  · rw [hflags]
    split at ho
    · exact stepRepeat_congr h ho
    · cases ho
  · exact absurd rfl hc
  · cases ho
    refine ⟨_, rfl, ?_⟩
    rw [hflags]
    exact L.push _ h
  · cases ho
    rw [hflags]
    exact ⟨_, rfl, L.pushAtom h _⟩
  · cases ho
    rw [hflags]
    exact ⟨_, rfl, L.pushAtom h _⟩
  · cases ho
    exact ⟨_, rfl, L.pushAtom h _⟩

/-! ## Whole texts -/

/-- A construct is read with the ASCII shorthands if it is read with the Unicode shorthands. -/
theorem step_ascii (hn : base.names = []) (h : Sees .depth base st st')
    (ho : st.step .unicode c s = some (st₁, r)) :
    ∃ st₁', st'.step .ascii c s = some (st₁', r) ∧ Sees .depth base st₁ st₁' := by
  by_cases hc : c = '\\'
  · subst hc
    obtain ⟨⟨a, s₁⟩, ha, he⟩ := Option.map_eq_some_iff.1 ho
    cases he
    obtain ⟨a', ha', -⟩ := readEscape_congr (covers_ascii st.flags.ignoreCase) ha
    refine ⟨st'.pushAtom a', by simp [step, h.flags, ha'], ?_⟩
    cases a <;> cases a' <;> exact h.push rfl
  · by_cases hbracket : c = '['
    · subst hbracket
      obtain ⟨⟨x, s₁⟩, hx, he⟩ := Option.map_eq_some_iff.1 ho
      cases he
      obtain ⟨y, hy, hxy⟩ := readBracket_congr (covers_ascii st.flags.ignoreCase) hx
      refine ⟨st'.push ⟨.chars y.set, y.nesting, true⟩, by simp [step, h.flags, hy], ?_⟩
      exact h.push (congrArg (·, true) hxy)
    · exact step_congr (L := .seen .depth) hn hc hbracket h ho

/-- Where no `\w` is read while case is disregarded, it makes no difference that it might not be. -/
theorem step_of_asciiIf {ignoreCase : Bool} {x : ReaderState × List Char}
    (h : st.step (.asciiIf ignoreCase) c s = some x) : st.step .ascii c s = some x := by
  by_cases hc : c = '\\'
  · subst hc
    obtain ⟨⟨a, s₁⟩, ha, he⟩ := Option.map_eq_some_iff.1 h
    obtain ⟨a', ha', hatom⟩ := readEscape_congr (covers_asciiIf ignoreCase st.flags.ignoreCase) ha
    have haa : a' = a := by
      rcases hatom with rfl | ⟨_, _, rfl, rfl, hset⟩
      · rfl
      · exact congrArg (fun part => Atom.set part.set) hset
    exact Option.map_eq_some_iff.2 ⟨(a', s₁), ha', haa ▸ he⟩
  · by_cases hbracket : c = '['
    · subst hbracket
      obtain ⟨⟨y, s₁⟩, hy, he⟩ := Option.map_eq_some_iff.1 h
      obtain ⟨_, hy', rfl⟩ := readBracket_congr (covers_asciiIf ignoreCase st.flags.ignoreCase) hy
      exact Option.map_eq_some_iff.2 ⟨_, hy', he⟩
    · unfold step at h ⊢
      split at h
      all_goals first
        | exact h
        | contradiction

theorem readFrom_ascii (hn : base.names = []) {n : Nat} {final : ReaderState}
    (h : Sees .depth base st st') (hr : readFrom .unicode n st s = some final) :
    ∃ final', readFrom .ascii n st' s = some final' ∧ Sees .depth base final final' := by
  induction n generalizing st st' s with
  | zero =>
    rcases readFrom_cases hr with ⟨hs, rfl⟩ | ⟨m, -, -, hm, -⟩
    · exact ⟨st', readFrom_of_skipBlanks (by rw [h.flags, hs]), h⟩
    · cases hm
  | succ n ih =>
    rcases readFrom_cases hr with ⟨hs, rfl⟩ | ⟨m, st₁, s₁, hm, ha, hr⟩
    · exact ⟨st', readFrom_of_skipBlanks (by rw [h.flags, hs]), h⟩
    · obtain rfl : n = m := by omega
      unfold advance at ha
      split at ha
      · cases ha
      · rename_i c rest hs
        obtain ⟨st₁', hstep, h'⟩ := step_ascii hn h ha
        obtain ⟨final', hr', hfinal⟩ := ih h' hr
        refine ⟨final', ?_, hfinal⟩
        have hadv : st'.advance .ascii s = some (st₁', s₁) := by
          simp only [advance, h.flags, hs, hstep]
        rw [readFrom_succ_of_advance hadv]
        exact hr'

end ReaderState

/-- **What can be read with the Unicode shorthands can be read with the ASCII shorthands.** -/
theorem readWith?_ascii_of_read? [PropertyTable] {s : List Char} (h : (read? s).isSome = true) :
    ∃ final, ReaderState.readFrom .ascii s.length {} s = some final ∧ final.outer = [] ∧
      readWith? .ascii s = some final.content.expr := by
  obtain ⟨e, he⟩ := Option.isSome_iff_exists.1 h
  unfold read? readWith? at he
  split at he
  · cases he
  · rename_i part hp
    split at he
    · rename_i hdepth
      obtain ⟨final, hr, hfin⟩ := Option.bind_eq_some_iff.1 hp
      obtain ⟨final', hr', hsees⟩ := ReaderState.readFrom_ascii rfl
        (ReaderState.sees_base .depth rfl rfl rfl : ReaderState.Sees .depth {} {} {}) hr
      unfold ReaderState.finish? at hfin
      split at hfin
      · rename_i hout
        cases hfin
        have hout' : final'.outer = [] := by
          obtain ⟨groups, ho, hg⟩ := hsees.outer
          rw [List.isEmpty_iff.1 hout] at hg
          rw [ho, List.map_eq_nil_iff.1 hg]
          rfl
        have hcontent : final'.content.depth = final.content.depth := congrArg Prod.fst hsees.content
        have hdepth' : final'.content.depth ≤ Part.maxDepth := hcontent ▸ hdepth
        refine ⟨final', hr', hout', ?_⟩
        unfold readWith?
        simp [hr', ReaderState.finish?, hout', hdepth']
      · cases hfin
    · cases he

end UriRouter.Regex
