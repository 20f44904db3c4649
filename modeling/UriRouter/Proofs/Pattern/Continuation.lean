import UriRouter.Proofs.Pattern.Grammar
import UriRouter.Proofs.Pattern.Shape
import UriRouter.Proofs.Regex.Beginning
import UriRouter.Proofs.Derive.Resource

/-!
# Patterns that go on

A pattern goes on with literal text, or with a placeholder of its own. Whether the longer pattern
compiles hangs on nothing but whether the shorter one does, and on the names it has given.

* `readItems_append_literals` : the tree of a text with literal text after it;
* `exists_compile_literals` : literal text after a pattern makes no difference;
* `exists_compile_placeholder` : when a placeholder may follow.
-/

set_option autoImplicit false

namespace UriRouter.Pattern

open UriRouter.Regex

/-! ## Patterns in normal form -/

theorem toList_normalizePattern {s : String} {c : Char} {rest : List Char} (h : s.toList = c :: rest) :
    (Path.normalizePattern s).toList = if c = '[' ∨ c = '/' then c :: rest else '/' :: c :: rest := by
  unfold Path.normalizePattern Path.normalize
  rw [h]
  split
  · rename_i he
    cases he
    simp [h]
  · rename_i hbracket
    split
    · rename_i he
      cases he
      simp [h]
    · rename_i hslash
      rw [if_neg, String.toList_append, h]
      · rfl
      · rintro (rfl | rfl)
        · exact hbracket _ rfl
        · exact hslash _ rfl

theorem of_mem_normalizePattern {s : String} {c : Char}
    (h : c ∈ (Path.normalizePattern s).toList) : c = '/' ∨ c ∈ s.toList := by
  cases hl : s.toList with
  | nil =>
    rw [String.toList_eq_nil_iff.1 hl] at h
    exact .inl (List.mem_singleton.1 h)
  | cons d rest =>
    rw [toList_normalizePattern hl] at h
    split at h
    · exact .inr h
    · exact List.mem_cons.1 h

theorem mem_normalizePattern {s : String} {c : Char} (h : c ∈ s.toList) :
    c ∈ (Path.normalizePattern s).toList := by
  cases hl : s.toList with
  | nil =>
    rw [hl] at h
    cases h
  | cons d rest =>
    rw [hl] at h
    rw [toList_normalizePattern hl]
    split
    · exact h
    · exact List.mem_cons_of_mem _ h

/-- What is put after a text that is not empty is put after its normal form. -/
theorem toList_normalizePattern_append {s : String} (hs : s ≠ "") (t : String) :
    (Path.normalizePattern (s ++ t)).toList = (Path.normalizePattern s).toList ++ t.toList := by
  cases hl : s.toList with
  | nil => exact absurd (String.toList_eq_nil_iff.1 hl) hs
  | cons c rest =>
    have happend : (s ++ t).toList = c :: (rest ++ t.toList) := by
      rw [String.toList_append, hl]
      rfl
    rw [toList_normalizePattern hl, toList_normalizePattern happend]
    split <;> rfl

/-! ## The beginning of an expression -/

theorem whole_escapeChar (c : Char) : Whole (escapeChar c) := by
  unfold escapeChar
  split
  · exact .pair .nil
  · rename_i hc
    refine .char ?_ .nil
    rintro rfl
    exact hc (by decide)

mutual

theorem whole_regexText (index : Nat) : ∀ item : Item, Whole (item.regexText index)
  | .literal c => whole_escapeChar c
  | .placeholder name constraint => by
    rw [regexText_placeholder]
    exact whole_append_char (by decide) _
  | .optional items => by
    rw [regexText_optional]
    have hopen : Whole "(?:".toList := whole_append_char (c := ':') (by decide) "(?".toList
    have hclose : Whole ")?".toList := whole_append_char (c := '?') (by decide) ")".toList
    exact (hopen.append (whole_regexTextOf index items)).append hclose

theorem whole_regexTextOf (index : Nat) : ∀ items : List Item, Whole (regexTextOf index items)
  | [] => .nil
  | item :: rest => by
    rw [regexTextOf]
    exact (whole_regexText index item).append (whole_regexTextOf _ rest)

end

/-- The expression of a pattern without the end of the text. -/
def openText (items : List Item) : List Char := '^' :: regexTextOf 0 items

theorem whole_openText (items : List Item) : Whole (openText items) :=
  .char (by decide) (whole_regexTextOf 0 items)

theorem matcherText_append (items more : List Item) :
    matcherText (items ++ more) =
      openText items ++ (regexTextOf (namesOf items).length more ++ ['$']) := by
  rw [matcherText, openText, regexTextOf_append, Nat.zero_add]
  simp

/-- Plain signs stand for themselves in an expression. -/
theorem regexTextOf_literals {w : List Char} (hp : w.all ReaderState.isPlain = true)
    (hm : ∀ c ∈ w, IsMember c) (hd : ∀ c ∈ w, c ∉ delimiters) (index : Nat) :
    regexTextOf index (literals w) = w := by
  induction w with
  | nil => rfl
  | cons c w ih =>
    rw [List.all_cons, Bool.and_eq_true] at hp
    obtain ⟨⟨hback, -, hmem⟩, hm⟩ := List.forall_mem_cons.1 hm
    obtain ⟨hdel, hd⟩ := List.forall_mem_cons.1 hd
    have hescape : escapeChar c = [c] := by
      refine if_neg fun hmeta => ?_
      have hplain := hp.1
      simp only [ReaderState.isPlain, delimiters, metaChars, List.contains_eq_mem, List.mem_cons,
        List.not_mem_nil, or_false, decide_eq_true_eq, not_or, Bool.and_eq_true, Bool.not_eq_true',
        decide_eq_false_iff_not] at hplain hmem hdel hmeta
      tauto
    show escapeChar c ++ regexTextOf (index + 0) (literals w) = _
    rw [hescape, Nat.add_zero, ih hp.2 hm hd]
    rfl

theorem isTail_placeholder (index : Nat) (name : String) :
    IsTail ('/' :: (Item.placeholder name none).regexText index ++ ['$']) where
  head := ⟨'/', _, rfl, .inl rfl⟩
  line := by
    have hdigits : '\n' ∉ Nat.toDigits 10 index := fun h =>
      absurd (Nat.isDigit_of_mem_toDigits (by decide) (by decide) h) (by decide)
    rw [regexText_placeholder, toList_groupName]
    simp [hdigits, constraintText, defaultConstraint]

/-- A text of plain signs, of which the first is a `/`. -/
structure IsPlainText (w : List Char) : Prop where
  plain : w.all ReaderState.isPlain = true
  members : ∀ c ∈ w, IsMember c
  head : ∀ c ∈ w.head?, c = '/'

theorem IsPlainText.tail {w : List Char} (h : IsPlainText w) : IsPlainTail (w ++ ['$']) where
  head := by
    cases w with
    | nil => exact ⟨'$', [], rfl, .inr rfl⟩
    | cons c w => exact ⟨c, w ++ ['$'], rfl, .inl (h.head c rfl)⟩
  line hmem := by
    rcases List.mem_append.1 hmem with hmem | hmem
    · have := (h.members _ hmem).2.1
      exact absurd this (by decide)
    · exact absurd hmem (by decide)
  members := List.forall_mem_append.2 ⟨h.members, by simp [IsMember]; decide⟩

/-! ## What a tail adds -/

/-- A construct is as deep as each of its parts, and deeper if it has more than one. -/
theorem depth_le_depthOf {p : Part} {parts : List Part} (h : p ∈ parts) :
    p.depth ≤ Part.depthOf parts ∧ (2 ≤ parts.length → p.depth + 1 ≤ Part.depthOf parts) := by
  have hfold : ∀ (ds : List Nat) (m : Nat), m ≤ ds.foldl max m ∧ ∀ d ∈ ds, d ≤ ds.foldl max m := by
    intro ds
    induction ds with
    | nil => exact fun m => ⟨Nat.le_refl m, by simp⟩
    | cons d ds ih =>
      intro m
      obtain ⟨hm, hds⟩ := ih (max m d)
      exact ⟨(le_max_left m d).trans hm, List.forall_mem_cons.2 ⟨(le_max_right m d).trans hm, hds⟩⟩
  match parts, h with
  | [q], h =>
    obtain rfl := List.mem_singleton.1 h
    exact ⟨Nat.le_refl _, fun hlen => absurd hlen (by simp)⟩
  | q :: q' :: rest, h =>
    have hle := (hfold ((q :: q' :: rest).map (·.depth)) 0).2 _ (List.mem_map_of_mem h)
    have hdepth : Part.depthOf (q :: q' :: rest) =
        1 + ((q :: q' :: rest).map (·.depth)).foldl max 0 := rfl
    omega

/-- Some parts have been added to the current sequence, none of which is deeper than a placeholder's
group. -/
structure Appends (st st' : ReaderState) : Prop where
  outer : st'.outer = st.outer
  branches : st'.branches = st.branches
  items : ∃ ps, ps ≠ [] ∧ st'.items = ps ++ st.items ∧ ∀ p ∈ ps, p.depth ≤ 3

theorem Appends.trans {st st₁ st₂ : ReaderState} (h : Appends st st₁) (h' : Appends st₁ st₂) :
    Appends st st₂ := by
  obtain ⟨ps, hne, hps, hd⟩ := h.items
  obtain ⟨ps', -, hps', hd'⟩ := h'.items
  refine ⟨h'.outer.trans h.outer, h'.branches.trans h.branches, ps' ++ ps, by simp [hne], ?_, ?_⟩
  · rw [hps', hps, List.append_assoc]
  · exact List.forall_mem_append.2 ⟨hd', hd⟩

theorem appends_pushAtom (st : ReaderState) (a : Atom) : Appends st (st.pushAtom a) := by
  cases a <;> exact ⟨rfl, rfl, [_], by simp, rfl, by simp⟩

/-- Whether the whole nests too deeply does not hang on what is added. -/
theorem Appends.depth_le {st st₁ st₂ : ReaderState} (h₁ : Appends st st₁) (h₂ : Appends st st₂)
    (h : st₁.content.depth ≤ Part.maxDepth) : st₂.content.depth ≤ Part.maxDepth := by
  obtain ⟨ps, hne, hitems, -⟩ := h₁.items
  obtain ⟨qs, -, hitems', hqs⟩ := h₂.items
  have hpos := List.length_pos_iff.2 hne
  generalize hd : Part.depthOf st₁.items.reverse = d
  -- the sequence
  have hseq : Part.depthOf st₂.items.reverse ≤ 1 + max (d - 1) 3 := by
    refine depthOf_le fun p hp => ?_
    rw [List.mem_reverse, hitems', List.mem_append] at hp
    rcases hp with hp | hp
    · exact (hqs p hp).trans (le_max_right _ _)
    · have hmem : p ∈ st₁.items.reverse := by
        rw [List.mem_reverse, hitems]
        exact List.mem_append_right ps hp
      have hlen : 2 ≤ st₁.items.reverse.length := by
        have := List.length_pos_of_mem hp
        rw [List.length_reverse, hitems, List.length_append]
        omega
      have := (depth_le_depthOf hmem).2 hlen
      omega
  -- the choice of which it is a branch
  have hcontent {st' : ReaderState} (hb : st'.branches = st.branches) :
      st'.content.depth = Part.depthOf ((Part.sequence st'.items.reverse :: st.branches).reverse) := by
    rw [← hb]
    rfl
  rw [hcontent h₁.branches] at h
  rw [hcontent h₂.branches]
  cases hbr : st.branches with
  | nil =>
    rw [hbr] at h
    have h : d ≤ Part.maxDepth := hd ▸ h
    have hmax : Part.maxDepth = 250 := rfl
    show Part.depthOf st₂.items.reverse ≤ Part.maxDepth
    omega
  | cons br branches =>
    rw [hbr] at h
    have hlen (p : Part) : 2 ≤ ((p :: br :: branches).reverse).length := by simp
    have hmem {p : Part} (hp : p ∈ Part.sequence st₁.items.reverse :: br :: branches) :=
      (depth_le_depthOf (List.mem_reverse.2 hp)).2 (hlen _)
    have hle : Part.depthOf ((Part.sequence st₂.items.reverse :: br :: branches).reverse) ≤ 1 + 249 := by
      refine depthOf_le fun p hp => ?_
      rcases List.mem_cons.1 (List.mem_reverse.1 hp) with rfl | hp
      · have hle : Part.depthOf st₁.items.reverse + 1 ≤ _ := hmem List.mem_cons_self
        have hmax : Part.maxDepth = 250 := rfl
        show Part.depthOf st₂.items.reverse ≤ 249
        omega
      · have := hmem (List.mem_cons_of_mem _ hp)
        have hmax : Part.maxDepth = 250 := rfl
        omega
    exact hle

/-! ## Trees -/

/-- A tree whose text ends with a literal character ends with that character. -/
theorem eq_append_literal {items : List Item} {s : List Char} {c : Char} (hc : c ∉ delimiters)
    (hr : renderAll items = s ++ [c]) : ∃ init, items = init ++ [.literal c] := by
  rcases List.eq_nil_or_concat items with rfl | ⟨init, item, rfl⟩
  · rw [renderAll_nil] at hr
    exact absurd (congrArg List.length hr) (by simp)
  · rw [List.concat_eq_append] at hr ⊢
    rw [renderAll_append, renderAll_cons, renderAll_nil, List.append_nil] at hr
    have hlast {r : List Char} {d : Char} (he : item.render = r ++ [d]) : d = c := by
      rw [he, ← List.append_assoc] at hr
      exact List.singleton_inj.1 (List.append_inj' hr rfl).2
    cases item with
    | literal d =>
      rw [hlast (r := []) rfl]
      exact ⟨init, rfl⟩
    | placeholder name constraint =>
      refine absurd (?_ : c ∈ delimiters) hc
      cases constraint with
      | none =>
        rw [← hlast (r := '\x7b' :: name.toList) rfl]
        decide
      | some constraint =>
        rw [← hlast (r := '\x7b' :: name.toList ++ ':' :: constraint.toList) (d := '\x7d')
          (by simp [Item.render])]
        decide
    | optional items =>
      refine absurd (?_ : c ∈ delimiters) hc
      rw [← hlast (r := '[' :: renderAll items) rfl]
      decide

theorem eq_literals {items : List Item} (h : items.all (·.isLiteral) = true) :
    ∃ s, items = literals s := by
  induction items with
  | nil => exact ⟨[], rfl⟩
  | cons item items ih =>
    rw [List.all_cons, Bool.and_eq_true] at h
    obtain ⟨s, rfl⟩ := ih h.2
    cases item with
    | literal c => exact ⟨c :: s, rfl⟩
    | placeholder => cases h.1
    | optional => cases h.1

theorem constraintsOf_append (xs ys : List Item) :
    constraintsOf (xs ++ ys) = constraintsOf xs ++ constraintsOf ys := by
  induction xs with
  | nil => rfl
  | cons x xs ih => rw [List.cons_append, constraintsOf, constraintsOf, ih, List.append_assoc]

variable [PropertyTable]

/-- What is a tree of a text and has all its names once is what the text is read to. -/
theorem readItems_of_isTreeOf {items : List Item} {s : List Char} (h : IsTreeOf items s) :
    readItems s = .ok items := by
  rcases readItems_renderAll_cases h.wellFormed h.names with hr | ⟨name, c, hc, hnone, -⟩
  · rwa [h.render] at hr
  · have := h.constraints c hc
    rw [hnone] at this
    cases this

/-- The tree of a text with literal text after it. -/
theorem readItems_append_literals {s t : List Char} (ht : ∀ c ∈ t, c ∉ delimiters)
    {items' : List Item} :
    readItems (s ++ t) = .ok items' ↔
      ∃ items, readItems s = .ok items ∧ items' = items ++ literals t := by
  induction t generalizing s items' with
  | nil =>
    rw [List.append_nil]
    simp [literals]
  | cons c t ih =>
    obtain ⟨hc, ht⟩ := List.forall_mem_cons.1 ht
    rw [List.append_cons, ih ht]
    constructor
    · rintro ⟨items₁, h₁, rfl⟩
      have htree := isTreeOf_of_readItems h₁
      obtain ⟨items, rfl⟩ := eq_append_literal hc htree.render
      refine ⟨items, readItems_of_isTreeOf ⟨?_, ?_, ?_, fun d hd => htree.constraints d ?_⟩, ?_⟩
      · have hr := htree.render
        rw [renderAll_append] at hr
        simpa [Item.render] using hr
      · have hw := htree.wellFormed
        rw [areWellFormed_append, Bool.and_eq_true] at hw
        exact hw.1
      · have hn := htree.names
        rw [namesOf_append] at hn
        exact (List.nodup_append.1 hn).1
      · rw [constraintsOf_append]
        exact List.mem_append_left _ hd
      · simp [literals]
    · rintro ⟨items, h, rfl⟩
      have htree := isTreeOf_of_readItems h
      refine ⟨items ++ [.literal c], readItems_of_isTreeOf ⟨?_, ?_, ?_, fun d hd => ?_⟩, by
        simp [literals]⟩
      · rw [renderAll_append, htree.render]
        simp [Item.render]
      · rw [areWellFormed_append, htree.wellFormed]
        simp [areWellFormed, Item.isWellFormed, hc]
      · rw [namesOf_append]
        simpa [Item.names] using htree.names
      · rw [constraintsOf_append] at hd
        simp only [constraintsOf, Item.constraints, List.append_nil] at hd
        exact htree.constraints d hd

/-! ## Reading a tail -/

theorem reads_plain {c : Char} (hc : ReaderState.isPlain c = true) (st : ReaderState) :
    Reads st [c] (st.pushAtom (.char c)) :=
  .one (by simp) fun tail _ => ReaderState.advance_plain hc st tail

theorem reads_end (st : ReaderState) : ∃ a, Reads st ['$'] (st.pushAtom a) := by
  refine ⟨.assertion st.flags.endAssertion, .one (by simp) fun tail _ => ?_⟩
  have hskip : skipBlanks st.flags.verbose ('$' :: tail) = '$' :: tail := by
    cases st.flags.verbose <;> rfl
  simp [ReaderState.advance, hskip, ReaderState.step]

/-- Literal text without signs that have a meaning, up to the end of the expression. -/
theorem reads_plainText {w : List Char} (hw : w.all ReaderState.isPlain = true) (st : ReaderState) :
    ∃ st', Reads st (w ++ ['$']) st' ∧ Appends st st' ∧ st'.names = st.names := by
  induction w generalizing st with
  | nil =>
    obtain ⟨a, ha⟩ := reads_end st
    exact ⟨_, ha, appends_pushAtom st a, by cases a <;> rfl⟩
  | cons c w ih =>
    rw [List.all_cons, Bool.and_eq_true] at hw
    obtain ⟨st', hr, hadd, hn⟩ := ih hw.2 (st.pushAtom (.char c))
    refine ⟨st', (reads_plain hw.1 st).append hr ?_, (appends_pushAtom st _).trans hadd, hn⟩
    cases w with
    | nil => simp
    | cons d w =>
      rw [List.all_cons, Bool.and_eq_true] at hw
      rintro he
      cases he
      exact absurd hw.2.1 (by decide)

theorem advance_openGroup (st : ReaderState) (index : Nat) (tail : List Char) :
    st.advance .unicode ("(?P<".toList ++ (groupName index).toList ++ '>' :: tail) =
      if groupName index ∈ st.names then none
      else some ({ st.openGroup (.noting (some (groupName index))) st.flags with
        names := groupName index :: st.names }, tail) := by
  have hne : (groupName index).toList ≠ [] := by simp [toList_groupName]
  have hskip {c : Char} (hb : Text.isBlank c = false) (hm : c ≠ '#') (s : List Char) :
      skipBlanks st.flags.verbose (c :: s) = c :: s := by
    cases st.flags.verbose with
    | false => rfl
    | true => exact skipBlanksFrom_stop hb hm s
  simp only [show "(?P<".toList = ['(', '?', 'P', '<'] from rfl, List.cons_append, List.nil_append,
    ReaderState.advance, hskip (c := '(') (by decide) (by decide), ReaderState.step,
    ReaderState.stepOpen, hskip (c := '?') (by decide) (by decide), ReaderState.openNamed?,
    readName_groupName]
  simp [hne]

/-- A placeholder without a constraint, where its name is free. -/
theorem reads_placeholder (st : ReaderState) {index : Nat} (hn : groupName index ∉ st.names)
    (name : String) :
    ∃ st', Reads st ((Item.placeholder name none).regexText index) st' ∧ Appends st st' ∧
      st'.names = groupName index :: st.names := by
  have hopen : Reads st ("(?P<".toList ++ (groupName index).toList ++ ['>'])
      { st.openGroup (.noting (some (groupName index))) st.flags with
        names := groupName index :: st.names } := by
    refine .one (by simp) fun tail _ => ?_
    rw [List.append_assoc, List.singleton_append, advance_openGroup, if_neg hn]
  have hbracket (st : ReaderState) :
      ∃ set, Reads st "[^/]".toList (st.push ⟨.chars set, 1, true⟩) := by
    refine ⟨.complementIf true ((CharSet.single '/').foldIf st.flags.ignoreCase),
      .one (by simp) fun tail _ => ?_⟩
    have hskip : skipBlanks st.flags.verbose ("[^/]".toList ++ tail) = "[^/]".toList ++ tail := by
      cases st.flags.verbose <;> rfl
    have hread : readBracket .unicode st.flags.verbose st.flags.ignoreCase ("^/]".toList ++ tail) =
        some (⟨.complementIf true ((CharSet.single '/').foldIf st.flags.ignoreCase), 1⟩, tail) := by
      cases st.flags.verbose <;> cases st.flags.ignoreCase <;> rfl
    rw [ReaderState.advance, hskip]
    show (readBracket .unicode st.flags.verbose st.flags.ignoreCase ("^/]".toList ++ tail)).map _ = _
    rw [hread]
    rfl
  have hplus {st st' : ReaderState} (hr : st.repeatLast? 1 none true = some st') :
      Reads st ['+'] st' := by
    refine .one (by simp) fun tail htail => ?_
    have hskip : skipBlanks st.flags.verbose ('+' :: tail) = '+' :: tail := by
      cases st.flags.verbose <;> rfl
    rw [ReaderState.advance, List.singleton_append, hskip]
    show st.stepRepeat 1 none tail = _
    unfold ReaderState.stepRepeat
    split
    · exact absurd rfl htail
    · rw [hr]
      rfl
  have hclose {st st' : ReaderState} (hr : st.closeGroup? = some st') : Reads st [')'] st' := by
    refine .one (by simp) fun tail _ => ?_
    have hskip : skipBlanks st.flags.verbose (')' :: tail) = ')' :: tail := by
      cases st.flags.verbose <;> rfl
    rw [ReaderState.advance, List.singleton_append, hskip]
    show st.closeGroup?.map _ = _
    rw [hr]
    rfl
  obtain ⟨set, hset⟩ := hbracket { st.openGroup (.noting (some (groupName index))) st.flags with
    names := groupName index :: st.names }
  have hall := ((hopen.append hset (by simp)).append (hplus rfl) (by simp)).append (hclose rfl) (by simp)
  have htext : (Item.placeholder name none).regexText index =
      (((("(?P<".toList ++ (groupName index).toList ++ ['>']) ++ "[^/]".toList) ++ ['+']) ++ [')']) := by
    rw [regexText_placeholder]
    simp [constraintText, defaultConstraint]
  rw [htext]
  refine ⟨_, hall, ⟨rfl, rfl, [_], by simp, rfl, fun p hp => ?_⟩, rfl⟩
  obtain rfl := List.mem_singleton.1 hp
  exact Nat.le_refl 3

/-! ## Expressions that go on -/

/-- Reading a text of which no more is left leads to its end. -/
theorem Reads.leads {st st' : ReaderState} {s : List Char} (h : Reads st s st') :
    ReaderState.Leads st s st' [] := by
  obtain ⟨n, hn, hr⟩ := h [] (by simp)
  rw [List.append_nil] at hr
  exact .of_reaches hr (by simpa using hn)

theorem read?_of_leads {s : List Char} {st : ReaderState} (h : ReaderState.Leads {} s st []) :
    ((read? s).isSome = true ↔ st.outer = [] ∧ st.content.depth ≤ Part.maxDepth) ∧
      ReaderState.namesIn s = st.names := by
  have hread := h.readFrom_length
  refine ⟨?_, by rw [ReaderState.namesIn, hread]; rfl⟩
  rw [read?, readWith?, hread, Option.bind_some, ReaderState.finish?]
  cases st.outer with
  | nil => by_cases hd : st.content.depth ≤ Part.maxDepth <;> simp [hd]
  | cons group outer => simp

/-- After literal text, the expression goes on in one of two ways: the reader comes to the same
state before every tail; or a comment takes every tail along. -/
theorem leads_of_read? {u w : List Char} (hu : Whole u) (hw : IsPlainText w)
    (h : (read? (u ++ (w ++ ['$']))).isSome = true) :
    ∃ st, (∀ t, IsTail t → ReaderState.Leads {} (u ++ t) st []) ∨
      ∀ t, IsTail t → ReaderState.Leads {} (u ++ t) st t := by
  obtain ⟨e, he⟩ := Option.isSome_iff_exists.1 h
  obtain ⟨final, hr, -⟩ := ReaderState.readFrom_of_read? he
  exact ReaderState.leads_of_readFrom (k := some u) hw.tail (by rintro _ ⟨⟩; exact hu) hr

/-- Where an expression ends with some literal text, it may end with any other. -/
theorem read?_of_plainText {u w w' : List Char} (hu : Whole u) (hw : IsPlainText w)
    (hw' : IsPlainText w') (h : (read? (u ++ (w ++ ['$']))).isSome = true) :
    (read? (u ++ (w' ++ ['$']))).isSome = true ∧
      ReaderState.namesIn (u ++ (w' ++ ['$'])) = ReaderState.namesIn (u ++ (w ++ ['$'])) := by
  obtain ⟨st, hlead | hlead⟩ := leads_of_read? hu hw h
  · obtain ⟨hiff, hn⟩ := read?_of_leads (hlead _ hw.tail.toIsTail)
    obtain ⟨hiff', hn'⟩ := read?_of_leads (hlead _ hw'.tail.toIsTail)
    exact ⟨hiff'.2 (hiff.1 h), hn'.trans hn.symm⟩
  · obtain ⟨st₁, hr, hadd, hn⟩ := reads_plainText hw.plain st
    obtain ⟨st₂, hr', hadd', hn'⟩ := reads_plainText hw'.plain st
    obtain ⟨hiff, hnames⟩ := read?_of_leads ((hlead _ hw.tail.toIsTail).trans hr.leads)
    obtain ⟨hiff', hnames'⟩ := read?_of_leads ((hlead _ hw'.tail.toIsTail).trans hr'.leads)
    obtain ⟨houter, hdepth⟩ := hiff.1 h
    refine ⟨hiff'.2 ⟨?_, hadd.depth_le hadd' hdepth⟩, by rw [hnames', hnames, hn, hn']⟩
    rw [hadd'.outer, ← hadd.outer, houter]

/-- Whether a placeholder with this number cannot follow a text: another group has its name, and no
comment takes the placeholder along. -/
def groupIsTaken (index : Nat) (u : List Char) : Prop :=
  groupName index ∈ ReaderState.namesIn (u ++ ['$']) ∧ ReaderState.endsInComment (u ++ ['/']) = false

instance (index : Nat) (u : List Char) : Decidable (groupIsTaken index u) :=
  inferInstanceAs (Decidable (_ ∧ _))

/-- When a placeholder may follow an expression. -/
theorem read?_placeholder {u : List Char} (hu : Whole u) (index : Nat) (name : String)
    (h : (read? (u ++ ['$'])).isSome = true) :
    (read? (u ++ ('/' :: (Item.placeholder name none).regexText index ++ ['$']))).isSome = true ↔
      ¬ groupIsTaken index u := by
  have hnil : IsPlainText [] := ⟨rfl, by simp, by simp⟩
  have htail := isTail_placeholder index name
  have hclose : IsTail ['/', ')'] := ⟨⟨'/', _, rfl, .inl rfl⟩, by decide⟩
  have htext : u ++ ['/'] ++ [')'] = u ++ ['/', ')'] := by simp
  obtain ⟨st, hlead | hlead⟩ := leads_of_read? hu hnil h
  · -- a comment takes it along
    have hcomment : ReaderState.endsInComment (u ++ ['/']) = true := by
      have hread := (hlead _ hclose).readFrom_length
      rw [← htext, List.length_append, List.length_singleton] at hread
      rw [ReaderState.endsInComment, hread]
      rfl
    have hnot : ¬ groupIsTaken index u := fun ht => by
      rw [ht.2] at hcomment
      cases hcomment
    refine iff_of_true ?_ hnot
    exact (read?_of_leads (hlead _ htail)).1.2 ((read?_of_leads (hlead _ hnil.tail.toIsTail)).1.1 h)
  · obtain ⟨st₁, hr, hadd, hn⟩ := reads_plainText hnil.plain st
    obtain ⟨hiff, hnames⟩ := read?_of_leads ((hlead _ hnil.tail.toIsTail).trans hr.leads)
    obtain ⟨houter, hdepth⟩ := hiff.1 h
    have hskip {s : List Char} : skipBlanks st.flags.verbose ('/' :: s) = '/' :: s := by
      cases st.flags.verbose <;> rfl
    -- reading the `/` comes first
    have hturn {s : List Char} {final : ReaderState} (he : ReaderState.Ends st ('/' :: s) final) :
        ReaderState.Ends (st.pushAtom (.char '/')) s final := by
      obtain ⟨st₂, s₂, ha, he₂⟩ := he.turn (by simp [hskip])
      rw [ReaderState.advance_plain (by decide)] at ha
      cases ha
      exact he₂
    have hcomment : ReaderState.endsInComment (u ++ ['/']) = false := by
      refine Bool.eq_false_iff.2 fun hc => ?_
      obtain ⟨final, hread⟩ := Option.isSome_iff_exists.1 hc
      rw [htext] at hread
      obtain ⟨st₂, hclosed, -⟩ := (hturn ((hlead _ hclose).ends_iff.1 ⟨_, hread⟩)).closeGroup
      have hout : (st.pushAtom (.char '/')).outer = [] := by
        rw [(appends_pushAtom st _).outer, ← hadd.outer, houter]
      rw [ReaderState.closeGroup?, hout] at hclosed
      cases hclosed
    have htaken : groupIsTaken index u ↔ groupName index ∈ st.names := by
      rw [groupIsTaken, hcomment, and_iff_left rfl, ← hn, ← hnames]
      rfl
    rw [htaken]
    constructor
    · intro hread hmem
      obtain ⟨e, he⟩ := Option.isSome_iff_exists.1 hread
      obtain ⟨final, hfinal, -⟩ := ReaderState.readFrom_of_read? he
      have hgroup : (Item.placeholder name none).regexText index ++ ['$'] =
          "(?P<".toList ++ (groupName index).toList ++ '>' :: (constraintText none ++ [')', '$']) := by
        rw [regexText_placeholder]
        simp
      have hends : ReaderState.Ends (st.pushAtom (.char '/')) _ final :=
        hturn (s := (Item.placeholder name none).regexText index ++ ['$'])
          ((hlead _ htail).ends_iff.1 ⟨_, hfinal⟩)
      rw [hgroup] at hends
      obtain ⟨st₂, s₂, ha, -⟩ := hends.turn (by
        cases (st.pushAtom (.char '/')).flags.verbose <;> exact List.cons_ne_nil _ _)
      have hmem : groupName index ∈ (st.pushAtom (.char '/')).names := hmem
      rw [advance_openGroup, if_pos hmem] at ha
      cases ha
    · intro hfree
      obtain ⟨st₂, hr₂, hadd₂, -⟩ := reads_placeholder (st.pushAtom (.char '/')) hfree name
      obtain ⟨a, ha⟩ := reads_end st₂
      have hall := ((reads_plain (c := '/') (by decide) st).append hr₂ (by simp [regexText_placeholder])).append
        ha (by simp)
      have hadds := ((appends_pushAtom st (.char '/')).trans hadd₂).trans (appends_pushAtom st₂ a)
      refine (read?_of_leads ((hlead _ htail).trans hall.leads)).1.2
        ⟨?_, hadd.depth_le hadds hdepth⟩
      rw [hadds.outer, ← hadd.outer, houter]

/-! ## Compiling -/

/-- A pattern without sections and constraints is always an expression. -/
theorem isSome_read?_of_isBare {items : List Item} (h : ∀ item ∈ items, item.isBare = true) :
    (read? (matcherText items)).isSome = true := by
  rw [read?_matcherText (by simp [constraintsOf_of_isBare h]),
    if_pos (depth_matcherParts_of_isBare h)]
  rfl

/-- Literal text is always an expression. -/
theorem isSome_read?_literals {items : List Item} (h : items.all (·.isLiteral) = true) :
    (read? (matcherText items)).isSome = true :=
  isSome_read?_of_isBare fun item hi => isBare_of_isLiteral (List.all_eq_true.1 h item hi)

/-- A text compiles just where it has a tree, and the tree has an expression. -/
theorem exists_compile_iff {raw : String} :
    (∃ p, compile raw = .ok p) ↔
      ∃ items, readItems (Path.normalizePattern raw).toList = .ok items ∧
        (read? (matcherText items)).isSome = true := by
  constructor
  · rintro ⟨p, h⟩
    obtain ⟨items, hread, hkind, -⟩ := compile_eq_ok h
    refine ⟨items, hread, ?_⟩
    unfold kindOf at hkind
    split at hkind
    · rename_i hall
      exact isSome_read?_literals hall
    · split at hkind
      · rename_i e he
        rw [he]
        rfl
      · cases hkind
  · rintro ⟨items, hread, hsome⟩
    obtain ⟨e, he⟩ := Option.isSome_iff_exists.1 hsome
    by_cases hall : items.all (·.isLiteral) = true
    · simp only [compile, hread, kindOf, hall, ↓reduceIte]
      exact ⟨_, rfl⟩
    · simp only [compile, hread, kindOf, hall, he]
      exact ⟨_, rfl⟩

/-- **Literal text after a pattern** makes no difference to whether it compiles. -/
theorem exists_compile_literals {s w : String} (hs : s ≠ "") (hw : IsPlainText w.toList)
    (hd : ∀ c ∈ w.toList, c ∉ delimiters) :
    (∃ p, compile (s ++ w) = .ok p) ↔ ∃ p, compile s = .ok p := by
  have hnil : IsPlainText [] := ⟨rfl, by simp, by simp⟩
  have htext (items : List Item) :
      matcherText (items ++ literals w.toList) = openText items ++ (w.toList ++ ['$']) := by
    rw [matcherText_append, regexTextOf_literals hw.plain hw.members hd]
  rw [exists_compile_iff, exists_compile_iff, toList_normalizePattern_append hs]
  constructor
  · rintro ⟨items', hread', hsome⟩
    obtain ⟨items, hread, rfl⟩ := (readItems_append_literals hd).1 hread'
    rw [htext] at hsome
    exact ⟨items, hread, (read?_of_plainText (whole_openText items) hw hnil hsome).1⟩
  · rintro ⟨items, hread, hsome⟩
    refine ⟨_, (readItems_append_literals hd).2 ⟨items, hread, rfl⟩, ?_⟩
    rw [htext]
    exact (read?_of_plainText (whole_openText items) hnil hw hsome).1

/-- Whether an identifier cannot be asked for after a pattern: its name or the one of its group is
taken. -/
def TakesName (name : String) (items : List Item) : Prop :=
  name ∈ namesOf items ∨ groupIsTaken (namesOf items).length (openText items)

instance (name : String) (items : List Item) : Decidable (TakesName name items) :=
  inferInstanceAs (Decidable (_ ∨ _))

/-- **A placeholder after a pattern** compiles with it just where its names are free. -/
theorem exists_compile_placeholder {s name : String} (hs : s ≠ "") (hname : isValidName name.toList = true)
    {items : List Item} (hread : readItems (Path.normalizePattern s).toList = .ok items)
    (h : ∃ p, compile s = .ok p) :
    (∃ p, compile (s ++ ("/\x7b" ++ name ++ "\x7d")) = .ok p) ↔ ¬ TakesName name items := by
  obtain ⟨items₁, hread₁, hsome⟩ := exists_compile_iff.1 h
  cases hread.symm.trans hread₁
  have htree := isTreeOf_of_readItems hread
  have hw : areWellFormed (items ++ [.literal '/', .placeholder name none]) = true := by
    rw [areWellFormed_append, htree.wellFormed]
    simp only [areWellFormed, Item.isWellFormed, hname]
    rfl
  have hrender : renderAll (items ++ [.literal '/', .placeholder name none]) =
      (Path.normalizePattern (s ++ ("/\x7b" ++ name ++ "\x7d"))).toList := by
    rw [toList_normalizePattern_append hs, renderAll_append, htree.render]
    simp [Item.render]
  have hnames : namesOf (items ++ [.literal '/', .placeholder name none]) = namesOf items ++ [name] := by
    rw [namesOf_append]
    rfl
  have htext : matcherText (items ++ [.literal '/', .placeholder name none]) = openText items ++
      ('/' :: (Item.placeholder name none).regexText (namesOf items).length ++ ['$']) := by
    rw [matcherText_append]
    simp [regexTextOf, Item.regexText, Item.names, escapeChar, metaChars]
  have hgroup := read?_placeholder (whole_openText items) (namesOf items).length name hsome
  rw [exists_compile_iff, TakesName, not_or, ← hgroup, ← htext, ← hrender]
  constructor
  · rintro ⟨items', hread', hsome'⟩
    obtain rfl := readItems_renderAll hw hread'
    have hn := (isTreeOf_of_readItems hread').names
    rw [hnames] at hn
    exact ⟨fun hmem => (List.nodup_append.1 hn).2.2 _ hmem _ (List.mem_singleton_self name) rfl, hsome'⟩
  · rintro ⟨hfree, hsome'⟩
    refine ⟨_, readItems_of_isTreeOf ⟨rfl, hw, ?_, fun c hc => ?_⟩, hsome'⟩
    · rw [hnames]
      exact List.nodup_append.2 ⟨htree.names, List.nodup_singleton _, by
        rintro a ha b hb rfl
        exact hfree (List.mem_singleton.1 hb ▸ ha)⟩
    · rw [constraintsOf_append] at hc
      simp only [constraintsOf, Item.constraints, Option.toList_none, List.append_nil] at hc
      exact htree.constraints c hc

/-! ## Literal text -/

/-- A fixed pattern has no sign of any other part in it. -/
theorem notMem_delimiters_of_isFixed {raw : String} {p : Pattern} (h : compile raw = .ok p)
    (hf : p.isFixed = true) : ∀ c ∈ (Path.normalizePattern raw).toList, c ∉ delimiters := by
  obtain ⟨items, hread, hkind, -⟩ := compile_eq_ok h
  have hall : items.all (·.isLiteral) = true := by
    unfold kindOf at hkind
    split at hkind
    · assumption
    · split at hkind
      · rw [isFixed, ← Except.ok.inj hkind] at hf
        cases hf
      · cases hkind
  obtain ⟨s, rfl⟩ := eq_literals hall
  have htree := isTreeOf_of_readItems hread
  rw [← htree.render, renderAll_literals]
  exact areWellFormed_literals.1 htree.wellFormed

/-- Literal text takes no name. -/
theorem not_takesName_of_literal {s : List Char} {items : List Item} (hs : ∀ c ∈ s, c ∉ delimiters)
    (hread : readItems s = .ok items) (name : String) : ¬ TakesName name items := by
  rw [← renderAll_literals s] at hread
  obtain rfl := readItems_renderAll (areWellFormed_literals.2 hs) hread
  have hreads : Reads {} (matcherText (literals s)) _ :=
    reads_matcherText (by simp [constraintsOf_literals])
  have hnames := (read?_of_leads hreads.leads).2
  rintro (hmem | ⟨hmem, -⟩)
  · rw [namesOf_literals] at hmem
    cases hmem
  · have hmatcher : openText (literals s) ++ ['$'] = matcherText (literals s) := rfl
    rw [hmatcher, hnames] at hmem
    simp [afterParts, namesOf_literals, groupNames] at hmem

end UriRouter.Pattern
