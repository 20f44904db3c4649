import UriRouter.Pattern.Compiled
import UriRouter.Proofs.Pattern.Rendering
import UriRouter.Proofs.Regex.Reading
import UriRouter.Proofs.Regex.Unions

/-!
# The expressions of patterns with simple constraints

Where every constraint asks for digits or for word characters, the expression of a pattern can be
told from its tree.

* `Item.part`, `partsOf` : what the reader makes of each part of the pattern;
* `reads_regexTextOf` : that it does;
* `expr_of_read?` : the expression of a whole pattern.
-/

set_option autoImplicit false

namespace UriRouter.Pattern

open UriRouter.Regex UriRouter.Text

/-! ## Constraints -/

/-- The constraints that ask for nothing but characters of one class. -/
def runConstraints : List String := ["\\d+", "\\w+", "[0-9]+"]

mutual

/-- The constraints that are written in a part. -/
def Item.constraints : Item → List String
  | .literal _ => []
  | .placeholder _ constraint => constraint.toList
  | .optional items => constraintsOf items

/-- The constraints that are written in a sequence of parts, from left to right. -/
def constraintsOf : List Item → List String
  | [] => []
  | item :: rest => item.constraints ++ constraintsOf rest

end

/-- Whether a value may have a character in it, under a constraint that asks for one class. -/
def admits (constraint : Option String) (c : Char) : Bool :=
  match constraint with
  | none => c != '/'
  | some "\\w+" => isAsciiWordChar c
  | some _ => isAsciiDigit c

/-- The set of the characters that a value may have in it. -/
def valueSet (constraint : Option String) : CharSet :=
  match constraint with
  | none => (CharSet.single '/').complement
  | some "\\w+" => .asciiWord
  | some _ => .asciiDigits

/-- How deeply the brackets nest that the set is written with. -/
def valueNesting (constraint : Option String) : Nat :=
  match constraint with
  | some "\\w+" => 2
  | _ => 1

theorem mem_complement_slash (c : Char) : (CharSet.single '/').complement.mem c = (c != '/') := by
  have hs : (CharSet.single '/').complement = ⟨[(0, 0x2E), (0x30, 0x10FFFF)]⟩ := rfl
  have hc : c.toNat < 0x110000 := by
    have := c.valid
    simp only [UInt32.isValidChar, Nat.isValidChar] at this
    change c.val.toNat < _
    omega
  have he : c = '/' ↔ c.toNat = 0x2F := (Char.toNat_inj (d := '/')).symm
  rw [hs, Bool.eq_iff_iff, bne_iff_ne, ne_eq, he]
  simp only [CharSet.mem, inRanges, Bool.or_false]
  split
  · omega
  · split <;> simp <;> omega

/-- A range has the characters from its first to its last. -/
theorem mem_range (lo hi c : Char) : (CharSet.range lo hi).mem c = (lo ≤ c && c ≤ hi) := by
  rw [Bool.eq_iff_iff]
  simp only [CharSet.mem, CharSet.range, inRanges, Bool.or_false, Bool.and_eq_true,
    decide_eq_true_eq, Char.le_def, UInt32.le_iff_toNat_le, Char.toNat]
  split
  · rename_i h
    exact iff_of_false Bool.false_ne_true fun hd => Nat.not_le.2 h hd.1
  · rename_i h
    rw [decide_eq_true_eq]
    exact (and_iff_right (Nat.le_of_not_lt h)).symm

theorem mem_single (c d : Char) : (CharSet.single c).mem d = (d == c) := by
  rw [CharSet.single, mem_range, Bool.eq_iff_iff, Bool.and_eq_true, decide_eq_true_eq,
    decide_eq_true_eq, beq_iff_eq]
  exact ⟨fun h => Char.le_antisymm h.2 h.1, fun h => h ▸ ⟨Char.le_refl d, Char.le_refl d⟩⟩

theorem mem_valueSet (constraint : Option String) (c : Char) :
    (valueSet constraint).mem c = admits constraint c := by
  unfold valueSet admits
  split
  · exact mem_complement_slash c
  · exact CharSet.mem_asciiWord c
  · exact CharSet.mem_asciiDigits c

/-! ## Parts -/

mutual

/-- What the reader makes of a part whose placeholders are numbered from `index` on. -/
def Item.part (index : Nat) : Item → Part
  | .literal c => ⟨.chars (.single c), 0, true⟩
  | .placeholder _ constraint =>
    ⟨.group (some (groupName index)) (.repetition 1 none true (.chars (valueSet constraint))),
      2 + valueNesting constraint, true⟩
  | .optional items =>
    ⟨.repetition 0 (some 1) true (.ofMembers ((partsOf index items).map (·.expr))),
      2 + Part.depthOf (partsOf index items), true⟩

/-- What the reader makes of a sequence of parts whose placeholders are numbered from `index`
on. -/
def partsOf (index : Nat) : List Item → List Part
  | [] => []
  | item :: rest => item.part index :: partsOf (index + item.names.length) rest

end

/-- Whether an expression is neither a sequence nor a choice. -/
def StandsAlone (e : Expr) : Prop := e.members = [e] ∧ e.branches = [e]

theorem standsAlone_part (index : Nat) (item : Item) : StandsAlone (item.part index).expr := by
  cases item <;> exact ⟨rfl, rfl⟩

theorem standsAlone_partsOf (index : Nat) (items : List Item) :
    ∀ e ∈ (partsOf index items).map (·.expr), StandsAlone e := by
  induction items generalizing index with
  | nil => simp [partsOf]
  | cons item rest ih =>
    simp only [partsOf, List.map_cons, List.mem_cons]
    rintro e (rfl | he)
    · exact standsAlone_part index item
    · exact ih _ e he

theorem sequence_eq_ofMembers {es : List Expr} (h : ∀ e ∈ es, StandsAlone e) :
    Expr.sequence es = .ofMembers es := by
  have hm : es.flatMap Expr.members = es := by
    induction es with
    | nil => rfl
    | cons e rest ih =>
      rw [List.flatMap_cons, (h e (by simp)).1, ih fun d hd => h d (by simp [hd])]
      rfl
  rw [Expr.sequence, hm]

theorem choice_ofMembers {es : List Expr} (h : ∀ e ∈ es, StandsAlone e) :
    Expr.choice [.ofMembers es] = .ofMembers es := by
  have hb : (Expr.ofMembers es).branches = [.ofMembers es] := by
    match es with
    | [] => rfl
    | [e] => exact (h e (by simp)).2
    | _ :: _ :: _ => rfl
  simp [Expr.choice, Expr.choiceOfBranches, hb]

/-- The part that a group of such parts holds. -/
theorem content_of_standsAlone {st : ReaderState} (hb : st.branches = [])
    (h : ∀ e ∈ st.items.reverse.map (·.expr), StandsAlone e) :
    st.content = ⟨.ofMembers (st.items.reverse.map (·.expr)), Part.depthOf st.items.reverse, true⟩ := by
  simp only [ReaderState.content, hb, Part.sequence, Part.choice, List.reverse_cons,
    List.reverse_nil, List.nil_append, List.map_cons, List.map_nil]
  rw [sequence_eq_ofMembers h, choice_ofMembers h]
  rfl

/-- A group is closed with what was read since it began. -/
theorem closeGroup?_openGroup (st : ReaderState) (kind : GroupKind) (names : List String)
    {parts : List Part} (h : ∀ e ∈ parts.map (·.expr), StandsAlone e) :
    ({ st.openGroup kind {} with items := parts.reverse, names := names }).closeGroup? =
      some { st with
        items := ⟨kind.wrap (.ofMembers (parts.map (·.expr))), 1 + Part.depthOf parts, true⟩ ::
          st.items
        names := names } := by
  have hc : ({ st.openGroup kind {} with items := parts.reverse, names := names }).content =
      ⟨.ofMembers (parts.map (·.expr)), Part.depthOf parts, true⟩ := by
    rw [content_of_standsAlone rfl (by simpa using h)]
    simp
  simp only [ReaderState.closeGroup?, ReaderState.openGroup] at hc ⊢
  rw [hc]

/-- A section is kept as it is, whatever it holds. -/
theorem repeated_section (e : Expr) : Expr.repeated 0 (some 1) true e = .repetition 0 (some 1) true e := by
  unfold Expr.repeated
  cases e.isAlwaysEmpty <;> rfl

/-! ## The text of a part -/

theorem regexText_literal (index : Nat) (c : Char) :
    (Item.literal c).regexText index = escapeChar c := rfl

theorem regexText_placeholder (index : Nat) (name : String) (constraint : Option String) :
    (Item.placeholder name constraint).regexText index =
      "(?P<".toList ++ (groupName index).toList ++ '>' :: constraintText constraint ++ [')'] := rfl

theorem regexText_optional (index : Nat) (items : List Item) :
    (Item.optional items).regexText index =
      "(?:".toList ++ regexTextOf index items ++ ")?".toList := rfl

theorem head?_regexText (index : Nat) (item : Item) :
    (item.regexText index).head? ≠ some '?' := by
  cases item with
  | literal c =>
    by_cases hc : c ∈ metaChars
    · simp [regexText_literal, escapeChar, hc]
    · have : c ≠ '?' := by
        rintro rfl
        exact hc (by decide)
      simp [regexText_literal, escapeChar, hc, this]
  | placeholder name constraint => simp [regexText_placeholder]
  | optional items => simp [regexText_optional]

theorem head?_regexTextOf (index : Nat) (items : List Item) :
    (regexTextOf index items).head? ≠ some '?' := by
  induction items generalizing index with
  | nil => simp [regexTextOf]
  | cons item rest ih =>
    have h := head?_regexText index item
    rw [regexTextOf, List.head?_append]
    cases he : (item.regexText index).head? with
    | none => simpa using ih _
    | some c => simpa [he] using h

/-! ## The names of groups -/

theorem toList_groupName (index : Nat) :
    (groupName index).toList = '_' :: '_' :: 's' :: 'y' :: Nat.toDigits 10 index := by
  have h : (toString index).toList = Nat.toDigits 10 index := Nat.toList_repr
  rw [groupName, String.toList_append, h]
  rfl

theorem groupName_injective {i j : Nat} (h : groupName i = groupName j) : i = j := by
  have hd := congrArg String.toList h
  simp only [toList_groupName, List.cons.injEq, true_and] at hd
  rw [← Nat.ofDigitChars_ten_toDigits (n := i), hd, Nat.ofDigitChars_ten_toDigits]

theorem readName_append {s : List Char} (tail : List Char)
    (h : ∀ c ∈ s, c ≠ '>' ∧ ReaderState.isNameChar false c = true) :
    ReaderState.readName false (s ++ '>' :: tail) = some (s, tail) := by
  induction s with
  | nil => simp [ReaderState.readName]
  | cons c rest ih =>
    obtain ⟨hne, hc⟩ := h c (by simp)
    simp [ReaderState.readName, hne, hc, ih fun d hd => h d (by simp [hd])]

theorem isNameChar_of_isDigit {c : Char} (h : c.isDigit = true) :
    c ≠ '>' ∧ ReaderState.isNameChar false c = true := by
  have hb : '0'.toNat ≤ c.toNat ∧ c.toNat ≤ '9'.toNat := by
    simp only [Char.isDigit, Bool.and_eq_true, decide_eq_true_eq] at h
    exact h
  have h₀ : '0'.toNat = 48 := rfl
  have h₉ : '9'.toNat = 57 := rfl
  refine ⟨?_, ?_⟩
  · rintro rfl
    revert h
    decide
  · have ha : isAscii c = true := by simp [isAscii]; omega
    have hd : isAsciiDigit c = true := by
      simp only [isAsciiDigit, Bool.and_eq_true, decide_eq_true_eq]
      exact hb
    simp [ReaderState.isNameChar, isAlphanumeric, ha, hd]

theorem readName_groupName (index : Nat) (tail : List Char) :
    ReaderState.readName true ((groupName index).toList ++ '>' :: tail) =
      some ((groupName index).toList, tail) := by
  have hr := readName_append (s := '_' :: 's' :: 'y' :: Nat.toDigits 10 index) tail (by
    intro c hc
    simp only [List.mem_cons] at hc
    rcases hc with rfl | rfl | rfl | hc
    · decide
    · decide
    · decide
    · exact isNameChar_of_isDigit (Nat.isDigit_of_mem_toDigits (by decide) (by decide) hc))
  rw [toList_groupName, List.cons_append, ReaderState.readName, hr]
  rfl

/-- The names of the groups for `count` placeholders that are numbered from `index` on. -/
def groupNames (index count : Nat) : List String := (List.range' index count).map groupName

theorem groupNames_append (index m n : Nat) :
    groupNames index m ++ groupNames (index + m) n = groupNames index (m + n) := by
  rw [groupNames, groupNames, groupNames, ← List.map_append, List.range'_append_1]

/-- The state of the reader after parts whose placeholders are numbered from `index` on. -/
def afterParts (st : ReaderState) (index : Nat) (items : List Item) : ReaderState :=
  { st with
    items := (partsOf index items).reverse ++ st.items
    names := (groupNames index (namesOf items).length).reverse ++ st.names }

theorem afterParts_append (st : ReaderState) (index : Nat) (item : Item) (rest : List Item) :
    afterParts (afterParts st index [item]) (index + item.names.length) rest =
      afterParts st index (item :: rest) := by
  simp [afterParts, partsOf, ← groupNames_append]

theorem notMem_names_afterParts {st : ReaderState} {index : Nat} (item : Item)
    (hn : ∀ k, index ≤ k → groupName k ∉ st.names) :
    ∀ k, index + item.names.length ≤ k → groupName k ∉ (afterParts st index [item]).names := by
  intro k hk hmem
  simp only [afterParts, namesOf_cons, namesOf_nil, List.append_nil, List.mem_append,
    List.mem_reverse, groupNames, List.mem_map] at hmem
  rcases hmem with ⟨j, hj, he⟩ | hmem
  · have := (List.mem_range'_1.1 hj).2
    have := groupName_injective he
    omega
  · exact hn k (by omega) hmem

/-! ## Reading the text of a part -/

variable [PropertyTable]

/-- Reading a text, of which no `?` comes next, leads from one state to another. -/
def Reads (st : ReaderState) (s : List Char) (st' : ReaderState) : Prop :=
  ∀ tail : List Char, tail.head? ≠ some '?' →
    ∃ n, n ≤ s.length ∧ ReaderState.Reaches .unicode n st (s ++ tail) st' tail

theorem Reads.append {st st₁ st₂ : ReaderState} {s t : List Char} (h₁ : Reads st s st₁)
    (h₂ : Reads st₁ t st₂) (ht : t.head? ≠ some '?') : Reads st (s ++ t) st₂ := by
  intro tail htail
  obtain ⟨m, hm, hr₁⟩ := h₁ (t ++ tail) (by cases t <;> simp_all)
  obtain ⟨n, hn, hr₂⟩ := h₂ tail htail
  exact ⟨m + n, by simp; omega, by rw [List.append_assoc]; exact hr₁.trans hr₂⟩

theorem Reads.one {st st' : ReaderState} {s : List Char} (hs : s ≠ [])
    (h : ∀ tail : List Char, tail.head? ≠ some '?' →
      st.advance .unicode (s ++ tail) = some (st', tail)) : Reads st s st' := fun tail htail =>
  ⟨1, List.length_pos_iff.2 hs, .one (h tail htail)⟩

/-- A character with a meaning of its own stands for itself after a backslash. -/
theorem readEscape_metaChar {c : Char} (hc : c ∈ metaChars) (tail : List Char) :
    readEscape .unicode false false (c :: tail) = some (.char c, tail) := by
  simp only [metaChars, List.mem_cons, List.not_mem_nil, or_false] at hc
  rcases hc with rfl | rfl | rfl | rfl | rfl | rfl | rfl | rfl | rfl | rfl | rfl | rfl | rfl |
    rfl | rfl | rfl | rfl | rfl <;> rfl

theorem reads_escapeChar {st : ReaderState} (hf : st.flags = {}) (c : Char) :
    Reads st (escapeChar c) (st.push ⟨.chars (.single c), 0, true⟩) := by
  refine .one (by unfold escapeChar; split <;> simp) fun tail _ => ?_
  simp only [ReaderState.advance, hf, skipBlanks_false]
  by_cases hc : c ∈ metaChars
  · rw [escapeChar, if_pos (by simpa using hc)]
    simp [ReaderState.step, hf, readEscape_metaChar hc, ReaderState.pushAtom, CharSet.foldIf]
  · rw [escapeChar, if_neg (by simpa using hc)]
    simp only [metaChars, List.mem_cons, List.not_mem_nil, or_false, not_or] at hc
    obtain ⟨h₁, h₂, h₃, h₄, h₅, h₆, h₇, h₈, h₉, h₁₀, h₁₁, h₁₂, h₁₃, h₁₄, -⟩ := hc
    simp [ReaderState.step, ReaderState.pushAtom, hf, CharSet.foldIf]

/-! ## Placeholders and sections -/

theorem advance_openNamed {st : ReaderState} (hf : st.flags = {}) (index : Nat)
    (tail : List Char) :
    st.advance .unicode ("(?P<".toList ++ (groupName index).toList ++ '>' :: tail) =
      if groupName index ∈ st.names then none
      else some ({ st.openGroup (.noting (some (groupName index))) {} with
        names := groupName index :: st.names }, tail) := by
  have hne : (groupName index).toList ≠ [] := by simp [toList_groupName]
  simp only [List.append_assoc, ReaderState.advance, hf, skipBlanks_false]
  simp only [show "(?P<".toList = ['(', '?', 'P', '<'] from rfl, List.cons_append, List.nil_append,
    ReaderState.step, ReaderState.stepOpen, hf, skipBlanks_false, ReaderState.openNamed?,
    readName_groupName]
  simp [hne]

theorem reads_openNamed {st : ReaderState} (hf : st.flags = {}) {index : Nat}
    (hn : groupName index ∉ st.names) :
    Reads st ("(?P<".toList ++ (groupName index).toList ++ ['>'])
      { st.openGroup (.noting (some (groupName index))) {} with
        names := groupName index :: st.names } := by
  refine .one (by simp) fun tail _ => ?_
  rw [List.append_assoc, List.singleton_append, advance_openNamed hf, if_neg hn]

theorem readBracket_slash (tail : List Char) :
    readBracket .unicode false false ('^' :: '/' :: ']' :: tail) =
      some (⟨valueSet none, 1⟩, tail) := rfl

theorem readBracket_digits (tail : List Char) :
    readBracket .unicode false false ('0' :: '-' :: '9' :: ']' :: tail) =
      some (⟨.asciiDigits, 1⟩, tail) := rfl

theorem readBracket_word (tail : List Char) :
    readBracket .unicode false false
        ('0' :: '-' :: '9' :: 'A' :: '-' :: 'Z' :: 'a' :: '-' :: 'z' :: '_' :: ']' :: tail) =
      some (⟨.asciiWord, 2⟩, tail) := by
  rw [CharSet.asciiWord_eq]
  rfl

theorem constraintText_of_runs {constraint : Option String}
    (h : ∀ c, constraint = some c → c ∈ runConstraints) :
    ∃ s, constraintText constraint = '[' :: s ++ [']', '+'] ∧ ∀ tail,
      readBracket .unicode false false (s ++ ']' :: tail) =
        some (⟨valueSet constraint, valueNesting constraint⟩, tail) := by
  cases constraint with
  | none => exact ⟨['^', '/'], rfl, readBracket_slash⟩
  | some c =>
    have hc := h c rfl
    simp only [runConstraints, List.mem_cons, List.not_mem_nil, or_false] at hc
    rcases hc with rfl | rfl | rfl
    · exact ⟨['0', '-', '9'], rfl, readBracket_digits⟩
    · exact ⟨['0', '-', '9', 'A', '-', 'Z', 'a', '-', 'z', '_'], rfl, readBracket_word⟩
    · exact ⟨['0', '-', '9'], rfl, readBracket_digits⟩

theorem reads_constraintText {st : ReaderState} (hf : st.flags = {}) {constraint : Option String}
    (h : ∀ c, constraint = some c → c ∈ runConstraints) :
    Reads st (constraintText constraint) (st.push
      ⟨.repetition 1 none true (.chars (valueSet constraint)), 1 + valueNesting constraint, true⟩) := by
  obtain ⟨s, hs, hb⟩ := constraintText_of_runs h
  have h₁ : Reads st ('[' :: s ++ [']'])
      (st.push ⟨.chars (valueSet constraint), valueNesting constraint, true⟩) := by
    refine .one (by simp) fun tail _ => ?_
    simp [ReaderState.advance, hf, ReaderState.step, hb]
  have h₂ : Reads (st.push ⟨.chars (valueSet constraint), valueNesting constraint, true⟩) ['+']
      (st.push ⟨.repetition 1 none true (.chars (valueSet constraint)),
        1 + valueNesting constraint, true⟩) := by
    refine .one (by simp) fun tail htail => ?_
    have hr : ReaderState.stepRepeat (st.push ⟨.chars (valueSet constraint),
        valueNesting constraint, true⟩) 1 none tail = some (st.push
          ⟨.repetition 1 none true (.chars (valueSet constraint)), 1 + valueNesting constraint,
            true⟩, tail) := by
      unfold ReaderState.stepRepeat
      split
      · simp at htail
      · simp [ReaderState.repeatLast?, ReaderState.push, hf, Expr.repeated, Expr.isAlwaysEmpty]
    simpa [ReaderState.advance, ReaderState.push, hf, ReaderState.step] using hr
  rw [hs, show '[' :: s ++ [']', '+'] = '[' :: s ++ [']'] ++ ['+'] by simp]
  exact h₁.append h₂ (by simp)

theorem reads_closeGroup {st st' : ReaderState} (hf : st.flags = {})
    (h : st.closeGroup? = some st') : Reads st [')'] st' := by
  refine .one (by simp) fun tail _ => ?_
  simp [ReaderState.advance, hf, ReaderState.step, h]

theorem reads_openPlain {st : ReaderState} (hf : st.flags = {}) :
    Reads st "(?:".toList (st.openGroup .plain {}) := by
  refine .one (by simp) fun tail _ => ?_
  simp [ReaderState.advance, hf, ReaderState.step, ReaderState.stepOpen, ReaderState.readFlags]

/-- What the group before a `?` holds may be left out. -/
theorem advance_section (st : ReaderState) (hf : st.flags = {}) (e : Expr) (depth : Nat)
    {tail : List Char} (htail : tail.head? ≠ some '?') :
    (st.push ⟨e, depth, true⟩).advance .unicode ('?' :: tail) =
      some (st.push ⟨.repetition 0 (some 1) true e, 1 + depth, true⟩, tail) := by
  have hr : ReaderState.stepRepeat (st.push ⟨e, depth, true⟩) 0 (some 1) tail =
      some (st.push ⟨.repetition 0 (some 1) true e, 1 + depth, true⟩, tail) := by
    unfold ReaderState.stepRepeat
    split
    · simp at htail
    · simp [ReaderState.repeatLast?, ReaderState.push, hf, repeated_section]
  simpa [ReaderState.advance, ReaderState.push, hf, ReaderState.step] using hr

/-- The end of a section: its group is closed, and what it holds may be left out. -/
theorem reads_closeSection {st₁ : ReaderState} (st : ReaderState) {e : Expr} {depth : Nat}
    (h₁ : st₁.flags = {}) (hf : st.flags = {}) (h : st₁.closeGroup? = some (st.push ⟨e, depth, true⟩)) :
    Reads st₁ [')', '?'] (st.push ⟨.repetition 0 (some 1) true e, 1 + depth, true⟩) := by
  intro tail htail
  have hclose : st₁.advance .unicode (')' :: '?' :: tail) =
      some (st.push ⟨e, depth, true⟩, '?' :: tail) := by
    simp [ReaderState.advance, h₁, ReaderState.step, h]
  exact ⟨2, Nat.le_refl _, .turn hclose (.one (advance_section st hf e depth htail))⟩

mutual

theorem reads_regexText : ∀ (item : Item) {st : ReaderState} {index : Nat},
    (∀ c ∈ item.constraints, c ∈ runConstraints) → st.flags = {} →
    (∀ k, index ≤ k → groupName k ∉ st.names) →
    Reads st (item.regexText index) (afterParts st index [item])
  | .literal c, st, index, _, hf, _ => by
    have h := reads_escapeChar hf c
    simpa [regexText_literal, afterParts, partsOf, Item.part, Item.names, groupNames,
      ReaderState.push] using h
  | .placeholder name constraint, st, index, hc, hf, hn => by
    have hcs : ∀ c, constraint = some c → c ∈ runConstraints := by
      rintro c rfl
      exact hc c (by simp [Item.constraints])
    have h₁ := reads_openNamed hf (hn index (Nat.le_refl _))
    have h₂ := h₁.append (reads_constraintText rfl hcs) (by
      obtain ⟨s, hs, -⟩ := constraintText_of_runs hcs
      simp [hs])
    have hclose := closeGroup?_openGroup st (.noting (some (groupName index)))
      (groupName index :: st.names) (show ∀ e ∈ [(⟨.repetition 1 none true
        (.chars (valueSet constraint)), 1 + valueNesting constraint, true⟩ : Part)].map (·.expr),
          StandsAlone e by simpa using ⟨rfl, rfl⟩)
    have h₃ := h₂.append (reads_closeGroup rfl hclose) (by simp)
    have hd : 1 + (1 + valueNesting constraint) = 2 + valueNesting constraint := by omega
    simpa [regexText_placeholder, afterParts, partsOf, Item.part, Item.names, groupNames,
      GroupKind.wrap, Expr.ofMembers, Part.depthOf, hd] using h₃
  | .optional items, st, index, hc, hf, hn => by
    have hin : Reads (st.openGroup .plain {}) (regexTextOf index items)
        (afterParts (st.openGroup .plain {}) index items) := reads_regexTextOf items hc rfl hn
    have hopen := (reads_openPlain hf).append hin (head?_regexTextOf _ _)
    have hafter : afterParts (st.openGroup .plain {}) index items =
        { st.openGroup .plain {} with
          items := (partsOf index items).reverse
          names := (groupNames index (namesOf items).length).reverse ++ st.names } := by
      simp [afterParts, ReaderState.openGroup]
    rw [hafter] at hopen
    have hclose := closeGroup?_openGroup st .plain
      ((groupNames index (namesOf items).length).reverse ++ st.names)
      (standsAlone_partsOf index items)
    have hall := hopen.append (reads_closeSection { st with
      names := (groupNames index (namesOf items).length).reverse ++ st.names } rfl hf hclose) (by simp)
    have hd : 1 + (1 + Part.depthOf (partsOf index items)) =
        2 + Part.depthOf (partsOf index items) := by omega
    simpa [regexText_optional, afterParts, partsOf, Item.part, Item.names, ReaderState.push,
      GroupKind.wrap, hd] using hall

theorem reads_regexTextOf : ∀ (items : List Item) {st : ReaderState} {index : Nat},
    (∀ c ∈ constraintsOf items, c ∈ runConstraints) → st.flags = {} →
    (∀ k, index ≤ k → groupName k ∉ st.names) →
    Reads st (regexTextOf index items) (afterParts st index items)
  | [], st, index, _, _, _ => fun tail _ =>
    ⟨0, Nat.le_refl _, by
      simpa [regexTextOf, afterParts, partsOf, groupNames] using ReaderState.Reaches.refl st tail⟩
  | item :: rest, st, index, hc, hf, hn => by
    simp only [constraintsOf, List.mem_append] at hc
    have h₁ := reads_regexText item (fun c h => hc c (.inl h)) hf hn
    have h₂ := reads_regexTextOf rest (fun c h => hc c (.inr h)) (by exact hf)
      (notMem_names_afterParts item hn)
    rw [afterParts_append] at h₂
    rw [regexTextOf]
    exact h₁.append h₂ (head?_regexTextOf _ _)

end

/-! ## Whole patterns -/

/-- What the reader makes of a whole pattern. -/
def matcherParts (items : List Item) : List Part :=
  ⟨.assertion .textStart, 0, true⟩ :: partsOf 0 items ++ [⟨.assertion .textEnd, 0, true⟩]

/-- The expression of a whole pattern. -/
def matcherExpr (items : List Item) : Expr := .ofMembers ((matcherParts items).map (·.expr))

theorem reads_matcherText {items : List Item} (hc : ∀ c ∈ constraintsOf items, c ∈ runConstraints) :
    Reads {} (matcherText items) { afterParts {} 0 items with
      items := (matcherParts items).reverse } := by
  have h₁ : Reads {} ['^'] (ReaderState.push {} ⟨.assertion .textStart, 0, true⟩) :=
    .one (by simp) fun tail _ => by
      simp [ReaderState.advance, ReaderState.step, ReaderState.pushAtom, Flags.startAssertion]
  have h₂ : Reads (ReaderState.push {} ⟨.assertion .textStart, 0, true⟩) (regexTextOf 0 items) _ :=
    reads_regexTextOf items hc rfl fun k _ => List.not_mem_nil
  have h₃ : ∀ st : ReaderState, st.flags = {} →
      Reads st ['$'] (st.push ⟨.assertion .textEnd, 0, true⟩) := fun st hf =>
    .one (by simp) fun tail _ => by
      simp [ReaderState.advance, ReaderState.step, ReaderState.pushAtom, Flags.endAssertion, hf]
  have h := (h₁.append h₂ (head?_regexTextOf _ _)).append (h₃ _ rfl) (by simp)
  simpa [matcherText, matcherParts, afterParts, ReaderState.push] using h

/-- The expression of a pattern, if its text does not nest too deeply. -/
theorem read?_matcherText {items : List Item} (hc : ∀ c ∈ constraintsOf items, c ∈ runConstraints) :
    Regex.read? (matcherText items) =
      if Part.depthOf (matcherParts items) ≤ Part.maxDepth then some (matcherExpr items)
      else none := by
  obtain ⟨n, hn, hr⟩ := reads_matcherText hc [] (by simp)
  rw [List.append_nil] at hr
  obtain ⟨k, hk⟩ := Nat.exists_eq_add_of_le hn
  have hread : ReaderState.readFrom .unicode (matcherText items).length {} (matcherText items) =
      some { afterParts {} 0 items with items := (matcherParts items).reverse } := by
    rw [hk, hr.readFrom_add_eq]
    exact ReaderState.readFrom_of_skipBlanks rfl
  have hs : ∀ e ∈ (matcherParts items).map (·.expr), StandsAlone e := by
    intro e he
    simp only [matcherParts, List.map_append, List.map_cons, List.map_nil, List.mem_append,
      List.mem_cons, List.not_mem_nil, or_false] at he
    rcases he with (rfl | he) | rfl
    · exact ⟨rfl, rfl⟩
    · exact standsAlone_partsOf _ _ e he
    · exact ⟨rfl, rfl⟩
  have hcontent : ({ afterParts {} 0 items with items := (matcherParts items).reverse }).content =
      ⟨matcherExpr items, Part.depthOf (matcherParts items), true⟩ := by
    rw [content_of_standsAlone rfl (by simpa using hs)]
    simp [matcherExpr]
  simp only [Regex.read?, readWith?, hread, Option.bind_some, ReaderState.finish?]
  simp only [afterParts, List.isEmpty_nil, ↓reduceIte] at hcontent ⊢
  rw [hcontent]

/-- A pattern is compiled from the tree of its text. -/
theorem compile_eq_ok {raw : String} {p : Pattern} (h : compile raw = .ok p) :
    ∃ items, readItems (Path.normalizePattern raw).toList = .ok items ∧
      kindOf (Path.normalizePattern raw) items = .ok p.kind ∧ p.parameters = namesOf items := by
  unfold compile at h
  simp only at h
  split at h
  · cases h
  · rename_i items hread
    split at h
    · cases h
    · rename_i kind hkind
      cases h
      exact ⟨items, hread, hkind, rfl⟩

/-- A compiled pattern keeps the text as it was given. -/
theorem raw_of_compile {raw : String} {p : Pattern} (h : compile raw = .ok p) : p.raw = raw := by
  unfold compile at h
  simp only at h
  split at h
  · cases h
  · split at h
    · cases h
    · cases h
      rfl

/-- A compiled pattern is fixed exactly if its tree consists of literal characters. -/
theorem isFixed_eq_all {raw : String} {items : List Item} {p : Pattern}
    (hread : readItems (Path.normalizePattern raw).toList = .ok items) (h : compile raw = .ok p) :
    p.isFixed = items.all (·.isLiteral) := by
  obtain ⟨items', hread', hkind, -⟩ := compile_eq_ok h
  cases hread.symm.trans hread'
  unfold kindOf at hkind
  split at hkind
  · rename_i hall
    rw [isFixed, ← Except.ok.inj hkind, hall]
  · rename_i hall
    split at hkind
    · rw [isFixed, ← Except.ok.inj hkind, Bool.eq_false_iff.2 hall]
    · cases hkind

end UriRouter.Pattern
