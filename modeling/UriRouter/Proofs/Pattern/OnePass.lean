import UriRouter.Proofs.Pattern.Grammar

/-!
# The expression written in one pass

Writing the expression of a pattern while the pattern is read comes to the same as reading its tree
first: the same expression, the same names, and the same fault where there is one.

* `written`, `marks` : what has been written for the parts that have been read, and where sections
  began;
* `Writes` : the pass has written what belongs to what the reader has read, kept by each character
  outside placeholders and by each placeholder;
* `compileInOnePass_eq` : compiling in one pass is compiling.
-/

set_option autoImplicit false

namespace UriRouter.Pattern

/-! ## What is written -/

theorem byteLength_eq_zero {s : List Char} : byteLength s = 0 ↔ s = [] := by
  cases s with
  | nil => simp [byteLength]
  | cons c rest =>
    have := c.utf8Size_pos
    simp only [byteLength, reduceCtorEq, iff_false]
    omega

/-- No part of a pattern is written as nothing. -/
theorem regexText_ne_nil (index : Nat) (item : Item) : item.regexText index ≠ [] := by
  cases item with
  | literal c =>
    rw [Item.regexText, Regex.escapeChar]
    split <;> simp
  | placeholder name constraint => simp [Item.regexText]
  | optional items => simp [Item.regexText]

theorem regexTextOf_eq_nil {index : Nat} {items : List Item} :
    regexTextOf index items = [] ↔ items = [] := by
  cases items with
  | nil => simp [regexTextOf]
  | cons item rest => simp [regexTextOf, regexText_ne_nil]

/-- What has been written when sections are open, the innermost being first, and parts of the
current sequence have been read, the latest being first. -/
def written : List OpenSection → List Item → List Char
  | [], items => '^' :: regexTextOf 0 items.reverse
  | o :: outer, items => written outer o.before ++ "(?:".toList ++
    regexTextOf (namesOfSections (o :: outer)).length items.reverse

/-- The places of open sections in the text, and the number of bytes written before them. -/
def marks : List OpenSection → List (Nat × Nat)
  | [] => []
  | o :: outer => (o.position, byteLength (written outer o.before)) :: marks outer

/-- A part that is read is written after all that was written before. -/
theorem written_cons (sections : List OpenSection) (item : Item) (items : List Item) :
    written sections (item :: items) = written sections items ++
      item.regexText (namesOfSections sections ++ namesOf items.reverse).length := by
  cases sections with
  | nil => simp [written, namesOfSections, regexTextOf_append, regexTextOf]
  | cons o outer => simp [written, regexTextOf_append, regexTextOf]

/-- The parts of an open section are what has been written since it was opened. -/
theorem byteLength_written (o : OpenSection) (outer : List OpenSection) (items : List Item) :
    byteLength (written (o :: outer) items) =
        byteLength (written outer o.before) + byteLength "(?:".toList ↔ items = [] := by
  rw [written, byteLength_append, byteLength_append, Nat.add_eq_left, byteLength_eq_zero,
    regexTextOf_eq_nil, List.reverse_eq_nil_iff]

/-! ## The pass beside the reader -/

namespace Emission

variable {e : Emission} {position : Nat} {rest : List Char}

variable [Regex.PropertyTable]

theorem emit_of_untilBrace {body after : List Char}
    (h : untilBrace 0 false rest = some (body, after)) :
    e.emit position ('\x7b' :: rest) =
      (splitPlaceholder body).bind fun parts =>
        (e.flush.addPlaceholder parts.1 parts.2).bind fun e' =>
          e'.emit (position + byteLength ('\x7b' :: body ++ ['\x7d'])) after := by
  rw [emit]
  split
  · rename_i h'
    cases h.symm.trans h'
  · rename_i body' after' h'
    cases h.symm.trans h'
    cases splitPlaceholder body with
    | error fault => rfl
    | ok parts =>
      simp only [Except.bind]
      cases e.flush.addPlaceholder parts.1 parts.2 <;> rfl

theorem emit_of_untilBrace_eq_none (h : untilBrace 0 false rest = none) :
    e.emit position ('\x7b' :: rest) =
      .error (.invalidPlaceholder (String.ofList ('\x7b' :: rest))) := by
  rw [emit]
  split
  · rfl
  · rename_i h'
    cases h.symm.trans h'

end Emission

/-- The pass has written what the reader has read. -/
structure Writes (e : Emission) (st : ReadState) : Prop where
  outside : st.placeholder = none
  text : e.output ++ Regex.escape e.literal = written st.sections st.items
  parameters : e.parameters = st.names.reverse
  names : st.names.reverse = namesOfSections st.sections ++ namesOf st.items.reverse
  sections : e.sections = marks st.sections
  isFixed : (e.parameters.isEmpty && !e.hasSections) =
    (st.sections.isEmpty && st.items.all (·.isLiteral))

namespace Writes

variable {e e' : Emission} {st st' : ReadState} {fault : Fault}

theorem start : Writes {} {} := by
  constructor <;> rfl

theorem flush (h : Writes e st) : Writes e.flush st :=
  { h with text := by rw [← h.text]; simp [Emission.flush, Regex.escape] }

theorem output_flush (h : Writes e st) : e.flush.output = written st.sections st.items := h.text

theorem length_parameters (h : Writes e st) :
    e.parameters.length = (namesOfSections st.sections ++ namesOf st.items.reverse).length := by
  rw [h.parameters, h.names]

/-- A character that stands for itself is kept. -/
theorem literal (h : Writes e st) (c : Char) (position : Nat) :
    Writes { e with literal := e.literal ++ [c] }
      { st with position := position, items := .literal c :: st.items } where
  outside := h.outside
  text := by
    rw [written_cons, ← h.text]
    simp [Regex.escape, Item.regexText]
  parameters := h.parameters
  names := by simp [h.names, namesOf_append, Item.names]
  sections := h.sections
  isFixed := by simpa [Item.isLiteral] using h.isFixed

/-- A section is noted with what was written before it. -/
theorem openSection (h : Writes e st) (position : Nat) :
    Writes (e.flush.openSection st.position)
      { st with position := position, items := [],
                sections := ⟨st.position, st.items⟩ :: st.sections } where
  outside := h.outside
  text := by
    show e.flush.output ++ "(?:".toList ++ Regex.escape [] = _
    rw [h.output_flush, written]
    simp [regexTextOf, Regex.escape]
  parameters := h.parameters
  names := by simp [h.names, namesOfSections]
  sections := by
    rw [Emission.openSection, h.output_flush]
    exact congrArg _ h.sections
  isFixed := by simp [Emission.openSection]

/-- The innermost section becomes a part of the sequence around it. -/
theorem closeSection {o : OpenSection} {outer : List OpenSection} (h : Writes e st)
    (hs : st.sections = o :: outer) (position : Nat) :
    Writes { e.flush with output := e.flush.output ++ ")?".toList, sections := marks outer }
      { st with position := position, items := .optional st.items.reverse :: o.before,
                sections := outer } where
  outside := h.outside
  text := by
    show e.flush.output ++ ")?".toList ++ Regex.escape [] = _
    rw [h.output_flush, written_cons, hs, written]
    simp [Item.regexText, Regex.escape, namesOfSections]
  parameters := h.parameters
  names := by
    have hnames := h.names
    rw [hs, namesOfSections] at hnames
    simp [hnames, namesOf_append, Item.names]
  sections := rfl
  isFixed := by
    have hfixed := h.isFixed
    rw [hs, List.isEmpty_cons, Bool.false_and] at hfixed
    simpa [Item.isLiteral, Emission.flush] using hfixed

/-- A placeholder is written with the number of those before it. -/
theorem placeholder {name : String} (h : Writes e st) (constraint : Option String)
    (position : Nat) :
    Writes { e.flush with
        output := e.flush.output ++ (Item.placeholder name constraint).regexText
          e.flush.parameters.length
        parameters := e.flush.parameters ++ [name] }
      { st with position := position, items := .placeholder name constraint :: st.items,
                names := name :: st.names } where
  outside := h.outside
  text := by
    show _ ++ Regex.escape [] = _
    rw [h.output_flush, h.flush.length_parameters, written_cons]
    simp [Regex.escape]
  parameters := by simp [h.flush.parameters]
  names := by simp [h.names, namesOf_append, Item.names]
  sections := h.sections
  isFixed := by simp [Item.isLiteral]

/-! ## The same steps -/

variable [Regex.PropertyTable]

/-- Outside placeholders the pass and the reader go on together, or stop at the same fault. -/
theorem emit_cons (h : Writes e st) {c : Char} (hc : c ≠ '\x7b') (rest : List Char) :
    (∃ e' st', st.step c = .ok st' ∧ Writes e' st' ∧
      e.emit st.position (c :: rest) = e'.emit st'.position rest) ∨
      ∃ fault, st.step c = .error fault ∧ e.emit st.position (c :: rest) = .error fault := by
  rw [ReadState.step_outside h.outside]
  unfold ReadState.stepOutside
  split
  · -- a section begins
    rw [Emission.emit]
    exact .inl ⟨_, _, rfl, h.openSection _, rfl⟩
  · -- a section ends
    rw [Emission.emit, Emission.closeSection, h.flush.sections]
    cases hs : st.sections with
    | nil => exact .inr ⟨_, rfl, rfl⟩
    | cons o outer =>
      have hlength := byteLength_written o outer st.items
      rw [← hs, ← h.output_flush] at hlength
      by_cases hitems : st.items = []
      · refine .inr ⟨.emptySection o.position, ?_, by simp only [marks, if_pos (hlength.2 hitems)]⟩
        simp [hitems, Except.map]
      · refine .inl ⟨_, _, ?_, h.closeSection hs (st.position + (']' : Char).utf8Size), ?_⟩
        · simp [hitems, Except.map]
        · simp only [marks, if_neg (hitems ∘ hlength.1)]
          rfl
  · exact absurd rfl hc
  · rw [Emission.emit]
    exact .inr ⟨_, rfl, rfl⟩
  · rename_i h₁ h₂ h₃ h₄
    rw [Emission.emit]
    · exact .inl ⟨_, _, rfl, h.literal c _, rfl⟩
    all_goals assumption

/-- A placeholder is taken as a whole. -/
theorem emit_braces (h : Writes e st) {rest body after : List Char}
    (hu : untilBrace 0 false rest = some (body, after)) :
    (∃ e' st', st.read ('\x7b' :: rest) = st'.read after ∧ Writes e' st' ∧
      e.emit st.position ('\x7b' :: rest) = e'.emit st'.position after) ∨
      ∃ fault, st.read ('\x7b' :: rest) = .error fault ∧
        e.emit st.position ('\x7b' :: rest) = .error fault := by
  rw [Emission.emit_of_untilBrace hu]
  obtain ⟨rfl, hb⟩ := of_untilBrace_eq_some hu
  rw [ReadState.read_braces h.outside hb, placeholderOf]
  cases splitPlaceholder body with
  | error fault => exact .inr ⟨fault, rfl, rfl⟩
  | ok parts =>
    obtain ⟨name, constraint⟩ := parts
    have hname : e.flush.parameters.contains name = st.names.contains name := by
      rw [h.flush.parameters, List.contains_reverse]
    simp only [Except.map, Except.bind, ReadState.push, Emission.addPlaceholder, hname]
    cases st.names.contains name with
    | true => exact .inr ⟨.duplicateParameter name, rfl, rfl⟩
    | false => exact .inl ⟨_, _, rfl, h.placeholder constraint _, rfl⟩

/-- A brace that nothing closes is a fault, of which the reader knows at the end. -/
theorem emit_brace (h : Writes e st) {rest : List Char} (hu : untilBrace 0 false rest = none) :
    ∃ fault, (st.read ('\x7b' :: rest)).bind ReadState.finish = .error fault ∧
      e.emit st.position ('\x7b' :: rest) = .error fault := by
  let inside : ReadState :=
    { st with position := st.position + ('\x7b' : Char).utf8Size, placeholder := some {} }
  have hinside : inside.placeholder = some ⟨0, false, []⟩ := rfl
  obtain ⟨st', p, hread, hp, hbody⟩ := ReadState.read_of_untilBrace_eq_none hu hinside
  refine ⟨.invalidPlaceholder (String.ofList ('\x7b' :: rest)), ?_, ?_⟩
  · have hopen : st.read ('\x7b' :: rest) = .ok st' := by
      rw [← hread, ReadState.read, ReadState.step_outside h.outside]
      rfl
    rw [hopen, Except.bind, ReadState.finish, hp]
    simp [hbody]
  · exact Emission.emit_of_untilBrace_eq_none hu

end Writes

/-! ## The whole pass -/

/-- What the tree of a pattern is written as. -/
def writtenTree (items : List Item) : Written :=
  ⟨matcherText items, namesOf items, items.all (·.isLiteral)⟩

/-- At the end the pass has written the tree. -/
theorem Writes.finish {e : Emission} {st : ReadState} (h : Writes e st) :
    e.flush.finish = st.finish.map writtenTree := by
  have hflush := h.flush
  cases hs : st.sections with
  | nil =>
    have hsections : e.flush.sections = [] := by rw [hflush.sections, hs, marks]
    have houtput : e.flush.output ++ ['$'] = matcherText st.items.reverse := by
      rw [h.output_flush, hs, written, matcherText]
    have hparameters : e.flush.parameters = namesOf st.items.reverse := by
      rw [hflush.parameters, hflush.names, hs, namesOfSections, List.nil_append]
    have hfixed := hflush.isFixed
    rw [hs, List.isEmpty_nil, Bool.true_and, ← List.all_reverse] at hfixed
    simp only [Emission.finish, ReadState.finish, hsections, hs, h.outside, houtput, hfixed,
      Except.map, writtenTree]
    rw [hparameters]
  | cons o outer =>
    have hsections : e.flush.sections = (o.position, byteLength (written outer o.before)) ::
        marks outer := by
      rw [hflush.sections, hs, marks]
    simp only [Emission.finish, ReadState.finish, hsections, hs, h.outside, Except.map]

variable [Regex.PropertyTable]

/-- **The pass writes the tree.** The induction is on the placeholders of the text, as in
`fault_of_read`. -/
theorem emit_eq {s : List Char} {e : Emission} {st : ReadState} (h : Writes e st) :
    (e.emit st.position s).bind Emission.finish =
      ((st.read s).bind ReadState.finish).map writtenTree := by
  induction s using bodiesIn.induct generalizing e st with
  | case1 =>
    rw [Emission.emit]
    exact h.finish
  | case2 rest body after hu ih =>
    obtain ⟨e', st', hread, h', hemit⟩ | ⟨fault, hread, hemit⟩ := h.emit_braces hu
    · rw [hread, hemit]
      exact ih h'
    · rw [hread, hemit]
      rfl
  | case3 rest hu =>
    obtain ⟨fault, hread, hemit⟩ := h.emit_brace hu
    rw [hread, hemit]
    rfl
  | case4 c rest hc ih =>
    obtain ⟨e', st', hstep, h', hemit⟩ | ⟨fault, hstep, hemit⟩ := h.emit_cons hc rest
    · rw [ReadState.read, hstep, hemit]
      exact ih h'
    · rw [ReadState.read, hstep, hemit]
      rfl

theorem readItems_eq (s : List Char) :
    readItems s = (ReadState.read {} s).bind ReadState.finish := by
  rw [readItems]
  cases ReadState.read {} s <;> rfl

/-- **Compiling in one pass is compiling**: the expression, the names and the faults are those that
the tree gives. -/
theorem compileInOnePass_eq (raw : String) : compileInOnePass raw = compile raw := by
  have hpass : (Emission.emit {} 0 (Path.normalizePattern raw).toList).bind Emission.finish =
      (readItems (Path.normalizePattern raw).toList).map writtenTree := by
    rw [readItems_eq]
    exact emit_eq Writes.start
  unfold compileInOnePass compile
  simp only [hpass]
  cases readItems (Path.normalizePattern raw).toList with
  | error fault => rfl
  | ok items =>
    simp only [Except.map, writtenTree, kindOf]
    split
    · rfl
    · cases Regex.read? (matcherText items) <;> rfl

end UriRouter.Pattern
