import UriRouter.Proofs.Pattern.Grammar

/-!
# Where a fault lies

A fault in the structure of a pattern names the place where it lies: a position, counted in bytes,
or the text of a placeholder. What stands there, and before and after it, is what the fault says.

* `EndsOutside`, `BracketsBalance` : texts after which no placeholder is open, and texts in which
  each bracket has its partner;
* `Fault.PointsInto` : what a text is like at the place that a fault of it names;
* `ReadState.Counts` : the reader knows where it is, and where the open sections begin;
* `pointsInto_of_compile` : the faults of patterns point at what they say.
-/

set_option autoImplicit false

namespace UriRouter.Pattern

open UriRouter.Text

/-! ## Places in a text -/

/-- A text at the end of which no placeholder is open: each brace that begins one is closed. -/
inductive EndsOutside : List Char → Prop
  | nil : EndsOutside []
  | char {c : Char} {rest : List Char} (hc : c ≠ '\x7b') (h : EndsOutside rest) :
      EndsOutside (c :: rest)
  | placeholder {body rest : List Char} (hb : bracesBalance 0 false body = true)
      (h : EndsOutside rest) : EndsOutside ('\x7b' :: (body ++ '\x7d' :: rest))

/-- A text in which each bracket has its partner. Brackets inside placeholders do not count. -/
inductive BracketsBalance : List Char → Prop
  | nil : BracketsBalance []
  | char {c : Char} {rest : List Char} (hc : c ∉ delimiters) (h : BracketsBalance rest) :
      BracketsBalance (c :: rest)
  | placeholder {body rest : List Char} (hb : bracesBalance 0 false body = true)
      (h : BracketsBalance rest) : BracketsBalance ('\x7b' :: (body ++ '\x7d' :: rest))
  | section_ {inside rest : List Char} (hi : BracketsBalance inside) (h : BracketsBalance rest) :
      BracketsBalance ('[' :: (inside ++ ']' :: rest))

/-- A text is made of three, the second of which begins outside all placeholders. -/
structure StandsBetween (s before sign after : List Char) : Prop where
  text : s = before ++ sign ++ after
  outside : EndsOutside before

/-- What a text is like at the place that a fault of its structure names. A position is the number
of bytes before the place. -/
def Fault.PointsInto [Regex.PropertyTable] (s : List Char) : Fault → Prop
  | .unexpectedClose position => ∃ before after, StandsBetween s before [']'] after ∧
      BracketsBalance before ∧ position = byteLength before
  | .emptySection position => ∃ before after, StandsBetween s before ['[', ']'] after ∧
      position = byteLength before
  | .unclosedSection position =>
    (∃ before after, StandsBetween s before ['['] after ∧ BracketsBalance after ∧
      position = byteLength before) ∧
    -- there is no other fault: a character and closing brackets make a pattern of the text
    ∃ count items, IsTreeOf items (s ++ 'x' :: List.replicate (count + 1) ']')
  | .invalidPlaceholder text =>
    (text = "\x7d" ∧ ∃ before after, StandsBetween s before ['\x7d'] after) ∨
    (∃ before body after, StandsBetween s before ('\x7b' :: body ++ ['\x7d']) after ∧
      bracesBalance 0 false body = true ∧ text.toList = '\x7b' :: body ++ ['\x7d']) ∨
    ∃ before rest, StandsBetween s before ('\x7b' :: rest) [] ∧
      (∀ body after, rest = body ++ '\x7d' :: after → bracesBalance 0 false body = false) ∧
      text.toList = '\x7b' :: rest
  | .invalidConstraint _ _ | .duplicateParameter _ | .invalidRegex => True

/-- The position that a fault names. -/
def Fault.position? : Fault → Option Nat
  | .unexpectedClose position | .unclosedSection position | .emptySection position => some position
  | .invalidPlaceholder _ | .invalidConstraint _ _ | .duplicateParameter _ | .invalidRegex => none

theorem EndsOutside.append {s t : List Char} (hs : EndsOutside s) (ht : EndsOutside t) :
    EndsOutside (s ++ t) := by
  induction hs with
  | nil => exact ht
  | char hc _ ih => exact .char hc ih
  | placeholder hb _ ih =>
    rw [List.cons_append, List.append_assoc, List.cons_append]
    exact .placeholder hb ih

theorem BracketsBalance.append {s t : List Char} (hs : BracketsBalance s) (ht : BracketsBalance t) :
    BracketsBalance (s ++ t) := by
  induction hs with
  | nil => exact ht
  | char hc _ ih => exact .char hc ih
  | placeholder hb _ ih =>
    rw [List.cons_append, List.append_assoc, List.cons_append]
    exact .placeholder hb ih
  | section_ hi _ _ ih =>
    rw [List.cons_append, List.append_assoc, List.cons_append]
    exact .section_ hi ih

theorem BracketsBalance.endsOutside {s : List Char} (h : BracketsBalance s) : EndsOutside s := by
  induction h with
  | nil => exact .nil
  | char hc _ ih => exact .char (fun he => hc (he ▸ by decide)) ih
  | placeholder hb _ ih => exact .placeholder hb ih
  | section_ _ _ ihi ih =>
    exact .char (by decide) (ihi.append (.char (by decide) ih))

mutual

theorem bracketsBalance_render : ∀ item : Item, item.isWellFormed = true →
    BracketsBalance item.render
  | .literal c, hw => by
    rw [Item.render]
    exact .char (by simpa [Item.isWellFormed] using hw) .nil
  | .placeholder name constraint, hw => by
    rw [render_placeholder]
    exact .placeholder (bracesBalance_bodyOf hw) .nil
  | .optional items, hw => by
    rw [Item.isWellFormed, Bool.and_eq_true] at hw
    rw [Item.render]
    exact .section_ (bracketsBalance_renderAll items hw.2) .nil

theorem bracketsBalance_renderAll : ∀ items : List Item, areWellFormed items = true →
    BracketsBalance (renderAll items)
  | [], _ => by
    rw [renderAll_nil]
    exact .nil
  | item :: rest, hw => by
    rw [areWellFormed, Bool.and_eq_true] at hw
    rw [renderAll_cons]
    exact (bracketsBalance_render item hw.1).append (bracketsBalance_renderAll rest hw.2)

end

/-! ## Braces that stay open -/

/-- A brace after a text in which inner braces balance closes the placeholder. -/
theorem bracesBalance_append_brace {body : List Char} (after : List Char) :
    ∀ {depth : Nat} {escaped : Bool}, bracesBalance depth escaped body = true →
      bracesBalance depth escaped (body ++ '\x7d' :: after) = false := by
  induction body with
  | nil =>
    intro depth escaped h
    simp only [bracesBalance, Bool.and_eq_true, beq_iff_eq, Bool.not_eq_true'] at h
    obtain ⟨rfl, rfl⟩ := h
    rfl
  | cons c rest ih =>
    intro depth escaped h
    unfold bracesBalance at h
    rw [List.cons_append]
    unfold bracesBalance
    split at h
    · rename_i he
      rw [if_pos he, ih h]
    · rename_i he
      rw [if_neg he]
      split at h
      · simp only [ih h]
      · simp only [ih h]
      · rw [Bool.and_eq_true] at h
        simp only [ih h.2, Bool.and_false]
      · simp only [ih h]

/-- Inner braces can be closed wherever a text ends. -/
theorem exists_bracesBalance (depth : Nat) (escaped : Bool) :
    ∃ t, bracesBalance depth escaped t = true := by
  have hclosed : bracesBalance depth false (List.replicate depth '\x7d') = true := by
    induction depth with
    | zero => rfl
    | succ depth ih => simpa [List.replicate_succ, bracesBalance] using ih
  cases escaped with
  | false => exact ⟨_, hclosed⟩
  | true => exact ⟨'x' :: List.replicate depth '\x7d', by simpa [bracesBalance] using hclosed⟩

namespace ReadState

variable {st st' : ReadState} {s : List Char} {c : Char} {fault : Fault}

theorem sections_push {item : Item} (hs : st.push item = .ok st') : st'.sections = st.sections := by
  unfold push at hs
  split at hs
  · split at hs
    · cases hs
    · cases hs
      rfl
  · cases hs
    rfl

variable [Regex.PropertyTable]

/-- The brace that closes an open placeholder has not been read. -/
theorem Holds.bracesBalance_eq_false {p : OpenPlaceholder} (h : st.Holds s)
    (hp : st.placeholder = some p) {body after : List Char}
    (hbody : p.body.reverse = body ++ '\x7d' :: after) : bracesBalance 0 false body = false := by
  by_contra hb
  rw [Bool.not_eq_false] at hb
  obtain ⟨t, ht⟩ := exists_bracesBalance p.depth p.escaped
  rw [h.balance p hp, hbody, List.append_assoc, List.cons_append, bracesBalance_append_brace _ hb] at ht
  cases ht

/-! ## Positions -/

/-- Each open section is noted with the number of bytes before its bracket. -/
def AreCounted : List OpenSection → Prop
  | [] => True
  | o :: outer =>
    o.position = byteLength (shownSections outer ++ renderAll o.before.reverse) ∧ AreCounted outer

/-- What is true of the reader when it has read a text, with the positions. -/
structure Counts (st : ReadState) (s : List Char) : Prop where
  holds : st.Holds s
  position : st.position = byteLength s
  sections : AreCounted st.sections

theorem areCounted_stepOutside (h : st.Counts s) (hp : st.placeholder = none)
    (hs : st.stepOutside c = .ok st') : AreCounted st'.sections := by
  unfold stepOutside at hs
  split at hs
  · cases hs
    refine ⟨?_, h.sections⟩
    rw [h.position, ← h.holds.text]
    simp [shown, hp, shownPlaceholder]
  · split at hs
    · cases hs
    · rename_i position before outer hsec
      have houter := h.sections
      rw [hsec] at houter
      split at hs
      · cases hs
      · cases hs
        exact houter.2
  · cases hs
    exact h.sections
  · cases hs
  · rw [sections_push hs]
    exact h.sections

theorem sections_stepInside {p : OpenPlaceholder} (hs : st.stepInside p c = .ok st') :
    st'.sections = st.sections := by
  unfold stepInside at hs
  simp only at hs
  split at hs
  · cases hs
    rfl
  · split at hs
    · cases hs
      rfl
    · cases hs
      rfl
    · split at hs
      · cases ho : placeholderOf p.body.reverse with
        | error e =>
          rw [ho] at hs
          cases hs
        | ok item =>
          have hpush : ({ st with placeholder := none } : ReadState).push item = .ok st' := by
            rwa [ho] at hs
          have hsec := sections_push hpush
          exact hsec
      · cases hs
        rfl
    · cases hs
      rfl

/-- Each character is counted with its bytes. -/
theorem counts_step (h : st.Counts s) (hs : st.step c = .ok st') : st'.Counts (s ++ [c]) := by
  have hholds := holds_step h.holds hs
  obtain ⟨st₁, rfl, hcases⟩ := step_eq_ok hs
  refine ⟨hholds, ?_, ?_⟩
  · simp only [h.position, byteLength_append]
    rfl
  · change AreCounted st₁.sections
    obtain ⟨hp, ho⟩ | ⟨p, -, ho⟩ := hcases
    · exact areCounted_stepOutside h hp ho
    · rw [sections_stepInside ho]
      exact h.sections

theorem counts_read {t : List Char} (h : st.Counts s) (hs : st.read t = .ok st') :
    st'.Counts (s ++ t) := by
  induction t generalizing st s with
  | nil =>
    cases hs
    rwa [List.append_nil]
  | cons c rest ih =>
    obtain ⟨st₁, hc, hs⟩ := read_cons hs
    rw [List.append_cons]
    exact ih (counts_step h hc) hs

theorem counts_start : Counts {} [] :=
  ⟨⟨rfl, rfl, List.nodup_nil, by simp, by simp, by simp⟩, rfl, trivial⟩

/-! ## Faults between characters -/

/-- A text that cannot be read has a character that cannot. -/
theorem read_eq_error {t : List Char} (h : st.read t = .error fault) :
    ∃ before c after st', t = before ++ c :: after ∧ st.read before = .ok st' ∧
      st'.step c = .error fault := by
  induction t generalizing st with
  | nil => cases h
  | cons c rest ih =>
    simp only [read] at h
    split at h
    · rename_i st₁ hc
      obtain ⟨before, d, after, st', rfl, hread, hd⟩ := ih h
      exact ⟨c :: before, d, after, st', rfl, by rw [read, hc]; exact hread, hd⟩
    · rename_i e hc
      cases h
      exact ⟨[], c, rest, st, rfl, rfl, hc⟩

theorem bracketsBalance_reverse {items : List Item} (h : ∀ item ∈ items, item.IsSound) :
    BracketsBalance (renderAll items.reverse) :=
  bracketsBalance_renderAll _ (areWellFormed_of_isSound fun item hi =>
    h item (List.mem_reverse.1 hi))

theorem endsOutside_shownSections {sections : List OpenSection}
    (h : ∀ o ∈ sections, ∀ item ∈ o.before, item.IsSound) :
    EndsOutside (shownSections sections) := by
  induction sections with
  | nil => exact .nil
  | cons o outer ih =>
    obtain ⟨ho, houter⟩ := List.forall_mem_cons.1 h
    rw [shownSections]
    exact ((ih houter).append (bracketsBalance_reverse ho).endsOutside).append
      (.char (by decide) .nil)

/-- What has been read before a section, or before a placeholder, ends outside all placeholders. -/
theorem Holds.endsOutside (h : st.Holds s) :
    EndsOutside (shownSections st.sections ++ renderAll st.items.reverse) :=
  (endsOutside_shownSections h.before).append (bracketsBalance_reverse h.items).endsOutside

theorem Holds.eq_of_outside (h : st.Holds s) (hp : st.placeholder = none) :
    s = shownSections st.sections ++ renderAll st.items.reverse := by
  rw [← h.text, shown, hp, shownPlaceholder, List.append_nil]

theorem Holds.eq_of_inside {p : OpenPlaceholder} (h : st.Holds s) (hp : st.placeholder = some p) :
    s = shownSections st.sections ++ renderAll st.items.reverse ++ '\x7b' :: p.body.reverse := by
  rw [← h.text, shown, hp, shownPlaceholder]

theorem pointsInto_of_stepOutside (h : st.Counts s) (hp : st.placeholder = none)
    (hs : st.stepOutside c = .error fault) (after : List Char) :
    fault.PointsInto (s ++ c :: after) := by
  have htext := h.holds.eq_of_outside hp
  have houtside := h.holds.endsOutside
  rw [← htext] at houtside
  unfold stepOutside at hs
  split at hs
  · cases hs
  · split at hs
    · -- no section is open
      rename_i hsec
      cases hs
      refine ⟨s, after, ⟨by simp, houtside⟩, ?_, h.position⟩
      rw [htext, hsec]
      exact bracketsBalance_reverse h.holds.items
    · rename_i position before outer hsec
      split at hs
      · -- nothing was read since the section began
        rename_i hempty
        cases hs
        have hcounted := h.sections
        have hbefore := h.holds.before
        rw [hsec] at hcounted hbefore
        obtain ⟨hb, ho⟩ := List.forall_mem_cons.1 hbefore
        refine ⟨shownSections outer ++ renderAll before.reverse, after, ⟨?_, ?_⟩, hcounted.1⟩
        · rw [htext, hsec, List.isEmpty_iff.1 hempty]
          simp [shownSections]
        · exact (endsOutside_shownSections ho).append (bracketsBalance_reverse hb).endsOutside
      · cases hs
  · cases hs
  · cases hs
    exact .inl ⟨rfl, s, after, by simp, houtside⟩
  · cases hs

/-- A placeholder is at fault as a whole, or its constraint is. -/
theorem placeholderOf_eq_error {body : List Char} (h : placeholderOf body = .error fault) :
    fault = .invalidPlaceholder (String.ofList ('\x7b' :: body ++ ['\x7d'])) ∨
      ∃ name constraint, fault = .invalidConstraint name constraint := by
  unfold placeholderOf splitPlaceholder at h
  simp only at h
  split at h
  · exact .inl (Except.error.inj h).symm
  · split at h
    · cases h
    · exact .inl (Except.error.inj h).symm
    · split at h
      · cases h
      · exact .inr ⟨_, _, (Except.error.inj h).symm⟩

theorem pointsInto_of_stepInside {p : OpenPlaceholder} (h : st.Counts s)
    (hp : st.placeholder = some p) (hs : st.stepInside p c = .error fault) (after : List Char) :
    fault.PointsInto (s ++ c :: after) := by
  unfold stepInside at hs
  simp only at hs
  split at hs
  · cases hs
  · rename_i he
    rw [Bool.not_eq_true] at he
    split at hs
    · cases hs
    · cases hs
    · split at hs
      · rename_i hd
        cases ho : placeholderOf p.body.reverse with
        | error e =>
          rw [ho] at hs
          cases hs
          obtain rfl | ⟨name, constraint, rfl⟩ := placeholderOf_eq_error ho
          · refine .inr (.inl ⟨_, p.body.reverse, after, ⟨?_, h.holds.endsOutside⟩,
              h.holds.bracesBalance_body hp hd he, String.toList_ofList⟩)
            rw [h.holds.eq_of_inside hp]
            simp
          · trivial
        | ok item =>
          rw [ho] at hs
          obtain ⟨name, rfl⟩ := push_eq_error hs
          trivial
      · cases hs
    · cases hs

/-- **A fault of a character points at it.** -/
theorem pointsInto_of_step (h : st.Counts s) (hs : st.step c = .error fault) (after : List Char) :
    fault.PointsInto (s ++ c :: after) := by
  obtain ⟨hp, ho⟩ | ⟨p, hp, ho⟩ := step_eq_error hs
  · exact pointsInto_of_stepOutside h hp ho after
  · exact pointsInto_of_stepInside h hp ho after

/-! ## Faults at the end -/

/-- Open sections that hold something can be closed. -/
theorem exists_read_closing {sections : List OpenSection} :
    ∀ {st : ReadState}, st.sections = sections → st.placeholder = none → st.items ≠ [] →
      ∃ st', st.read (List.replicate sections.length ']') = .ok st' ∧ st'.sections = [] ∧
        st'.placeholder = none := by
  induction sections with
  | nil => exact fun {st} hsec hp _ => ⟨st, rfl, hsec, hp⟩
  | cons o outer ih =>
    intro st hsec hp hitems
    have hempty : st.items.isEmpty = false := by simpa using hitems
    have hclose : st.step ']' = .ok { st with
        position := st.position + (']' : Char).utf8Size
        items := .optional st.items.reverse :: o.before, sections := outer } := by
      rw [step_outside hp]
      simp only [stepOutside, hsec, hempty, Bool.false_eq_true, ↓reduceIte, Except.map]
    rw [List.length_cons, List.replicate_succ, read, hclose]
    exact ih rfl hp (List.cons_ne_nil _ _)

/-- A character and closing brackets make a pattern of a text at the end of which only sections are
open. -/
theorem exists_isTreeOf_closing (hr : ReadState.read {} s = .ok st) (hp : st.placeholder = none) :
    ∃ items, IsTreeOf items (s ++ 'x' :: List.replicate st.sections.length ']') := by
  have hliteral : st.step 'x' = .ok { st with
      position := st.position + ('x' : Char).utf8Size, items := .literal 'x' :: st.items } := by
    rw [step_outside hp]
    rfl
  have hclosed : ∀ st₁ : ReadState, st₁.sections = st.sections → st₁.placeholder = none →
      st₁.items ≠ [] → ∃ st', st₁.read (List.replicate st.sections.length ']') = .ok st' ∧
        st'.sections = [] ∧ st'.placeholder = none := fun _ => exists_read_closing
  obtain ⟨st', hread, hsec, hp'⟩ := hclosed { st with
      position := st.position + ('x' : Char).utf8Size, items := .literal 'x' :: st.items }
    rfl hp (List.cons_ne_nil _ _)
  refine ⟨st'.items.reverse, isTreeOf_of_readItems ?_⟩
  have hwhole : ReadState.read {} (s ++ 'x' :: List.replicate st.sections.length ']') = .ok st' := by
    rw [read_append, hr]
    simp only [Except.bind, read, hliteral, hread]
  simp only [readItems, hwhole, finish, hp', hsec]

/-- **A fault of the end points at what is open.** -/
theorem pointsInto_of_finish (hr : ReadState.read {} s = .ok st)
    (hs : st.finish = .error fault) : fault.PointsInto s := by
  have h : st.Counts s := counts_read counts_start hr
  unfold finish at hs
  split at hs
  · rename_i p hp
    cases hs
    refine .inr (.inr ⟨_, p.body.reverse, ⟨?_, h.holds.endsOutside⟩, fun body after hbody =>
      h.holds.bracesBalance_eq_false hp hbody, String.toList_ofList⟩)
    rw [List.append_nil]
    exact h.holds.eq_of_inside hp
  · rename_i o outer hp hsec
    cases hs
    have hcounted := h.sections
    have hbefore := h.holds.before
    rw [hsec] at hcounted hbefore
    obtain ⟨hb, ho⟩ := List.forall_mem_cons.1 hbefore
    refine ⟨⟨shownSections outer ++ renderAll o.before.reverse, renderAll st.items.reverse,
      ⟨?_, ?_⟩, bracketsBalance_reverse h.holds.items, hcounted.1⟩, outer.length, ?_⟩
    · rw [h.holds.eq_of_outside hp, hsec]
      simp [shownSections]
    · exact (endsOutside_shownSections ho).append (bracketsBalance_reverse hb).endsOutside
    · have hclosing := exists_isTreeOf_closing hr hp
      rwa [hsec] at hclosing
  · cases hs

end ReadState

/-! ## Patterns -/

theorem pointsInto_of_readItems [Regex.PropertyTable] {s : List Char} {fault : Fault}
    (h : readItems s = .error fault) : fault.PointsInto s := by
  unfold readItems at h
  split at h
  · rename_i st hr
    exact ReadState.pointsInto_of_finish hr h
  · rename_i e hr
    cases h
    obtain ⟨before, c, after, st, rfl, hread, hstep⟩ := ReadState.read_eq_error hr
    exact ReadState.pointsInto_of_step (ReadState.counts_read ReadState.counts_start hread) hstep after

theorem utf8ByteSize_ofList (s : List Char) : (String.ofList s).utf8ByteSize = byteLength s := by
  induction s with
  | nil => rfl
  | cons c s ih =>
    rw [← List.singleton_append, String.ofList_append, String.utf8ByteSize_append, ih,
      ← String.singleton_eq_ofList, String.utf8ByteSize_singleton]
    rfl

/-- The position that a fault of a text names lies between two of its characters. -/
theorem Fault.PointsInto.isValid [Regex.PropertyTable] {s : List Char} {fault : Fault}
    (h : fault.PointsInto s) {position : Nat} (hp : fault.position? = some position) :
    String.Pos.Raw.IsValid (String.ofList s) ⟨position⟩ := by
  have hbetween : ∀ before after : List Char, s = before ++ after →
      String.Pos.Raw.IsValid (String.ofList s) ⟨byteLength before⟩ := by
    rintro before after rfl
    refine String.Pos.Raw.isValid_iff_exists_append.2
      ⟨String.ofList before, String.ofList after, String.ofList_append, ?_⟩
    rw [String.rawEndPos, utf8ByteSize_ofList]
  cases fault with
  | unexpectedClose q =>
    cases hp
    obtain ⟨before, after, hs, -, rfl⟩ := h
    exact hbetween before _ (hs.text.trans (List.append_assoc _ _ _))
  | emptySection q =>
    cases hp
    obtain ⟨before, after, hs, rfl⟩ := h
    exact hbetween before _ (hs.text.trans (List.append_assoc _ _ _))
  | unclosedSection q =>
    cases hp
    obtain ⟨⟨before, after, hs, -, rfl⟩, -⟩ := h
    exact hbetween before _ (hs.text.trans (List.append_assoc _ _ _))
  | invalidPlaceholder text => cases hp
  | invalidConstraint name constraint => cases hp
  | duplicateParameter name => cases hp
  | invalidRegex => cases hp

/-- **The faults of a pattern point at what they say**, in the text that the fault comes with, and
no position that they name is inside a character. -/
theorem pointsInto_of_compile [Regex.PropertyTable] {raw : String} {e : PatternError}
    (h : compile raw = .error e) :
    e.pattern = Path.normalizePattern raw ∧ e.fault.PointsInto e.pattern.toList ∧
      ∀ position, e.fault.position? = some position →
        String.Pos.Raw.IsValid e.pattern ⟨position⟩ := by
  have hpattern := pattern_of_compile h
  have hpoints : e.fault.PointsInto e.pattern.toList := by
    rw [hpattern]
    obtain hread | ⟨-, hregex⟩ := compile_eq_error h
    · exact pointsInto_of_readItems hread
    · rw [hregex]
      trivial
  refine ⟨hpattern, hpoints, fun position hp => ?_⟩
  have hvalid := hpoints.isValid hp
  rwa [String.ofList_toList] at hvalid

/-- Patterns with characters of two bytes, the first of them with brackets in a constraint. -/
theorem pointsInto_of_accented :
    (compile "é[ü\x7bx:[a]\x7d]]" = .error ⟨"/é[ü\x7bx:[a]\x7d]]", .unexpectedClose 14⟩ ∧
      (Fault.unexpectedClose 14).PointsInto "/é[ü\x7bx:[a]\x7d]]".toList ∧
      String.Pos.Raw.IsValid "/é[ü\x7bx:[a]\x7d]]" ⟨14⟩) ∧
    (compile "ü[]" = .error ⟨"/ü[]", .emptySection 3⟩ ∧
      (Fault.emptySection 3).PointsInto "/ü[]".toList ∧ String.Pos.Raw.IsValid "/ü[]" ⟨3⟩) ∧
    (compile "/ü[x[é" = .error ⟨"/ü[x[é", .unclosedSection 5⟩ ∧
      (Fault.unclosedSection 5).PointsInto "/ü[x[é".toList ∧
      String.Pos.Raw.IsValid "/ü[x[é" ⟨5⟩) ∧
    compile "/\x7bé\x7d[" = .error ⟨"/\x7bé\x7d[", .invalidPlaceholder "\x7bé\x7d"⟩ ∧
      (Fault.invalidPlaceholder "\x7bé\x7d").PointsInto "/\x7bé\x7d[".toList := by
  have hclose : compile "é[ü\x7bx:[a]\x7d]]" =
      .error ⟨"/é[ü\x7bx:[a]\x7d]]", .unexpectedClose 14⟩ := by decide +kernel
  have hempty : compile "ü[]" = .error ⟨"/ü[]", .emptySection 3⟩ := by decide +kernel
  have hopen : compile "/ü[x[é" = .error ⟨"/ü[x[é", .unclosedSection 5⟩ := by decide +kernel
  have hname : compile "/\x7bé\x7d[" =
      .error ⟨"/\x7bé\x7d[", .invalidPlaceholder "\x7bé\x7d"⟩ := by decide +kernel
  have hc := (pointsInto_of_compile hclose).2
  have he := (pointsInto_of_compile hempty).2
  have ho := (pointsInto_of_compile hopen).2
  exact ⟨⟨hclose, hc.1, hc.2 14 rfl⟩, ⟨hempty, he.1, he.2 3 rfl⟩, ⟨hopen, ho.1, ho.2 5 rfl⟩,
    hname, (pointsInto_of_compile hname).2.1⟩

end UriRouter.Pattern
