import Mathlib.Data.List.Nodup
import UriRouter.Proofs.Pattern.Parts

/-!
# The tree of a text

The tree that a text is read to is a well-formed tree of that text.

* `ReadState.shown` : the text that has been read, from what the reader keeps of it;
* `ReadState.Holds` : what is true between any two characters;
* `isTreeOf_of_readItems` : what is true of the tree in the end;
* `placeholdersOf` : the placeholders of a tree, with their constraints.
-/

set_option autoImplicit false

namespace UriRouter.Pattern

open UriRouter.Text

/-! ## The placeholders of a tree -/

mutual

/-- The names and constraints of the placeholders in a part. -/
def Item.placeholders : Item → List (String × Option String)
  | .literal _ => []
  | .placeholder name constraint => [(name, constraint)]
  | .optional items => placeholdersOf items

/-- The names and constraints of the placeholders in a sequence of parts, from left to right. -/
def placeholdersOf : List Item → List (String × Option String)
  | [] => []
  | item :: rest => item.placeholders ++ placeholdersOf rest

end

mutual

theorem map_fst_placeholders : ∀ item : Item, item.placeholders.map (·.1) = item.names
  | .literal _ => rfl
  | .placeholder _ _ => rfl
  | .optional items => map_fst_placeholdersOf items

theorem map_fst_placeholdersOf : ∀ items : List Item,
    (placeholdersOf items).map (·.1) = namesOf items
  | [] => rfl
  | item :: rest => by
    rw [placeholdersOf, List.map_append, map_fst_placeholders item, map_fst_placeholdersOf rest,
      namesOf_cons]

end

mutual

theorem isWellFormed_of_mem_placeholders : ∀ item : Item, item.isWellFormed = true →
    ∀ q ∈ item.placeholders, (Item.placeholder q.1 q.2).isWellFormed = true
  | .literal _, _, q, hq => nomatch hq
  | .placeholder _ _, hw, q, hq => by
    rw [List.mem_singleton.1 hq]
    exact hw
  | .optional items, hw, q, hq => by
    rw [Item.isWellFormed, Bool.and_eq_true] at hw
    exact isWellFormed_of_mem_placeholdersOf items hw.2 q hq

theorem isWellFormed_of_mem_placeholdersOf : ∀ items : List Item, areWellFormed items = true →
    ∀ q ∈ placeholdersOf items, (Item.placeholder q.1 q.2).isWellFormed = true
  | [], _, q, hq => nomatch hq
  | item :: rest, hw, q, hq => by
    rw [areWellFormed, Bool.and_eq_true] at hw
    rcases List.mem_append.1 hq with hq | hq
    · exact isWellFormed_of_mem_placeholders item hw.1 q hq
    · exact isWellFormed_of_mem_placeholdersOf rest hw.2 q hq

end

/-- The placeholders of a well-formed tree have valid names. -/
theorem isValidName_of_mem_namesOf {items : List Item} (hw : areWellFormed items = true)
    {name : String} (h : name ∈ namesOf items) : isValidName name.toList = true := by
  rw [← map_fst_placeholdersOf] at h
  obtain ⟨q, hq, rfl⟩ := List.mem_map.1 h
  have hplaceholder := isWellFormed_of_mem_placeholdersOf items hw q hq
  rw [Item.isWellFormed, Bool.and_eq_true] at hplaceholder
  exact hplaceholder.1

/-! ## Placeholders -/

/-- What stands after the name begins with a `:`. -/
theorem eq_colon_of_dropWhile {body rest : List Char} {c : Char}
    (h : body.dropWhile (· != ':') = c :: rest) : c = ':' := by
  have hhead := List.head_dropWhile_not (fun c => c != ':') (by rw [h]; simp : body.dropWhile (· != ':') ≠ [])
  simp only [h, List.head_cons] at hhead
  simpa using hhead

variable [Regex.PropertyTable]

/-- A part that texts have, whose constraints are expressions. -/
structure Item.IsSound (item : Item) : Prop where
  wellFormed : item.isWellFormed = true
  constraints : ∀ c ∈ item.constraints, (Regex.read? c.toList).isSome = true

/-- The placeholder that a body denotes has that body, in which braces balance. -/
theorem isSound_of_placeholderOf {body : List Char} {item : Item}
    (hb : bracesBalance 0 false body = true) (h : placeholderOf body = .ok item) :
    ∃ name constraint, item = .placeholder name constraint ∧ bodyOf name constraint = body ∧
      item.IsSound := by
  have hbody : body.takeWhile (· != ':') ++ body.dropWhile (· != ':') = body :=
    List.takeWhile_append_dropWhile
  unfold placeholderOf splitPlaceholder at h
  simp only at h
  split at h
  · cases h
  · rename_i hv
    rw [Bool.not_eq_true', Bool.not_eq_false] at hv
    generalize hname : body.takeWhile (· != ':') = name at hv hbody h
    split at h
    · rename_i hd
      cases h
      rw [hd, List.append_nil] at hbody
      refine ⟨_, none, rfl, by rw [bodyOf, String.toList_ofList, hbody], ?_, by simp [Item.constraints]⟩
      simp [Item.isWellFormed, hv]
    · cases h
    · rename_i c constraint hne hd
      obtain rfl := eq_colon_of_dropWhile hd
      split at h
      · rename_i e he
        cases h
        rw [hd] at hbody
        refine ⟨_, some _, rfl, by rw [bodyOf, String.toList_ofList, String.toList_ofList, hbody], ?_, ?_⟩
        · rw [← hbody, bracesBalance_append_of_word (all_of_isValidName hv)] at hb
          have hb' : bracesBalance 0 false constraint = true := by
            simpa [bracesBalance] using hb
          have hnil : constraint ≠ [] := by
            rintro rfl
            exact hne rfl
          simp [Item.isWellFormed, hv, isConstraintText, hnil, hb']
        · intro d hd
          obtain rfl : d = String.ofList constraint := by
            simpa [Item.constraints] using hd
          rw [String.toList_ofList, he]
          rfl
      · cases h

/-! ## Sections -/

theorem areWellFormed_of_isSound {items : List Item} (h : ∀ item ∈ items, item.IsSound) :
    areWellFormed items = true := by
  induction items with
  | nil => rfl
  | cons item rest ih =>
    rw [areWellFormed, (h item (by simp)).wellFormed, ih fun i hi => h i (by simp [hi])]
    rfl

theorem constraints_of_isSound {items : List Item} (h : ∀ item ∈ items, item.IsSound) :
    ∀ c ∈ constraintsOf items, (Regex.read? c.toList).isSome = true := by
  induction items with
  | nil =>
    intro c hc
    cases hc
  | cons item rest ih =>
    intro c hc
    rcases List.mem_append.1 hc with hc | hc
    · exact (h item (by simp)).constraints c hc
    · exact ih (fun i hi => h i (by simp [hi])) c hc

theorem isSound_optional {items : List Item} (hne : items ≠ []) (h : ∀ item ∈ items, item.IsSound) :
    (Item.optional items).IsSound := by
  refine ⟨?_, constraints_of_isSound h⟩
  simp [Item.isWellFormed, hne, areWellFormed_of_isSound h]

/-! ## The state of the reader -/

/-- The text of sections that are open, the innermost being first. -/
def shownSections : List OpenSection → List Char
  | [] => []
  | s :: outer => shownSections outer ++ renderAll s.before.reverse ++ ['[']

/-- The names in sections that are open, the innermost being first. -/
def namesOfSections : List OpenSection → List String
  | [] => []
  | s :: outer => namesOfSections outer ++ namesOf s.before.reverse

/-- The text of a placeholder that is open. -/
def shownPlaceholder : Option OpenPlaceholder → List Char
  | none => []
  | some p => '\x7b' :: p.body.reverse

namespace ReadState

/-- The text that has been read. -/
def shown (st : ReadState) : List Char :=
  shownSections st.sections ++ renderAll st.items.reverse ++ shownPlaceholder st.placeholder

/-- What is true of the reader when it has read a text. -/
structure Holds (st : ReadState) (s : List Char) : Prop where
  text : st.shown = s
  names : st.names.reverse = namesOfSections st.sections ++ namesOf st.items.reverse
  nodup : st.names.Nodup
  items : ∀ item ∈ st.items, item.IsSound
  before : ∀ o ∈ st.sections, ∀ item ∈ o.before, item.IsSound
  balance : ∀ p, st.placeholder = some p →
    ∀ t, bracesBalance p.depth p.escaped t = bracesBalance 0 false (p.body.reverse ++ t)

variable {st st' : ReadState} {s : List Char} {c : Char}

theorem holds_position (h : st.Holds s) (position : Nat) :
    Holds { st with position := position } s :=
  ⟨h.text, h.names, h.nodup, h.items, h.before, h.balance⟩

/-- A part is added to the current sequence. -/
theorem holds_item {item : Item} (h : st.Holds s) (hp : st.placeholder = none)
    (hi : item.IsSound) (hn : (item.names.reverse ++ st.names).Nodup) :
    Holds { st with items := item :: st.items, names := item.names.reverse ++ st.names }
      (s ++ item.render) where
  text := by
    rw [← h.text]
    simp [shown, hp, shownPlaceholder, renderAll_append]
  names := by simp [h.names, namesOf_append]
  nodup := hn
  items := by
    intro i hm
    rcases List.mem_cons.1 hm with rfl | hm
    · exact hi
    · exact h.items i hm
  before := h.before
  balance := by
    intro p hp'
    rw [hp] at hp'
    cases hp'

theorem holds_literal {d : Char} (h : st.Holds s) (hp : st.placeholder = none)
    (hi : (Item.literal d).IsSound) (hs : st.push (.literal d) = .ok st') :
    st'.Holds (s ++ [d]) := by
  cases hs
  exact holds_item h hp hi h.nodup

theorem holds_placeholder {name : String} {constraint : Option String} (h : st.Holds s)
    (hp : st.placeholder = none) (hi : (Item.placeholder name constraint).IsSound)
    (hs : st.push (.placeholder name constraint) = .ok st') :
    st'.Holds (s ++ (Item.placeholder name constraint).render) := by
  simp only [push] at hs
  split at hs
  · cases hs
  · rename_i hn
    cases hs
    exact holds_item h hp hi (List.nodup_cons.2 ⟨by simpa using hn, h.nodup⟩)

/-- A character outside braces. -/
theorem holds_stepOutside (h : st.Holds s) (hp : st.placeholder = none)
    (hs : st.stepOutside c = .ok st') : st'.Holds (s ++ [c]) := by
  unfold stepOutside at hs
  split at hs
  · -- a section begins
    cases hs
    refine ⟨?_, ?_, h.nodup, by simp, ?_, h.balance⟩
    · rw [← h.text]
      simp [shown, shownSections, hp, shownPlaceholder]
    · simp [namesOfSections, h.names]
    · intro o ho
      rcases List.mem_cons.1 ho with rfl | ho
      · exact h.items
      · exact h.before o ho
  · -- a section ends
    split at hs
    · cases hs
    · rename_i position before sections hsec
      split at hs
      · cases hs
      · rename_i hne
        cases hs
        have hsound : (Item.optional st.items.reverse).IsSound := by
          refine isSound_optional (by simpa using hne) fun item hi => ?_
          exact h.items item (List.mem_reverse.1 hi)
        refine ⟨?_, ?_, h.nodup, ?_, ?_, h.balance⟩
        · rw [← h.text]
          simp [shown, hsec, shownSections, hp, shownPlaceholder, renderAll_append, Item.render]
        · simp [h.names, hsec, namesOfSections, namesOf_append, Item.names]
        · intro item hi
          rcases List.mem_cons.1 hi with rfl | hi
          · exact hsound
          · exact h.before ⟨position, before⟩ (by simp [hsec]) item hi
        · exact fun o ho => h.before o (by simp [hsec, ho])
  · -- a placeholder begins
    cases hs
    refine ⟨?_, h.names, h.nodup, h.items, h.before, ?_⟩
    · rw [← h.text]
      simp [shown, hp, shownPlaceholder]
    · intro p hp' t
      cases hp'
      rfl
  · cases hs
  · rename_i h₁ h₂ h₃ h₄
    refine holds_literal h hp ⟨?_, by simp [Item.constraints]⟩ hs
    have hc : c ∉ delimiters := by
      simp only [delimiters, List.mem_cons, List.not_mem_nil, or_false, not_or]
      exact ⟨h₁, h₂, h₃, h₄⟩
    simpa [Item.isWellFormed] using hc

/-- A character inside braces that is kept. -/
theorem holds_keep {p : OpenPlaceholder} {depth : Nat} {escaped : Bool} (h : st.Holds s)
    (hp : st.placeholder = some p)
    (hb : ∀ t, bracesBalance depth escaped t = bracesBalance p.depth p.escaped (c :: t)) :
    Holds { st with placeholder := some ⟨depth, escaped, c :: p.body⟩ } (s ++ [c]) := by
  refine ⟨?_, h.names, h.nodup, h.items, h.before, ?_⟩
  · rw [← h.text]
    simp [shown, hp, shownPlaceholder]
  · intro p' hp' t
    cases hp'
    rw [hb, h.balance p hp]
    simp

/-- Inner braces balance in what was read of a placeholder that can be closed. -/
theorem Holds.bracesBalance_body {p : OpenPlaceholder} (h : st.Holds s)
    (hp : st.placeholder = some p) (hd : p.depth = 0) (he : p.escaped = false) :
    bracesBalance 0 false p.body.reverse = true := by
  have hb := h.balance p hp []
  rw [List.append_nil, hd, he] at hb
  rw [← hb]
  rfl

/-- The placeholder is closed. -/
theorem holds_close {p : OpenPlaceholder} (h : st.Holds s) (hp : st.placeholder = some p)
    (hd : p.depth = 0) (he : p.escaped = false)
    (hs : (placeholderOf p.body.reverse).bind ({ st with placeholder := none } : ReadState).push =
      .ok st') : st'.Holds (s ++ ['\x7d']) := by
  have hbal := h.bracesBalance_body hp hd he
  cases ho : placeholderOf p.body.reverse with
  | error e =>
    rw [ho] at hs
    cases hs
  | ok item =>
    rw [ho] at hs
    obtain ⟨name, constraint, rfl, hbody, hsound⟩ := isSound_of_placeholderOf hbal ho
    have hout : Holds { st with placeholder := none }
        (shownSections st.sections ++ renderAll st.items.reverse) :=
      ⟨by simp [shown, shownPlaceholder], h.names, h.nodup, h.items, h.before, by simp⟩
    have hclosed := holds_placeholder hout rfl hsound hs
    rw [render_placeholder, hbody] at hclosed
    rw [← h.text]
    simpa [shown, hp, shownPlaceholder] using hclosed

/-- A character inside braces. -/
theorem holds_stepInside {p : OpenPlaceholder} (h : st.Holds s) (hp : st.placeholder = some p)
    (hs : st.stepInside p c = .ok st') : st'.Holds (s ++ [c]) := by
  obtain ⟨depth, escaped, body⟩ := p
  unfold stepInside at hs
  simp only at hs
  split at hs
  · rename_i he
    cases hs
    exact holds_keep h hp fun t => by simp [bracesBalance, he]
  · rename_i he
    rw [Bool.not_eq_true] at he
    split at hs
    · cases hs
      exact holds_keep h hp fun t => by simp [bracesBalance, he]
    · cases hs
      exact holds_keep h hp fun t => by simp [bracesBalance, he]
    · split at hs
      · rename_i hd
        exact holds_close h hp hd he hs
      · rename_i hd
        cases hs
        exact holds_keep h hp fun t => by simp [bracesBalance, he, hd]
    · cases hs
      exact holds_keep h hp fun t => by simp [bracesBalance, he]

/-- What a character does, outside braces or inside; it is counted in any case. -/
theorem step_eq_ok (hs : st.step c = .ok st') :
    ∃ st₁, st' = { st₁ with position := st.position + c.utf8Size } ∧
      (st.placeholder = none ∧ st.stepOutside c = .ok st₁ ∨
        ∃ p, st.placeholder = some p ∧ st.stepInside p c = .ok st₁) := by
  cases hp : st.placeholder with
  | none =>
    rw [step_outside hp] at hs
    cases ho : st.stepOutside c with
    | error e =>
      rw [ho] at hs
      cases hs
    | ok st₁ =>
      rw [ho] at hs
      exact ⟨st₁, (Except.ok.inj hs).symm, .inl ⟨rfl, rfl⟩⟩
  | some p =>
    rw [step_inside hp] at hs
    cases ho : st.stepInside p c with
    | error e =>
      rw [ho] at hs
      cases hs
    | ok st₁ =>
      rw [ho] at hs
      exact ⟨st₁, (Except.ok.inj hs).symm, .inr ⟨p, rfl, ho⟩⟩

/-- What a character cannot do, outside braces or inside. -/
theorem step_eq_error {fault : Fault} (hs : st.step c = .error fault) :
    st.placeholder = none ∧ st.stepOutside c = .error fault ∨
      ∃ p, st.placeholder = some p ∧ st.stepInside p c = .error fault := by
  cases hp : st.placeholder with
  | none =>
    rw [step_outside hp] at hs
    cases ho : st.stepOutside c with
    | error e =>
      rw [ho] at hs
      cases hs
      exact .inl ⟨rfl, rfl⟩
    | ok st₁ =>
      rw [ho] at hs
      cases hs
  | some p =>
    rw [step_inside hp] at hs
    cases ho : st.stepInside p c with
    | error e =>
      rw [ho] at hs
      cases hs
      exact .inr ⟨p, rfl, ho⟩
    | ok st₁ =>
      rw [ho] at hs
      cases hs

/-- Each character keeps what is true of the reader. -/
theorem holds_step (h : st.Holds s) (hs : st.step c = .ok st') : st'.Holds (s ++ [c]) := by
  obtain ⟨st₁, rfl, ⟨hp, ho⟩ | ⟨p, hp, ho⟩⟩ := step_eq_ok hs
  · exact holds_position (holds_stepOutside h hp ho) _
  · exact holds_position (holds_stepInside h hp ho) _

theorem holds_read {t : List Char} (h : st.Holds s) (hs : st.read t = .ok st') :
    st'.Holds (s ++ t) := by
  induction t generalizing st s with
  | nil =>
    cases hs
    rwa [List.append_nil]
  | cons c rest ih =>
    obtain ⟨st₁, hc, hs⟩ := read_cons hs
    rw [List.append_cons]
    exact ih (holds_step h hc) hs

end ReadState

/-! ## Texts -/

/-- A well-formed tree of a text, in which no two placeholders have one name and all constraints
are expressions. -/
structure IsTreeOf (items : List Item) (s : List Char) : Prop where
  render : renderAll items = s
  wellFormed : areWellFormed items = true
  names : (namesOf items).Nodup
  constraints : ∀ c ∈ constraintsOf items, (Regex.read? c.toList).isSome = true

/-- **What a text is read to is a tree of that text.** -/
theorem isTreeOf_of_readItems {s : List Char} {items : List Item} (h : readItems s = .ok items) :
    IsTreeOf items s := by
  unfold readItems at h
  split at h
  · rename_i st hr
    have hinit : ReadState.Holds {} [] :=
      ⟨rfl, rfl, List.nodup_nil, by simp, by simp, by simp⟩
    have hst : st.Holds s := ReadState.holds_read hinit hr
    unfold ReadState.finish at h
    split at h
    · cases h
    · cases h
    · rename_i hp hsec
      cases h
      have hitems : ∀ item ∈ st.items.reverse, item.IsSound :=
        fun item hi => hst.items item (List.mem_reverse.1 hi)
      have hnames := hst.names
      simp only [hsec, namesOfSections, List.nil_append] at hnames
      refine ⟨?_, areWellFormed_of_isSound hitems, ?_, constraints_of_isSound hitems⟩
      · rw [← hst.text]
        simp [ReadState.shown, hp, hsec, shownSections, shownPlaceholder]
      · rw [← hnames]
        exact List.nodup_reverse.2 hst.nodup
  · cases h

end UriRouter.Pattern
