import UriRouter.Pattern.Emitter
import UriRouter.Proofs.Pattern.TreeOfText

/-!
# The grammar of patterns

The texts that are patterns are the renderings of well-formed trees whose placeholders have
distinct names. Any other text has a fault in its structure, and only such a text has one: what
else can be wrong with a pattern are its regular expressions.

* `IsPatternText` : a text is the rendering of such a tree;
* `constraintsIn` : the constraints of the placeholders in any text at all;
* `fault_of_read` : what kind of fault reading a text can come to;
* `read_renderAll_cases` : what reading a rendering comes to, whether it succeeds or not;
* `isStructural_iff_not_isPatternText` : structural faults are those of texts outside the grammar.
-/

set_option autoImplicit false

namespace UriRouter.Pattern

open UriRouter.Text

/-! ## Texts in the grammar, and faults -/

/-- A text is the rendering of a well-formed tree, in which no two placeholders have one name. -/
def IsPatternText (s : List Char) : Prop :=
  ∃ items, renderAll items = s ∧ areWellFormed items = true ∧ (namesOf items).Nodup

/-- Whether a fault lies in brackets, braces and names, and not in a regular expression. -/
def Fault.isStructural : Fault → Bool
  | .unexpectedClose _ | .unclosedSection _ | .emptySection _ => true
  | .invalidPlaceholder _ | .duplicateParameter _ => true
  | .invalidConstraint _ _ | .invalidRegex => false

/-! ## The constraints in a text -/

/-- The brace that closes a placeholder is the first one up to which inner braces balance. -/
theorem of_untilBrace_eq_some {s body after : List Char} :
    ∀ {depth : Nat} {escaped : Bool}, untilBrace depth escaped s = some (body, after) →
      s = body ++ '\x7d' :: after ∧ bracesBalance depth escaped body = true := by
  induction s generalizing body with
  | nil =>
    intro depth escaped h
    cases h
  | cons c rest ih =>
    intro depth escaped h
    -- whatever the character does, it is kept, and the rest is searched with other counts
    have keep : ∀ {depth' : Nat} {escaped' : Bool},
        (∀ t, bracesBalance depth escaped (c :: t) = bracesBalance depth' escaped' t) →
        (untilBrace depth' escaped' rest).map (fun x => (c :: x.1, x.2)) = some (body, after) →
        c :: rest = body ++ '\x7d' :: after ∧ bracesBalance depth escaped body = true := by
      intro depth' escaped' hb hu
      obtain ⟨⟨body', after'⟩, hx, he⟩ := Option.map_eq_some_iff.1 hu
      obtain ⟨rfl, rfl⟩ := Prod.mk.inj he
      obtain ⟨hrest, hbal⟩ := ih hx
      refine ⟨?_, ?_⟩
      · rw [hrest]
        rfl
      · rw [hb]
        exact hbal
    unfold untilBrace at h
    simp only at h
    split at h
    · rename_i he
      exact keep (fun t => by simp [bracesBalance, he]) h
    · rename_i he
      rw [Bool.not_eq_true] at he
      split at h
      · exact keep (fun t => by simp [bracesBalance, he]) h
      · exact keep (fun t => by simp [bracesBalance, he]) h
      · split at h
        · rename_i hd
          cases h
          exact ⟨rfl, by simp [bracesBalance, hd, he]⟩
        · rename_i hd
          exact keep (fun t => by simp [bracesBalance, he, hd]) h
      · exact keep (fun t => by simp [bracesBalance, he]) h

/-- What stands between the braces of the placeholders in a text, from left to right. A brace that
nothing closes begins no placeholder. -/
def bodiesIn (s : List Char) : List (List Char) :=
  match s with
  | [] => []
  | c :: rest =>
    if c = '\x7b' then
      match _h : untilBrace 0 false rest with
      | some (body, after) => body :: bodiesIn after
      | none => []
    else bodiesIn rest
termination_by s.length
decreasing_by
  · exact Nat.lt_succ_of_lt (length_of_untilBrace _h)
  · simp

/-- The constraint in the body of a placeholder: what stands after the first `:`. -/
def constraintOf? (body : List Char) : Option (List Char) :=
  match body.dropWhile (· != ':') with
  | [] => none
  | _ :: constraint => some constraint

/-- The constraints of the placeholders in a text. -/
def constraintsIn (s : List Char) : List (List Char) := (bodiesIn s).filterMap constraintOf?

/-- A body in which inner braces balance is closed by the brace after it. -/
theorem untilBrace_of_bracesBalance {body : List Char} (after : List Char) :
    ∀ {depth : Nat} {escaped : Bool}, bracesBalance depth escaped body = true →
      untilBrace depth escaped (body ++ '\x7d' :: after) = some (body, after) := by
  induction body with
  | nil =>
    intro depth escaped h
    simp only [bracesBalance, Bool.and_eq_true, beq_iff_eq, Bool.not_eq_true'] at h
    obtain ⟨rfl, rfl⟩ := h
    rfl
  | cons c rest ih =>
    intro depth escaped h
    unfold bracesBalance at h
    unfold untilBrace
    simp only [List.cons_append]
    split at h
    · rename_i he
      rw [if_pos he, ih h]
      rfl
    · rename_i he
      rw [if_neg he]
      split at h
      · simp only [ih h, Option.map_some]
      · simp only [ih h, Option.map_some]
      · simp only [Bool.and_eq_true, bne_iff_ne, ne_eq] at h
        simp only [if_neg h.1, ih h.2, Option.map_some]
      · simp only [ih h, Option.map_some]

/-- The braces of a placeholder and what stands between them are one step of the search. -/
theorem bodiesIn_brace {rest body after : List Char}
    (h : untilBrace 0 false rest = some (body, after)) :
    bodiesIn ('\x7b' :: rest) = body :: bodiesIn after := by
  rw [bodiesIn, if_pos rfl]
  split
  · rename_i body' after' h'
    rw [h] at h'
    cases h'
    rfl
  · rename_i h'
    rw [h] at h'
    cases h'

theorem bodiesIn_cons {c : Char} (hc : c ≠ '\x7b') (rest : List Char) :
    bodiesIn (c :: rest) = bodiesIn rest := by
  rw [bodiesIn, if_neg hc]

theorem constraintsIn_brace {rest body after : List Char}
    (h : untilBrace 0 false rest = some (body, after)) :
    constraintsIn ('\x7b' :: rest) = (constraintOf? body).toList ++ constraintsIn after := by
  rw [constraintsIn, bodiesIn_brace h, List.filterMap_cons]
  cases constraintOf? body <;> rfl

theorem constraintsIn_cons {c : Char} (hc : c ≠ '\x7b') (rest : List Char) :
    constraintsIn (c :: rest) = constraintsIn rest := by
  rw [constraintsIn, bodiesIn_cons hc]
  rfl

/-! ## Reading a placeholder as a whole -/

namespace ReadState

theorem push_position (st : ReadState) (item : Item) (position : Nat) :
    ({ st with position := position } : ReadState).push item =
      (st.push item).map ({ · with position := position }) := by
  cases item with
  | literal c => rfl
  | optional items => rfl
  | placeholder name constraint =>
    simp only [push]
    split <;> rfl

variable [Regex.PropertyTable]

/-- Reading a placeholder is adding the part that its body denotes. -/
theorem read_braces {st : ReadState} (hp : st.placeholder = none) {body : List Char}
    (hb : bracesBalance 0 false body = true) (after : List Char) :
    st.read ('\x7b' :: (body ++ '\x7d' :: after)) =
      (((placeholderOf body).bind st.push).map
        ({ · with position := st.position + byteLength ('\x7b' :: body ++ ['\x7d']) })).bind
          (·.read after) := by
  have hopen : st.step '\x7b' =
      .ok { st with position := st.position + ('\x7b' : Char).utf8Size, placeholder := some {} } := by
    rw [step_outside hp]
    rfl
  have hbody := read_inside body { st with
    position := st.position + ('\x7b' : Char).utf8Size, placeholder := some {} } 0 false [] hb rfl
  rw [List.append_nil] at hbody
  simp only [read, hopen]
  rw [read_append, hbody]
  simp only [Except.bind, read]
  rw [step_inside rfl]
  have hst : ({ st with
      position := st.position + ('\x7b' : Char).utf8Size + byteLength body
      placeholder := none } : ReadState) =
      { st with position := st.position + ('\x7b' : Char).utf8Size + byteLength body } := by
    rw [← hp]
  have hpos : st.position + ('\x7b' : Char).utf8Size + byteLength body +
      ('\x7d' : Char).utf8Size = st.position + byteLength ('\x7b' :: body ++ ['\x7d']) := by
    simp only [List.cons_append, byteLength, byteLength_append]
    omega
  simp only [stepInside, List.reverse_reverse, Bool.false_eq_true, ↓reduceIte]
  rw [hst]
  cases placeholderOf body with
  | error e => rfl
  | ok item =>
    simp only [Except.bind, push_position]
    cases st.push item with
    | error e => rfl
    | ok st' =>
      simp only [Except.map]
      rw [hpos]

/-! ## The faults of a text -/

/-- A placeholder that nothing closes stays open to the end of the text. -/
theorem read_of_untilBrace_eq_none {s : List Char} :
    ∀ {st : ReadState} {depth : Nat} {escaped : Bool} {body : List Char},
      untilBrace depth escaped s = none → st.placeholder = some ⟨depth, escaped, body⟩ →
      ∃ st' p, st.read s = .ok st' ∧ st'.placeholder = some p ∧ p.body = s.reverse ++ body := by
  induction s with
  | nil =>
    intro st depth escaped body _ hp
    exact ⟨st, _, rfl, hp, rfl⟩
  | cons c rest ih =>
    intro st depth escaped body hu hp
    have keep : ∀ {depth' : Nat} {escaped' : Bool},
        st.stepInside ⟨depth, escaped, body⟩ c =
          .ok { st with placeholder := some ⟨depth', escaped', c :: body⟩ } →
        untilBrace depth' escaped' rest = none →
        ∃ st' p, st.read (c :: rest) = .ok st' ∧ st'.placeholder = some p ∧
          p.body = (c :: rest).reverse ++ body := by
      intro depth' escaped' hs hu
      rw [List.reverse_cons, List.append_assoc, List.singleton_append]
      simp only [read, step_inside hp, hs, Except.map]
      exact ih hu rfl
    unfold untilBrace at hu
    simp only at hu
    split at hu
    · rename_i he
      exact keep (by simp [stepInside, he]) (Option.map_eq_none_iff.1 hu)
    · rename_i he
      split at hu
      · exact keep (by simp [stepInside, he]) (Option.map_eq_none_iff.1 hu)
      · exact keep (by simp [stepInside, he]) (Option.map_eq_none_iff.1 hu)
      · split at hu
        · cases hu
        · rename_i hd
          exact keep (by simp [stepInside, he, hd]) (Option.map_eq_none_iff.1 hu)
      · exact keep (by simp [stepInside, he]) (Option.map_eq_none_iff.1 hu)

end ReadState

/-- Adding a part goes wrong only where its name is taken. -/
theorem push_eq_error {st : ReadState} {item : Item} {fault : Fault}
    (h : st.push item = .error fault) : ∃ name, fault = .duplicateParameter name := by
  unfold ReadState.push at h
  split at h
  · split at h
    · exact ⟨_, (Except.error.inj h).symm⟩
    · cases h
  · cases h

theorem fault_of_push {st : ReadState} {item : Item} {fault : Fault}
    (h : st.push item = .error fault) : fault.isStructural = true := by
  obtain ⟨name, rfl⟩ := push_eq_error h
  rfl

theorem fault_of_stepOutside {st : ReadState} {c : Char} {fault : Fault}
    (h : st.stepOutside c = .error fault) : fault.isStructural = true := by
  unfold ReadState.stepOutside at h
  split at h
  · cases h
  · split at h
    · cases h
      rfl
    · split at h
      · cases h
        rfl
      · cases h
  · cases h
  · cases h
    rfl
  · exact fault_of_push h

/-- Outside braces no character but a brace opens a placeholder. -/
theorem placeholder_of_stepOutside {st st' : ReadState} {c : Char} (hp : st.placeholder = none)
    (hc : c ≠ '\x7b') (h : st.stepOutside c = .ok st') : st'.placeholder = none := by
  unfold ReadState.stepOutside at h
  split at h
  · cases h
    exact hp
  · split at h
    · cases h
    · split at h
      · cases h
      · cases h
        exact hp
  · exact absurd rfl hc
  · cases h
  · cases h
    exact hp

/-- What comes after a part is read with the part's names taken. -/
theorem notMem_names_after {st : ReadState} {item : Item} {rest : List Item}
    (hn : (namesOf (item :: rest)).Nodup) (ht : ∀ n ∈ namesOf (item :: rest), n ∉ st.names) :
    ∀ n ∈ namesOf rest, n ∉ (st.after [item]).names := by
  rw [namesOf_cons] at hn ht
  intro n hm
  have hdisjoint := (List.nodup_append.1 hn).2.2
  simp only [ReadState.after, namesOf_cons, namesOf_nil, List.append_nil, List.mem_append,
    List.mem_reverse, not_or]
  exact ⟨fun hi => hdisjoint n hi n hm rfl, ht n (List.mem_append_right _ hm)⟩

section

variable [Regex.PropertyTable]

/-- A fault that a text can have by what stands in it: one of its structure, or a constraint that
is no expression. -/
def IsFaultOf (s : List Char) (fault : Fault) : Prop :=
  fault.isStructural = true ∨
    ∃ name constraint, fault = .invalidConstraint name constraint ∧
      constraint.toList ∈ constraintsIn s ∧ Regex.read? constraint.toList = none

/-- A body that denotes no placeholder has no proper name, or its constraint is at fault. -/
theorem fault_of_placeholderOf {body : List Char} {fault : Fault}
    (h : placeholderOf body = .error fault) :
    fault.isStructural = true ∨ ∃ name constraint, fault = .invalidConstraint name constraint ∧
      constraintOf? body = some constraint.toList ∧ Regex.read? constraint.toList = none := by
  unfold placeholderOf splitPlaceholder at h
  simp only at h
  split at h
  · cases h
    exact .inl rfl
  · split at h
    · cases h
    · cases h
      exact .inl rfl
    · rename_i c constraint hne hd
      split at h
      · cases h
      · rename_i hr
        cases h
        refine .inr ⟨_, _, rfl, ?_, ?_⟩
        · rw [constraintOf?, hd, String.toList_ofList]
        · rw [String.toList_ofList]
          exact hr

theorem IsFaultOf.imp {s t : List Char} {fault : Fault} (h : IsFaultOf s fault)
    (hsub : constraintsIn s ⊆ constraintsIn t) : IsFaultOf t fault := by
  rcases h with h | ⟨name, constraint, rfl, hm, hr⟩
  · exact .inl h
  · exact .inr ⟨name, constraint, rfl, hsub hm, hr⟩

/-- **What reading a text can go wrong by.** The induction is on the placeholders of the text: the
next one is read as a whole, and any other character by itself. -/
theorem fault_of_read {s : List Char} {st : ReadState} {fault : Fault}
    (hp : st.placeholder = none) (h : st.read s = .error fault) : IsFaultOf s fault := by
  induction s using bodiesIn.induct generalizing st with
  | case1 => cases h
  | case2 rest body after hu ih =>
    obtain ⟨hrest, hbal⟩ := of_untilBrace_eq_some hu
    have hsub := constraintsIn_brace hu
    rw [hrest, ReadState.read_braces hp hbal] at h
    cases ho : placeholderOf body with
    | error e =>
      rw [ho] at h
      cases h
      rcases fault_of_placeholderOf ho with hs | ⟨name, constraint, rfl, hc, hr⟩
      · exact .inl hs
      · refine .inr ⟨name, constraint, rfl, ?_, hr⟩
        rw [hsub, hc]
        exact List.mem_append_left _ (List.mem_singleton.2 rfl)
    | ok item =>
      rw [ho] at h
      cases hpush : st.push item with
      | error e =>
        simp only [Except.bind, hpush, Except.map] at h
        cases h
        exact .inl (fault_of_push hpush)
      | ok st' =>
        simp only [Except.bind, hpush, Except.map] at h
        have hp' : st'.placeholder = none := by
          unfold ReadState.push at hpush
          split at hpush
          · split at hpush
            · cases hpush
            · cases hpush
              exact hp
          · cases hpush
            exact hp
        refine (ih ?_ h).imp ?_
        · exact hp'
        · rw [hsub]
          exact List.subset_append_right _ _
  | case3 rest hu =>
    simp only [ReadState.read, ReadState.step_outside hp, ReadState.stepOutside, Except.map] at h
    have hopen : ({ st with
        position := st.position + ('\x7b' : Char).utf8Size, placeholder := some {} } :
        ReadState).placeholder = some ⟨0, false, []⟩ := rfl
    obtain ⟨st', p, hok, -⟩ := ReadState.read_of_untilBrace_eq_none hu hopen
    rw [hok] at h
    cases h
  | case4 c rest hc ih =>
    have hsub : constraintsIn rest ⊆ constraintsIn (c :: rest) := by
      rw [constraintsIn_cons hc]
      exact List.Subset.refl _
    simp only [ReadState.read, ReadState.step_outside hp] at h
    cases ho : st.stepOutside c with
    | error e =>
      rw [ho] at h
      cases h
      exact .inl (fault_of_stepOutside ho)
    | ok st' =>
      rw [ho] at h
      have hp' := placeholder_of_stepOutside hp hc ho
      exact (ih (by exact hp') h).imp hsub

/-- A text that has a fault, and no faulty constraint, has one in its structure. -/
theorem fault_of_readItems {s : List Char} {fault : Fault} (h : readItems s = .error fault) :
    IsFaultOf s fault := by
  unfold readItems at h
  split at h
  · unfold ReadState.finish at h
    split at h
    · cases h
      exact .inl rfl
    · cases h
      exact .inl rfl
    · cases h
  · cases h
    exact fault_of_read rfl (by assumption)

/-! ## The faults of a rendering -/

/-- Reading a text goes through the parts that it is the rendering of, unless one of their
constraints is at fault. -/
def ReadsOrFaults (st : ReadState) (items : List Item) : Prop :=
  st.read (renderAll items) = .ok (st.after items) ∨
    ∃ name, ∃ constraint ∈ constraintsOf items, Regex.read? constraint.toList = none ∧
      st.read (renderAll items) = .error (.invalidConstraint name constraint)

theorem ReadsOrFaults.cons {st : ReadState} {item : Item} {rest : List Item}
    (hi : ReadsOrFaults st [item]) (hr : ReadsOrFaults (st.after [item]) rest) :
    ReadsOrFaults st (item :: rest) := by
  have hread : st.read (renderAll (item :: rest)) =
      (st.read (renderAll [item])).bind (·.read (renderAll rest)) := by
    rw [← ReadState.read_append, ← renderAll_append, List.singleton_append]
  rcases hi with hi | ⟨name, c, hc, hn, hi⟩
  · rw [hi] at hread
    rcases hr with hr | ⟨name, c, hc, hn, hr⟩
    · refine .inl ?_
      rw [ReadState.after_append, List.singleton_append] at hr
      rw [hread]
      exact hr
    · refine .inr ⟨name, c, List.mem_append_right _ hc, hn, ?_⟩
      rw [hread]
      exact hr
  · have hmem : c ∈ item.constraints := by
      simpa [constraintsOf] using hc
    rw [hi] at hread
    exact .inr ⟨name, c, List.mem_append_left _ hmem, hn, hread⟩

theorem readsOrFaults_placeholder {st : ReadState} {name : String} {constraint : Option String}
    (hw : (Item.placeholder name constraint).isWellFormed = true) (hp : st.placeholder = none)
    (hn : name ∉ st.names) : ReadsOrFaults st [.placeholder name constraint] := by
  have hread := ReadState.read_braces hp (bracesBalance_bodyOf hw) []
  have hpush : st.push (.placeholder name constraint) = .ok { st with
      items := .placeholder name constraint :: st.items, names := name :: st.names } := by
    simp [ReadState.push, hn]
  have hrender : renderAll [.placeholder name constraint] =
      '\x7b' :: (bodyOf name constraint ++ '\x7d' :: []) := by
    rw [renderAll_cons, renderAll_nil, List.append_nil, render_placeholder, List.cons_append]
  have hok : placeholderOf (bodyOf name constraint) = .ok (.placeholder name constraint) →
      ReadsOrFaults st [.placeholder name constraint] := by
    intro ho
    refine .inl ?_
    rw [hrender, hread, ho]
    simp only [Except.bind, hpush, Except.map, ReadState.read]
    rw [ReadState.after, hrender]
    simp [Item.names]
  have heq := placeholderOf_bodyOf_eq hw
  cases constraint with
  | none => exact hok heq
  | some c =>
    cases hc : Regex.read? c.toList with
    | some e =>
      simp only [hc] at heq
      exact hok heq
    | none =>
      simp only [hc] at heq
      refine .inr ⟨name, c, by simp [constraintsOf, Item.constraints], hc, ?_⟩
      rw [hrender, hread, heq]
      rfl

mutual

theorem read_render_cases : ∀ (item : Item) {st : ReadState}, item.isWellFormed = true →
    item.names.Nodup → st.placeholder = none → (∀ n ∈ item.names, n ∉ st.names) →
    ReadsOrFaults st [item]
  | .literal c, st, hw, _, hp, _ => by
    have hc : c ∉ delimiters := by simpa [Item.isWellFormed] using hw
    simp only [delimiters, List.mem_cons, List.not_mem_nil, or_false, not_or] at hc
    obtain ⟨h₁, h₂, h₃, h₄⟩ := hc
    have hs : st.stepOutside c = .ok { st with items := .literal c :: st.items } := by
      simp [ReadState.stepOutside, ReadState.push]
    refine .inl ?_
    simp [Item.render, ReadState.read, ReadState.step_outside hp, hs, Except.map, ReadState.after,
      byteLength, Item.names]
  | .placeholder name constraint, st, hw, _, hp, ht =>
    readsOrFaults_placeholder hw hp (ht name (by simp [Item.names]))
  | .optional items, st, hw, hn, hp, ht => by
    simp only [Item.isWellFormed, Bool.and_eq_true, Bool.not_eq_true',
      List.isEmpty_eq_false_iff] at hw
    rw [Item.names] at hn ht
    generalize hinside : ({ st with
      position := st.position + ('[' : Char).utf8Size, items := []
      sections := ⟨st.position, st.items⟩ :: st.sections } : ReadState) = inside
    have hopen : st.step '[' = .ok inside := by
      rw [ReadState.step_outside hp, ← hinside]
      rfl
    have hread : ∀ tail, st.read ('[' :: (renderAll items ++ tail)) =
        (inside.read (renderAll items)).bind (·.read tail) := by
      intro tail
      rw [← ReadState.read_append, ReadState.read, hopen]
    have hrender : renderAll [.optional items] = '[' :: (renderAll items ++ [']']) := by
      simp [Item.render]
    have hitems : ReadsOrFaults inside items := by
      subst hinside
      exact read_renderAll_cases items hw.2 hn hp ht
    rcases hitems with h | ⟨name, c, hc, hnone, h⟩
    · refine .inl ?_
      have hne : items.reverse.isEmpty = false := by simpa using hw.1
      rw [hrender, hread, h, ← hinside]
      simp only [Except.bind, ReadState.read]
      rw [ReadState.step_outside (by exact hp)]
      simp only [ReadState.stepOutside, ReadState.after, List.append_nil, hne, Bool.false_eq_true,
        ↓reduceIte, List.reverse_reverse, Except.map]
      simp [Item.render, byteLength, byteLength_append, Item.names, Nat.add_assoc]
    · refine .inr ⟨name, c, by simpa [constraintsOf, Item.constraints] using hc, hnone, ?_⟩
      rw [hrender, hread, h]
      rfl

/-- **What reading a rendering comes to.** The parts are read one by one, or the first constraint
that is no expression is reported. -/
theorem read_renderAll_cases : ∀ (items : List Item) {st : ReadState},
    areWellFormed items = true → (namesOf items).Nodup → st.placeholder = none →
    (∀ n ∈ namesOf items, n ∉ st.names) → ReadsOrFaults st items
  | [], st, _, _, _, _ => .inl (by simp [ReadState.read, ReadState.after, byteLength])
  | item :: rest, st, hw, hn, hp, ht => by
    simp only [areWellFormed, Bool.and_eq_true] at hw
    have hn' := hn
    have ht' := ht
    rw [namesOf_cons] at hn' ht'
    obtain ⟨hni, hnr, -⟩ := List.nodup_append.1 hn'
    have hi := read_render_cases item hw.1 hni hp fun n hm => ht' n (List.mem_append_left _ hm)
    have hr : ReadsOrFaults (st.after [item]) rest :=
      read_renderAll_cases rest hw.2 hnr hp (notMem_names_after hn ht)
    exact hi.cons hr

end

/-- A text in the grammar is read to a tree, unless a constraint of it is no expression. -/
theorem readItems_renderAll_cases {items : List Item} (hw : areWellFormed items = true)
    (hn : (namesOf items).Nodup) :
    readItems (renderAll items) = .ok items ∨
      ∃ name, ∃ constraint ∈ constraintsOf items, Regex.read? constraint.toList = none ∧
        readItems (renderAll items) = .error (.invalidConstraint name constraint) := by
  have h : ReadsOrFaults {} items := read_renderAll_cases items hw hn rfl (by simp)
  rcases h with h | ⟨name, c, hc, hnone, h⟩
  · refine .inl ?_
    simp [readItems, h, ReadState.finish, ReadState.after]
  · exact .inr ⟨name, c, hc, hnone, by simp [readItems, h]⟩

/-! ## Compiling -/

/-- A fault of a pattern is one that reading its text comes to, or that its expression is none. -/
theorem compile_eq_error {raw : String} {e : PatternError} (h : compile raw = .error e) :
    readItems (Path.normalizePattern raw).toList = .error e.fault ∨
      (∃ items, readItems (Path.normalizePattern raw).toList = .ok items) ∧
        e.fault = .invalidRegex := by
  unfold compile at h
  simp only at h
  split at h
  · rename_i fault hread
    cases h
    exact .inl hread
  · rename_i items hread
    refine .inr ⟨⟨items, hread⟩, ?_⟩
    split at h
    · rename_i fault hkind
      cases h
      unfold kindOf at hkind
      split at hkind
      · cases hkind
      · split at hkind
        · cases hkind
        · cases hkind
          rfl
    · cases h

/-- A fault comes with the text in which the pattern was read. -/
theorem pattern_of_compile {raw : String} {e : PatternError} (h : compile raw = .error e) :
    e.pattern = Path.normalizePattern raw := by
  unfold compile at h
  simp only at h
  split at h
  · cases h
    rfl
  · split at h
    · cases h
      rfl
    · cases h

theorem compile_of_readItems_error {raw : String} {fault : Fault}
    (h : readItems (Path.normalizePattern raw).toList = .error fault) :
    compile raw = .error ⟨Path.normalizePattern raw, fault⟩ := by
  simp only [compile, h]

/-- **A pattern has a fault in its structure exactly when its text is outside the grammar**, if
the constraints of its placeholders are expressions. -/
theorem isStructural_iff_not_isPatternText {raw : String}
    (hc : ∀ c ∈ constraintsIn (Path.normalizePattern raw).toList,
      (Regex.read? c).isSome = true) :
    (∃ e, compile raw = .error e ∧ e.fault.isStructural = true) ↔
      ¬ IsPatternText (Path.normalizePattern raw).toList := by
  constructor
  · rintro ⟨e, he, hs⟩ ⟨items, hrender, hw, hn⟩
    have hcases := readItems_renderAll_cases hw hn
    rw [hrender] at hcases
    rcases compile_eq_error he with hread | ⟨-, hinvalid⟩
    · rcases hcases with h | ⟨name, c, -, -, h⟩
      · rw [h] at hread
        cases hread
      · rw [h] at hread
        rw [← Except.error.inj hread] at hs
        cases hs
    · rw [hinvalid] at hs
      cases hs
  · intro hnot
    cases hread : readItems (Path.normalizePattern raw).toList with
    | ok items =>
      have htree := isTreeOf_of_readItems hread
      exact absurd ⟨items, htree.render, htree.wellFormed, htree.names⟩ hnot
    | error fault =>
      refine ⟨_, compile_of_readItems_error hread, ?_⟩
      rcases fault_of_readItems hread with hs | ⟨name, c, -, hm, hnone⟩
      · exact hs
      · have hsome := hc _ hm
        rw [hnone] at hsome
        cases hsome

end

/-- A text with brackets and braces in its constraints, in which one name is given twice. -/
def repeatedNameText : String := "\x7ba:\\d\x7b2\x7d\x7d[\x7bb:[\\]\\\x7d]+\x7d/\x7ba\x7d]"

/-- The same text without the second placeholder of that name. -/
def distinctNamesText : String := "\x7ba:\\d\x7b2\x7d\x7d[\x7bb:[\\]\\\x7d]+\x7d/]"

/-- The parts of that text. -/
def distinctNamesItems : List Item :=
  [.literal '/', .placeholder "a" (some "\\d\x7b2\x7d"),
    .optional [.placeholder "b" (some "[\\]\\\x7d]+"), .literal '/']]

theorem not_isPatternText_duplicate :
    (∀ c ∈ constraintsIn (Path.normalizePattern repeatedNameText).toList,
      (Regex.read? c).isSome = true) ∧
    ¬ IsPatternText (Path.normalizePattern repeatedNameText).toList ∧
    (∀ c ∈ constraintsIn (Path.normalizePattern distinctNamesText).toList,
      (Regex.read? c).isSome = true) ∧
    ¬ ∃ e, compile distinctNamesText = .error e ∧ e.fault.isStructural = true := by
  have hrepeated : ∀ c ∈ constraintsIn (Path.normalizePattern repeatedNameText).toList,
      (Regex.read? c).isSome = true := by decide +kernel
  have hdistinct : ∀ c ∈ constraintsIn (Path.normalizePattern distinctNamesText).toList,
      (Regex.read? c).isSome = true := by decide +kernel
  have htext : IsPatternText (Path.normalizePattern distinctNamesText).toList :=
    ⟨distinctNamesItems, by decide +kernel, by decide +kernel, by decide +kernel⟩
  refine ⟨hrepeated, ?_, hdistinct, ?_⟩
  · exact (isStructural_iff_not_isPatternText hrepeated).1 ⟨_, rfl, rfl⟩
  · rw [isStructural_iff_not_isPatternText hdistinct, not_not]
    exact htext

end UriRouter.Pattern
