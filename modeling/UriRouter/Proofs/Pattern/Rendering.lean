import Mathlib.Data.List.TakeWhile
import UriRouter.Pattern.Reader

/-!
# Trees of patterns and their texts

A tree is well formed if it is the tree of its own text: a literal is no bracket and no brace, the
braces of a constraint balance, and a section holds something.

* `Item.isWellFormed`, `areWellFormed` : the trees that texts have;
* `read_renderAll` : what reading the text of a well-formed tree comes to, if it succeeds;
* `readItems_renderAll` : it comes to the tree, if it succeeds.
-/

set_option autoImplicit false

namespace UriRouter.Pattern

open UriRouter.Text

/-! ## Well-formed trees -/

/-- The characters that are no literals. -/
def delimiters : List Char := ['[', ']', '\x7b', '\x7d']

/-- Whether inner braces, of which `depth` are open, balance in a text. A backslash takes the
character after it along, and `escaped` says whether one stands before the text. -/
def bracesBalance (depth : Nat) (escaped : Bool) : List Char → Bool
  | [] => depth == 0 && !escaped
  | c :: rest =>
    if escaped then bracesBalance depth false rest
    else match c with
      | '\\' => bracesBalance depth true rest
      | '\x7b' => bracesBalance (depth + 1) false rest
      | '\x7d' => depth != 0 && bracesBalance (depth - 1) false rest
      | _ => bracesBalance depth false rest

/-- Whether a text may stand as a constraint between a `:` and the brace that closes the
placeholder. -/
def isConstraintText (c : List Char) : Bool := !c.isEmpty && bracesBalance 0 false c

mutual

/-- Whether a part of a pattern is the part that its text denotes. -/
def Item.isWellFormed : Item → Bool
  | .literal c => !delimiters.contains c
  | .placeholder name constraint =>
    isValidName name.toList && constraint.all fun c => isConstraintText c.toList
  | .optional items => !items.isEmpty && areWellFormed items

/-- Whether all parts of a sequence are the parts that their texts denote. -/
def areWellFormed : List Item → Bool
  | [] => true
  | item :: rest => item.isWellFormed && areWellFormed rest

end

theorem byteLength_append (s t : List Char) : byteLength (s ++ t) = byteLength s + byteLength t := by
  induction s with
  | nil => simp [byteLength]
  | cons c rest ih => simp [byteLength, ih, Nat.add_assoc]

/-! ## Reading inside braces -/

namespace ReadState

variable [Regex.PropertyTable]

theorem read_cons {st st' : ReadState} {c : Char} {rest : List Char}
    (h : st.read (c :: rest) = .ok st') : ∃ st₁, st.step c = .ok st₁ ∧ st₁.read rest = .ok st' := by
  simp only [read] at h
  split at h
  · rename_i st₁ hs
    exact ⟨st₁, hs, h⟩
  · cases h

theorem read_append_ok {st st' : ReadState} {s t : List Char} (h : st.read (s ++ t) = .ok st') :
    ∃ st₁, st.read s = .ok st₁ ∧ st₁.read t = .ok st' := by
  rw [read_append] at h
  cases hs : st.read s with
  | ok st₁ => rw [hs] at h; exact ⟨st₁, rfl, h⟩
  | error e => rw [hs] at h; cases h

theorem step_inside {st : ReadState} {p : OpenPlaceholder} (hp : st.placeholder = some p)
    (c : Char) :
    st.step c = (st.stepInside p c).map ({ · with position := st.position + c.utf8Size }) := by
  simp only [step, hp]
  cases st.stepInside p c <;> rfl

theorem step_outside {st : ReadState} (hp : st.placeholder = none) (c : Char) :
    st.step c = (st.stepOutside c).map ({ · with position := st.position + c.utf8Size }) := by
  simp only [step, hp]
  cases st.stepOutside c <;> rfl

/-- A text in which inner braces balance becomes part of the placeholder. -/
theorem read_inside (s : List Char) :
    ∀ (st : ReadState) (depth : Nat) (escaped : Bool) (body : List Char),
      bracesBalance depth escaped s = true → st.placeholder = some ⟨depth, escaped, body⟩ →
      st.read s = .ok { st with
        position := st.position + byteLength s
        placeholder := some ⟨0, false, s.reverse ++ body⟩ } := by
  induction s with
  | nil =>
    intro st depth escaped body hb hp
    simp only [bracesBalance, Bool.and_eq_true, beq_iff_eq, Bool.not_eq_true'] at hb
    obtain ⟨rfl, rfl⟩ := hb
    simp [read, byteLength, ← hp]
  | cons c rest ih =>
    intro st depth escaped body hb hp
    -- whatever the character does, it is kept, and the rest is read with other counts
    have keep : ∀ depth' escaped', bracesBalance depth' escaped' rest = true →
        st.stepInside ⟨depth, escaped, body⟩ c =
          .ok { st with placeholder := some ⟨depth', escaped', c :: body⟩ } →
        st.read (c :: rest) = .ok { st with
          position := st.position + byteLength (c :: rest)
          placeholder := some ⟨0, false, (c :: rest).reverse ++ body⟩ } := by
      intro depth' escaped' hr hs
      simp only [read, step_inside hp, hs, Except.map]
      rw [ih _ depth' escaped' (c :: body) hr rfl]
      simp [byteLength, Nat.add_assoc]
    unfold bracesBalance at hb
    cases escaped with
    | true => exact keep depth false (by simpa using hb) (by simp [stepInside])
    | false =>
      simp only [Bool.false_eq_true, ↓reduceIte] at hb
      split at hb
      · exact keep depth true hb (by simp [stepInside])
      · exact keep (depth + 1) false hb (by simp [stepInside])
      · simp only [Bool.and_eq_true, bne_iff_ne, ne_eq] at hb
        exact keep (depth - 1) false hb.2 (by simp [stepInside, hb.1])
      · exact keep depth false hb (by simp [stepInside])

end ReadState

/-! ## Placeholders -/

theorem isAsciiWordChar_ne {c d : Char} (h : isAsciiWordChar c = true)
    (hd : isAsciiWordChar d = false) : c ≠ d := by
  rintro rfl
  rw [h] at hd
  cases hd

theorem all_of_isValidName {name : List Char} (h : isValidName name = true) :
    ∀ c ∈ name, isAsciiWordChar c = true := by
  unfold isValidName at h
  split at h
  · cases h
  · rename_i c rest
    simp only [Bool.and_eq_true, Bool.or_eq_true, List.all_eq_true, beq_iff_eq] at h
    intro d hd
    rcases List.mem_cons.1 hd with rfl | hd
    · rcases h.1 with hl | rfl
      · simp [isAsciiWordChar, hl]
      · decide
    · exact h.2 d hd

theorem bracesBalance_append_of_word {name : List Char} (h : ∀ c ∈ name, isAsciiWordChar c = true)
    (s : List Char) : bracesBalance 0 false (name ++ s) = bracesBalance 0 false s := by
  induction name with
  | nil => rfl
  | cons c rest ih =>
    have hc := h c (by simp)
    have h₁ := isAsciiWordChar_ne hc (d := '\\') (by decide)
    have h₂ := isAsciiWordChar_ne hc (d := '\x7b') (by decide)
    have h₃ := isAsciiWordChar_ne hc (d := '\x7d') (by decide)
    have hr := ih fun d hd => h d (by simp [hd])
    simp [bracesBalance, hr]

/-- The text between the braces of a placeholder. -/
def bodyOf (name : String) : Option String → List Char
  | none => name.toList
  | some constraint => name.toList ++ ':' :: constraint.toList

theorem render_placeholder (name : String) (constraint : Option String) :
    (Item.placeholder name constraint).render = '\x7b' :: bodyOf name constraint ++ ['\x7d'] := by
  cases constraint <;> simp [Item.render, bodyOf]

/-- The name that a body begins with ends before the first `:`, and the constraint stands after
it. -/
theorem takeWhile_bodyOf {name : String} (h : ∀ c ∈ name.toList, isAsciiWordChar c = true)
    (constraint : Option String) :
    (bodyOf name constraint).takeWhile (· != ':') = name.toList ∧
      (bodyOf name constraint).dropWhile (· != ':') = constraint.elim [] (':' :: ·.toList) := by
  have hne : ∀ c ∈ name.toList, (c != ':') = true := fun c hc => by
    simpa using isAsciiWordChar_ne (h c hc) (d := ':') (by decide)
  cases constraint with
  | none => exact ⟨List.takeWhile_eq_self_iff.2 hne, List.dropWhile_eq_nil_iff.2 hne⟩
  | some c =>
    rw [bodyOf, List.takeWhile_append_of_pos hne, List.dropWhile_append_of_pos hne]
    simp

theorem bracesBalance_bodyOf {name : String} {constraint : Option String}
    (h : (Item.placeholder name constraint).isWellFormed = true) :
    bracesBalance 0 false (bodyOf name constraint) = true := by
  simp only [Item.isWellFormed, Bool.and_eq_true] at h
  have hn := all_of_isValidName h.1
  cases constraint with
  | none =>
    have := bracesBalance_append_of_word hn []
    simpa [bodyOf, bracesBalance] using this
  | some constraint =>
    simp only [Option.all_some, isConstraintText, Bool.and_eq_true] at h
    rw [bodyOf, bracesBalance_append_of_word hn]
    simpa [bracesBalance] using h.2.2

/-- The state after well-formed parts have been read. -/
def ReadState.after (st : ReadState) (items : List Item) : ReadState :=
  { st with
    position := st.position + byteLength (renderAll items)
    items := items.reverse ++ st.items
    names := (namesOf items).reverse ++ st.names }

theorem ReadState.after_append (st : ReadState) (xs ys : List Item) :
    (st.after xs).after ys = st.after (xs ++ ys) := by
  simp [after, renderAll_append, byteLength_append, namesOf_append, Nat.add_assoc]

variable [Regex.PropertyTable]

/-- The body of a placeholder denotes the placeholder, unless its constraint is no expression. -/
theorem placeholderOf_bodyOf_eq {name : String} {constraint : Option String}
    (hw : (Item.placeholder name constraint).isWellFormed = true) :
    placeholderOf (bodyOf name constraint) =
      match constraint with
      | none => .ok (.placeholder name none)
      | some c =>
        match Regex.read? c.toList with
        | some _ => .ok (.placeholder name (some c))
        | none => .error (.invalidConstraint name c) := by
  simp only [Item.isWellFormed, Bool.and_eq_true] at hw
  obtain ⟨hv, hc⟩ := hw
  obtain ⟨ht, hd⟩ := takeWhile_bodyOf (all_of_isValidName hv) constraint
  cases constraint with
  | none =>
    simp only [placeholderOf, splitPlaceholder, ht, hd, hv, Option.elim_none, Bool.not_true,
      Bool.false_eq_true, ↓reduceIte, String.ofList_toList, Except.map]
  | some constraint =>
    have hnil : constraint.toList ≠ [] := by
      intro hnil
      simp [isConstraintText, hnil] at hc
    simp only [placeholderOf, splitPlaceholder, ht, hd, hv, Option.elim_some, Bool.not_true,
      Bool.false_eq_true, ↓reduceIte]
    cases Regex.read? constraint.toList with
    | none => simp only [String.ofList_toList, Except.map]
    | some e => simp only [String.ofList_toList, Except.map]

/-- The body of a placeholder denotes the placeholder, if its constraint is an expression. -/
theorem placeholderOf_bodyOf {name : String} {constraint : Option String} {item : Item}
    (hw : (Item.placeholder name constraint).isWellFormed = true)
    (h : placeholderOf (bodyOf name constraint) = .ok item) :
    item = .placeholder name constraint ∧
      ∀ c, constraint = some c → (Regex.read? c.toList).isSome = true := by
  rw [placeholderOf_bodyOf_eq hw] at h
  cases constraint with
  | none => exact ⟨(Except.ok.inj h).symm, fun c hc => by cases hc⟩
  | some constraint =>
    simp only at h
    split at h
    · rename_i e he
      exact ⟨(Except.ok.inj h).symm, fun c hc => by cases hc; simp [he]⟩
    · cases h

/-! ## Reading what was written -/

theorem read_placeholder {name : String} {constraint : Option String} {st st' : ReadState}
    (hw : (Item.placeholder name constraint).isWellFormed = true) (hp : st.placeholder = none)
    (h : st.read (Item.placeholder name constraint).render = .ok st') :
    st' = st.after [.placeholder name constraint] := by
  rw [render_placeholder, List.cons_append] at h
  obtain ⟨st₁, h₁, h⟩ := ReadState.read_cons h
  simp only [ReadState.step_outside hp, ReadState.stepOutside, Except.map, Except.ok.injEq] at h₁
  subst h₁
  rw [ReadState.read_append, ReadState.read_inside _ _ 0 false [] (bracesBalance_bodyOf hw) rfl] at h
  obtain ⟨st₂, h₂, h⟩ := ReadState.read_cons h
  simp only [ReadState.read, Except.ok.injEq] at h
  subst h
  rw [ReadState.step_inside rfl] at h₂
  simp only [ReadState.stepInside, List.append_nil, List.reverse_reverse, Bool.false_eq_true,
    ↓reduceIte] at h₂
  cases ho : placeholderOf (bodyOf name constraint) with
  | error e => simp [ho, Except.bind, Except.map] at h₂
  | ok item =>
    obtain ⟨rfl, -⟩ := placeholderOf_bodyOf hw ho
    simp only [ho, Except.bind, ReadState.push] at h₂
    split at h₂
    · simp [Except.map] at h₂
    · simp only [Except.map, Except.ok.injEq] at h₂
      simp [← h₂, ReadState.after, render_placeholder, byteLength, byteLength_append, Item.names,
        hp, Nat.add_assoc, Nat.add_comm, Nat.add_left_comm]

mutual

theorem read_render : ∀ (item : Item) {st st' : ReadState}, item.isWellFormed = true →
    st.placeholder = none → st.read item.render = .ok st' → st' = st.after [item]
  | .literal c, st, st', hw, hp, h => by
    rw [Item.render] at h
    obtain ⟨st₁, h₁, h⟩ := ReadState.read_cons h
    simp only [ReadState.read, Except.ok.injEq] at h
    subst h
    simp only [Item.isWellFormed, delimiters, List.contains_cons, Bool.not_eq_true',
      Bool.or_eq_false_iff, beq_eq_false_iff_ne, ne_eq] at hw
    obtain ⟨h₂, h₃, h₄, h₅, -⟩ := hw
    have hs : st.stepOutside c = .ok { st with items := .literal c :: st.items } := by
      simp [ReadState.stepOutside, ReadState.push]
    simp only [ReadState.step_outside hp, hs, Except.map, Except.ok.injEq] at h₁
    simp [← h₁, ReadState.after, Item.render, byteLength, Item.names]
  | .placeholder name constraint, st, st', hw, hp, h => read_placeholder hw hp h
  | .optional items, st, st', hw, hp, h => by
    simp only [Item.isWellFormed, Bool.and_eq_true, Bool.not_eq_true', List.isEmpty_eq_false_iff] at hw
    rw [Item.render, List.cons_append] at h
    obtain ⟨st₁, h₁, h⟩ := ReadState.read_cons h
    simp only [ReadState.step_outside hp, ReadState.stepOutside, Except.map, Except.ok.injEq] at h₁
    subst h₁
    obtain ⟨st₂, h₂, h⟩ := ReadState.read_append_ok h
    have hst := read_renderAll items hw.2 (by exact hp) h₂
    subst hst
    obtain ⟨st₃, h₃, h⟩ := ReadState.read_cons h
    simp only [ReadState.read, Except.ok.injEq] at h
    subst h
    have hne : items.reverse.isEmpty = false := by simpa using hw.1
    rw [ReadState.step_outside (by exact hp)] at h₃
    simp only [ReadState.stepOutside, ReadState.after, List.append_nil, hne, Bool.false_eq_true,
      ↓reduceIte, List.reverse_reverse, Except.map, Except.ok.injEq] at h₃
    simp [← h₃, ReadState.after, Item.render, byteLength, byteLength_append, Item.names,
      Nat.add_assoc]

theorem read_renderAll : ∀ (items : List Item) {st st' : ReadState}, areWellFormed items = true →
    st.placeholder = none → st.read (renderAll items) = .ok st' → st' = st.after items
  | [], st, st', _, _, h => by
    simp only [renderAll_nil, ReadState.read, Except.ok.injEq] at h
    simp [← h, ReadState.after, byteLength]
  | item :: rest, st, st', hw, hp, h => by
    simp only [areWellFormed, Bool.and_eq_true] at hw
    rw [renderAll_cons] at h
    obtain ⟨st₁, h₁, h⟩ := ReadState.read_append_ok h
    have hst := read_render item hw.1 hp h₁
    subst hst
    rw [read_renderAll rest hw.2 (by exact hp) h, ReadState.after_append, List.singleton_append]

end

/-- The text of a well-formed tree denotes that tree, if it denotes any. -/
theorem readItems_renderAll {items items' : List Item} (hw : areWellFormed items = true)
    (h : readItems (renderAll items) = .ok items') : items' = items := by
  unfold readItems at h
  split at h
  · rename_i st hr
    rw [read_renderAll items hw rfl hr] at h
    simpa [ReadState.finish, ReadState.after] using h.symm
  · cases h

end UriRouter.Pattern
