import UriRouter.Regex.Reader

/-!
# Runs of the reader of regular expressions

* `ReaderState.Reaches` : the reader gets from one state and text to another in a number of turns;
* `Reaches.readFrom_eq` : a run that succeeds goes through every state the reader reaches;
* `read?_property` : a property is read to the set that the table has for its name.
-/

set_option autoImplicit false

namespace UriRouter.Regex

namespace ReaderState

variable [PropertyTable] {sh : Shorthands}

/-- One turn of the reader: blanks, and then one construct. -/
def advance (sh : Shorthands) (st : ReaderState) (s : List Char) :
    Option (ReaderState × List Char) :=
  match skipBlanks st.flags.verbose s with
  | [] => none
  | c :: rest => st.step sh c rest

/-- The reader gets from one state and text to another in a number of turns. -/
inductive Reaches (sh : Shorthands) :
    Nat → ReaderState → List Char → ReaderState → List Char → Prop where
  | refl (st : ReaderState) (s : List Char) : Reaches sh 0 st s st s
  | turn {n : Nat} {st st₁ st₂ : ReaderState} {s s₁ s₂ : List Char}
      (h : st.advance sh s = some (st₁, s₁)) (hr : Reaches sh n st₁ s₁ st₂ s₂) :
      Reaches sh (n + 1) st s st₂ s₂

theorem Reaches.trans {m n : Nat} {st st₁ st₂ : ReaderState} {s s₁ s₂ : List Char}
    (h₁ : Reaches sh m st s st₁ s₁) (h₂ : Reaches sh n st₁ s₁ st₂ s₂) :
    Reaches sh (m + n) st s st₂ s₂ := by
  induction h₁ with
  | refl => rwa [Nat.zero_add]
  | turn h _ ih =>
    rw [Nat.add_right_comm]
    exact .turn h (ih h₂)

theorem Reaches.one {st st₁ : ReaderState} {s s₁ : List Char}
    (h : st.advance sh s = some (st₁, s₁)) : Reaches sh 1 st s st₁ s₁ :=
  .turn h (.refl _ _)

theorem readFrom_succ_of_advance {n : Nat} {st st₁ : ReaderState} {s s₁ : List Char}
    (h : st.advance sh s = some (st₁, s₁)) : readFrom sh (n + 1) st s = readFrom sh n st₁ s₁ := by
  unfold advance at h
  conv => lhs; unfold readFrom
  cases hs : skipBlanks st.flags.verbose s with
  | nil => simp only [hs] at h; cases h
  | cons c rest =>
    simp only [hs] at h
    simp only [h]

/-- The reader, where it does not stop, takes one turn after the other. -/
theorem readFrom_cases {n : Nat} {st st' : ReaderState} {s : List Char}
    (h : readFrom sh n st s = some st') :
    (skipBlanks st.flags.verbose s = [] ∧ st' = st) ∨
      ∃ m st₁ s₁, n = m + 1 ∧ st.advance sh s = some (st₁, s₁) ∧ readFrom sh m st₁ s₁ = some st' := by
  unfold readFrom at h
  split at h
  · rename_i hs
    exact .inl ⟨hs, (Option.some.inj h).symm⟩
  · cases h
  · rename_i m c rest hs
    split at h
    · cases h
    · rename_i st₁ s₁ hstep
      exact .inr ⟨m, st₁, s₁, rfl, by simp only [advance, hs, hstep], h⟩

theorem readFrom_of_skipBlanks {n : Nat} {st : ReaderState} {s : List Char}
    (h : skipBlanks st.flags.verbose s = []) : readFrom sh n st s = some st := by
  unfold readFrom
  simp only [h]

theorem eq_of_readFrom_nil {n : Nat} {st st' : ReaderState}
    (h : readFrom sh n st [] = some st') : st' = st :=
  Option.some.inj (h.symm.trans (readFrom_of_skipBlanks (by cases st.flags.verbose <;> rfl)))

/-- More fuel than enough changes nothing. -/
theorem readFrom_add {n : Nat} (k : Nat) {st st' : ReaderState} {s : List Char}
    (h : readFrom sh n st s = some st') : readFrom sh (n + k) st s = some st' := by
  induction n generalizing st s with
  | zero =>
    rcases readFrom_cases h with ⟨hs, rfl⟩ | ⟨m, _, _, hm, _⟩
    · exact readFrom_of_skipBlanks hs
    · omega
  | succ n ih =>
    rcases readFrom_cases h with ⟨hs, rfl⟩ | ⟨m, st₁, s₁, hm, ha, hr⟩
    · exact readFrom_of_skipBlanks hs
    · obtain rfl : n = m := by omega
      rw [Nat.add_right_comm, readFrom_succ_of_advance ha]
      exact ih hr

theorem Reaches.readFrom_add_eq {n : Nat} (k : Nat) {st st₁ : ReaderState} {s s₁ : List Char}
    (h : Reaches sh n st s st₁ s₁) : readFrom sh (n + k) st s = readFrom sh k st₁ s₁ := by
  induction h with
  | refl => rw [Nat.zero_add]
  | turn ha _ ih => rw [Nat.add_right_comm, readFrom_succ_of_advance ha, ih]

/-- A run that succeeds goes through every state the reader reaches. -/
theorem Reaches.readFrom_eq {m n : Nat} {st st₁ st' : ReaderState} {s s₁ : List Char}
    (h : Reaches sh n st s st₁ s₁) (hr : readFrom sh m st s = some st') :
    readFrom sh m st₁ s₁ = some st' := by
  rw [← h.readFrom_add_eq m, Nat.add_comm]
  exact readFrom_add n hr

end ReaderState

/-! ## Properties -/

theorem readFiltered_run {wanted : Char → Bool} {run rest : List Char} {c : Char}
    (hrun : ∀ d ∈ run, wanted d = true) (hc : wanted c = false) :
    readFiltered false wanted false (run ++ c :: rest) = (run, c :: rest) := by
  induction run with
  | nil => simp [readFiltered, hc]
  | cons d run ih =>
    obtain ⟨hd, hrun⟩ := List.forall_mem_cons.1 hrun
    simp [readFiltered, hd, ih hrun]

/-- **A property by its name** is read to the set that the table has for the name, or to its
complement, and to nothing if the table does not have the name. -/
theorem read?_property [PropertyTable] {name : List Char}
    (hname : ∀ c ∈ name, isPropertyChar false c = true) (negated : Bool) :
    read? ('\\' :: (if negated then 'P' else 'p') :: '\x7b' :: (name ++ ['\x7d'])) =
      (PropertyTable.set? (String.ofList name)).map fun set =>
        .chars (.complementIf negated set) := by
  have hrun : readFiltered false (isPropertyChar false) false (name ++ ['\x7d']) =
      (name, ['\x7d']) := readFiltered_run hname rfl
  have hproperty : readProperty false false negated ('\x7b' :: (name ++ ['\x7d'])) =
      (propertyAtom? false negated name).map (·, []) := by
    simp [readProperty, skipBlanks, hrun]
  have hstep : ReaderState.step .unicode {} '\\'
      ((if negated then 'P' else 'p') :: '\x7b' :: (name ++ ['\x7d'])) =
      (PropertyTable.set? (String.ofList name)).map
        fun set => (ReaderState.push {} ⟨.chars (.complementIf negated set), 0, true⟩, []) := by
    cases negated <;>
      simp [ReaderState.step, readEscape, Shorthands.unicode, hproperty, propertyAtom?,
        ReaderState.pushAtom, CharSet.foldIf, Function.comp_def]
  rw [read?, readWith?, List.length_cons]
  unfold ReaderState.readFrom
  simp only [skipBlanks, Bool.false_eq_true, ↓reduceIte, hstep]
  cases PropertyTable.set? (String.ofList name) with
  | none => rfl
  | some set => rfl

/-- The capitals of the Greek alphabet, by a table that has no other property. -/
example :
    letI : PropertyTable := ⟨fun name => if name = "Greek" then some (.range 'Α' 'Ω') else none⟩
    read? "\\p\x7bGreek\x7d".toList = some (.chars (.range 'Α' 'Ω')) ∧
      read? "\\pL".toList = none := by
  decide +kernel

end UriRouter.Regex
