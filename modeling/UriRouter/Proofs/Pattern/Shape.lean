import UriRouter.Proofs.Pattern.EscapePairs
import UriRouter.Proofs.Pattern.Parts
import UriRouter.Proofs.Regex.SplicedReader

/-!
# The shape of a pattern's expression

Whatever the constraints of a pattern are, its expression has the shape of its tree, if each
constraint keeps to its parentheses: a literal is a set of one character, a placeholder is a group
under its own name, and a section is a repetition of at most one copy.

* `Fits`, `FitsAll` : an expression that has the shape of a part;
* `fits_of_ends`, `fitsAll_of_ends` : what the reader makes of the text of a part;
* `shape_of_read?` : the shape of a whole expression.
-/

set_option autoImplicit false

namespace UriRouter.Pattern

open UriRouter.Regex UriRouter.Text

mutual

/-- An expression has the shape of a part whose placeholders are numbered from an index on. -/
inductive Fits : Nat → Item → Expr → Prop
  | literal (index : Nat) (c : Char) : Fits index (.literal c) (.chars (.single c))
  | placeholder (index : Nat) (name : String) (constraint : Option String) (e : Expr) :
      Fits index (.placeholder name constraint) (.group (some (groupName index)) e)
  | optional {index : Nat} {items : List Item} {es : List Expr} (h : FitsAll index items es) :
      Fits index (.optional items) (.repetition 0 (some 1) true (.ofMembers es))

/-- Expressions have the shapes of parts, one by one. -/
inductive FitsAll : Nat → List Item → List Expr → Prop
  | nil (index : Nat) : FitsAll index [] []
  | cons {index : Nat} {item : Item} {rest : List Item} {e : Expr} {es : List Expr}
      (he : Fits index item e) (hes : FitsAll (index + item.names.length) rest es) :
      FitsAll index (item :: rest) (e :: es)

end

theorem standsAlone_of_fits {index : Nat} {item : Item} {e : Expr} (h : Fits index item e) :
    StandsAlone e := by
  cases h <;> exact ⟨rfl, rfl⟩

theorem standsAlone_of_fitsAll {items : List Item} {index : Nat} {es : List Expr}
    (h : FitsAll index items es) : ∀ e ∈ es, StandsAlone e := by
  induction items generalizing index es with
  | nil =>
    cases h
    simp
  | cons item rest ih =>
    cases h with
    | cons he hes =>
      intro e hm
      rcases List.mem_cons.1 hm with rfl | hm
      · exact standsAlone_of_fits he
      · exact ih hes e hm

/-! ## Parts that have been read -/

/-- One state follows another after parts were read: the sequence is longer, and all else but the
names is as it was. -/
structure Adds (st : ReaderState) (es : List Expr) (st₁ : ReaderState) : Prop where
  flags : st₁.flags = st.flags
  branches : st₁.branches = st.branches
  outer : st₁.outer = st.outer
  items : st₁.items.map (·.expr) = es.reverse ++ st.items.map (·.expr)

theorem Adds.trans {st st₁ st₂ : ReaderState} {es es' : List Expr} (h₁ : Adds st es st₁)
    (h₂ : Adds st₁ es' st₂) : Adds st (es ++ es') st₂ where
  flags := h₂.flags.trans h₁.flags
  branches := h₂.branches.trans h₁.branches
  outer := h₂.outer.trans h₁.outer
  items := by rw [h₂.items, h₁.items, List.reverse_append, List.append_assoc]

theorem head?_append_ne {s t : List Char} {c : Char} (hs : s.head? ≠ some c)
    (ht : t.head? ≠ some c) : (s ++ t).head? ≠ some c := by
  cases s with
  | nil => exact ht
  | cons d s => exact hs

/-! ## Reading single constructs -/

variable [PropertyTable]

/-- Reading a text that begins with a group for a name goes on inside the group. -/
theorem ends_openNamed {st final : ReaderState} (hf : st.flags = {}) {index : Nat}
    {tail : List Char}
    (h : ReaderState.Ends st ("(?P<".toList ++ (groupName index).toList ++ '>' :: tail) final) :
    ReaderState.Ends { st.openGroup (.noting (some (groupName index))) {} with
      names := groupName index :: st.names } tail final := by
  obtain ⟨st₁, s₁, ha, he⟩ := h.turn (by simp [hf])
  rw [advance_openNamed hf] at ha
  split at ha
  · cases ha
  · cases ha
    exact he

/-! ## Reading parts -/

/-- A constraint that is an expression and does not end inside a comment. -/
structure IsContained (constraint : String) : Prop where
  readable : (read? constraint.toList).isSome = true
  ended : ReaderState.endsInComment constraint.toList = false

/-- The text of a placeholder's constraint is that of an expression that is contained. -/
theorem exists_spliced (constraint : Option String) (tail : List Char)
    (h : ∀ c, constraint = some c → IsContained c) :
    ∃ s e, read? s = some e ∧ ReaderState.endsInComment s = false ∧
      Spliced .any tail s (constraintText constraint ++ ')' :: tail) := by
  cases constraint with
  | none =>
    obtain ⟨e, he⟩ : ∃ e, read? defaultConstraint.toList = some e :=
      Option.isSome_iff_exists.1 rfl
    exact ⟨_, e, he, rfl, spliced_self _ _⟩
  | some c =>
    obtain ⟨e, he⟩ := Option.isSome_iff_exists.1 (h c rfl).readable
    rw [constraintText_some]
    exact ⟨_, e, he, (h c rfl).ended, spliced_asciiShorthands _ _ _⟩

theorem ends_placeholder {st final : ReaderState} (hf : st.flags = {}) {index : Nat}
    {constraint : Option String} {tail : List Char}
    (hc : ∀ c, constraint = some c → IsContained c)
    (h : ReaderState.Ends st ("(?P<".toList ++ (groupName index).toList ++
      '>' :: (constraintText constraint ++ ')' :: tail)) final) :
    ∃ st₁ e, ReaderState.Ends st₁ tail final ∧
      Adds st [.group (some (groupName index)) e] st₁ := by
  obtain ⟨s, e, hs, hp, hsp⟩ := exists_spliced constraint tail hc
  obtain ⟨st₁, he, hout⟩ := ReaderState.Ends.of_spliced hs hp hsp rfl rfl (ends_openNamed hf h)
  obtain ⟨st₂, hclose, he⟩ := he.closeGroup
  rw [ReaderState.closeGroup?, hout] at hclose
  cases hclose
  exact ⟨_, st₁.content.expr, he, ⟨rfl, rfl, rfl, rfl⟩⟩

theorem ends_closeSection {st st₁ final : ReaderState} (hf : st.flags = {}) {es : List Expr}
    {tail : List Char} (htail : tail.head? ≠ some '?') (hes : ∀ e ∈ es, StandsAlone e)
    (hadds : Adds (st.openGroup .plain {}) es st₁)
    (h : ReaderState.Ends st₁ (')' :: '?' :: tail) final) :
    ∃ st₂, ReaderState.Ends st₂ tail final ∧
      Adds st [.repetition 0 (some 1) true (.ofMembers es)] st₂ := by
  have hitems : st₁.items.reverse.map (·.expr) = es := by
    rw [List.map_reverse, hadds.items]
    simp [ReaderState.openGroup]
  have hcontent := content_of_standsAlone hadds.branches (by rwa [hitems])
  rw [hitems] at hcontent
  obtain ⟨st₂, hclose, he⟩ := h.closeGroup
  rw [ReaderState.closeGroup?, hadds.outer, hcontent] at hclose
  cases hclose
  have hsection := advance_section { st with names := st₁.names } hf (.ofMembers es)
    (1 + Part.depthOf st₁.items.reverse) htail
  exact ⟨_, he.of_reaches (.one hsection), ⟨rfl, rfl, rfl, rfl⟩⟩

mutual

/-- What the reader makes of the text of a part has the shape of the part. -/
theorem fits_of_ends : ∀ (item : Item) {st final : ReaderState} {index : Nat} {tail : List Char},
    (∀ c ∈ item.constraints, IsContained c) → st.flags = {} → tail.head? ≠ some '?' →
    ReaderState.Ends st (item.regexText index ++ tail) final →
    ∃ st₁ e, ReaderState.Ends st₁ tail final ∧ Adds st [e] st₁ ∧ Fits index item e
  | .literal c, st, final, index, tail, _, hf, htail, h => by
    obtain ⟨n, -, hr⟩ := reads_escapeChar hf c tail htail
    exact ⟨_, _, h.of_reaches hr, ⟨rfl, rfl, rfl, rfl⟩, .literal index c⟩
  | .placeholder name constraint, st, final, index, tail, hc, hf, _, h => by
    have hcs : ∀ c, constraint = some c → IsContained c := by
      rintro c rfl
      exact hc c (by simp [Item.constraints])
    obtain ⟨st₁, e, he, hadds⟩ := ends_placeholder hf hcs (by simpa [regexText_placeholder] using h)
    exact ⟨st₁, _, he, hadds, .placeholder index name constraint e⟩
  | .optional items, st, final, index, tail, hc, hf, htail, h => by
    have htext : (Item.optional items).regexText index ++ tail =
        "(?:".toList ++ (regexTextOf index items ++ ')' :: '?' :: tail) := by
      simp [regexText_optional]
    rw [htext] at h
    obtain ⟨n, -, hopen⟩ := reads_openPlain hf (regexTextOf index items ++ ')' :: '?' :: tail)
      (head?_append_ne (head?_regexTextOf _ _) (by simp))
    obtain ⟨st₁, es, he, hadds, hfits⟩ := fitsAll_of_ends items hc rfl (by simp) (h.of_reaches hopen)
    obtain ⟨st₂, he₂, hadds₂⟩ :=
      ends_closeSection hf htail (standsAlone_of_fitsAll hfits) hadds he
    exact ⟨st₂, _, he₂, hadds₂, .optional hfits⟩

/-- What the reader makes of the text of parts has their shapes. -/
theorem fitsAll_of_ends : ∀ (items : List Item) {st final : ReaderState} {index : Nat}
    {tail : List Char}, (∀ c ∈ constraintsOf items, IsContained c) → st.flags = {} →
    tail.head? ≠ some '?' → ReaderState.Ends st (regexTextOf index items ++ tail) final →
    ∃ st₁ es, ReaderState.Ends st₁ tail final ∧ Adds st es st₁ ∧ FitsAll index items es
  | [], st, final, index, tail, _, _, _, h =>
    ⟨st, [], h, ⟨rfl, rfl, rfl, rfl⟩, .nil index⟩
  | item :: rest, st, final, index, tail, hc, hf, htail, h => by
    simp only [constraintsOf, List.mem_append] at hc
    rw [regexTextOf, List.append_assoc] at h
    obtain ⟨st₁, e, he, hadds, hfits⟩ := fits_of_ends item (fun c h => hc c (.inl h)) hf
      (head?_append_ne (head?_regexTextOf _ _) htail) h
    obtain ⟨st₂, es, he', hadds', hfits'⟩ := fitsAll_of_ends rest (fun c h => hc c (.inr h))
      (hadds.flags.trans hf) htail he
    exact ⟨st₂, e :: es, he', hadds.trans hadds', .cons hfits hfits'⟩

end

/-! ## Whole patterns -/

/-- **The expression of a pattern has the shape of its tree**, between the start and the end of the
text, if all constraints are contained. -/
theorem shape_of_read? {items : List Item} {e : Expr} (hc : ∀ c ∈ constraintsOf items, IsContained c)
    (h : read? (matcherText items) = some e) :
    ∃ es, FitsAll 0 items es ∧
      e = .ofMembers (.assertion .textStart :: es ++ [.assertion .textEnd]) := by
  obtain ⟨final, hr, -, rfl⟩ := ReaderState.readFrom_of_read? h
  have hends : ReaderState.Ends {} ('^' :: regexTextOf 0 items ++ ['$']) final := ⟨_, hr⟩
  have hstart : ReaderState.advance .unicode {} ('^' :: (regexTextOf 0 items ++ ['$'])) =
      some (ReaderState.push {} ⟨.assertion .textStart, 0, true⟩, regexTextOf 0 items ++ ['$']) := rfl
  obtain ⟨st₁, es, he, hadds, hfits⟩ :=
    fitsAll_of_ends items hc rfl (by simp) (hends.of_reaches (.one hstart))
  have hend : ReaderState.advance .unicode st₁ ['$'] =
      some (st₁.push ⟨.assertion .textEnd, 0, true⟩, []) := by
    simp [ReaderState.advance, hadds.flags, ReaderState.push, ReaderState.step,
      ReaderState.pushAtom, Flags.endAssertion]
  obtain rfl := (he.of_reaches (.one hend)).of_nil
  have hitems : (st₁.push ⟨.assertion .textEnd, 0, true⟩).items.reverse.map (·.expr) =
      .assertion .textStart :: es ++ [.assertion .textEnd] := by
    rw [List.map_reverse, ReaderState.push, List.map_cons, hadds.items]
    simp [ReaderState.push]
  have halone : ∀ e ∈ (st₁.push ⟨.assertion .textEnd, 0, true⟩).items.reverse.map (·.expr),
      StandsAlone e := by
    rw [hitems]
    intro e hm
    simp only [List.mem_append, List.mem_cons, List.not_mem_nil, or_false] at hm
    rcases hm with (rfl | hm) | rfl
    · exact ⟨rfl, rfl⟩
    · exact standsAlone_of_fitsAll hfits e hm
    · exact ⟨rfl, rfl⟩
  have hbranches : (st₁.push ⟨.assertion .textEnd, 0, true⟩).branches = [] := hadds.branches
  refine ⟨es, hfits, ?_⟩
  rw [content_of_standsAlone hbranches halone, hitems]

end UriRouter.Pattern
