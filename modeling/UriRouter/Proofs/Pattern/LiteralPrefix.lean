import UriRouter.Proofs.Pattern.Continuation

/-!
# Literal text before a pattern

Literal text can be put before a pattern that does not begin with a section. The tree is that of
the pattern with the text before it, and if the constraints ask for nothing but runs of a class, then
the longer pattern compiles where the shorter one does and matches the same paths, with the text
before them.

* `readItems_literals_append` : the tree of literal text with a pattern after it;
* `exists_compile_literals_append` : whether the longer pattern compiles;
* `Shifts`, `shifts_of_compile` : what it matches.
-/

set_option autoImplicit false

namespace UriRouter.Pattern

open UriRouter.Regex

/-! ## Trees -/

theorem eq_literal_cons {items : List Item} {s : List Char} {c : Char} (hc : c ∉ delimiters)
    (hr : renderAll items = c :: s) : ∃ rest, items = .literal c :: rest := by
  cases items with
  | nil => cases hr
  | cons item rest =>
    rw [renderAll_cons] at hr
    cases item with
    | literal d =>
      obtain rfl : d = c := (List.cons.inj hr).1
      exact ⟨rest, rfl⟩
    | placeholder name constraint =>
      rw [render_placeholder] at hr
      exact absurd (by rw [← (List.cons.inj hr).1]; decide) hc
    | optional items =>
      rw [Item.render] at hr
      exact absurd (by rw [← (List.cons.inj hr).1]; decide) hc

theorem partsOf_literals_append (base : List Char) (index : Nat) (items : List Item) :
    partsOf index (literals base ++ items) =
      base.map (fun c => ⟨.chars (.single c), 0, true⟩) ++ partsOf index items := by
  induction base with
  | nil => rfl
  | cons c base ih =>
    rw [literals, List.map_cons, List.cons_append, partsOf, ← literals]
    exact congrArg _ ih

/-- The two ends of the expression of a pattern make a sequence of it, however short it is. -/
theorem depthOf_matcherParts (items : List Item) :
    Part.depthOf (matcherParts items) =
      1 + ((partsOf 0 items).map (·.depth)).foldl max 0 := by
  have hends : ∀ parts : List Part,
      Part.depthOf (⟨.assertion .textStart, 0, true⟩ :: parts ++ [⟨.assertion .textEnd, 0, true⟩]) =
        1 + (parts.map (·.depth)).foldl max 0 := by
    intro parts
    cases parts with
    | nil => rfl
    | cons p parts =>
      show 1 + List.foldl max 0 (List.map _ (_ :: (p :: parts ++ [_]))) = _
      simp
  exact hends _

theorem depthOf_matcherParts_literals_append (base : List Char) (items : List Item) :
    Part.depthOf (matcherParts (literals base ++ items)) = Part.depthOf (matcherParts items) := by
  have hzero : ((base.map fun c => (⟨.chars (.single c), 0, true⟩ : Part)).map (·.depth)).foldl max 0 =
      0 := by
    induction base with
    | nil => rfl
    | cons c base ih => exact ih
  rw [depthOf_matcherParts, depthOf_matcherParts, partsOf_literals_append, List.map_append,
    List.foldl_append, hzero]

/-- What is read with literal text before it is what is read without. -/
theorem directCaptures?_literals_append (base : String) (items : List Item) (path : String) :
    directCaptures? (literals base.toList ++ items) (base ++ path) = directCaptures? items path := by
  rw [directCaptures?, directCaptures?, String.toList_append, readingsOf_literals_append]

/-- Nothing is read unless the literal text comes first. -/
theorem exists_append_of_directCaptures? {base : String} {items : List Item} {path : String}
    {ps : Bindings} (h : directCaptures? (literals base.toList ++ items) path = some ps) :
    ∃ t, path = base ++ t := by
  obtain ⟨y, hy, -⟩ := Option.map_eq_some_iff.1 h
  obtain ⟨t, ht, -⟩ := mem_readingsOf_literals_append.1 (List.mem_of_find?_eq_some hy)
  exact ⟨String.ofList t, String.toList_inj.1 (by rw [ht, String.toList_append, String.toList_ofList])⟩

variable [PropertyTable]

/-- The tree of literal text with a pattern after it is that of the pattern, with the text before
it. -/
theorem isTreeOf_literals_append {base s : List Char} (hbase : ∀ c ∈ base, c ∉ delimiters)
    {items' : List Item} :
    IsTreeOf items' (base ++ s) ↔ ∃ items, IsTreeOf items s ∧ items' = literals base ++ items := by
  induction base generalizing items' with
  | nil => simp [literals]
  | cons c base ih =>
    obtain ⟨hc, hbase⟩ := List.forall_mem_cons.1 hbase
    have hcons : ∀ rest, IsTreeOf (.literal c :: rest) (c :: (base ++ s)) ↔
        IsTreeOf rest (base ++ s) := by
      intro rest
      constructor
      · rintro ⟨hr, hw, hn, hcs⟩
        rw [areWellFormed, Bool.and_eq_true] at hw
        exact ⟨(List.cons.inj hr).2, hw.2, hn, hcs⟩
      · rintro ⟨hr, hw, hn, hcs⟩
        refine ⟨congrArg (c :: ·) hr, ?_, hn, hcs⟩
        rw [areWellFormed, hw, Item.isWellFormed]
        simpa using hc
    constructor
    · intro h
      obtain ⟨rest, rfl⟩ := eq_literal_cons hc h.render
      obtain ⟨items, hitems, rfl⟩ := (ih hbase).1 ((hcons rest).1 h)
      exact ⟨items, hitems, rfl⟩
    · rintro ⟨items, hitems, rfl⟩
      exact (hcons _).2 ((ih hbase).2 ⟨items, hitems, rfl⟩)

theorem readItems_eq_ok {s : List Char} {items : List Item} :
    readItems s = .ok items ↔ IsTreeOf items s :=
  ⟨isTreeOf_of_readItems, readItems_of_isTreeOf⟩

theorem readItems_literals_append {base s : List Char} (hbase : ∀ c ∈ base, c ∉ delimiters)
    {items' : List Item} :
    readItems (base ++ s) = .ok items' ↔
      ∃ items, readItems s = .ok items ∧ items' = literals base ++ items := by
  simp only [readItems_eq_ok, isTreeOf_literals_append hbase]

/-! ## What is matched -/

/-- Whether the constraints of a pattern, if it has a tree, all ask for runs of a class. -/
def asksForRuns (raw : String) : Bool :=
  match readItems (Path.normalizePattern raw).toList with
  | .ok items => (constraintsOf items).all runConstraints.contains
  | .error _ => true

theorem mem_runConstraints_of_asksForRuns {raw : String} (h : asksForRuns raw = true)
    {items : List Item} (hread : readItems (Path.normalizePattern raw).toList = .ok items) :
    ∀ c ∈ constraintsOf items, c ∈ runConstraints := by
  rw [asksForRuns, hread] at h
  exact fun c hc => List.contains_iff_mem.1 (List.all_eq_true.1 h c hc)

/-- A pattern that matches what another one does, with literal text before it. -/
structure Shifts (base : String) (p p' : Pattern) : Prop where
  isFixed : p'.isFixed = p.isFixed
  captures : ∀ path, p'.captures? (base ++ path) = p.captures? path
  /-- It matches nothing else. All that it matches goes on with `/` after the text. -/
  confined : ∀ path ps, p'.captures? path = some ps → ∃ t, path = base ++ "/" ++ t

section Shifted

variable {base raw raw' : String}

theorem isSome_read?_literals_append {items : List Item}
    (hc : ∀ c ∈ constraintsOf items, c ∈ runConstraints) (base : List Char) :
    (read? (matcherText (literals base ++ items))).isSome = (read? (matcherText items)).isSome := by
  have hc' : ∀ c ∈ constraintsOf (literals base ++ items), c ∈ runConstraints := by
    rwa [constraintsOf_literals_append]
  rw [read?_matcherText hc, read?_matcherText hc', depthOf_matcherParts_literals_append]
  split <;> rfl

/-- Literal text before a pattern makes no difference to whether it compiles. -/
theorem exists_compile_literals_append (hbase : ∀ c ∈ base.toList, c ∉ delimiters)
    (hs : Path.normalizePattern raw' = base ++ Path.normalizePattern raw)
    (hruns : asksForRuns raw = true) :
    (∃ p, compile raw' = .ok p) ↔ ∃ p, compile raw = .ok p := by
  have hsome : ∀ items, readItems (Path.normalizePattern raw).toList = .ok items →
      (read? (matcherText (literals base.toList ++ items))).isSome =
        (read? (matcherText items)).isSome :=
    fun items hread =>
      isSome_read?_literals_append (mem_runConstraints_of_asksForRuns hruns hread) _
  rw [exists_compile_iff, exists_compile_iff, hs, String.toList_append]
  simp only [readItems_literals_append hbase]
  constructor
  · rintro ⟨_, ⟨items, hread, rfl⟩, h⟩
    exact ⟨items, hread, (hsome items hread).symm.trans h⟩
  · rintro ⟨items, hread, h⟩
    exact ⟨_, ⟨items, hread, rfl⟩, (hsome items hread).trans h⟩

/-- **Literal text before a pattern** shifts what it matches, if the pattern does not begin with a
section. -/
theorem shifts_of_compile (hbase : ∀ c ∈ base.toList, c ∉ delimiters)
    (hs : Path.normalizePattern raw' = base ++ Path.normalizePattern raw)
    (hhead : raw.toList.head? ≠ some '[') (hruns : asksForRuns raw = true) {p p' : Pattern}
    (h : compile raw = .ok p) (h' : compile raw' = .ok p') : Shifts base p p' := by
  obtain ⟨items, hread, -, -⟩ := compile_eq_ok h
  have hread' : readItems (Path.normalizePattern raw').toList = .ok (literals base.toList ++ items) := by
    rw [hs, String.toList_append]
    exact (readItems_literals_append hbase).2 ⟨items, hread, rfl⟩
  have hc := mem_runConstraints_of_asksForRuns hruns hread
  have hdirect : ∀ path, p.captures? path = directCaptures? items path :=
    captures?_of_kind (compile_of_runs
      (by rw [(isTreeOf_of_readItems hread).render, String.ofList_toList])
      (isTreeOf_of_readItems hread).wellFormed hc h)
  have hdirect' : ∀ path, p'.captures? path = directCaptures? (literals base.toList ++ items) path :=
    captures?_of_kind (compile_of_runs
      (by rw [(isTreeOf_of_readItems hread').render, String.ofList_toList])
      (isTreeOf_of_readItems hread').wellFormed (by rwa [constraintsOf_literals_append]) h')
  refine ⟨?_, fun path => ?_, fun path ps hps => ?_⟩
  · rw [isFixed_eq_all hread h, isFixed_eq_all hread' h', List.all_append]
    simp [literals, Item.isLiteral]
  · rw [hdirect, hdirect', directCaptures?_literals_append]
  · -- the pattern begins with a `/` of its own, which goes to the literal text
    obtain ⟨rest, hslash⟩ := Path.toList_normalize raw
    have hrender := (isTreeOf_of_readItems hread).render
    rw [Path.normalizePattern_of_head? hhead, hslash] at hrender
    obtain ⟨items, rfl⟩ := eq_literal_cons (by decide) hrender
    have hitems : literals base.toList ++ .literal '/' :: items =
        literals (base ++ "/").toList ++ items := by
      rw [String.toList_append]
      simp [literals]
    rw [hdirect', hitems] at hps
    exact exists_append_of_directCaptures? hps

end Shifted

end UriRouter.Pattern
