import UriRouter.Proofs.Pattern.Continuation

/-!
# Patterns as translations of trees

A pattern is compiled to the translation of its tree, which goes along with the tree: each run of
characters is escaped, each placeholder becomes a group with the next number, and each section
holds the translation of what is in it.

* `Segment` : a tree whose literal text comes in runs;
* `Segment.render`, `Segment.names`, `Segment.translate` : its text, its names and its translation;
* `Denotes` : the parts of a pattern that belong to such a tree;
* `compile_renderSegments` : what the text of a tree is compiled to.
-/

set_option autoImplicit false

namespace UriRouter.Pattern

open UriRouter.Text

/-! ## Trees -/

/-- One part of a tree. -/
inductive Segment where
  /-- Characters that stand for themselves. -/
  | run (text : String)
  /-- A placeholder with its constraint, if it has one. -/
  | placeholder (name : String) (constraint : Option String)
  /-- A section that may be left out. -/
  | group (segments : List Segment)

/-- Whether a segment is a run of characters. -/
def Segment.isRun : Segment → Bool
  | .run _ => true
  | _ => false

mutual

/-- The text of a segment. -/
def Segment.render : Segment → List Char
  | .run text => text.toList
  | .placeholder name constraint => '\x7b' :: bodyOf name constraint ++ ['\x7d']
  | .group segments => '[' :: renderSegments segments ++ [']']

/-- The text of a sequence of segments. -/
def renderSegments : List Segment → List Char
  | [] => []
  | segment :: rest => segment.render ++ renderSegments rest

end

mutual

/-- The names of the placeholders in a segment. -/
def Segment.names : Segment → List String
  | .run _ => []
  | .placeholder name _ => [name]
  | .group segments => namesIn segments

/-- The names of the placeholders in a sequence of segments, from left to right. -/
def namesIn : List Segment → List String
  | [] => []
  | segment :: rest => segment.names ++ namesIn rest

end

mutual

/-- The expression for a segment whose placeholders are numbered from `index` on, and the number
that comes after theirs. -/
def Segment.translate (index : Nat) : Segment → List Char × Nat
  | .run text => (Regex.escape text.toList, index)
  | .placeholder _ constraint =>
    ("(?P<__sy".toList ++ (toString index).toList ++ ">".toList ++ constraintText constraint ++
      ")".toList, index + 1)
  | .group segments =>
    let inner := translateAll index segments
    ("(?:".toList ++ inner.1 ++ ")?".toList, inner.2)

/-- The expression for a sequence of segments, and the number after those of its placeholders. -/
def translateAll (index : Nat) : List Segment → List Char × Nat
  | [] => ([], index)
  | segment :: rest =>
    let first := segment.translate index
    let others := translateAll first.2 rest
    (first.1 ++ others.1, others.2)

end

theorem translate_run (index : Nat) (text : String) :
    (Segment.run text).translate index = (Regex.escape text.toList, index) := rfl

theorem translate_placeholder (index : Nat) (name : String) (constraint : Option String) :
    (Segment.placeholder name constraint).translate index =
      ("(?P<__sy".toList ++ (toString index).toList ++ ">".toList ++ constraintText constraint ++
        ")".toList, index + 1) := rfl

mutual

/-- A segment as parts of a pattern. -/
def Segment.items : Segment → List Item
  | .run text => literals text.toList
  | .placeholder name constraint => [.placeholder name constraint]
  | .group segments => [.optional (itemsOf segments)]

/-- A sequence of segments as parts of a pattern. -/
def itemsOf : List Segment → List Item
  | [] => []
  | segment :: rest => segment.items ++ itemsOf rest

end

/-- Literal text is escaped character by character. -/
theorem regexTextOf_literals_eq_escape (index : Nat) (s : List Char) :
    regexTextOf index (literals s) = Regex.escape s := by
  induction s with
  | nil => rfl
  | cons c s ih => exact congrArg (Regex.escapeChar c ++ ·) ih

/-- The parts are literal characters exactly if the segments are runs. -/
theorem all_isLiteral_itemsOf (segments : List Segment) :
    (itemsOf segments).all (·.isLiteral) = segments.all (·.isRun) := by
  induction segments with
  | nil => rfl
  | cons segment rest ih =>
    rw [itemsOf, List.all_append, List.all_cons, ih]
    cases segment with
    | run text =>
      have hall : (literals text.toList).all (·.isLiteral) = true :=
        List.all_eq_true.2 <| List.forall_mem_map.2 fun _ _ => rfl
      rw [Segment.items, hall]
      rfl
    | placeholder name constraint => rfl
    | group segments => rfl

/-- A text that begins with `/` or with a section is in normal form. -/
theorem normalizePattern_of_begins {s : List Char}
    (h : s.head? = some '/' ∨ s.head? = some '[') :
    Path.normalizePattern (String.ofList s) = String.ofList s := by
  cases s with
  | nil => rcases h with h | h <;> cases h
  | cons c s =>
    refine String.toList_inj.1 ?_
    rw [toList_normalizePattern String.toList_ofList, String.toList_ofList]
    refine if_pos ?_
    rcases h with h | h
    · exact .inr (Option.some.inj h)
    · exact .inl (Option.some.inj h)

/-! ## Proper trees -/

section

variable [Regex.PropertyTable]

mutual

/-- Whether a run holds literal text only, a placeholder has a valid name and a constraint, if it
has one, that is an expression in which braces balance, and a section is not empty. No constraint
may be empty. -/
def Segment.isProper : Segment → Bool
  | .run text => text != "" && text.toList.all fun c => !delimiters.contains c
  | .placeholder name constraint =>
    isValidName name.toList &&
      constraint.all fun c => isConstraintText c.toList && (Regex.read? c.toList).isSome
  | .group segments => !segments.isEmpty && areProper segments

/-- Whether this is so of all segments of a sequence. -/
def areProper : List Segment → Bool
  | [] => true
  | segment :: rest => segment.isProper && areProper rest

end

/-- A tree that patterns are written from. -/
structure IsPatternTree (segments : List Segment) : Prop where
  proper : areProper segments = true
  distinct : (namesIn segments).Nodup
  begins : (renderSegments segments).head? = some '/' ∨ (renderSegments segments).head? = some '['

/-! ## The parts of a pattern that belong to a tree -/

/-- Well-formed parts of a pattern that have a text, names and, for each number that they begin
with, an expression. -/
structure Denotes (items : List Item) (s : List Char) (ns : List String)
    (f : Nat → List Char × Nat) : Prop where
  text : renderAll items = s
  names : namesOf items = ns
  wellFormed : areWellFormed items = true
  constraints : ∀ c ∈ constraintsOf items, (Regex.read? c.toList).isSome = true
  expression : ∀ index, f index = (regexTextOf index items, index + ns.length)

/-- All of this goes along with putting sequences in a row. -/
theorem Denotes.append {xs ys : List Item} {s t : List Char} {ns ms : List String}
    {f g : Nat → List Char × Nat} (hx : Denotes xs s ns f) (hy : Denotes ys t ms g) :
    Denotes (xs ++ ys) (s ++ t) (ns ++ ms)
      fun index => ((f index).1 ++ (g (f index).2).1, (g (f index).2).2) where
  text := by rw [renderAll_append, hx.text, hy.text]
  names := by rw [namesOf_append, hx.names, hy.names]
  wellFormed := by
    rw [areWellFormed_append, hx.wellFormed, hy.wellFormed]
    rfl
  constraints := by
    rw [constraintsOf_append]
    exact List.forall_mem_append.2 ⟨hx.constraints, hy.constraints⟩
  expression index := by
    rw [hx.expression, hy.expression, regexTextOf_append, hx.names, List.length_append,
      Nat.add_assoc]

theorem denotes_run {text : String} (h : (Segment.run text).isProper = true) :
    Denotes (literals text.toList) text.toList [] ((Segment.run text).translate ·) where
  text := renderAll_literals _
  names := namesOf_literals _
  wellFormed := by
    rw [Segment.isProper, Bool.and_eq_true, List.all_eq_true] at h
    exact areWellFormed_literals.2 fun c hc => by simpa using h.2 c hc
  constraints := by
    rw [constraintsOf_literals]
    exact List.forall_mem_nil _
  expression index := by
    rw [translate_run, regexTextOf_literals_eq_escape, List.length_nil, Nat.add_zero]

theorem denotes_placeholder {name : String} {constraint : Option String}
    (h : (Segment.placeholder name constraint).isProper = true) :
    Denotes [.placeholder name constraint] (Segment.placeholder name constraint).render [name]
      ((Segment.placeholder name constraint).translate ·) where
  text := by
    rw [renderAll_cons, renderAll_nil, List.append_nil, render_placeholder, Segment.render]
  names := rfl
  wellFormed := by
    rw [Segment.isProper, Bool.and_eq_true] at h
    rw [areWellFormed, areWellFormed, Item.isWellFormed, h.1]
    cases constraint with
    | none => rfl
    | some c =>
      rw [Option.all_some, Bool.and_eq_true] at h
      rw [Option.all_some, h.2.1]
      rfl
  constraints c hc := by
    rw [Segment.isProper, Bool.and_eq_true] at h
    cases constraint with
    | none => cases hc
    | some d =>
      obtain rfl : c = d := List.mem_singleton.1 hc
      rw [Option.all_some, Bool.and_eq_true] at h
      exact h.2.2
  expression index := by
    rw [translate_placeholder, regexTextOf, regexTextOf, List.append_nil, Item.regexText, groupName]
    simp

theorem Denotes.group {items : List Item} {s : List Char} {ns : List String}
    {f : Nat → List Char × Nat} (h : Denotes items s ns f) (hne : items ≠ []) :
    Denotes [.optional items] ('[' :: s ++ [']']) ns
      fun index => ("(?:".toList ++ (f index).1 ++ ")?".toList, (f index).2) where
  text := by rw [renderAll_cons, renderAll_nil, List.append_nil, Item.render, h.text]
  names := by rw [namesOf_cons, namesOf_nil, List.append_nil, Item.names, h.names]
  wellFormed := by
    rw [areWellFormed, areWellFormed, Item.isWellFormed, h.wellFormed,
      List.isEmpty_eq_false_iff.2 hne]
    rfl
  constraints := by
    rw [constraintsOf, constraintsOf, List.append_nil, Item.constraints]
    exact h.constraints
  expression index := by
    rw [h.expression, regexTextOf, regexTextOf, List.append_nil, Item.regexText]

/-- A proper segment is not without parts. -/
theorem Segment.items_ne_nil {segment : Segment} (h : segment.isProper = true) :
    segment.items ≠ [] := by
  cases segment with
  | run text =>
    rw [Segment.isProper, Bool.and_eq_true, bne_iff_ne] at h
    rw [Segment.items]
    exact fun hnil => h.1 (String.toList_eq_nil_iff.1 (List.map_eq_nil_iff.1 hnil))
  | placeholder name constraint => exact List.cons_ne_nil _ _
  | group segments => exact List.cons_ne_nil _ _

theorem itemsOf_ne_nil {segments : List Segment} (h : areProper segments = true)
    (hne : segments ≠ []) : itemsOf segments ≠ [] := by
  cases segments with
  | nil => exact absurd rfl hne
  | cons segment rest =>
    rw [areProper, Bool.and_eq_true] at h
    rw [itemsOf]
    exact List.append_ne_nil_of_left_ne_nil (Segment.items_ne_nil h.1) _

mutual

theorem denotes_items : ∀ segment : Segment, segment.isProper = true →
    Denotes segment.items segment.render segment.names (segment.translate ·)
  | .run _, h => denotes_run h
  | .placeholder _ _, h => denotes_placeholder h
  | .group segments, h => by
    rw [Segment.isProper, Bool.and_eq_true, Bool.not_eq_true', List.isEmpty_eq_false_iff] at h
    exact (denotes_itemsOf segments h.2).group (itemsOf_ne_nil h.2 h.1)

/-- A proper tree has the text, the names and the translation of its parts. -/
theorem denotes_itemsOf : ∀ segments : List Segment, areProper segments = true →
    Denotes (itemsOf segments) (renderSegments segments) (namesIn segments)
      (translateAll · segments)
  | [], _ => ⟨rfl, rfl, rfl, List.forall_mem_nil _, fun _ => rfl⟩
  | segment :: rest, h => by
    rw [areProper, Bool.and_eq_true] at h
    exact (denotes_items segment h.1).append (denotes_itemsOf rest h.2)

end

/-! ## Compiling -/

/-- **A pattern is compiled to the translation of its tree.** If the tree consists of runs, the
pattern is fixed and stands for its text. Otherwise it is matched by the expression from the
beginning of the path to its end that the tree translates to, its parameters being the names of
the placeholders from left to right; it fails to compile only where that is no expression. -/
theorem compile_renderSegments {segments : List Segment} (h : IsPatternTree segments) :
    compile (String.ofList (renderSegments segments)) =
      if segments.all (·.isRun) then
        .ok ⟨String.ofList (renderSegments segments),
          .fixed (String.ofList (renderSegments segments)), namesIn segments⟩
      else
        match Regex.read? ("^".toList ++ (translateAll 0 segments).1 ++ "$".toList) with
        | none => .error ⟨String.ofList (renderSegments segments), .invalidRegex⟩
        | some e =>
          .ok ⟨String.ofList (renderSegments segments),
            .matched ⟨String.ofList ("^".toList ++ (translateAll 0 segments).1 ++ "$".toList), e⟩,
            namesIn segments⟩ := by
  have hd := denotes_itemsOf segments h.proper
  have hnames : (namesOf (itemsOf segments)).Nodup := hd.names ▸ h.distinct
  have hread : readItems (renderSegments segments) = .ok (itemsOf segments) := by
    rcases readItems_renderAll_cases hd.wellFormed hnames with hok | ⟨_, c, hc, hnone, -⟩
    · rw [← hd.text]
      exact hok
    · have hsome := hd.constraints c hc
      rw [hnone] at hsome
      cases hsome
  have htext : matcherText (itemsOf segments) =
      "^".toList ++ (translateAll 0 segments).1 ++ "$".toList := by
    rw [hd.expression 0]
    rfl
  rw [compile, normalizePattern_of_begins h.begins, String.toList_ofList]
  simp only [hread, kindOf, all_isLiteral_itemsOf, hd.names, htext]
  by_cases hall : segments.all (·.isRun) = true
  · simp only [if_pos hall]
  · simp only [if_neg hall]
    cases Regex.read? ("^".toList ++ (translateAll 0 segments).1 ++ "$".toList) with
    | none => rfl
    | some e => rfl

end

/-- A tree with a section in a section, braces in a constraint and signs that are escaped. -/
def archiveSegments : List Segment :=
  [.run "/a.b", .group [.run "/", .placeholder "y" (some "\\d\x7b4\x7d"),
    .group [.run "-", .placeholder "m" none]], .run "~"]

theorem compile_archiveSegments :
    IsPatternTree archiveSegments ∧
    ∃ e, compile "/a.b[/\x7by:\\d\x7b4\x7d\x7d[-\x7bm\x7d]]~" =
      .ok ⟨"/a.b[/\x7by:\\d\x7b4\x7d\x7d[-\x7bm\x7d]]~",
        .matched ⟨"^/a\\.b(?:/(?P<__sy0>[0-9]\x7b4\x7d)(?:\\-(?P<__sy1>[^/]+))?)?\\~$", e⟩,
        ["y", "m"]⟩ := by
  have htree : IsPatternTree archiveSegments :=
    ⟨by decide +kernel, by decide +kernel, .inl (by decide +kernel)⟩
  have htext : String.ofList (renderSegments archiveSegments) =
      "/a.b[/\x7by:\\d\x7b4\x7d\x7d[-\x7bm\x7d]]~" := by decide +kernel
  have hregex : String.ofList ("^".toList ++ (translateAll 0 archiveSegments).1 ++ "$".toList) =
      "^/a\\.b(?:/(?P<__sy0>[0-9]\x7b4\x7d)(?:\\-(?P<__sy1>[^/]+))?)?\\~$" := by decide +kernel
  have hsome : (Regex.read? ("^".toList ++ (translateAll 0 archiveSegments).1 ++
      "$".toList)).isSome = true := by decide +kernel
  obtain ⟨e, he⟩ := Option.isSome_iff_exists.1 hsome
  have h := compile_renderSegments htree
  rw [htext, hregex, if_neg (by decide), he] at h
  exact ⟨htree, e, h⟩

end UriRouter.Pattern
