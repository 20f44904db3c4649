import UriRouter.Derive.Resource
import UriRouter.Proofs.Derive.Chain
import UriRouter.Proofs.Pattern.Grammar
import UriRouter.Proofs.Serve.Reachable

/-!
# The templates of a resource

For a name that is literal text, the pattern of an action is literal text too, or literal text
around the placeholder of an identifier. It matches the texts that are made from the template by
putting a piece of a path in place of the placeholder, and no others.

* `ResourceAction.IsInstance` : the texts that are made from a template;
* `ResourceAction.compile_pattern` : the patterns compile, and match those texts;
* `ResourceAction.eq_of_isInstance` : no text is made from two templates under one verb, save one.
-/

set_option autoImplicit false

namespace UriRouter

open UriRouter.Pattern

namespace Pattern

/-! ## The ways to read a path -/

theorem mem_runs {p : Char → Bool} {s : List Char} {x : List Char × List Char} :
    x ∈ runs p s ↔ x.1 ++ x.2 = s ∧ x.1 ≠ [] ∧ ∀ c ∈ x.1, p c = true := by
  obtain ⟨v, t⟩ := x
  induction s generalizing v with
  | nil =>
    refine iff_of_false List.not_mem_nil ?_
    rintro ⟨hs, hne, -⟩
    exact hne (List.append_eq_nil_iff.1 hs).1
  | cons c s ih =>
    rw [runs]
    constructor
    · intro h
      split at h
      · rename_i hc
        rcases List.mem_append.1 h with h | h
        · obtain ⟨⟨v', t'⟩, hy, he⟩ := List.mem_map.1 h
          cases he
          obtain ⟨hs, -, hp⟩ := ih v' |>.1 hy
          exact ⟨congrArg (c :: ·) hs, List.cons_ne_nil _ _, List.forall_mem_cons.2 ⟨hc, hp⟩⟩
        · cases List.mem_singleton.1 h
          exact ⟨rfl, List.cons_ne_nil _ _, by simpa using hc⟩
      · cases h
    · rintro ⟨hs, hne, hp⟩
      cases v with
      | nil => exact absurd rfl hne
      | cons d v =>
        cases hs
        rw [if_pos (hp c List.mem_cons_self)]
        refine List.mem_append.2 ?_
        cases v with
        | nil => exact .inr (List.mem_singleton.2 rfl)
        | cons d v =>
          refine .inl (List.mem_map.2 ⟨(d :: v, t), (ih _).2 ⟨rfl, List.cons_ne_nil _ _, ?_⟩, rfl⟩)
          exact fun e he => hp e (List.mem_cons_of_mem _ he)

theorem mem_readingsOf_literals_append {base : List Char} {items : List Item} {s : List Char}
    {y : Bindings × List Char} :
    y ∈ readingsOf (literals base ++ items) s ↔ ∃ t, s = base ++ t ∧ y ∈ readingsOf items t := by
  induction base generalizing s with
  | nil => exact ⟨fun h => ⟨s, rfl, h⟩, by rintro ⟨t, rfl, h⟩; exact h⟩
  | cons c base ih =>
    rw [literals, List.map_cons, List.cons_append]
    by_cases hs : ∃ s', s = c :: s'
    · obtain ⟨s', rfl⟩ := hs
      rw [readingsOf_literal, ← literals, ih]
      simp
    · have hne : ∀ d ∈ s.head?, d ≠ c := by
        rintro d hd rfl
        obtain ⟨s', hs'⟩ := List.head?_eq_some_iff.1 hd
        exact hs ⟨s', hs'⟩
      rw [readingsOf_literal_of_ne hne]
      refine iff_of_false List.not_mem_nil ?_
      rintro ⟨t, rfl, -⟩
      exact hs ⟨_, rfl⟩

theorem mem_readingsOf_literals {base s : List Char} {y : Bindings × List Char} :
    y ∈ readingsOf (literals base) s ↔ ∃ t, s = base ++ t ∧ y = ([], t) := by
  have h : y ∈ readingsOf (literals base ++ []) s ↔ ∃ t, s = base ++ t ∧ y ∈ readingsOf [] t :=
    mem_readingsOf_literals_append
  simpa [readingsOf] using h

theorem mem_readingsOf_placeholder {name : String} {constraint : Option String}
    {items : List Item} {s : List Char} {y : Bindings × List Char} :
    y ∈ readingsOf (.placeholder name constraint :: items) s ↔
      ∃ v t z, s = v ++ t ∧ v ≠ [] ∧ (∀ c ∈ v, admits constraint c = true) ∧
        z ∈ readingsOf items t ∧ y = ((name, String.ofList v) :: z.1, z.2) := by
  rw [readingsOf, Item.readings, List.flatMap_map, List.mem_flatMap]
  constructor
  · rintro ⟨⟨v, t⟩, hx, hy⟩
    obtain ⟨z, hz, rfl⟩ := List.mem_map.1 hy
    obtain ⟨rfl, hne, hp⟩ := mem_runs.1 hx
    exact ⟨v, t, z, rfl, hne, hp, hz, rfl⟩
  · rintro ⟨v, t, z, rfl, hne, hp, hz, rfl⟩
    exact ⟨(v, t), mem_runs.2 ⟨rfl, hne, hp⟩, List.mem_map.2 ⟨z, hz, rfl⟩⟩

/-- Where a path can be read to its end in one way at most, that way is what it binds. -/
theorem directCaptures?_eq_some_iff {items : List Item} {path : String} {bindings : Bindings}
    (hu : ∀ x y, (x, []) ∈ readingsOf items path.toList → (y, []) ∈ readingsOf items path.toList →
      x = y) :
    directCaptures? items path = some bindings ↔ (bindings, []) ∈ readingsOf items path.toList := by
  unfold directCaptures?
  constructor
  · intro h
    obtain ⟨⟨x, t⟩, hx, rfl⟩ := Option.map_eq_some_iff.1 h
    have ht := List.find?_some hx
    obtain rfl : t = [] := List.isEmpty_iff.1 ht
    exact List.mem_of_find?_eq_some hx
  · intro h
    have hsome : ((readingsOf items path.toList).find? (·.2.isEmpty)).isSome = true :=
      List.find?_isSome.2 ⟨_, h, rfl⟩
    obtain ⟨⟨x, t⟩, hx⟩ := Option.isSome_iff_exists.1 hsome
    have ht := List.find?_some hx
    obtain rfl : t = [] := List.isEmpty_iff.1 ht
    rw [hx, Option.map_some, hu x bindings (List.mem_of_find?_eq_some hx) h]

/-- Constructs that are no deeper than `d` are together no deeper than one more. -/
theorem depthOf_le {d : Nat} {parts : List Regex.Part} (h : ∀ p ∈ parts, p.depth ≤ d) :
    Regex.Part.depthOf parts ≤ 1 + d := by
  have hfold : ∀ (ds : List Nat) (m : Nat), m ≤ d → (∀ x ∈ ds, x ≤ d) → ds.foldl max m ≤ d := by
    intro ds
    induction ds with
    | nil => exact fun m hm _ => hm
    | cons x ds ih =>
      exact fun m hm hds => ih _ (max_le hm (hds x List.mem_cons_self))
        fun y hy => hds y (List.mem_cons_of_mem _ hy)
  unfold Regex.Part.depthOf
  split
  · omega
  · have := h _ List.mem_cons_self
    omega
  · refine Nat.add_le_add_left (hfold _ 0 (Nat.zero_le d) fun x hx => ?_) 1
    obtain ⟨p, hp, rfl⟩ := List.mem_map.1 hx
    exact h p hp

/-- Literal text, or a placeholder without a constraint. -/
def Item.isBare : Item → Bool
  | .literal _ => true
  | .placeholder _ constraint => constraint.isNone
  | .optional _ => false

theorem isBare_of_isLiteral {item : Item} (h : item.isLiteral = true) : item.isBare = true := by
  cases item with
  | literal => rfl
  | placeholder => cases h
  | optional => cases h

theorem constraintsOf_of_isBare {items : List Item} (h : ∀ item ∈ items, item.isBare = true) :
    constraintsOf items = [] := by
  induction items with
  | nil => rfl
  | cons item items ih =>
    obtain ⟨hitem, hitems⟩ := List.forall_mem_cons.1 h
    rw [constraintsOf, ih hitems]
    cases item with
    | literal => rfl
    | placeholder name constraint =>
      obtain rfl := Option.isNone_iff_eq_none.1 hitem
      rfl
    | optional => cases hitem

/-- A placeholder without a constraint nests three deep: a group, a repetition and a bracket. -/
theorem depth_le_of_isBare {items : List Item} (h : ∀ item ∈ items, item.isBare = true) :
    ∀ {index : Nat}, ∀ p ∈ partsOf index items, p.depth ≤ 3 := by
  induction items with
  | nil =>
    intro index p hp
    cases hp
  | cons item items ih =>
    obtain ⟨hitem, hitems⟩ := List.forall_mem_cons.1 h
    intro index p hp
    rw [partsOf] at hp
    rcases List.mem_cons.1 hp with rfl | hp
    · cases item with
      | literal c => exact Nat.zero_le 3
      | placeholder name constraint =>
        obtain rfl := Option.isNone_iff_eq_none.1 hitem
        exact Nat.le_refl 3
      | optional items => cases hitem
    · exact ih hitems p hp

/-- Patterns without sections and constraints nest no deeper than is allowed, however long. -/
theorem depth_matcherParts_of_isBare {items : List Item} (h : ∀ item ∈ items, item.isBare = true) :
    Regex.Part.depthOf (matcherParts items) ≤ Regex.Part.maxDepth := by
  have hparts : ∀ p ∈ matcherParts items, p.depth ≤ 3 :=
    List.forall_mem_append.2 ⟨List.forall_mem_cons.2 ⟨Nat.zero_le 3, depth_le_of_isBare h⟩,
      List.forall_mem_singleton.2 (Nat.zero_le 3)⟩
  exact (depthOf_le hparts).trans (by decide)

/-! ## Literal text -/

theorem namesOf_literals (s : List Char) : namesOf (literals s) = [] := by
  induction s with
  | nil => rfl
  | cons c s ih => exact ih

theorem constraintsOf_literals (s : List Char) : constraintsOf (literals s) = [] := by
  have h := constraintsOf_literals_append s []
  rwa [List.append_nil] at h

/-- Literal text compiles to a fixed pattern. -/
theorem compile_literals [Regex.PropertyTable] {raw : String}
    (h : ∀ c ∈ (Path.normalizePattern raw).toList, c ∉ delimiters) :
    compile raw = .ok ⟨raw, .fixed (Path.normalizePattern raw), []⟩ := by
  generalize hs : (Path.normalizePattern raw).toList = s at h
  have hread : readItems s = .ok (literals s) := by
    have hcases := readItems_renderAll_cases (areWellFormed_literals.2 h)
      (by rw [namesOf_literals]; exact .nil)
    rw [renderAll_literals, constraintsOf_literals] at hcases
    simpa using hcases
  have hall : (literals s).all (·.isLiteral) = true := by simp [literals, Item.isLiteral]
  simp only [compile, hs, hread, kindOf, hall, ↓reduceIte, namesOf_literals]

/-! ## Literal text around a placeholder -/

/-- The parts of literal text with one placeholder in it. -/
def around (base : List Char) (name : String) (after : List Char) : List Item :=
  literals base ++ .placeholder name none :: literals after

section Around

variable {base after : List Char} {name : String}

theorem namesOf_around : namesOf (around base name after) = [name] := by
  rw [around, namesOf_append, namesOf_cons, namesOf_literals, namesOf_literals]
  rfl

theorem isBare_around : ∀ item ∈ around base name after, item.isBare = true := by
  have hliterals : ∀ s, ∀ item ∈ literals s, item.isBare = true := by
    intro s item hitem
    obtain ⟨c, -, rfl⟩ := List.mem_map.1 hitem
    rfl
  exact List.forall_mem_append.2 ⟨hliterals base, List.forall_mem_cons.2 ⟨rfl, hliterals after⟩⟩

theorem constraintsOf_around : constraintsOf (around base name after) = [] :=
  constraintsOf_of_isBare isBare_around

theorem areWellFormed_around (hname : isValidName name.toList = true)
    (hbase : ∀ c ∈ base, c ∉ delimiters) (hafter : ∀ c ∈ after, c ∉ delimiters) :
    areWellFormed (around base name after) = true := by
  rw [around, areWellFormed_append, areWellFormed_literals.2 hbase, areWellFormed,
    areWellFormed_literals.2 hafter, Item.isWellFormed, hname]
  rfl

/-- The paths that are read to their end, and what they bind. -/
theorem mem_readingsOf_around {path : String} {bindings : Bindings} :
    (bindings, []) ∈ readingsOf (around base name after) path.toList ↔
      ∃ v : String, v ≠ "" ∧ '/' ∉ v.toList ∧ path.toList = base ++ v.toList ++ after ∧
        bindings = [(name, v)] := by
  simp only [around, mem_readingsOf_literals_append, mem_readingsOf_placeholder,
    mem_readingsOf_literals]
  constructor
  · rintro ⟨t, hpath, v, t', z, rfl, hne, hv, ⟨u, rfl, rfl⟩, hbindings⟩
    cases hbindings
    refine ⟨String.ofList v, fun he => hne ?_, fun hmem => ?_, ?_, rfl⟩
    · rw [← String.toList_ofList (l := v), he]
      rfl
    · rw [String.toList_ofList] at hmem
      exact absurd (hv _ hmem) (by decide)
    · rw [hpath, String.toList_ofList, List.append_nil, List.append_assoc]
  · rintro ⟨v, hne, hv, hpath, rfl⟩
    refine ⟨v.toList ++ after, by rw [hpath, List.append_assoc], v.toList, after, ([], []), rfl,
      fun hnil => hne (String.toList_eq_nil_iff.1 hnil), fun c hc => ?_,
      ⟨[], (List.append_nil after).symm, rfl⟩, by rw [String.ofList_toList]⟩
    exact bne_iff_ne.2 fun he => hv (he ▸ hc)

/-- **Literal text around a placeholder** compiles to a pattern that matches the texts with a piece
of a path in place of the placeholder. -/
theorem compile_around [Regex.PropertyTable] {raw : String}
    (hraw : (Path.normalizePattern raw).toList = renderAll (around base name after))
    (hname : isValidName name.toList = true) (hbase : ∀ c ∈ base, c ∉ delimiters)
    (hafter : ∀ c ∈ after, c ∉ delimiters) :
    ∃ p, compile raw = .ok p ∧ p.isFixed = false ∧ ∀ path bindings,
      p.captures? path = some bindings ↔ ∃ v : String, v ≠ "" ∧ '/' ∉ v.toList ∧
        path.toList = base ++ v.toList ++ after ∧ bindings = [(name, v)] := by
  have hw : areWellFormed (around base name after) = true :=
    areWellFormed_around hname hbase hafter
  have hruns : ∀ c ∈ constraintsOf (around base name after), c ∈ runConstraints := by
    rw [constraintsOf_around]
    exact fun c hc => absurd hc List.not_mem_nil
  have hread : readItems (Path.normalizePattern raw).toList = .ok (around base name after) := by
    have hcases := readItems_renderAll_cases hw (by rw [namesOf_around]; exact List.nodup_singleton _)
    rw [constraintsOf_around] at hcases
    rw [hraw]
    simpa using hcases
  have hkind : kindOf (Path.normalizePattern raw) (around base name after) =
      .ok (.matched ⟨String.ofList (matcherText (around base name after)),
        matcherExpr (around base name after)⟩) := by
    have hall : (around base name after).all (·.isLiteral) = false := by
      simp [around, Item.isLiteral]
    rw [kindOf, hall, read?_matcherText hruns, if_pos (depth_matcherParts_of_isBare isBare_around)]
    rfl
  have hcompile : compile raw = .ok ⟨raw, .matched ⟨String.ofList (matcherText (around base name after)),
      matcherExpr (around base name after)⟩, namesOf (around base name after)⟩ := by
    simp only [compile, hread, hkind]
  refine ⟨_, hcompile, rfl, fun path bindings => ?_⟩
  have hs : Path.normalizePattern raw = String.ofList (renderAll (around base name after)) := by
    rw [← hraw, String.ofList_toList]
  rw [captures?_of_kind (compile_of_runs hs hw hruns hcompile), directCaptures?_eq_some_iff]
  · exact mem_readingsOf_around
  · intro x y hx hy
    obtain ⟨v, -, -, hv, rfl⟩ := mem_readingsOf_around.1 hx
    obtain ⟨w, -, -, hw, rfl⟩ := mem_readingsOf_around.1 hy
    rw [hv, List.append_left_inj, List.append_right_inj, String.toList_inj] at hw
    rw [hw]

end Around

end Pattern

/-! ## Templates -/

namespace ResourceAction

/-- A text with another one in each place of an identifier. -/
def putId (id : List Char) : List Char → List Char
  | '\x7b' :: 'i' :: 'd' :: '\x7d' :: rest => id ++ putId id rest
  | c :: rest => c :: putId id rest
  | [] => []

/-- Whether the template has the place of an identifier, besides that of the name. -/
def asksForId (a : ResourceAction) : Bool := a.tail.toList.contains '\x7b'

/-- The template with a resource's name and an identifier put in their places. -/
def fill (a : ResourceAction) (resource id : String) : String :=
  "/" ++ resource ++ String.ofList (putId id.toList a.tail.toList)

/-- A path is made from the template with the name of a resource and some piece of a path as the
identifier, which is captured if the template asks for it. -/
def IsInstance (a : ResourceAction) (resource path : String) (bindings : Bindings) : Prop :=
  ∃ id : String, id ≠ "" ∧ '/' ∉ id.toList ∧ path = a.fill resource id ∧
    bindings = if a.asksForId then [("id", id)] else []

/-- After the name, a template is literal text, or literal text around the place of the
identifier. -/
theorem tail_cases {a : ResourceAction} (ha : a ∈ resourceActions) :
    (a.asksForId = false ∧ (∀ c ∈ a.tail.toList, c ∉ delimiters) ∧
      ∀ id, putId id a.tail.toList = a.tail.toList) ∨
    (a.asksForId = true ∧ ∃ after : List Char, (∀ c ∈ after, c ∉ delimiters) ∧
      (∀ c ∈ after.head?, c = '/') ∧ a.tail.toList = '/' :: (Item.placeholder "id" none).render ++ after ∧
      ∀ id, putId id a.tail.toList = '/' :: id ++ after) := by
  simp only [resourceActions, List.mem_cons, List.not_mem_nil, or_false] at ha
  rcases ha with rfl | rfl | rfl | rfl | rfl | rfl | rfl
  · exact .inl ⟨rfl, areWellFormed_literals.1 rfl, fun _ => rfl⟩
  · exact .inl ⟨rfl, areWellFormed_literals.1 rfl, fun _ => rfl⟩
  · exact .inl ⟨rfl, areWellFormed_literals.1 rfl, fun _ => rfl⟩
  · exact .inr ⟨rfl, [], areWellFormed_literals.1 rfl, by simp, rfl, fun _ => rfl⟩
  · exact .inr ⟨rfl, "/edit".toList, areWellFormed_literals.1 rfl, by simp, rfl, fun _ => rfl⟩
  · exact .inr ⟨rfl, [], areWellFormed_literals.1 rfl, by simp, rfl, fun _ => rfl⟩
  · exact .inr ⟨rfl, [], areWellFormed_literals.1 rfl, by simp, rfl, fun _ => rfl⟩

theorem toList_pattern (a : ResourceAction) (resource : String) :
    (a.pattern resource).toList = '/' :: resource.toList ++ a.tail.toList := by
  rw [pattern, String.toList_append, String.toList_append]
  rfl

theorem toList_fill (a : ResourceAction) (resource id : String) :
    (a.fill resource id).toList = '/' :: resource.toList ++ putId id.toList a.tail.toList := by
  simp [fill]

/-- A pattern of an action is in normal form. -/
theorem normalizePattern_pattern (a : ResourceAction) (resource : String) :
    Path.normalizePattern (a.pattern resource) = a.pattern resource := by
  have htext := toList_pattern a resource
  rw [Path.normalizePattern_of_head? (by rw [htext]; simp), Path.normalize_of_toList htext]

/-- Where the template asks for no identifier, one text is made from it. -/
theorem isInstance_of_not_asksForId {a : ResourceAction} (ha : a ∈ resourceActions)
    (hid : a.asksForId = false) {resource path : String} {bindings : Bindings} :
    a.IsInstance resource path bindings ↔ path = a.pattern resource ∧ bindings = [] := by
  have hfill : ∀ id, a.fill resource id = a.pattern resource := by
    intro id
    rcases tail_cases ha with ⟨-, -, hput⟩ | ⟨hid', -⟩
    · rw [← String.toList_inj, toList_fill, toList_pattern, hput]
    · rw [hid] at hid'
      cases hid'
  simp only [IsInstance, hfill, hid]
  exact ⟨fun ⟨_, _, _, h⟩ => h, fun h => ⟨"x", by decide, by decide, h⟩⟩

/-- **The pattern of an action matches what its template is made into**, for every name that is
literal text, and it is fixed unless the template asks for an identifier. -/
theorem compile_pattern [Regex.PropertyTable] {a : ResourceAction} (ha : a ∈ resourceActions)
    {resource : String} (hname : ∀ c ∈ resource.toList, c ∉ delimiters) :
    ∃ p, compile (a.pattern resource) = .ok p ∧ p.isFixed = !a.asksForId ∧ ∀ path bindings,
      p.captures? path = some bindings ↔ a.IsInstance resource path bindings := by
  have htext := toList_pattern a resource
  have hbase : ∀ c ∈ '/' :: resource.toList, c ∉ delimiters :=
    List.forall_mem_cons.2 ⟨by decide, hname⟩
  rcases tail_cases ha with ⟨hid, htail, -⟩ | ⟨hid, after, hafter, -, htail, hput⟩
  · refine ⟨_, compile_literals ?_, by rw [hid]; rfl, fun path bindings => ?_⟩
    · rw [normalizePattern_pattern, htext]
      exact List.forall_mem_append.2 ⟨hbase, htail⟩
    · rw [isInstance_of_not_asksForId ha hid, normalizePattern_pattern, captures?]
      by_cases hpath : a.pattern resource = path
      · simp [hpath, eq_comm]
      · simp [hpath, Ne.symm hpath]
  · have hraw : (Path.normalizePattern (a.pattern resource)).toList =
        renderAll (around ('/' :: resource.toList ++ ['/']) "id" after) := by
      rw [normalizePattern_pattern, htext, htail, around, renderAll_append, renderAll_literals,
        renderAll_cons, renderAll_literals]
      simp only [List.append_assoc, List.cons_append, List.nil_append]
    obtain ⟨p, hp, hfixed, hcaptures⟩ := compile_around hraw (by decide)
      (List.forall_mem_append.2 ⟨hbase, areWellFormed_literals.1 rfl⟩) hafter
    refine ⟨p, hp, by rw [hfixed, hid]; rfl, fun path bindings => ?_⟩
    have hfill : ∀ id : String, path = a.fill resource id ↔
        path.toList = '/' :: resource.toList ++ ['/'] ++ id.toList ++ after := by
      intro id
      rw [← String.toList_inj, toList_fill, hput]
      simp only [List.append_assoc, List.cons_append, List.nil_append]
    simp only [hcaptures, IsInstance, hfill, hid, ↓reduceIte]

/-- A piece of a path is known from a text that it begins, if the text ends or goes on with `/`
after it. -/
theorem piece_inj {v w s t : List Char} (hv : '/' ∉ v) (hw : '/' ∉ w)
    (hs : ∀ c ∈ s.head?, c = '/') (ht : ∀ c ∈ t.head?, c = '/') (h : v ++ s = w ++ t) :
    v = w ∧ s = t := by
  have htake : ∀ {v s : List Char}, '/' ∉ v → (∀ c ∈ s.head?, c = '/') →
      (v ++ s).takeWhile (· != '/') = v := by
    intro v s hv hs
    have hall : ∀ c ∈ v, (c != '/') = true := fun c hc => bne_iff_ne.2 fun he => hv (he ▸ hc)
    rw [List.takeWhile_append_of_pos hall]
    cases s with
    | nil => simp
    | cons c s => simp [hs c rfl]
  have hvw : v = w := by rw [← htake hv hs, h, htake hw ht]
  exact ⟨hvw, List.append_cancel_left (hvw ▸ h)⟩

/-- Two actions under one verb have different templates. -/
theorem eq_of_tail {a a' : ResourceAction} (ha : a ∈ resourceActions) (ha' : a' ∈ resourceActions)
    (hv : a.verb = a'.verb) (ht : a.tail = a'.tail) : a = a' := by
  have hall : ∀ a ∈ resourceActions, ∀ a' ∈ resourceActions, a.verb = a'.verb → a.tail = a'.tail →
      a = a' := by decide
  exact hall a ha a' ha' hv ht

/-- A text made from a template without the place of an identifier is made from another one under
the same verb only if these are the templates of `make` and `show`. -/
theorem make_of_putId {a a' : ResourceAction} (ha : a ∈ resourceActions)
    (ha' : a' ∈ resourceActions) (hv : a.verb = a'.verb) (hid : a.asksForId = false)
    (hid' : a'.asksForId = true) {id : List Char} (hne : id ≠ []) (hs : '/' ∉ id)
    (h : a.tail.toList = putId id a'.tail.toList) :
    a.name = "make" ∧ a'.name = "show" ∧ a.tail = "/make" ∧ id = "make".toList := by
  have hplain : ∀ a ∈ resourceActions, ∀ a' ∈ resourceActions, a.verb = a'.verb →
      a.asksForId = false → a'.asksForId = true →
      a.tail = "/" ∨ a.verb = "get" ∧ a.name = "make" ∧ a.tail = "/make" := by decide
  have hshow : ∀ a' ∈ resourceActions, a'.verb = "get" → a'.tail = "/\x7bid\x7d" →
      a'.name = "show" := by decide
  rcases tail_cases ha' with ⟨hid'', -⟩ | ⟨-, after, -, hafter, htail, hput⟩
  · rw [hid'] at hid''
    cases hid''
  · rw [hput] at h
    rcases hplain a ha a' ha' hv hid hid' with ha | ⟨hget, hname, hmake⟩
    · rw [ha] at h
      exact absurd (List.append_eq_nil_iff.1 (List.cons.inj h).2.symm).1 hne
    · rw [hmake] at h
      have hpiece : "make".toList ++ [] = id ++ after := (List.cons.inj h).2
      obtain ⟨rfl, rfl⟩ := piece_inj (by decide) hs (by simp) hafter hpiece
      rw [List.append_nil] at htail
      exact ⟨hname, hshow a' ha' (hv ▸ hget) (String.toList_inj.1 htail), hmake, rfl⟩

/-- **No path is made from two templates under one verb**, except that the place of an identifier
takes the word that the template of `make` ends with. -/
theorem eq_of_isInstance {a a' : ResourceAction} (ha : a ∈ resourceActions)
    (ha' : a' ∈ resourceActions) (hv : a.verb = a'.verb) {resource path : String}
    {bindings bindings' : Bindings} (h : a.IsInstance resource path bindings)
    (h' : a'.IsInstance resource path bindings') :
    a = a' ∧ bindings = bindings' ∨ path = "/" ++ resource ++ "/make" ∧
      (a.name = "make" ∧ a'.name = "show" ∧ bindings' = [("id", "make")] ∨
        a'.name = "make" ∧ a.name = "show" ∧ bindings = [("id", "make")]) := by
  obtain ⟨id, hne, hs, rfl, rfl⟩ := h
  obtain ⟨id', hne', hs', hpath, rfl⟩ := h'
  have hnil : id.toList ≠ [] := fun he => hne (String.toList_eq_nil_iff.1 he)
  have hnil' : id'.toList ≠ [] := fun he => hne' (String.toList_eq_nil_iff.1 he)
  have hput : putId id.toList a.tail.toList = putId id'.toList a'.tail.toList := by
    rw [← String.toList_inj, toList_fill, toList_fill] at hpath
    exact List.append_cancel_left hpath
  have hmake : ∀ {a : ResourceAction} {id : String}, a.tail = "/make" →
      putId id.toList a.tail.toList = a.tail.toList →
      a.fill resource id = "/" ++ resource ++ "/make" := by
    intro a id htail hput
    rw [fill, hput, String.ofList_toList, htail]
  rcases tail_cases ha with ⟨hid, -, hlit⟩ | ⟨hid, after, -, hafter, htail, hplace⟩
  · rcases tail_cases ha' with ⟨hid', -, hlit'⟩ | ⟨hid', -⟩
    · rw [hlit, hlit', String.toList_inj] at hput
      exact .inl ⟨eq_of_tail ha ha' hv hput, by rw [hid, hid']; rfl⟩
    · rw [hlit] at hput
      obtain ⟨hname, hname', htail, hword⟩ := make_of_putId ha ha' hv hid hid' hnil' hs' hput
      obtain rfl : id' = "make" := String.toList_inj.1 hword
      exact .inr ⟨hmake htail (hlit _), .inl ⟨hname, hname', by rw [hid']; rfl⟩⟩
  · rcases tail_cases ha' with ⟨hid', -, hlit'⟩ | ⟨hid', after', -, hafter', htail', hplace'⟩
    · rw [hlit'] at hput
      obtain ⟨hname, hname', htail, hword⟩ :=
        make_of_putId ha' ha hv.symm hid' hid hnil hs hput.symm
      obtain rfl : id = "make" := String.toList_inj.1 hword
      exact .inr ⟨hpath.trans (hmake htail (hlit' _)), .inr ⟨hname, hname', by rw [hid]; rfl⟩⟩
    · rw [hplace, hplace'] at hput
      obtain ⟨hids, hafters⟩ := piece_inj hs hs' hafter hafter' (List.cons.inj hput).2
      obtain rfl : id = id' := String.toList_inj.1 hids
      have htails : a.tail = a'.tail := by
        rw [← String.toList_inj, htail, htail', hafters]
      exact .inl ⟨eq_of_tail ha ha' hv htails, by rw [hid, hid']⟩

end ResourceAction

end UriRouter
