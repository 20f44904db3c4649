import UriRouter.Proofs.Pattern.Marks
import UriRouter.Proofs.Regex.Ways

/-!
# The direct reading of a pattern

A pattern whose constraints ask for nothing but characters of a class can be read without any
regular expression: one part after the other, the longest value first, and a section before what
comes without it.

* `directCaptures?` : what a path binds by such a reading;
* `captures?_eq_directCaptures?` : compiled patterns bind the same.
-/

set_option autoImplicit false

namespace UriRouter.Pattern

open UriRouter.Regex

/-! ## The reading -/

/-- The runs of characters of a class at the beginning of a text, the longest first, each with the
text after it. -/
def runs (p : Char → Bool) : List Char → List (List Char × List Char)
  | [] => []
  | c :: rest =>
    if p c then (runs p rest).map (fun x => (c :: x.1, x.2)) ++ [([c], rest)] else []

mutual

/-- The ways to read a part at the beginning of a text, the preferred one first: what each binds,
and the text after it. -/
def Item.readings : Item → List Char → List (Bindings × List Char)
  | .literal _, [] => []
  | .literal c, x :: rest => if x = c then [([], rest)] else []
  | .placeholder name constraint, s =>
    (runs (admits constraint) s).map fun x => ([(name, String.ofList x.1)], x.2)
  | .optional items, s => readingsOf items s ++ [([], s)]

/-- The ways to read a sequence of parts at the beginning of a text. -/
def readingsOf : List Item → List Char → List (Bindings × List Char)
  | [], s => [([], s)]
  | item :: rest, s =>
    (item.readings s).flatMap fun x => (readingsOf rest x.2).map fun y => (x.1 ++ y.1, y.2)

end

/-- What a path binds, if it can be read to its end: the first way to do so counts. -/
def directCaptures? (items : List Item) (path : String) : Option Bindings :=
  ((readingsOf items path.toList).find? (·.2.isEmpty)).map (·.1)

/-! ## The reading as ways of the matcher -/

mutual

/-- The ways of a part whose placeholders are numbered from `index` on. -/
def Item.ways (index : Nat) : Item → Ways
  | .literal c => .one (· == c)
  | .placeholder _ constraint => (Ways.run (admits constraint)).noting (groupName index)
  | .optional items => ((waysOf index items).foldr Ways.andThen Ways.done).orNone

/-- The ways of each of a sequence of parts whose placeholders are numbered from `index` on. -/
def waysOf (index : Nat) : List Item → List Ways
  | [] => []
  | item :: rest => item.ways index :: waysOf (index + item.names.length) rest

end

theorem isEmpty_valueSet (constraint : Option String) : (valueSet constraint).isEmpty = false := by
  unfold valueSet
  split <;> rfl

mutual

theorem follows_part : ∀ (item : Item) (index : Nat),
    Follows (item.part index).expr (item.ways index)
  | .literal c, index => by
    rw [Item.part, Item.ways]
    exact follows_chars (mem_single c)
  | .placeholder name constraint, index => by
    rw [Item.part, Item.ways]
    exact follows_group _ (follows_run (isEmpty_valueSet constraint) (mem_valueSet constraint))
  | .optional items, index => by
    rw [Item.part, Item.ways]
    exact follows_section (follows_ofMembers (follows_partsOf items index))

theorem follows_partsOf : ∀ (items : List Item) (index : Nat),
    List.Forall₂ Follows ((partsOf index items).map (·.expr)) (waysOf index items)
  | [], index => by simp [partsOf, waysOf]
  | item :: rest, index => by
    rw [partsOf, waysOf, List.map_cons]
    exact .cons (follows_part item index) (follows_partsOf rest _)

end

theorem andThen_assoc (u v w : Ways) : (u.andThen v).andThen w = u.andThen (v.andThen w) := by
  funext s
  simp [Ways.andThen, List.flatMap_assoc, List.flatMap_map, List.map_flatMap, Function.comp_def]

theorem foldr_andThen (ws : List Ways) (w : Ways) :
    ws.foldr Ways.andThen w = (ws.foldr Ways.andThen Ways.done).andThen w := by
  induction ws with
  | nil =>
    funext s
    simp [Ways.andThen, Ways.done]
  | cons v rest ih => rw [List.foldr_cons, ih, List.foldr_cons, andThen_assoc]

theorem head?_andThen_atEnd (w : Ways) (s : List Char) :
    ((w.andThen Ways.atEnd) s).head? = (w s).find? (·.2.isEmpty) := by
  unfold Ways.andThen
  induction w s with
  | nil => rfl
  | cons x rest ih =>
    rw [List.flatMap_cons, List.head?_append, ih, List.find?_cons]
    cases hx : x.2.isEmpty with
    | true => simp [Ways.atEnd, hx]
    | false => simp [Ways.atEnd, hx]

/-- A compiled pattern matches by the first way through the whole path. -/
theorem findIn_matcherExpr (items : List Item) (text : List Char) :
    (matcherExpr items).findIn text =
      ((((waysOf 0 items).foldr Ways.andThen Ways.done) text).find? (·.2.isEmpty)).map (·.1) := by
  have hf : Follows (.ofMembers ((partsOf 0 items).map (·.expr) ++ [.assertion .textEnd]))
      ((waysOf 0 items ++ [Ways.atEnd]).foldr Ways.andThen Ways.done) :=
    follows_ofMembers (List.rel_append (follows_partsOf items 0) (.cons follows_textEnd .nil))
  have hw : (waysOf 0 items ++ [Ways.atEnd]).foldr Ways.andThen Ways.done =
      ((waysOf 0 items).foldr Ways.andThen Ways.done).andThen Ways.atEnd := by
    rw [List.foldr_append, foldr_andThen, List.foldr_cons, List.foldr_nil, Ways.andThen_done]
  have he : matcherExpr items = .concat (.assertion .textStart)
      (.ofMembers ((partsOf 0 items).map (·.expr) ++ [.assertion .textEnd])) := by
    simp only [matcherExpr, matcherParts, List.map_append, List.map_cons, List.map_nil,
      List.cons_append]
    cases (partsOf 0 items).map (·.expr) <;> rfl
  rw [he, findIn_of_follows hf, hw, head?_andThen_atEnd]

/-! ## What the ways bind -/

theorem run_eq_runs (p : Char → Bool) (s : List Char) :
    Ways.run p s = (runs p s).map fun x => ([], x.2) := by
  induction s with
  | nil => rfl
  | cons c rest ih =>
    rw [Ways.run, runs, ih]
    split
    · simp [Function.comp_def]
    · rfl

/-- A run and the text after it make up the text. -/
theorem append_of_mem_runs {p : Char → Bool} {s : List Char} {x : List Char × List Char}
    (h : x ∈ runs p s) : x.1 ++ x.2 = s := by
  induction s generalizing x with
  | nil => cases h
  | cons c rest ih =>
    rw [runs] at h
    split at h
    · rcases List.mem_append.1 h with h | h
      · obtain ⟨y, hy, rfl⟩ := List.mem_map.1 h
        simp [ih hy]
      · rw [List.mem_singleton.1 h]
        rfl
    · cases h

/-- Groups further on are not among the first ones. -/
theorem groupNames_subset {index count index' count' : Nat} (h₁ : index ≤ index')
    (h₂ : index' + count' ≤ index + count) {name : String}
    (h : name ∈ groupNames index' count') : name ∈ groupNames index count := by
  obtain ⟨i, hi, rfl⟩ := List.mem_map.1 h
  have := List.mem_range'_1.1 hi
  exact mem_groupNames (by omega) (by omega)

theorem marksAside_of_groupNames {index count index' count' : Nat} {m : List Mark}
    (hd : index + count ≤ index' ∨ index' + count' ≤ index)
    (h : ∀ mark ∈ m, mark.name ∈ groupNames index' count') : MarksAside index count m := by
  intro mark hm hin
  obtain ⟨i, hi, he⟩ := List.mem_map.1 (h mark hm)
  have := List.mem_range'_1.1 hi
  exact notMem_groupNames (by omega) (he ▸ hin)

mutual

theorem marks_of_ways : ∀ (item : Item) (index : Nat) (s : List Char),
    ∀ way ∈ item.ways index s, ∀ mark ∈ way.1, mark.name ∈ groupNames index item.names.length
  | .literal c, index, s => by
    intro way h mark hm
    rw [Item.ways] at h
    cases s with
    | nil => cases h
    | cons x rest =>
      rw [Ways.one] at h
      split at h
      · rw [List.mem_singleton.1 h] at hm
        cases hm
      · cases h
  | .placeholder name constraint, index, s => by
    intro way h mark hm
    rw [Item.ways, Ways.noting, run_eq_runs, List.map_map] at h
    obtain ⟨x, -, rfl⟩ := List.mem_map.1 h
    have hname : mark.name = groupName index := by
      simp only [Function.comp_apply, List.cons_append, List.nil_append, List.mem_cons,
        List.not_mem_nil, or_false] at hm
      rcases hm with rfl | rfl <;> rfl
    rw [hname]
    exact mem_groupNames (Nat.le_refl _) (by simp [Item.names])
  | .optional items, index, s => by
    intro way h mark hm
    rw [Item.ways, Ways.orNone] at h
    rw [Item.names]
    rcases List.mem_append.1 h with h | h
    · exact marks_of_waysOf items index s way h mark hm
    · rw [List.mem_singleton.1 h] at hm
      cases hm

theorem marks_of_waysOf : ∀ (items : List Item) (index : Nat) (s : List Char),
    ∀ way ∈ (waysOf index items).foldr Ways.andThen Ways.done s,
      ∀ mark ∈ way.1, mark.name ∈ groupNames index (namesOf items).length
  | [], index, s => by
    intro way h mark hm
    rw [List.mem_singleton.1 h] at hm
    cases hm
  | item :: rest, index, s => by
    intro way h mark hm
    rw [waysOf, List.foldr_cons, Ways.andThen] at h
    obtain ⟨x, hx, hy⟩ := List.mem_flatMap.1 h
    obtain ⟨y, hy', rfl⟩ := List.mem_map.1 hy
    rw [namesOf_cons, List.length_append]
    rcases List.mem_append.1 hm with hm | hm
    · exact groupNames_subset (Nat.le_refl _) (by omega) (marks_of_ways item index s x hx mark hm)
    · exact groupNames_subset (Nat.le_add_right _ _) (by omega)
        (marks_of_waysOf rest _ x.2 y hy' mark hm)

end

mutual

/-- The ways of a part, with what their marks bind, are its readings. -/
theorem readings_eq : ∀ (item : Item) (index : Nat) (s : List Char),
    item.readings s = (item.ways index s).map fun t => (bindingsFrom t.1 index item.names, t.2)
  | .literal c, index, s => by
    cases s with
    | nil => rfl
    | cons x rest =>
      rw [Item.readings, Item.ways, Ways.one]
      by_cases h : x = c
      · simp [h, Item.names, bindingsFrom]
      · simp [h]
  | .placeholder name constraint, index, s => by
    rw [Item.readings, Item.ways, Ways.noting, run_eq_runs, List.map_map, List.map_map]
    refine List.map_congr_left fun x hx => ?_
    have hm : MarksAside index 1 [] := fun mark h => by cases h
    have hb := bindingsFrom_group hm name x.1 x.2
    rw [append_of_mem_runs hx] at hb
    simp only [Function.comp_apply, Item.names, hb]
  | .optional items, index, s => by
    rw [Item.readings, Item.ways, Ways.orNone, List.map_append, readingsOf_eq items index s,
      Item.names]
    simp [bindingsFrom_nil]

/-- The ways of a sequence of parts, with what their marks bind, are its readings. -/
theorem readingsOf_eq : ∀ (items : List Item) (index : Nat) (s : List Char),
    readingsOf items s = ((waysOf index items).foldr Ways.andThen Ways.done s).map
      fun t => (bindingsFrom t.1 index (namesOf items), t.2)
  | [], index, s => by simp [readingsOf, waysOf, Ways.done, bindingsFrom]
  | item :: rest, index, s => by
    rw [readingsOf, readings_eq item index s, waysOf, List.foldr_cons, Ways.andThen,
      List.flatMap_map, List.map_flatMap, namesOf_cons]
    refine List.flatMap_congr fun x hx => ?_
    rw [readingsOf_eq rest (index + item.names.length) x.2, List.map_map, List.map_map]
    refine List.map_congr_left fun y hy => ?_
    have hx' : MarksAside (index + item.names.length) (namesOf rest).length x.1 :=
      marksAside_of_groupNames (.inr (Nat.le_refl _)) (marks_of_ways item index s x hx)
    have hy' : MarksAside index item.names.length y.1 :=
      marksAside_of_groupNames (.inl (Nat.le_refl _)) (marks_of_waysOf rest _ x.2 y hy)
    simp only [Function.comp_apply, bindingsFrom_append hx' hy']

end

/-! ## Compiled patterns -/

/-- Literal parts bind nothing and are read in one way at most. -/
theorem readingsOf_literals {items : List Item} (h : items.all (·.isLiteral)) (s : List Char) :
    (readingsOf items s).find? (·.2.isEmpty) =
      if s = renderAll items then some ([], []) else none := by
  induction items generalizing s with
  | nil => cases s <;> simp [readingsOf]
  | cons item rest ih =>
    rw [List.all_cons, Bool.and_eq_true] at h
    cases item with
    | placeholder | optional => cases h.1
    | literal c =>
      rw [readingsOf, renderAll_cons, Item.render, List.singleton_append]
      cases s with
      | nil => simp [Item.readings]
      | cons x s =>
        rw [Item.readings]
        by_cases hx : x = c
        · simp [hx, ih h.2]
        · simp [hx]

theorem directCaptures?_literals {items : List Item} (h : items.all (·.isLiteral))
    (path : String) :
    directCaptures? items path = if String.ofList (renderAll items) = path then some [] else none := by
  rw [directCaptures?, readingsOf_literals h]
  by_cases hp : path.toList = renderAll items
  · rw [if_pos hp, if_pos (by rw [← hp, String.ofList_toList])]
    rfl
  · rw [if_neg hp, if_neg (fun he => hp (by rw [← he, String.toList_ofList]))]
    rfl

/-- What a matcher binds is what the reading part by part binds. -/
theorem bindings_matcherExpr (items : List Item) (path : String) :
    ((matcherExpr items).findIn path.toList).map (bindingsFrom · 0 (namesOf items)) =
      directCaptures? items path := by
  rw [findIn_matcherExpr, directCaptures?, readingsOf_eq items 0, List.find?_map]
  simp [Function.comp_def]

/-- What a pattern compiles to if its constraints all ask for runs of a class. -/
theorem compile_of_runs [PropertyTable] {raw : String} {items : List Item} {p : Pattern}
    (hs : Path.normalizePattern raw = String.ofList (renderAll items))
    (hw : areWellFormed items = true) (hc : ∀ c ∈ constraintsOf items, c ∈ runConstraints)
    (h : compile raw = .ok p) :
    p.parameters = namesOf items ∧
      (items.all (·.isLiteral) ∧ p.kind = .fixed (String.ofList (renderAll items)) ∨
        p.kind = .matched ⟨String.ofList (matcherText items), matcherExpr items⟩) := by
  obtain ⟨items', hread, hkind, hparams⟩ := compile_eq_ok h
  rw [hs, String.toList_ofList] at hread
  obtain rfl := readItems_renderAll hw hread
  refine ⟨hparams, ?_⟩
  unfold kindOf at hkind
  split at hkind
  · rename_i hl
    exact .inl ⟨hl, by rw [← Except.ok.inj hkind, hs]⟩
  · rw [read?_matcherText hc] at hkind
    split at hkind
    · rename_i e he
      split at he
      · cases he
        exact .inr (Except.ok.inj hkind).symm
      · cases he
    · cases hkind

/-- Such a pattern binds what the direct reading binds. -/
theorem captures?_of_kind {items : List Item} {p : Pattern}
    (h : p.parameters = namesOf items ∧
      (items.all (·.isLiteral) ∧ p.kind = .fixed (String.ofList (renderAll items)) ∨
        p.kind = .matched ⟨String.ofList (matcherText items), matcherExpr items⟩))
    (path : String) : p.captures? path = directCaptures? items path := by
  obtain ⟨hp, ⟨hl, hk⟩ | hk⟩ := h
  · rw [captures?, hk]
    exact (directCaptures?_literals hl path).symm
  · rw [captures?, hk, hp]
    exact bindings_matcherExpr items path

/-- **Matching is reading part by part.** If the text of a pattern is that of a sequence of literal
characters, of sections and of placeholders that are not constrained or ask for a run of a class,
then a path binds what the first way to read it binds, and matches only if there is one. -/
theorem captures?_eq_directCaptures? [PropertyTable] {raw : String} {items : List Item}
    {p : Pattern} (hs : Path.normalizePattern raw = String.ofList (renderAll items))
    (hw : areWellFormed items = true) (hc : ∀ c ∈ constraintsOf items, c ∈ runConstraints)
    (h : compile raw = .ok p) (path : String) : p.captures? path = directCaptures? items path :=
  captures?_of_kind (compile_of_runs hs hw hc h) path

/-- The parts of a pattern with a section inside a section. -/
def nestedItems : List Item :=
  [.literal '/', .literal 'a',
    .optional [.placeholder "x" (some "\\d+"), .optional [.literal 'b']]]

theorem captures?_nestedItems : ∃ p, compile "/a[\x7bx:\\d+\x7d[b]]" = .ok p ∧
    p.captures? "/a12b" = some [("x", "12")] ∧ p.captures? "/ab" = none := by
  have hs : Path.normalizePattern "/a[\x7bx:\\d+\x7d[b]]" =
      String.ofList (renderAll nestedItems) := by decide +kernel
  have hw : areWellFormed nestedItems = true := by decide +kernel
  have hc : ∀ c ∈ constraintsOf nestedItems, c ∈ runConstraints := by decide +kernel
  have hok : (compile "/a[\x7bx:\\d+\x7d[b]]").isOk = true := by decide +kernel
  cases h : compile "/a[\x7bx:\\d+\x7d[b]]" with
  | error e =>
    rw [h] at hok
    cases hok
  | ok p =>
    refine ⟨p, rfl, ?_, ?_⟩
    · rw [captures?_eq_directCaptures? hs hw hc h]
      decide +kernel
    · rw [captures?_eq_directCaptures? hs hw hc h]
      decide +kernel

end UriRouter.Pattern
