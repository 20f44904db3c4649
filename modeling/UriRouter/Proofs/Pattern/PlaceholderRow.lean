import UriRouter.Proofs.Pattern.Continuation

/-!
# Rows of placeholders

A pattern that is literal text and a row of placeholders, with `/` between them, binds the pieces of
a path in their order.

* `exists_compile_of_isBare` : patterns without sections and constraints compile;
* `row`, `rowText` : the parts of a row, and its text;
* `exists_compile_row` : what literal text and a row bind.
-/

set_option autoImplicit false

namespace UriRouter.Pattern

/-- **A well-formed pattern without sections and constraints compiles**, and its parts say what it
matches. -/
theorem exists_compile_of_isBare [Regex.PropertyTable] {raw : String} {items : List Item}
    (hraw : (Path.normalizePattern raw).toList = renderAll items)
    (hw : areWellFormed items = true) (hn : (namesOf items).Nodup)
    (hb : ∀ item ∈ items, item.isBare = true) :
    ∃ p, compile raw = .ok p ∧ ∀ path, p.captures? path = directCaptures? items path := by
  have hnone := constraintsOf_of_isBare hb
  have hread : readItems (Path.normalizePattern raw).toList = .ok items := by
    rw [hraw]
    rcases readItems_renderAll_cases hw hn with h | ⟨_, c, hc, -⟩
    · exact h
    · rw [hnone] at hc
      cases hc
  obtain ⟨p, hp⟩ := exists_compile_iff.2 ⟨items, hread, isSome_read?_of_isBare hb⟩
  have hs : Path.normalizePattern raw = String.ofList (renderAll items) := by
    rw [← hraw, String.ofList_toList]
  refine ⟨p, hp, captures?_of_kind (compile_of_runs hs hw (fun c hc => ?_) hp)⟩
  rw [hnone] at hc
  cases hc

/-! ## Rows -/

/-- Placeholders with `/` between them. -/
def row : List String → List Item
  | [] => []
  | [name] => [.placeholder name none]
  | name :: next :: rest => .placeholder name none :: .literal '/' :: row (next :: rest)

/-- Their text. -/
def rowText (names : List String) : String :=
  "/".intercalate (names.map fun name => "\x7b" ++ name ++ "\x7d")

theorem renderAll_row (names : List String) : renderAll (row names) = (rowText names).toList := by
  induction names using row.induct with
  | case1 => rfl
  | case2 name =>
    rw [rowText, List.map_cons, List.map_nil, String.intercalate_singleton, row]
    simp [renderAll_cons, renderAll_nil, Item.render]
  | case3 name next rest ih =>
    rw [row, renderAll_cons, renderAll_cons, ih]
    simp [rowText, Item.render, String.intercalate_cons_cons]

theorem isBare_row (names : List String) : ∀ item ∈ row names, item.isBare = true := by
  induction names using row.induct with
  | case1 => exact nofun
  | case2 name => exact List.forall_mem_singleton.2 rfl
  | case3 name next rest ih =>
    exact List.forall_mem_cons.2 ⟨rfl, List.forall_mem_cons.2 ⟨rfl, ih⟩⟩

theorem namesOf_row (names : List String) : namesOf (row names) = names := by
  induction names using row.induct with
  | case1 => rfl
  | case2 name => rfl
  | case3 name next rest ih =>
    rw [row, namesOf_cons, namesOf_cons, ih]
    rfl

theorem areWellFormed_row {names : List String}
    (h : ∀ name ∈ names, isValidName name.toList = true) : areWellFormed (row names) = true := by
  have hitem : ∀ name ∈ names, (Item.placeholder name none).isWellFormed = true := by
    intro name hname
    rw [Item.isWellFormed, h name hname]
    rfl
  induction names using row.induct with
  | case1 => rfl
  | case2 name =>
    rw [row, areWellFormed, areWellFormed, hitem name List.mem_cons_self]
    rfl
  | case3 name next rest ih =>
    obtain ⟨-, hrest⟩ := List.forall_mem_cons.1 h
    obtain ⟨hfirst, hothers⟩ := List.forall_mem_cons.1 hitem
    rw [row, areWellFormed, areWellFormed, hfirst, ih hrest hothers]
    rfl

/-- How the pieces of a path read along a row. -/
theorem find?_readings_row {names values : List String} (hlen : values.length = names.length)
    (hv : ∀ v ∈ values, v ≠ "" ∧ '/' ∉ v.toList) :
    (readingsOf (row names) ("/".intercalate values).toList).find? (·.2.isEmpty) =
      some (names.zip values, []) := by
  induction names using row.induct generalizing values with
  | case1 =>
    obtain rfl : values = [] := List.length_eq_zero_iff.1 hlen
    rfl
  | case2 name =>
    obtain ⟨v, rfl⟩ := List.length_eq_one_iff.1 hlen
    have hone : (readingsOf (row [name]) (v.toList ++ [])).find? (·.2.isEmpty) =
        some ([(name, v)], []) :=
      Signature.find?_readings_placeholder (hv v List.mem_cons_self) nofun rfl
    rw [List.append_nil] at hone
    rw [String.intercalate_singleton]
    exact hone
  | case3 name next rest ih =>
    match values, hlen with
    | v :: w :: values, hlen =>
      obtain ⟨hfirst, hrest⟩ := List.forall_mem_cons.1 hv
      have hnext := ih (Nat.succ.inj hlen) hrest
      rw [String.intercalate_cons_cons, String.append_assoc, String.toList_append,
        String.toList_append]
      refine Signature.find?_readings_placeholder hfirst (fun c hc => (Option.some.inj hc).symm) ?_
      exact (congrArg (List.find? _) (readingsOf_literal '/' _ _)).trans hnext

/-- **Literal text and a row of placeholders** bind the pieces of a path that come after the text,
in their order. -/
theorem exists_compile_row [Regex.PropertyTable] {base : String} {names : List String}
    (hslash : base.toList.head? = some '/') (hbase : ∀ c ∈ base.toList, c ∉ delimiters)
    (hvalid : ∀ name ∈ names, isValidName name.toList = true) (hn : names.Nodup) :
    ∃ p, compile (base ++ rowText names) = .ok p ∧
      ∀ values : List String, values.length = names.length →
        (∀ v ∈ values, v ≠ "" ∧ '/' ∉ v.toList) →
        p.captures? (base ++ "/".intercalate values) = some (names.zip values) := by
  have hhead : (base ++ rowText names).toList.head? = some '/' := by
    rw [String.toList_append, List.head?_append, hslash]
    rfl
  have hraw : (Path.normalizePattern (base ++ rowText names)).toList =
      renderAll (literals base.toList ++ row names) := by
    rw [Path.normalizePattern_of_head? (by rw [hhead]; decide), Path.normalize_of_head? hhead,
      renderAll_append, renderAll_literals, renderAll_row, String.toList_append]
  have hw : areWellFormed (literals base.toList ++ row names) = true := by
    rw [areWellFormed_append, areWellFormed_literals.2 hbase, areWellFormed_row hvalid]
    rfl
  have hnames : (namesOf (literals base.toList ++ row names)).Nodup := by
    rw [namesOf_append, namesOf_literals, namesOf_row]
    exact hn
  have hbare : ∀ item ∈ literals base.toList ++ row names, item.isBare = true := by
    refine List.forall_mem_append.2 ⟨fun item hitem => ?_, isBare_row names⟩
    obtain ⟨c, -, rfl⟩ := List.mem_map.1 hitem
    rfl
  obtain ⟨p, hp, hcaptures⟩ := exists_compile_of_isBare hraw hw hnames hbare
  refine ⟨p, hp, fun values hlen hv => ?_⟩
  rw [hcaptures, directCaptures?, String.toList_append, readingsOf_literals_append,
    find?_readings_row hlen hv]
  rfl

end UriRouter.Pattern
