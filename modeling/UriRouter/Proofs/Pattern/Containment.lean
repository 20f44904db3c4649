import UriRouter.Proofs.Pattern.OpenComment

/-!
# Constraints stay in their placeholders

When a path matches, it is the text of the pattern with some of the sections taken, the others left
out, and each placeholder replaced by the value that it binds. A constraint could only change that
by closing or hiding the parentheses around it. One that is an expression by itself cannot close
them, but in verbose mode it may end inside a comment, and the comment hides what follows it.

* `Chosen` : what is left of a pattern when some of its sections are taken;
* `Spells` : the values for a pattern's placeholders spell a path;
* `Confines` : a pattern binds values only as they spell the path;
* `confines_of_compile` : so it does if no constraint ends inside a comment, which no constraint may.
-/

set_option autoImplicit false

namespace UriRouter.Pattern

open UriRouter.Regex

/-! ## Patterns with their sections chosen -/

/-- What is left of a pattern when each section is taken, which takes its brackets away, or left
out. A section inside another can only be taken with it. -/
inductive Chosen : List Item → List Item → Prop
  | nil : Chosen [] []
  | literal {rest flat : List Item} (c : Char) (h : Chosen rest flat) :
      Chosen (.literal c :: rest) (.literal c :: flat)
  | placeholder {rest flat : List Item} (name : String) (constraint : Option String)
      (h : Chosen rest flat) :
      Chosen (.placeholder name constraint :: rest) (.placeholder name constraint :: flat)
  | leave {rest flat : List Item} (items : List Item) (h : Chosen rest flat) :
      Chosen (.optional items :: rest) flat
  | take {items rest inner flat : List Item} (hi : Chosen items inner) (h : Chosen rest flat) :
      Chosen (.optional items :: rest) (inner ++ flat)

mutual

/-- The text of a part with values for its placeholders. -/
def Item.fill (values : Bindings) : Item → List Char
  | .literal c => [c]
  | .placeholder name _ => ((values.lookup name).getD "").toList
  | .optional items => '[' :: fillAll values items ++ [']']

/-- The text of a sequence of parts with values for its placeholders. -/
def fillAll (values : Bindings) : List Item → List Char
  | [] => []
  | item :: rest => item.fill values ++ fillAll values rest

end

/-- The values spell a text: the text is that of the pattern with some of the sections taken and
each placeholder replaced by its value, and there are values for just those placeholders, in the
order of the pattern. -/
def Spells (items : List Item) (values : Bindings) (s : List Char) : Prop :=
  ∃ flat, Chosen items flat ∧ values.map (·.1) = namesOf flat ∧ fillAll values flat = s

theorem Chosen.append {xs ys fx fy : List Item} (h₁ : Chosen xs fx) (h₂ : Chosen ys fy) :
    Chosen (xs ++ ys) (fx ++ fy) := by
  induction h₁ with
  | nil => exact h₂
  | literal c _ ih => exact .literal c ih
  | placeholder name constraint _ ih => exact .placeholder name constraint ih
  | leave items _ ih => exact .leave items ih
  | take hi _ _ ih =>
    rw [List.append_assoc]
    exact .take hi ih

/-- The placeholders that are left are some of the pattern's. -/
theorem Chosen.names_sublist {items flat : List Item} (h : Chosen items flat) :
    (namesOf flat).Sublist (namesOf items) := by
  induction h with
  | nil => exact .refl _
  | literal c _ ih =>
    rw [namesOf_cons, namesOf_cons]
    exact ih.append_left _
  | placeholder name constraint _ ih =>
    rw [namesOf_cons, namesOf_cons]
    exact ih.append_left _
  | leave items _ ih =>
    rw [namesOf_cons]
    exact ih.trans (List.sublist_append_right _ _)
  | take _ _ ihi ih =>
    rw [namesOf_cons, namesOf_append]
    exact ihi.append ih

theorem fillAll_append (values : Bindings) (xs ys : List Item) :
    fillAll values (xs ++ ys) = fillAll values xs ++ fillAll values ys := by
  induction xs with
  | nil => rfl
  | cons x xs ih => rw [List.cons_append, fillAll, fillAll, ih, List.append_assoc]

mutual

theorem fill_congr {values values' : Bindings} : ∀ (item : Item),
    (∀ name ∈ item.names, values.lookup name = values'.lookup name) →
    item.fill values = item.fill values'
  | .literal c, _ => rfl
  | .placeholder name constraint, h => by
    rw [Item.fill, Item.fill, h name (by simp [Item.names])]
  | .optional items, h => by
    rw [Item.fill, Item.fill, fillAll_congr items h]

theorem fillAll_congr {values values' : Bindings} : ∀ (items : List Item),
    (∀ name ∈ namesOf items, values.lookup name = values'.lookup name) →
    fillAll values items = fillAll values' items
  | [], _ => rfl
  | item :: rest, h => by
    simp only [namesOf_cons, List.mem_append] at h
    rw [fillAll, fillAll, fill_congr item fun n hn => h n (.inl hn),
      fillAll_congr rest fun n hn => h n (.inr hn)]

end

theorem Spells.append {xs ys : List Item} {vs ws : Bindings} {s t : List Char}
    (h₁ : Spells xs vs s) (hn : (namesOf xs ++ namesOf ys).Nodup) (h₂ : Spells ys ws t) :
    Spells (xs ++ ys) (vs ++ ws) (s ++ t) := by
  obtain ⟨fx, hx, hvs, rfl⟩ := h₁
  obtain ⟨fy, hy, hws, rfl⟩ := h₂
  refine ⟨fx ++ fy, hx.append hy, by rw [List.map_append, hvs, hws, namesOf_append], ?_⟩
  rw [fillAll_append]
  congr 1
  · refine fillAll_congr fx fun name hm => ?_
    have hsome : (vs.lookup name).isSome = true := by
      rw [List.lookup_isSome_iff]
      rw [← hvs] at hm
      obtain ⟨v, hv, rfl⟩ := List.mem_map.1 hm
      exact ⟨v, hv, by simp⟩
    rw [List.lookup_append, Option.or_of_isSome hsome]
  · refine fillAll_congr fy fun name hm => ?_
    have hnone : vs.lookup name = none := by
      rw [List.lookup_eq_none_iff]
      intro v hv
      have hvx : v.1 ∈ namesOf fx := hvs ▸ List.mem_map_of_mem hv
      have hne := (List.nodup_append.1 hn).2.2 v.1 (hx.names_sublist.subset hvx) name
        (hy.names_sublist.subset hm)
      simpa using fun he => hne he.symm
    rw [List.lookup_append, hnone, Option.none_or]

/-! ## The marks of parts -/

mutual

theorem groupNames_subset_names : ∀ {item : Item} {index : Nat} {e : Expr}, Fits index item e →
    groupNames index item.names.length ⊆ e.names
  | _, _, _, .literal _ _ => List.nil_subset _
  | _, _, _, .placeholder _ _ _ _ => fun _ hm =>
    List.mem_append_left _ (by simpa [groupNames, Item.names] using hm)
  | _, _, _, .optional h => fun _ hm => by
    rw [Expr.names, Expr.names_ofMembers]
    exact groupNames_subset_namesOf h hm

theorem groupNames_subset_namesOf : ∀ {items : List Item} {index : Nat} {es : List Expr},
    FitsAll index items es → groupNames index (namesOf items).length ⊆ Expr.namesOf es
  | _, _, _, .nil _ => List.nil_subset _
  | _, index, _, @FitsAll.cons _ item rest e es he hes => by
    rw [namesOf_cons, List.length_append, ← groupNames_append]
    exact List.append_subset.2 ⟨List.subset_append_of_subset_left _ (groupNames_subset_names he),
      List.subset_append_of_subset_right _ (groupNames_subset_namesOf hes)⟩

end

/-- A way through a sequence goes through its first member and then through the others. -/
theorem runs_cons {e : Expr} {es : List Expr} {p q : Place} {m : List Mark}
    (h : Runs (.ofMembers (e :: es)) p m q) :
    ∃ m₁ m₂ r, Runs e p m₁ r ∧ Runs (.ofMembers es) r m₂ q ∧ m = m₁ ++ m₂ := by
  cases es with
  | nil => exact ⟨m, [], q, h, .empty q, (List.append_nil m).symm⟩
  | cons d es =>
    cases h with
    | concat ha hb => exact ⟨_, _, _, ha, hb, rfl⟩

theorem runs_append {ds es : List Expr} {p q : Place} {m : List Mark}
    (h : Runs (.ofMembers (ds ++ es)) p m q) :
    ∃ m₁ m₂ r, Runs (.ofMembers ds) p m₁ r ∧ Runs (.ofMembers es) r m₂ q ∧ m = m₁ ++ m₂ := by
  induction ds generalizing p m with
  | nil => exact ⟨[], m, p, .empty p, h, rfl⟩
  | cons d ds ih =>
    obtain ⟨m₁, m', r, hd, hrest, rfl⟩ := runs_cons h
    obtain ⟨m₂, m₃, r', hds, hes, rfl⟩ := ih hrest
    refine ⟨m₁ ++ m₂, m₃, r', ?_, hes, (List.append_assoc _ _ _).symm⟩
    cases ds with
    | nil =>
      cases hds
      rw [List.append_nil]
      exact hd
    | cons => exact .concat hd hds

theorem rest_of_isBefore {c : Char} {p q : Place} (hs : p.isBefore (.single c) = true)
    (hq : p.next? = some q) : p.rest = [c] ++ q.rest := by
  unfold Place.next? at hq
  unfold Place.isBefore at hs
  split at hq
  · cases hq
  · rename_i x rest hr
    cases hq
    rw [hr, List.head?_cons, Option.any_some, mem_single, beq_iff_eq] at hs
    rw [hr, hs]
    rfl

theorem runs_section {e : Expr} {p q : Place} {m : List Mark}
    (h : Runs (.repetition 0 (some 1) true e) p m q) : m = [] ∧ q = p ∨ Runs e p m q := by
  cases h with
  | leave => exact .inl ⟨rfl, rfl⟩
  | copy he hr =>
    cases hr
    rw [List.append_nil]
    exact .inr he

mutual

/-- A way through the expression of a part spells what it consumes. -/
theorem spells_of_runs : ∀ (item : Item) {index : Nat} {e : Expr} {p q : Place} {m : List Mark},
    Fits index item e → item.names.Nodup → e.names.Nodup → Runs e p m q →
    ∃ s, p.rest = s ++ q.rest ∧ Spells [item] (bindingsFrom m index item.names) s
  | .literal c, index, e, p, q, m, hfits, _, _, hr => by
    cases hfits
    cases hr with
    | chars hs hq =>
      refine ⟨[c], rest_of_isBefore hs hq, [.literal c], .literal c .nil, rfl, ?_⟩
      rfl
  | .placeholder name constraint, index, e, p, q, m, hfits, _, hn, hr => by
    cases hfits with
    | placeholder _ _ _ e =>
    cases hr with
    | @group _ _ _ _ m he =>
      obtain ⟨value, hv⟩ := he.rest_eq
      -- no group inside has the name of the group
      have hnot : groupName index ∉ e.names := (List.nodup_cons.1 hn).1
      have haside : MarksAside index 1 m := by
        intro mark hm hg
        have hname : mark.name = groupName index := by simpa [groupNames] using hg
        exact hnot (hname ▸ he.name_mem mark hm)
      have hb := bindingsFrom_group haside name value q.rest
      rw [← hv] at hb
      have hb' : bindingsFrom (marksAt (some (groupName index)) true p ++ m ++
          marksAt (some (groupName index)) false q) index [name] = [(name, String.ofList value)] := hb
      refine ⟨value, hv, [.placeholder name constraint], .placeholder _ _ .nil, ?_, ?_⟩
      · rw [Item.names, hb']
        rfl
      · rw [Item.names, hb']
        simp [fillAll, Item.fill]
  | .optional items, index, e, p, q, m, hfits, hnames, hn, hr => by
    cases hfits with
    | optional hfits =>
    rcases runs_section hr with ⟨rfl, rfl⟩ | hr
    · exact ⟨[], rfl, [], .leave items .nil, by rw [bindingsFrom_nil]; rfl, rfl⟩
    · rw [Expr.names, Expr.names_ofMembers] at hn
      obtain ⟨s, hs, flat, hflat, hnames, hfill⟩ := spellsAll_of_runs items hfits hnames hn hr
      refine ⟨s, hs, flat, ?_, hnames, hfill⟩
      rw [← List.append_nil flat]
      exact .take hflat .nil

/-- A way through the expressions of parts spells what it consumes. -/
theorem spellsAll_of_runs : ∀ (items : List Item) {index : Nat} {es : List Expr} {p q : Place}
    {m : List Mark}, FitsAll index items es → (namesOf items).Nodup → (Expr.namesOf es).Nodup →
    Runs (.ofMembers es) p m q →
    ∃ s, p.rest = s ++ q.rest ∧ Spells items (bindingsFrom m index (namesOf items)) s
  | [], index, es, p, q, m, hfits, _, _, hr => by
    cases hfits
    cases hr
    exact ⟨[], rfl, [], .nil, rfl, rfl⟩
  | item :: rest, index, es, p, q, m, hfits, hnames, hn, hr => by
    cases hfits with
    | @cons _ _ _ e es hfit hfits =>
    obtain ⟨m₁, m₂, r, he, hes, rfl⟩ := runs_cons hr
    rw [namesOf_cons] at hnames ⊢
    have hn' : (e.names ++ Expr.namesOf es).Nodup := hn
    obtain ⟨hnitem, hnrest, -⟩ := List.nodup_append.1 hnames
    obtain ⟨hne, hnes, hdisjoint⟩ := List.nodup_append.1 hn'
    obtain ⟨s, hs, hitem⟩ := spells_of_runs item hfit hnitem hne he
    obtain ⟨t, ht, hrest⟩ := spellsAll_of_runs rest hfits hnrest hnes hes
    -- neither stretch has marks of the other's groups
    have h₁ : MarksAside (index + item.names.length) (namesOf rest).length m₁ := fun mark hm hg =>
      hdisjoint _ (he.name_mem mark hm) _ (groupNames_subset_namesOf hfits hg) rfl
    have h₂ : MarksAside index item.names.length m₂ := fun mark hm hg => by
      have hmem := hes.name_mem mark hm
      rw [Expr.names_ofMembers] at hmem
      exact hdisjoint _ (groupNames_subset_names hfit hg) _ hmem rfl
    rw [bindingsFrom_append h₁ h₂]
    refine ⟨s ++ t, by rw [hs, ht, List.append_assoc], ?_⟩
    exact hitem.append (by simpa using hnames) hrest

end

/-! ## Compiled patterns -/

/-- A match of an expression that has the shape of a pattern spells the whole text. -/
theorem spells_of_isMatch {items : List Item} {es : List Expr} {text : List Char} {m : List Mark}
    (hfits : FitsAll 0 items es) (hnames : (namesOf items).Nodup)
    (hn : (Expr.ofMembers (.assertion .textStart :: es ++ [.assertion .textEnd])).names.Nodup)
    (h : IsMatch (.ofMembers (.assertion .textStart :: es ++ [.assertion .textEnd])) text m) :
    Spells items (bindingsFrom m 0 (namesOf items)) text := by
  obtain ⟨p, q, hp, hr⟩ := h
  rw [Expr.names_ofMembers] at hn
  have hes : (Expr.namesOf es).Nodup := by
    simpa [Expr.namesOf, Expr.names] using hn
  obtain ⟨m₁, m₂, r, hfirst, hlast, rfl⟩ := runs_append hr
  obtain ⟨m₃, m₄, r', hstart, hbody, rfl⟩ := runs_cons hfirst
  cases hstart with
  | assertion hbefore =>
  cases hlast with
  | assertion hend =>
  have htext : p.rest = text := hp (by simpa [Assertion.holds] using hbefore)
  have hrest : q.rest = [] := by simpa [Assertion.holds] using hend
  obtain ⟨s, hs, hspells⟩ := spellsAll_of_runs items hfits hnames hes hbody
  rw [htext, hrest, List.append_nil] at hs
  rw [hs]
  simpa using hspells

/-- A pattern without placeholders and sections spells its own text. -/
theorem spells_literals {items : List Item} (h : items.all (·.isLiteral)) :
    Spells items [] (renderAll items) := by
  induction items with
  | nil => exact ⟨[], .nil, rfl, rfl⟩
  | cons item rest ih =>
    rw [List.all_cons, Bool.and_eq_true] at h
    cases item with
    | placeholder | optional => cases h.1
    | literal c =>
      obtain ⟨flat, hflat, hnames, hfill⟩ := ih h.2
      refine ⟨.literal c :: flat, .literal c hflat, ?_, ?_⟩
      · simpa [Item.names] using hnames
      · rw [fillAll, hfill, renderAll_cons]
        rfl

/-- The names of the placeholders that stand outside all sections. -/
def requiredNames : List Item → List String
  | [] => []
  | .placeholder name _ :: rest => name :: requiredNames rest
  | _ :: rest => requiredNames rest

theorem requiredNames_subset {items flat : List Item} (h : Chosen items flat) :
    requiredNames items ⊆ namesOf flat := by
  induction h with
  | nil => exact List.nil_subset _
  | literal c _ ih =>
    rw [namesOf_cons]
    exact ih
  | placeholder name constraint _ ih =>
    rw [namesOf_cons]
    exact List.cons_subset_cons _ ih
  | leave items _ ih => exact ih
  | take _ _ _ ih =>
    rw [namesOf_append]
    exact List.subset_append_of_subset_right _ ih

/-- Placeholders that stand outside all sections have values. -/
theorem Spells.requiredNames_subset {items : List Item} {values : Bindings} {s : List Char}
    (h : Spells items values s) : requiredNames items ⊆ values.map (·.1) := by
  obtain ⟨flat, hflat, hnames, -⟩ := h
  rw [hnames]
  exact Pattern.requiredNames_subset hflat

/-- A pattern confines its constraints: the values that a path binds spell the path, and every
placeholder that stands outside all sections is bound. -/
def Confines (p : Pattern) (items : List Item) : Prop :=
  ∀ path ps, p.captures? path = some ps →
    Spells items ps path.toList ∧ requiredNames items ⊆ ps.map (·.1)

section

variable [PropertyTable]

/-- Where no constraint ends inside a comment, the expression of a pattern has the shape of its
tree. -/
theorem confines_of_ended {raw : String} {p : Pattern} {items : List Item}
    (hread : readItems (Path.normalizePattern raw).toList = .ok items)
    (h : compile raw = .ok p)
    (hc : ∀ c ∈ constraintsOf items, ReaderState.endsInComment c.toList = false) :
    Confines p items := by
  intro path ps hm
  obtain ⟨items', hread', hkind, hparams⟩ := compile_eq_ok h
  obtain rfl : items = items' := Except.ok.inj (hread.symm.trans hread')
  have htree := isTreeOf_of_readItems hread
  suffices hs : Spells items ps path.toList from ⟨hs, hs.requiredNames_subset⟩
  unfold kindOf at hkind
  split at hkind
  · rename_i hl
    rw [captures?, ← Except.ok.inj hkind] at hm
    simp only at hm
    split at hm
    · rename_i hpath
      cases hm
      rw [← hpath, ← htree.render]
      exact spells_literals hl
    · cases hm
  · split at hkind
    · rename_i e he
      rw [captures?, ← Except.ok.inj hkind] at hm
      obtain ⟨m, hfind, rfl⟩ := Option.map_eq_some_iff.1 hm
      obtain ⟨es, hfits, rfl⟩ :=
        shape_of_read? (fun c hmem => ⟨htree.constraints c hmem, hc c hmem⟩) he
      rw [hparams]
      exact spells_of_isMatch hfits htree.names (nodup_names_of_read? he) (isMatch_of_findIn hfind)
    · cases hkind

/-- **A constraint stays in its placeholder, unless it ends inside a comment.** A pattern confines
its constraints if none of them does. No constraint that does can be excepted: the pattern made for
it does not confine it. -/
theorem confines_of_compile {raw : String} {p : Pattern} {items : List Item}
    (hread : readItems (Path.normalizePattern raw).toList = .ok items)
    (h : compile raw = .ok p) :
    renderAll items = (Path.normalizePattern raw).toList ∧
    ((∀ c ∈ constraintsOf items, ReaderState.endsInComment c.toList = false) →
      Confines p items) ∧
    ∀ c, items = losingItems c → groupName 1 ∉ ReaderState.namesIn c.toList →
      ReaderState.endsInComment c.toList = true → ¬ Confines p items := by
  refine ⟨(isTreeOf_of_readItems hread).render, confines_of_ended hread h, ?_⟩
  rintro c rfl hn hc hconfines
  obtain ⟨hsome, hnot⟩ := loses_of_endsInComment hread h hc hn
  obtain ⟨ps, hm⟩ := Option.isSome_iff_exists.1 hsome
  exact hnot _ _ hm ((hconfines _ _ hm).2 (by simp [losingItems, requiredNames]))

/-- What a pattern of a known tree compiles to, and what it then answers, from what can be
evaluated. -/
theorem exists_compiled {raw path : String} {items : List Item} {ps : Bindings}
    (hs : Path.normalizePattern raw = String.ofList (renderAll items))
    (hw : areWellFormed items = true)
    (hm : ((compile raw).toOption.filter (!·.isFixed)).bind (·.captures? path) = some ps) :
    ∃ p, compile raw = .ok p ∧ readItems (Path.normalizePattern raw).toList = .ok items ∧
      p.isFixed = false ∧ p.captures? path = some ps := by
  obtain ⟨p, hp, hps⟩ := Option.bind_eq_some_iff.1 hm
  obtain ⟨hp, hfixed⟩ := Option.filter_eq_some_iff.1 hp
  have hok : compile raw = .ok p := by
    cases h : compile raw with
    | error e =>
      rw [h] at hp
      cases hp
    | ok p' =>
      rw [h] at hp
      exact congrArg Except.ok (Option.some.inj hp)
  obtain ⟨items', hread, -, -⟩ := compile_eq_ok hok
  have hread' := hread
  rw [hs, String.toList_ofList] at hread'
  obtain rfl := readItems_renderAll hw hread'
  exact ⟨p, hok, hread, by simpa using hfixed, hps⟩

end

/-- A pattern with a group of its own in one constraint, and a comment that ends with its line in
the other. -/
def commentedItems : List Item :=
  [.literal '/', .placeholder "id" (some "(?P<n>\\d+)"),
    .optional [.literal '.', .placeholder "ext" (some "(?x)[a-z]+ # letters\n")]]

theorem spells_commentedItems : ∃ p,
    compile "/\x7bid:(?P<n>\\d+)\x7d[.\x7bext:(?x)[a-z]+ # letters\n\x7d]" = .ok p ∧
    p.captures? "/42.txt" = some [("id", "42"), ("ext", "txt")] ∧
    Spells commentedItems [("id", "42"), ("ext", "txt")] "/42.txt".toList := by
  have hs : Path.normalizePattern "/\x7bid:(?P<n>\\d+)\x7d[.\x7bext:(?x)[a-z]+ # letters\n\x7d]" =
      String.ofList (renderAll commentedItems) := by decide +kernel
  have hw : areWellFormed commentedItems = true := by decide +kernel
  have hc : ∀ c ∈ constraintsOf commentedItems,
      ReaderState.endsInComment c.toList = false := by decide +kernel
  obtain ⟨p, hok, hread, -, hm⟩ := exists_compiled hs hw (by decide +kernel :
    ((compile _).toOption.filter (!·.isFixed)).bind (·.captures? "/42.txt") =
      some [("id", "42"), ("ext", "txt")])
  exact ⟨p, hok, hm, ((confines_of_compile hread hok).2.1 hc _ _ hm).1⟩

/-- A pattern with a comment that does not end in a constraint. -/
def openCommentItems : List Item :=
  [.literal '/', .placeholder "a" (some "(?x)x#"), .placeholder "b" (some "\n")]

/-- The comment takes the next placeholder along, which is never bound. -/
theorem not_spells_openCommentItems : ∃ p,
    compile "/\x7ba:(?x)x#\x7d\x7bb:\n\x7d" = .ok p ∧
    readItems (Path.normalizePattern "/\x7ba:(?x)x#\x7d\x7bb:\n\x7d").toList =
      .ok openCommentItems ∧
    p.isFixed = false ∧ p.captures? "/x" = some [("a", "x")] ∧
    ¬ Spells openCommentItems [("a", "x")] "/x".toList := by
  have hs : Path.normalizePattern "/\x7ba:(?x)x#\x7d\x7bb:\n\x7d" =
      String.ofList (renderAll openCommentItems) := by decide +kernel
  have hw : areWellFormed openCommentItems = true := by decide +kernel
  obtain ⟨p, hok, hread, hfixed, hm⟩ := exists_compiled hs hw (by decide +kernel :
    ((compile _).toOption.filter (!·.isFixed)).bind (·.captures? "/x") = some [("a", "x")])
  refine ⟨p, hok, hread, hfixed, hm, fun h => ?_⟩
  have hb : "b" ∈ [("a", "x")].map (·.1) := h.requiredNames_subset (by decide +kernel)
  revert hb
  decide

end UriRouter.Pattern
