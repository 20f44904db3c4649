import UriRouter.Proofs.Pattern.Continuation
import UriRouter.Proofs.Text.Scalar

/-!
# The paths of the users' controller

The patterns of the users' controller ask for digits, for word characters, for small letters, or
for digits that may have a `-` before them. None of these can be read from a path in two ways, so
each pattern matches the texts of one form, and binds what stands in its places.

* `mem_andThen`, `mem_run` and their like : which ways lead through a text;
* `IsNumbered`, `captures?_numbered` : a number, and perhaps a word after it;
* `IsPage`, `captures?_page` : a word and an integer.
-/

set_option autoImplicit false

namespace UriRouter

open UriRouter.Text UriRouter.Pattern UriRouter.Regex

/-! ## Which ways lead through a text -/

namespace Regex.Ways

variable {p : Char → Bool} {v w : Ways} {s : List Char} {x : List Mark × List Char}

theorem mem_andThen : x ∈ v.andThen w s ↔
    ∃ y ∈ v s, ∃ z ∈ w y.2, x = (y.1 ++ z.1, z.2) := by
  simp only [andThen, List.mem_flatMap, List.mem_map, eq_comm]

theorem mem_one : x ∈ one p s ↔ ∃ c t, s = c :: t ∧ p c = true ∧ x = ([], t) := by
  cases s with
  | nil => simp [one]
  | cons c t =>
    rw [one]
    by_cases hc : p c = true <;> simp [hc]

theorem mem_run : x ∈ run p s ↔ ∃ v t, s = v ++ t ∧ IsRunOf p v ∧ x = ([], t) := by
  rw [run_eq_runs, List.mem_map]
  constructor
  · rintro ⟨⟨v, t⟩, hy, rfl⟩
    obtain ⟨rfl, hne, hall⟩ := mem_runs.1 hy
    exact ⟨v, t, rfl, ⟨hne, hall⟩, rfl⟩
  · rintro ⟨v, t, rfl, h, rfl⟩
    exact ⟨(v, t), mem_runs.2 ⟨rfl, h.nonempty, h.all⟩, rfl⟩

theorem mem_orNone : x ∈ w.orNone s ↔ x ∈ w s ∨ x = ([], s) := by
  rw [orNone, List.mem_append, List.mem_singleton]

theorem mem_noting {name : String} : x ∈ w.noting name s ↔
    ∃ y ∈ w s, x = (⟨name, true, s⟩ :: y.1 ++ [⟨name, false, y.2⟩], y.2) := by
  simp only [noting, List.mem_map, eq_comm]

theorem mem_atEnd : x ∈ atEnd s ↔ s = [] ∧ x = ([], []) := by
  cases s with
  | nil => simp [atEnd]
  | cons c s => simp [atEnd]

/-- The ways that consume a text. -/
def literally (s : List Char) : List Ways := s.map fun c => one (· == c)

/-- A text that is read first is what a longer text begins with. -/
theorem mem_foldr_literally {base : List Char} {ws : List Ways} :
    x ∈ (literally base ++ ws).foldr andThen done s ↔
      ∃ t, s = base ++ t ∧ x ∈ ws.foldr andThen done t := by
  induction base generalizing s x with
  | nil => simp [literally]
  | cons c base ih =>
    rw [literally, List.map_cons, List.cons_append, List.foldr_cons, mem_andThen, ← literally]
    simp only [mem_one, ih, beq_iff_eq]
    constructor
    · rintro ⟨_, ⟨d, t, rfl, rfl, rfl⟩, z, ⟨u, rfl, hz⟩, rfl⟩
      exact ⟨u, rfl, hz⟩
    · rintro ⟨u, rfl, hx⟩
      exact ⟨_, ⟨c, _, rfl, rfl, rfl⟩, x, ⟨u, rfl, hx⟩, rfl⟩

/-- The ways that consume digits, perhaps after a `-`. -/
def signedDigits : Ways := (one (· == '-')).orNone.andThen (run isAsciiDigit)

theorem mem_signedDigits :
    x ∈ signedDigits s ↔ ∃ v t, s = v ++ t ∧ IsSignedDigits v ∧ x = ([], t) := by
  rw [signedDigits, mem_andThen]
  simp only [mem_orNone, mem_one, mem_run, beq_iff_eq]
  constructor
  · rintro ⟨_, ⟨c, t, rfl, rfl, rfl⟩ | rfl, _, ⟨v, u, hs, hv, rfl⟩, rfl⟩
    · exact ⟨'-' :: v, u, congrArg ('-' :: ·) hs, ⟨v, hv, .inr rfl⟩, rfl⟩
    · exact ⟨v, u, hs, ⟨v, hv, .inl rfl⟩, rfl⟩
  · rintro ⟨_, t, rfl, ⟨digits, hd, rfl | rfl⟩, rfl⟩
    · exact ⟨_, .inr rfl, _, ⟨_, t, rfl, hd, rfl⟩, rfl⟩
    · exact ⟨_, .inl ⟨'-', _, rfl, rfl, rfl⟩, _, ⟨digits, t, rfl, hd, rfl⟩, rfl⟩

end Regex.Ways

namespace Showcase

/-! ## A word and an integer -/

/-- The small ASCII letters. -/
def isSmallAsciiLetter (c : Char) : Bool := 'a' ≤ c && c ≤ 'z'

/-- The path of a page, and what it binds. -/
def IsPage (path : String) (bindings : Bindings) : Prop :=
  ∃ slug offset : String, IsRunOf isSmallAsciiLetter slug.toList ∧ IsSignedDigits offset.toList ∧
    path = "/page/" ++ slug ++ "/" ++ offset ∧ bindings = [("slug", slug), ("offset", offset)]

/-- The pattern for pages. -/
def pagePattern : String := "/page/\x7bslug:[a-z]+\x7d/\x7boffset:-?[0-9]+\x7d"

/-- The members of the expression that pages are matched by. -/
def pageMembers : List Expr :=
  "/page/".toList.map (fun c => .chars (.single c)) ++
    [.group (some (groupName 0)) (.repetition 1 none true (.chars (.range 'a' 'z'))),
      .chars (.single '/'),
      .group (some (groupName 1)) (.concat (.repetition 0 (some 1) true (.chars (.single '-')))
        (.repetition 1 none true (.chars .asciiDigits))),
      .assertion .textEnd]

/-- The ways of these members. -/
def pageWays : List Ways :=
  Ways.literally "/page/".toList ++
    [(Ways.run isSmallAsciiLetter).noting (groupName 0), .one (· == '/'),
      Ways.signedDigits.noting (groupName 1), .atEnd]

theorem follows_literally (s : List Char) :
    List.Forall₂ Follows (s.map fun c => .chars (.single c)) (Ways.literally s) := by
  induction s with
  | nil => exact .nil
  | cons c s ih => exact .cons (follows_chars (mem_single c)) ih

theorem follows_pageMembers :
    Follows (.ofMembers pageMembers) (pageWays.foldr .andThen .done) := by
  have hsmall : ∀ c, (CharSet.range 'a' 'z').mem c = isSmallAsciiLetter c := mem_range 'a' 'z'
  have hslug := follows_group (groupName 0) (follows_run (by decide) hsmall)
  have hdigits := follows_run (by decide) CharSet.mem_asciiDigits
  have hoffset := follows_group (groupName 1)
    (follows_concat (follows_section (follows_chars (mem_single '-'))) hdigits)
  exact follows_ofMembers (List.rel_append (follows_literally _)
    (.cons hslug (.cons (follows_chars (mem_single '/')) (.cons hoffset
      (.cons follows_textEnd .nil)))))

/-- The marks that are left by the groups for a word and an integer. -/
def pageMarks (slug offset : List Char) : List Mark :=
  [⟨groupName 0, true, slug ++ '/' :: offset⟩, ⟨groupName 0, false, '/' :: offset⟩,
    ⟨groupName 1, true, offset⟩, ⟨groupName 1, false, []⟩]

theorem mem_pageWays {s : List Char} {x : List Mark × List Char} :
    x ∈ (pageWays.foldr Ways.andThen Ways.done) s ↔
      ∃ slug offset, IsRunOf isSmallAsciiLetter slug ∧ IsSignedDigits offset ∧
        s = "/page/".toList ++ (slug ++ '/' :: offset) ∧ x = (pageMarks slug offset, []) := by
  rw [pageWays, Ways.mem_foldr_literally]
  simp only [List.foldr_cons, List.foldr_nil, Ways.andThen_done, Ways.mem_andThen, Ways.mem_noting,
    Ways.mem_run, Ways.mem_one, Ways.mem_signedDigits, Ways.mem_atEnd, beq_iff_eq]
  constructor
  · rintro ⟨_, rfl, _, ⟨_, ⟨slug, _, rfl, hslug, rfl⟩, rfl⟩, _, ⟨_, ⟨_, _, rfl, rfl, rfl⟩,
      _, ⟨_, ⟨_, ⟨offset, _, rfl, hoffset, rfl⟩, rfl⟩, _, ⟨rfl, rfl⟩, rfl⟩, rfl⟩, rfl⟩
    refine ⟨slug, offset, hslug, hoffset, by simp, ?_⟩
    simp [pageMarks]
  · rintro ⟨slug, offset, hslug, hoffset, rfl, rfl⟩
    exact ⟨_, rfl, _, ⟨_, ⟨slug, _, rfl, hslug, rfl⟩, rfl⟩, _, ⟨_, ⟨_, _, rfl, rfl, rfl⟩,
      _, ⟨_, ⟨_, ⟨offset, [], by simp, hoffset, rfl⟩, rfl⟩, _, ⟨rfl, rfl⟩, rfl⟩, rfl⟩, rfl⟩

theorem bindingsFrom_pageMarks (slug offset : List Char) :
    bindingsFrom (pageMarks slug offset) 0 ["slug", "offset"] =
      [("slug", String.ofList slug), ("offset", String.ofList offset)] := by
  have hslug := bindingsFrom_group (fun _ h => nomatch h : MarksAside 0 1 []) "slug" slug
    ('/' :: offset)
  have hoffset := bindingsFrom_group (fun _ h => nomatch h : MarksAside 1 1 []) "offset" offset []
  rw [List.append_nil] at hoffset
  have hfirst : MarksAside 1 1 [⟨groupName 0, true, slug ++ '/' :: offset⟩,
      ⟨groupName 0, false, '/' :: offset⟩] := by
    intro mark hm
    have hname : mark.name = groupName 0 := by
      rcases List.mem_pair.1 hm with rfl | rfl <;> rfl
    rw [hname]
    exact notMem_groupNames (.inl Nat.one_pos)
  have hsecond : MarksAside 0 1 [⟨groupName 1, true, offset⟩, ⟨groupName 1, false, []⟩] := by
    intro mark hm
    have hname : mark.name = groupName 1 := by
      rcases List.mem_pair.1 hm with rfl | rfl <;> rfl
    rw [hname]
    exact notMem_groupNames (.inr (Nat.le_refl 1))
  exact (bindingsFrom_append hfirst hsecond).trans (congrArg₂ (· ++ ·) hslug hoffset)

theorem notMem_slash {p : Char → Bool} {v : List Char} (h : IsRunOf p v) (hp : p '/' = false) :
    '/' ∉ v := by
  intro hm
  rw [h.all '/' hm] at hp
  cases hp

/-- A word and what follows are known from the path. -/
theorem page_inj {slug slug' offset offset' : String} (hs : '/' ∉ slug.toList)
    (hs' : '/' ∉ slug'.toList)
    (h : "/page/" ++ slug ++ "/" ++ offset = "/page/" ++ slug' ++ "/" ++ offset') :
    slug = slug' ∧ offset = offset' := by
  have htext : slug.toList ++ '/' :: offset.toList = slug'.toList ++ '/' :: offset'.toList := by
    have hlist := congrArg String.toList h
    simpa using hlist
  obtain ⟨hslug, hoffset⟩ := ResourceAction.piece_inj hs hs' (by simp) (by simp) htext
  exact ⟨String.toList_inj.1 hslug, String.toList_inj.1 (List.cons.inj hoffset).2⟩

theorem IsPage.unique {path : String} {b b' : Bindings} (h : IsPage path b) (h' : IsPage path b') :
    b = b' := by
  obtain ⟨slug, offset, hslug, -, rfl, rfl⟩ := h
  obtain ⟨slug', offset', hslug', -, hpath, rfl⟩ := h'
  obtain ⟨rfl, rfl⟩ := page_inj (notMem_slash hslug rfl) (notMem_slash hslug' rfl) hpath
  rfl

/-- The parts of the pattern for pages. -/
def pageItems : List Item :=
  "/page/".toList.map .literal ++ [.placeholder "slug" (some "[a-z]+"), .literal '/',
    .placeholder "offset" (some "-?[0-9]+")]

theorem compile_pagePattern [PropertyTable] : compile pagePattern =
    .ok ⟨pagePattern, .matched ⟨"^/page/(?P<__sy0>[a-z]+)/(?P<__sy1>-?[0-9]+)$",
      .concat (.assertion .textStart) (.ofMembers pageMembers)⟩, ["slug", "offset"]⟩ := by
  -- reading asks for a table, which `decide` cannot look into; the rest is closed
  have hread : readItems (Path.normalizePattern pagePattern).toList = .ok pageItems := rfl
  have hliteral : pageItems.all (·.isLiteral) = false := by decide
  have htext : matcherText pageItems = "^/page/(?P<__sy0>[a-z]+)/(?P<__sy1>-?[0-9]+)$".toList := by
    decide +kernel
  have hexpr : read? "^/page/(?P<__sy0>[a-z]+)/(?P<__sy1>-?[0-9]+)$".toList =
      some (.concat (.assertion .textStart) (.ofMembers pageMembers)) := rfl
  have hnames : namesOf pageItems = ["slug", "offset"] := by decide +kernel
  simp only [compile, hread, kindOf, hliteral, htext, hexpr, hnames, Bool.false_eq_true, ↓reduceIte,
    String.ofList_toList]

/-- **The pattern for pages** matches a word and an integer, and nothing else. -/
theorem captures?_page [PropertyTable] {p : Pattern} (h : compile pagePattern = .ok p)
    {path : String} {bindings : Bindings} :
    p.captures? path = some bindings ↔ IsPage path bindings := by
  obtain rfl := Except.ok.inj (h.symm.trans compile_pagePattern)
  show Option.map (bindingsFrom · 0 ["slug", "offset"]) (Expr.findIn _ path.toList) = _ ↔ _
  rw [findIn_of_follows follows_pageMembers]
  simp only [Option.map_map, Option.map_eq_some_iff, Function.comp_apply]
  have hpage : ∀ x ∈ (pageWays.foldr Ways.andThen Ways.done) path.toList,
      IsPage path (bindingsFrom x.1 0 ["slug", "offset"]) := by
    intro x hx
    obtain ⟨slug, offset, hslug, hoffset, hpath, rfl⟩ := mem_pageWays.1 hx
    refine ⟨String.ofList slug, String.ofList offset, ?_, ?_, ?_, bindingsFrom_pageMarks _ _⟩
    · rwa [String.toList_ofList]
    · rwa [String.toList_ofList]
    · rw [← String.toList_inj, hpath]
      simp
  constructor
  · rintro ⟨x, hx, rfl⟩
    exact hpage x (List.mem_of_head? hx)
  · intro hb
    have hne : (pageWays.foldr Ways.andThen Ways.done) path.toList ≠ [] := by
      obtain ⟨slug, offset, hslug, hoffset, rfl, -⟩ := hb
      exact List.ne_nil_of_mem <|
        mem_pageWays.2 ⟨slug.toList, offset.toList, hslug, hoffset, by simp, rfl⟩
    exact ⟨_, List.head?_eq_some_head hne, (hpage _ (List.head_mem hne)).unique hb⟩

/-! ## A number, and perhaps a word -/

/-- A path with a number after some text, and perhaps with a word after that, and what it binds. -/
def IsNumbered (base name path : String) (bindings : Bindings) : Prop :=
  ∃ id : String, IsRunOf isAsciiDigit id.toList ∧
    (path = base ++ id ∧ bindings = [("id", id)] ∨
      ∃ value : String, IsRunOf isAsciiWordChar value.toList ∧
        path = base ++ id ++ "/" ++ value ∧ bindings = [("id", id), (name, value)])

/-- The parts of a pattern for such paths. -/
def numberedItems (base name : String) : List Item :=
  literals base.toList ++ [.placeholder "id" (some "[0-9]+"),
    .optional [.literal '/', .placeholder name (some "\\w+")]]

/-- A text that spells such a pattern, and one that is well formed. -/
structure SpellsNumbered (raw base name : String) : Prop where
  text : Path.normalizePattern raw = String.ofList (renderAll (numberedItems base name))
  wellFormed : areWellFormed (numberedItems base name) = true
  distinct : (namesOf (numberedItems base name)).Nodup
  shallow : Part.depthOf (matcherParts (numberedItems base name)) ≤ Part.maxDepth

theorem mem_readingsOf_slash {items : List Item} {s : List Char} {y : Bindings × List Char} :
    y ∈ readingsOf (.literal '/' :: items) s ↔ ∃ t, s = '/' :: t ∧ y ∈ readingsOf items t :=
  @mem_readingsOf_literals_append ['/'] items s y

theorem mem_readingsOf_numbered {base name path : String} {bindings : Bindings} :
    (bindings, []) ∈ readingsOf (numberedItems base name) path.toList ↔
      IsNumbered base name path bindings := by
  have hnil : ∀ s, readingsOf [] s = [([], s)] := fun s => by rw [readingsOf]
  simp only [numberedItems, mem_readingsOf_literals_append, mem_readingsOf_placeholder,
    readingsOf_section, mem_readingsOf_slash, List.mem_append, List.mem_singleton, hnil]
  constructor
  · rintro ⟨_, hpath, id, _, z, rfl, hne, hid,
      ⟨_, rfl, v, t, _, rfl, hv, hword, rfl, rfl⟩ | rfl, hb⟩
    · obtain ⟨rfl, rfl⟩ := Prod.mk.inj hb
      have hdigits : IsRunOf isAsciiDigit id := ⟨hne, hid⟩
      have hvalue : IsRunOf isAsciiWordChar v := ⟨hv, hword⟩
      refine ⟨String.ofList id, by rwa [String.toList_ofList], .inr
        ⟨String.ofList v, by rwa [String.toList_ofList], ?_, rfl⟩⟩
      rw [← String.toList_inj, hpath]
      simp
    · obtain ⟨rfl, rfl⟩ := Prod.mk.inj hb
      have hdigits : IsRunOf isAsciiDigit id := ⟨hne, hid⟩
      refine ⟨String.ofList id, by rwa [String.toList_ofList], .inl ⟨?_, rfl⟩⟩
      rw [← String.toList_inj, hpath]
      simp
  · rintro ⟨id, hid, ⟨rfl, rfl⟩ | ⟨v, hv, rfl, rfl⟩⟩
    · exact ⟨id.toList, String.toList_append, id.toList, [], ([], []), by simp, hid.nonempty,
        hid.all, .inr rfl, by simp⟩
    · exact ⟨id.toList ++ '/' :: v.toList, by simp, id.toList, '/' :: v.toList,
        ([(name, v)], []), rfl, hid.nonempty, hid.all,
        .inl ⟨v.toList, rfl, v.toList, [], ([], []), by simp, hv.nonempty, hv.all, rfl, by simp⟩,
        by simp⟩

/-- The number is known from the path, and so is the word after it. -/
theorem IsNumbered.unique {base name path : String} {b b' : Bindings}
    (h : IsNumbered base name path b) (h' : IsNumbered base name path b') : b = b' := by
  -- what comes after the number is nothing, or a `/` and the word
  have hform : ∀ {b}, IsNumbered base name path b → ∃ id : String, ∃ after : List Char,
      '/' ∉ id.toList ∧ (∀ c ∈ after.head?, c = '/') ∧
        path.toList = base.toList ++ (id.toList ++ after) ∧
        b = ("id", id) :: if after = [] then [] else [(name, String.ofList after.tail)] := by
    rintro b ⟨id, hid, ⟨rfl, rfl⟩ | ⟨v, hv, rfl, rfl⟩⟩
    · exact ⟨id, [], notMem_slash hid rfl, by simp, by simp, by simp⟩
    · exact ⟨id, '/' :: v.toList, notMem_slash hid rfl, by simp, by simp, by simp⟩
  obtain ⟨id, after, hid, hafter, hpath, rfl⟩ := hform h
  obtain ⟨id', after', hid', hafter', hpath', rfl⟩ := hform h'
  have htext := List.append_cancel_left (hpath.symm.trans hpath')
  obtain ⟨hids, rfl⟩ := ResourceAction.piece_inj hid hid' hafter hafter' htext
  rw [String.toList_inj.1 hids]

theorem constraintsOf_numbered (base name : String) :
    constraintsOf (numberedItems base name) = ["[0-9]+", "\\w+"] :=
  constraintsOf_literals_append _ _

theorem mem_runConstraints_numbered (base name : String) :
    ∀ c ∈ constraintsOf (numberedItems base name), c ∈ runConstraints := by
  rw [constraintsOf_numbered]
  decide

/-- A well-formed pattern for a number, and perhaps a word, compiles. -/
theorem exists_compile_numbered [PropertyTable] {raw base name : String}
    (h : SpellsNumbered raw base name) : ∃ p, compile raw = .ok p := by
  have hread : readItems (Path.normalizePattern raw).toList = .ok (numberedItems base name) := by
    rw [h.text, String.toList_ofList]
    refine readItems_of_isTreeOf ⟨rfl, h.wellFormed, h.distinct, ?_⟩
    rw [constraintsOf_numbered]
    intro c hc
    rcases List.mem_pair.1 hc with rfl | rfl <;> rfl
  have hexpr := read?_matcherText (mem_runConstraints_numbered base name)
  rw [if_pos h.shallow] at hexpr
  exact exists_compile_iff.2 ⟨_, hread, by rw [hexpr]; rfl⟩

/-- **A pattern for a number, and perhaps a word**, matches such paths and no others. -/
theorem captures?_numbered [PropertyTable] {raw base name : String} {p : Pattern}
    (hs : SpellsNumbered raw base name) (h : compile raw = .ok p) {path : String}
    {bindings : Bindings} :
    p.captures? path = some bindings ↔ IsNumbered base name path bindings := by
  have hkind :=
    compile_of_runs hs.text hs.wellFormed (mem_runConstraints_numbered base name) h
  rw [captures?_of_kind hkind, directCaptures?_eq_some_iff]
  · exact mem_readingsOf_numbered
  · intro x y hx hy
    exact (mem_readingsOf_numbered.1 hx).unique (mem_readingsOf_numbered.1 hy)

end Showcase

end UriRouter
