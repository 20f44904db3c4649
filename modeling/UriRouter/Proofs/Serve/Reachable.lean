import UriRouter.Proofs.Pattern.Containment
import UriRouter.Proofs.Serve.Allowed

/-!
# Routes that requests can reach

A request's path is brought into normal form before it is matched, so a path that a pattern
matches can be requested as it stands only if it begins with `/`. A pattern begins with `/` as
well, unless it begins with a section. What is left of it when that section is left out need not,
and then no request reaches the route by it.

* `RouteTable.find_add` : what a table with a single route finds;
* `alwaysBegins` : how the paths that a pattern matches begin;
* `Router.reaches_of_alwaysBegins` : when a route can be reached by every path that its pattern
  matches, and when by none.
-/

set_option autoImplicit false

namespace UriRouter

variable {ρ : Type}

/-! ## Tables with a single route -/

theorem MethodRoutes.empty_of_toList_eq_nil {r : MethodRoutes ρ} (h : r.toList = []) :
    (∀ path, r.fixed.get? path = none) ∧ r.matched = [] := by
  obtain ⟨hf, hm⟩ := List.append_eq_nil_iff.1 h
  have hentries : r.fixed.entries = [] := List.map_eq_nil_iff.1 hf
  refine ⟨fun path => ?_, hm⟩
  rw [NameMap.get?, hentries]
  rfl

theorem MethodRoutes.find_of_toList_eq_nil {r : MethodRoutes ρ} (h : r.toList = [])
    (path : String) : r.find path = none := by
  obtain ⟨hget, hm⟩ := empty_of_toList_eq_nil h
  rw [find, hget, hm]
  rfl

/-- A route that is added to no others is all that is found. -/
theorem MethodRoutes.find_add {r : MethodRoutes ρ} (h : r.toList = []) (route : Route ρ)
    (path : String) :
    (r.add route).find path = (route.pattern.captures? path).map (⟨route, ·⟩) := by
  obtain ⟨hget, hm⟩ := empty_of_toList_eq_nil h
  rw [add]
  cases hk : route.pattern.kind with
  | fixed fixed =>
    simp only [find, NameMap.get?_insert, hget, hm, firstMatch, Pattern.captures?, hk]
    by_cases hp : fixed = path
    · simp [hp]
    · simp [hp, Ne.symm hp]
  | matched matcher =>
    simp only [find, hget, hm, List.nil_append, firstMatch, Pattern.captures?, hk]
    cases matcher.expr.findIn path.toList <;> rfl

namespace RouteTable

theorem toList_routesOf {t : RouteTable ρ} (h : t.toList = []) (method : String) :
    (t.routesOf method).toList = [] := by
  unfold routesOf
  cases hg : t.methods.get? method with
  | none => rfl
  | some routes =>
    have hmem : routes ∈ t.methods.values := by
      have he := NameMap.mem_of_findEntry hg
      exact List.mem_map.2 ⟨_, he, rfl⟩
    exact List.flatMap_eq_nil_iff.1 h routes hmem

/-- The route of a table with a single route is found by what its pattern matches in normal
form, and nothing else is. -/
theorem find_add {t : RouteTable ρ} (h : t.toList = []) (route : Route ρ) (method path : String) :
    (t.add route).find method path =
      if Method.normalize method = route.method then
        (route.pattern.captures? (Path.normalize path)).map (⟨route, ·⟩)
      else none := by
  rw [find_eq, routesOf_add]
  split
  · exact MethodRoutes.find_add (toList_routesOf h _) route _
  · exact MethodRoutes.find_of_toList_eq_nil (toList_routesOf h _) _

theorem allowedMethods_add {t : RouteTable ρ} (h : t.toList = []) {route : Route ρ}
    {path : String} (hn : route.pattern.captures? (Path.normalize path) = none) :
    (t.add route).allowedMethods path = [] := by
  refine List.map_eq_nil_iff.2 (List.filter_eq_nil_iff.2 fun e he => ?_)
  rw [MethodRoutes.accepts_eq_isSome, Option.not_isSome_iff_eq_none]
  rcases NameMap.mem_of_mem_insertEntry he with rfl | he
  · rw [MethodRoutes.find_add (toList_routesOf h _), hn]
    rfl
  · have hmem : e.2 ∈ t.methods.values := List.mem_map.2 ⟨e, he, rfl⟩
    exact MethodRoutes.find_of_toList_eq_nil (List.flatMap_eq_nil_iff.1 h _ hmem) _

end RouteTable

namespace Router

/-- What a router with a single route makes of a request with the route's method. -/
theorem resolve_add {t : RouteTable ρ} (h : t.toList = []) {route : Route ρ} {method : String}
    (hm : Method.normalize method = route.method) (strategies : Strategies ρ)
    (targets : Targets ρ) (path : String) :
    (new (t.add route) strategies targets).resolve method path =
      match route.pattern.captures? (Path.normalize path) with
      | some ps => .ok ⟨route, ps⟩
      | none => .error (.notFound route.method path) := by
  have hfind : ∀ m q, (new (t.add route) strategies targets).table.find m q =
      (t.add route).find m q := fun _ _ => rfl
  have hallowed : (new (t.add route) strategies targets).table.allowedMethods path =
      (t.add route).allowedMethods path := rfl
  cases hc : route.pattern.captures? (Path.normalize path) with
  | some ps =>
    refine resolve_eq_ok.2 ?_
    rw [hfind, RouteTable.find_add h, if_pos hm, hc]
    rfl
  | none =>
    refine resolve_eq_notFound.2 ⟨⟨hm, rfl⟩, ?_, ?_⟩
    · rw [hfind, RouteTable.find_add h, if_pos hm, hc]
      rfl
    · rw [hallowed]
      exact RouteTable.allowedMethods_add h hc

end Router

/-! ## Normal forms -/

namespace Path

theorem normalize_of_toList {path : String} {rest : List Char} (h : path.toList = '/' :: rest) :
    normalize path = path := by
  rw [normalize, h]
  rfl

theorem normalize_of_head? {path : String} (h : path.toList.head? = some '/') :
    normalize path = path := by
  obtain ⟨rest, hrest⟩ := List.head?_eq_some_iff.1 h
  exact normalize_of_toList hrest

theorem normalize_of_head?_ne {path : String} (h : path.toList.head? ≠ some '/') :
    normalize path = "/" ++ path := by
  unfold normalize
  split
  · rename_i hpath
    rw [hpath] at h
    exact absurd rfl h
  · rfl

/-- What comes after a text does not matter to its normal form. -/
theorem normalize_append {s : String} (h : s ≠ "") (t : String) :
    normalize (s ++ t) = normalize s ++ t := by
  cases hs : s.toList with
  | nil => exact absurd (String.toList_eq_nil_iff.1 hs) h
  | cons c rest =>
    have happend : (s ++ t).toList = c :: (rest ++ t.toList) := by
      rw [String.toList_append, hs]
      rfl
    by_cases hc : c = '/'
    · subst hc
      rw [normalize_of_toList hs, normalize_of_toList happend]
    · have hhead : s.toList.head? ≠ some '/' := by
        rw [hs]
        exact fun he => hc (Option.some.inj he)
      have hhead' : (s ++ t).toList.head? ≠ some '/' := by
        rw [happend]
        exact fun he => hc (Option.some.inj he)
      rw [normalize_of_head?_ne hhead, normalize_of_head?_ne hhead', String.append_assoc]

/-- The normal form of a text has no characters but those of the text and `/`. -/
theorem mem_normalize {s : String} {c : Char} (h : c ∈ (normalize s).toList) :
    c = '/' ∨ c ∈ s.toList := by
  unfold normalize at h
  split at h
  · exact .inr h
  · rw [String.toList_append] at h
    exact List.mem_cons.1 h

theorem normalizePattern_of_head? {raw : String} (h : raw.toList.head? ≠ some '[') :
    normalizePattern raw = normalize raw := by
  unfold normalizePattern
  split
  · rename_i hraw
    rw [hraw] at h
    exact absurd rfl h
  · rfl

end Path

/-! ## How matching paths begin -/

namespace Pattern

mutual

/-- Whether each text that is left of a part begins with a literal character of a class, where
`after` says so of what comes after the part. -/
def Item.alwaysBegins (p : Char → Bool) (after : Bool) : Item → Bool
  | .literal c => p c
  | .placeholder _ _ => false
  | .optional items => Pattern.alwaysBegins p after items && after

/-- Whether each text that is left of a sequence of parts, when some of its sections are taken and
the others left out, begins with a literal character of a class. What `after` says holds of the
empty text. -/
def alwaysBegins (p : Char → Bool) (after : Bool) : List Item → Bool
  | [] => after
  | item :: rest => item.alwaysBegins p (alwaysBegins p after rest)

end

theorem Chosen.begins {p : Char → Bool} {items flat : List Item} (h : Chosen items flat) :
    ∀ {after : Bool}, alwaysBegins p after items = true →
      flat = [] ∧ after = true ∨ ∃ c rest, flat = .literal c :: rest ∧ p c = true := by
  induction h with
  | nil =>
    intro after ha
    exact .inl ⟨rfl, ha⟩
  | literal c _ _ =>
    intro after ha
    exact .inr ⟨c, _, rfl, ha⟩
  | placeholder _ _ _ _ =>
    intro after ha
    cases ha
  | leave items _ ih =>
    intro after ha
    rw [alwaysBegins, Item.alwaysBegins, Bool.and_eq_true] at ha
    exact ih ha.2
  | take _ _ ihi ih =>
    intro after ha
    rw [alwaysBegins, Item.alwaysBegins, Bool.and_eq_true] at ha
    rcases ihi ha.1 with ⟨rfl, ha⟩ | ⟨c, rest, rfl, hc⟩
    · exact ih ha
    · exact .inr ⟨c, _, rfl, hc⟩

theorem Spells.begins {p : Char → Bool} {items : List Item} {values : Bindings} {s : List Char}
    {after : Bool} (h : Spells items values s) (ha : alwaysBegins p after items = true) :
    s = [] ∧ after = true ∨ ∃ c rest, s = c :: rest ∧ p c = true := by
  obtain ⟨flat, hflat, -, rfl⟩ := h
  rcases hflat.begins ha with ⟨rfl, ha⟩ | ⟨c, rest, rfl, hc⟩
  · exact .inl ⟨rfl, ha⟩
  · exact .inr ⟨c, fillAll values rest, rfl, hc⟩

/-- A pattern that does not begin with a section begins with `/`. -/
theorem alwaysBegins_of_head? {raw : String} {items : List Item}
    (hr : renderAll items = (Path.normalizePattern raw).toList)
    (hs : raw.toList.head? ≠ some '[') : alwaysBegins (· == '/') false items = true := by
  obtain ⟨rest, hslash⟩ := Path.toList_normalize raw
  rw [Path.normalizePattern_of_head? hs, hslash] at hr
  cases items with
  | nil => cases hr
  | cons item items =>
    rw [renderAll_cons] at hr
    cases item with
    | literal c =>
      obtain rfl : c = '/' := (List.cons.inj hr).1
      rfl
    | placeholder name constraint =>
      rw [render_placeholder] at hr
      exact absurd (List.cons.inj hr).1 (by decide)
    | optional inner =>
      rw [Item.render] at hr
      exact absurd (List.cons.inj hr).1 (by decide)

end Pattern

/-! ## Reaching a route -/

namespace Router

/-- A route is reached by all paths that its pattern matches, with what they bind there. -/
def Reaches (r : Router ρ) (method : String) (route : Route ρ) : Prop :=
  ∀ path ps, route.pattern.captures? path = some ps → r.resolve method path = .ok ⟨route, ps⟩

section

variable [Regex.PropertyTable]

/-- A router with a single route resolves a path as the route's pattern matches its normal form. -/
theorem resolve_ofLog_singleton {raw : String} {p : Pattern} (h : Pattern.compile raw = .ok p)
    (method : String) (action : Action ρ) (strategy : String) (strategies : Strategies ρ)
    (targets : Targets ρ) (path : String) :
    (new (.ofLog [⟨method, raw, action, strategy⟩]) strategies targets).resolve method path =
      match p.captures? (Path.normalize path) with
      | some ps => .ok ⟨⟨Method.normalize method, p, action, strategy⟩, ps⟩
      | none => .error (.notFound (Method.normalize method) path) := by
  have hroute : (RouteCall.mk method raw action strategy).route? =
      some ⟨Method.normalize method, p, action, strategy⟩ := by
    simp only [RouteCall.route?, h]
  have htable : RouteTable.ofLog [⟨method, raw, action, strategy⟩] =
      (RouteTable.empty : RouteTable ρ).add ⟨Method.normalize method, p, action, strategy⟩ := by
    show RouteTable.register _ _ = _
    rw [RouteTable.register_of_open rfl, hroute]
    rfl
  rw [htable]
  exact resolve_add rfl rfl strategies targets path

/-- **When a route can be reached.** A router with a single route resolves a path as the pattern
matches its normal form. So the route is reached by all paths that the pattern matches if all of
them begin with `/`, as they do unless the pattern begins with a section; and it is reached by no
path at all if none of them does. Neither is promised where a constraint ends inside a comment. -/
theorem reaches_of_alwaysBegins {raw : String} {p : Pattern} {items : List Pattern.Item}
    (hread : Pattern.readItems (Path.normalizePattern raw).toList = .ok items)
    (h : Pattern.compile raw = .ok p) (method : String) (action : Action ρ) (strategy : String)
    (strategies : Strategies ρ) (targets : Targets ρ) :
    let r := new (.ofLog [⟨method, raw, action, strategy⟩]) strategies targets
    let route : Route ρ := ⟨Method.normalize method, p, action, strategy⟩
    (∀ path found, r.resolve method path = .ok found ↔
      ∃ ps, p.captures? (Path.normalize path) = some ps ∧ found = ⟨route, ps⟩) ∧
    (raw.toList.head? ≠ some '[' → Pattern.alwaysBegins (· == '/') false items = true) ∧
    ((∀ c ∈ Pattern.constraintsOf items, Regex.ReaderState.endsInComment c.toList = false) →
      (Pattern.alwaysBegins (· == '/') false items = true → r.Reaches method route) ∧
      (Pattern.alwaysBegins (· != '/') true items = true →
        ∀ path found, r.resolve method path ≠ .ok found)) := by
  intro r route
  have hexact : ∀ path found, r.resolve method path = .ok found ↔
      ∃ ps, p.captures? (Path.normalize path) = some ps ∧ found = ⟨route, ps⟩ := by
    intro path found
    have hresolve := resolve_ofLog_singleton h method action strategy strategies targets path
    show Router.resolve (new _ strategies targets) method path = .ok found ↔ _
    rw [hresolve]
    cases p.captures? (Path.normalize path) with
    | some ps => simp [route, eq_comm]
    | none => simp
  refine ⟨hexact, Pattern.alwaysBegins_of_head? (Pattern.isTreeOf_of_readItems hread).render, ?_⟩
  intro hc
  have hspells : ∀ path ps, p.captures? path = some ps → Pattern.Spells items ps path.toList :=
    fun path ps hm => (Pattern.confines_of_ended hread h hc path ps hm).1
  constructor
  · intro hb path ps hm
    rcases (hspells path ps hm).begins hb with ⟨-, hf⟩ | ⟨c, rest, hpath, hslash⟩
    · cases hf
    · rw [eq_of_beq hslash] at hpath
      refine (hexact path _).2 ⟨ps, ?_, rfl⟩
      rw [Path.normalize_of_toList hpath]
      exact hm
  · intro hb path found hok
    obtain ⟨ps, hm, -⟩ := (hexact path found).1 hok
    obtain ⟨rest, hnormal⟩ := Path.toList_normalize path
    rcases (hspells _ ps hm).begins hb with ⟨hnil, -⟩ | ⟨c, rest', hpath, hslash⟩
    · rw [hnil] at hnormal
      cases hnormal
    · rw [hnormal] at hpath
      obtain ⟨rfl, -⟩ := List.cons.inj hpath
      cases hslash

end

/-- A pattern that begins with a section and yet matches only paths that begin with `/`. -/
def localizedText : String := "[/\x7blang:[a-z]\x7b2\x7d\x7d]/a[/\x7bpage\x7d]"

/-- The parts of that pattern. -/
def localizedItems : List Pattern.Item :=
  [.optional [.literal '/', .placeholder "lang" (some "[a-z]\x7b2\x7d")], .literal '/', .literal 'a',
    .optional [.literal '/', .placeholder "page" none]]

/-- A pattern that is one section. -/
def leadingSectionText : String := "[/\x7bpage\x7d]"

/-- The action of the routes below. -/
def showPage : Action Unit := .member (.named "Pages") "show"

theorem reaches_localizedItems : ∃ p,
    Pattern.compile localizedText = .ok p ∧ p.captures? "/a/7" = some [("page", "7")] ∧
    (new (.ofLog [⟨"GET", localizedText, showPage, "uri"⟩]) .standard {}).resolve "GET" "/a/7" =
      .ok ⟨⟨"get", p, showPage, "uri"⟩, [("page", "7")]⟩ := by
  have hs : Path.normalizePattern localizedText =
      String.ofList (Pattern.renderAll localizedItems) := by decide +kernel
  have hw : Pattern.areWellFormed localizedItems = true := by decide +kernel
  obtain ⟨p, hok, hread, -, hm⟩ := Pattern.exists_compiled hs hw (by decide +kernel :
    ((Pattern.compile _).toOption.filter (!·.isFixed)).bind (·.captures? "/a/7") =
      some [("page", "7")])
  have hc : ∀ c ∈ Pattern.constraintsOf localizedItems,
      Regex.ReaderState.endsInComment c.toList = false := by decide +kernel
  have hb : Pattern.alwaysBegins (· == '/') false localizedItems = true := by decide +kernel
  have hreaches := ((reaches_of_alwaysBegins hread hok "GET" showPage "uri" .standard {}).2.2 hc).1 hb
  exact ⟨p, hok, hm, hreaches _ _ hm⟩

/-- A pattern that is one section matches the empty path, and no request can ask for that. -/
theorem not_reaches_leadingSection : ∃ p,
    Pattern.compile leadingSectionText = .ok p ∧ p.captures? "" = some [] ∧
    (new (.ofLog [⟨"get", leadingSectionText, showPage, "uri"⟩]) .standard {}).resolve "get" "" =
      .error (.notFound "get" "") ∧
    ¬ (new (.ofLog [⟨"get", leadingSectionText, showPage, "uri"⟩]) .standard {}).Reaches "get"
      ⟨"get", p, showPage, "uri"⟩ := by
  have hm : ((Pattern.compile leadingSectionText).toOption.map fun p =>
      (p.captures? "", p.captures? "/")) = some (some [], none) := by decide +kernel
  cases h : Pattern.compile leadingSectionText with
  | error e =>
    rw [h] at hm
    cases hm
  | ok p =>
    rw [h] at hm
    obtain ⟨hempty, hslash⟩ := Prod.mk.inj (Option.some.inj hm)
    have hresolve := resolve_ofLog_singleton h "get" showPage "uri" .standard {} ""
    have hnormal : Path.normalize "" = "/" := rfl
    rw [hnormal, hslash] at hresolve
    refine ⟨p, rfl, hempty, hresolve, fun hreaches => ?_⟩
    have hok := hreaches "" [] hempty
    rw [hresolve] at hok
    cases hok

end Router

end UriRouter
