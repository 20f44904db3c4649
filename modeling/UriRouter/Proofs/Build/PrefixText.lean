import UriRouter.Proofs.Build.Groups
import UriRouter.Proofs.Scope
import UriRouter.Proofs.Serve.Allowed
import UriRouter.Proofs.Serve.Reachable

/-!
# A group's prefix and the text of a pattern

The prefix of a group is put before the text of each pattern in it. A prefix without a `/` before it
is given one, as is a whole pattern; so nothing but the text that a route keeps can tell a pattern in
a group from one that has the prefix written out. A prefix that begins with a section is another
matter: a pattern that begins with one is left as it is, but the prefix is given its `/` all the
same, and the section then begins after it.

* `RouteTable.Alike` : tables that answer alike, apart from the texts that their routes keep;
* `Builder.serves_prefixed` : a pattern in a group, and the pattern with the prefix written out.
-/

set_option autoImplicit false

namespace UriRouter

variable {ρ : Type}

/-! ## Texts in normal form -/

namespace Pattern

/-- The pattern, with its text in normal form. -/
def normal (p : Pattern) : Pattern := { p with raw := Path.normalizePattern p.raw }

/-- Nothing but the text in normal form counts when a pattern is compiled. -/
theorem compile_congr [Regex.PropertyTable] {raw raw' : String}
    (h : Path.normalizePattern raw = Path.normalizePattern raw') :
    (compile raw).map normal = (compile raw').map normal := by
  unfold compile
  simp only [h]
  cases readItems (Path.normalizePattern raw').toList with
  | error fault => rfl
  | ok items =>
    simp only
    cases kindOf (Path.normalizePattern raw') items with
    | error fault => rfl
    | ok kind => simp only [Except.map, normal, h]

end Pattern

/-- The route, with the text of its pattern in normal form. -/
def Route.normal (route : Route ρ) : Route ρ := { route with pattern := route.pattern.normal }

theorem Route.of_normal_eq {a a' : Route ρ} (h : a.normal = a'.normal) :
    a.method = a'.method ∧
      (a.pattern.kind = a'.pattern.kind ∧ a.pattern.parameters = a'.pattern.parameters) ∧
      a.action = a'.action ∧ a.strategy = a'.strategy := by
  simp only [normal, Pattern.normal, Route.mk.injEq, Pattern.mk.injEq] at h
  exact ⟨h.1, h.2.1.2, h.2.2⟩

theorem Route.captures?_of_normal_eq {a a' : Route ρ} (h : a.normal = a'.normal) (path : String) :
    a.pattern.captures? path = a'.pattern.captures? path := by
  obtain ⟨-, ⟨hkind, hparameters⟩, -⟩ := of_normal_eq h
  rw [Pattern.captures?, Pattern.captures?, hkind, hparameters]

/-- The route that was found, with the text of its pattern in normal form. -/
def RouteMatch.normal (found : RouteMatch ρ) : RouteMatch ρ :=
  { found with route := found.route.normal }

/-- What a group adds to an empty prefix is what makes the normal form of a pattern, unless the
group's prefix begins with a section. -/
theorem Path.normalizePattern_joinPrefix_append {base : String}
    (hlast : base.toList.getLast? ≠ some '/') (hhead : base.toList.head? ≠ some '[') (q : String) :
    normalizePattern (Scope.joinPrefix "" base ++ q) = normalizePattern (base ++ q) := by
  by_cases hne : base = ""
  · rw [hne]
    rfl
  by_cases hslash : base.toList.head? = some '/'
  · rw [Scope.joinPrefix_of_head? hlast hslash]
  have happend : (base ++ q).toList.head? = base.toList.head? := by
    rw [String.toList_append, List.head?_append_of_ne_nil _ (mt String.toList_eq_nil_iff.1 hne)]
  have hjoined : ("/" ++ base ++ q).toList = '/' :: (base ++ q).toList := by
    rw [String.append_assoc, String.toList_append]
    rfl
  have hsection : ("/" ++ base ++ q).toList.head? ≠ some '[' := by
    rw [hjoined]
    exact fun h => absurd (Option.some.inj h) (by decide)
  rw [Scope.joinPrefix_of_head?_ne hlast hne hslash, normalizePattern_of_head? hsection,
    normalize_of_toList hjoined, normalizePattern_of_head? (by rwa [happend]),
    normalize_of_head?_ne (by rwa [happend]), String.append_assoc]

/-- Under a prefix it makes no difference whether a pattern begins with the `/` that it is given
otherwise. -/
theorem Scope.apply_slash_append {s : Scope} (hs : s.pathPrefix ≠ "") {text : String}
    (hne : text ≠ "") (hslash : text.toList.head? ≠ some '/') (hsection : text.toList.head? ≠ some '[') :
    s.apply ("/" ++ text) = s.apply text := by
  cases htext : text.toList with
  | nil => exact absurd (String.toList_eq_nil_iff.1 htext) hne
  | cons c rest =>
    rw [htext] at hslash hsection
    have hc : c ≠ '/' := fun he => hslash (congrArg some he)
    have hc' : c ≠ '[' := fun he => hsection (congrArg some he)
    have hjoined : ("/" ++ text).toList = '/' :: c :: rest := by
      rw [String.toList_append, htext]
      rfl
    rw [apply_of_toList hjoined]
    simp [apply, htext, hs, hc, hc', String.append_assoc]

theorem Scope.normalizePattern_apply_joinPrefix (s : Scope) {base : String}
    (hlast : base.toList.getLast? ≠ some '/') (hhead : base.toList.head? ≠ some '[') (q : String) :
    Path.normalizePattern (s.apply (joinPrefix "" base ++ q)) =
      Path.normalizePattern (s.apply (base ++ q)) := by
  by_cases hs : s.pathPrefix = ""
  · rw [apply_of_eq hs, apply_of_eq hs, Path.normalizePattern_joinPrefix_append hlast hhead]
  by_cases hne : base = ""
  · rw [hne]
    rfl
  by_cases hslash : base.toList.head? = some '/'
  · rw [joinPrefix_of_head? hlast hslash]
  have happend : (base ++ q).toList.head? = base.toList.head? := by
    rw [String.toList_append, List.head?_append_of_ne_nil _ (mt String.toList_eq_nil_iff.1 hne)]
  have hne' : base ++ q ≠ "" := fun he => hne (String.append_eq_empty_iff.1 he).1
  rw [joinPrefix_of_head?_ne hlast hne hslash, String.append_assoc,
    apply_slash_append hs hne' (by rwa [happend]) (by rwa [happend])]

/-! ## Tables -/

namespace MethodRoutes

/-- Routes that differ in their texts alone are found alike. -/
theorem find_add_congr (routes : MethodRoutes ρ) {a a' : Route ρ} (h : a.normal = a'.normal)
    (path : String) : ((routes.add a).find path).map RouteMatch.normal =
      ((routes.add a').find path).map RouteMatch.normal := by
  have hmatch : ∀ bindings, RouteMatch.normal ⟨a, bindings⟩ = RouteMatch.normal ⟨a', bindings⟩ :=
    fun bindings => congrArg (RouteMatch.mk · bindings) h
  unfold add
  rw [(Route.of_normal_eq h).2.1.1]
  cases a'.pattern.kind with
  | fixed fixed =>
    simp only [find, NameMap.get?_insert]
    by_cases hp : path = fixed
    · simp only [hp, ↓reduceIte, Option.map_some, hmatch]
    · simp only [hp, ↓reduceIte]
  | matched matcher =>
    simp only [find, RouteTable.firstMatch_append, firstMatch, Route.captures?_of_normal_eq h]
    cases routes.fixed.get? path with
    | some route => rfl
    | none =>
      cases firstMatch path routes.matched with
      | some found => rfl
      | none =>
        cases a'.pattern.captures? path with
        | some bindings => exact congrArg some (hmatch bindings)
        | none => rfl

theorem accepts_add_congr (routes : MethodRoutes ρ) {a a' : Route ρ} (h : a.normal = a'.normal)
    (path : String) : (routes.add a).accepts path = (routes.add a').accepts path := by
  have hfind := congrArg Option.isSome (routes.find_add_congr h path)
  rw [accepts_eq_isSome, accepts_eq_isSome]
  simpa only [Option.isSome_map] using hfind

end MethodRoutes

theorem NameMap.filter_insertEntry_congr {α : Type} {p : α → Bool} {a a' : α} (h : p a = p a')
    (name : String) (entries : List (String × α)) :
    ((insertEntry name a entries).filter fun e => p e.2).map (·.1) =
      ((insertEntry name a' entries).filter fun e => p e.2).map (·.1) := by
  have hcons : ∀ rest : List (String × α),
      (((name, a) :: rest).filter fun e => p e.2).map (·.1) =
        (((name, a') :: rest).filter fun e => p e.2).map (·.1) := by
    intro rest
    simp only [List.filter_cons, h]
    split <;> rfl
  induction entries with
  | nil => exact hcons []
  | cons e rest ih =>
    obtain ⟨n, b⟩ := e
    unfold insertEntry
    split
    · exact hcons rest
    · split
      · exact hcons _
      · simp only [List.filter_cons]
        split
        · rw [List.map_cons, List.map_cons, ih]
        · exact ih

namespace RouteTable

/-- Tables that answer alike, apart from the texts that their routes keep. -/
structure Alike (t t' : RouteTable ρ) : Prop where
  find : ∀ method path,
    (t.find method path).map RouteMatch.normal = (t'.find method path).map RouteMatch.normal
  allowed : ∀ path, t.allowedMethods path = t'.allowedMethods path

theorem Alike.refl (t : RouteTable ρ) : Alike t t := ⟨fun _ _ => rfl, fun _ => rfl⟩

theorem alike_add (t : RouteTable ρ) {a a' : Route ρ} (h : a.normal = a'.normal) :
    Alike (t.add a) (t.add a') := by
  have hmethod := (Route.of_normal_eq h).1
  refine ⟨fun method path => ?_, fun path => ?_⟩
  · rw [find_eq, find_eq, routesOf_add, routesOf_add, hmethod]
    split
    · exact MethodRoutes.find_add_congr _ h _
    · rfl
  · unfold allowedMethods add
    rw [hmethod]
    exact NameMap.filter_insertEntry_congr (p := fun routes : MethodRoutes ρ =>
      routes.accepts (Path.normalize path))
      (MethodRoutes.accepts_add_congr _ h _) _ _

theorem alike_register [Regex.PropertyTable] (t : RouteTable ρ) {pattern pattern' : String}
    (h : Path.normalizePattern pattern = Path.normalizePattern pattern') (method : String)
    (action : Action ρ) (strategy : String) :
    Alike (t.register ⟨method, pattern, action, strategy⟩)
      (t.register ⟨method, pattern', action, strategy⟩) := by
  have hcompile := Pattern.compile_congr h
  unfold register set
  cases t.isSealed with
  | true => exact .refl t
  | false =>
    cases hc : Pattern.compile pattern <;> cases hc' : Pattern.compile pattern' <;>
      rw [hc, hc'] at hcompile
    · exact .refl t
    · cases hcompile
    · cases hcompile
    · exact t.alike_add (congrArg (Route.mk _ · _ _) (Except.ok.inj hcompile))

end RouteTable

/-! ## Routers -/

namespace Router

theorem resolve_of_alike {t t' : RouteTable ρ} (h : t.Alike t') (strategies : Strategies ρ)
    (targets : Targets ρ) (method path : String) :
    ((new t strategies targets).resolve method path).map RouteMatch.normal =
      ((new t' strategies targets).resolve method path).map RouteMatch.normal := by
  have hfind : (t.sealed.findNormal (Method.normalize method) (Path.normalize path)).map
      RouteMatch.normal = (t'.sealed.findNormal (Method.normalize method)
        (Path.normalize path)).map RouteMatch.normal := h.find method path
  have hallowed : t.sealed.allowedMethods (Path.normalize path) =
      t'.sealed.allowedMethods (Path.normalize path) := h.allowed (Path.normalize path)
  simp only [resolve, new]
  rw [hallowed]
  cases hf' : t'.sealed.findNormal (Method.normalize method) (Path.normalize path) with
  | none =>
    rw [hf', Option.map_none, Option.map_eq_none_iff] at hfind
    rw [hfind]
  | some found' =>
    rw [hf', Option.map_some] at hfind
    obtain ⟨found, hf, hnormal⟩ := Option.map_eq_some_iff.1 hfind
    rw [hf]
    exact congrArg Except.ok hnormal

/-- What is served does not hang on the text that a route keeps. -/
theorem dispatch_of_resolve {r r' : Router ρ} (hs : r.strategies = r'.strategies)
    (ht : r.targets = r'.targets) {method path : String}
    (h : (r.resolve method path).map RouteMatch.normal =
      (r'.resolve method path).map RouteMatch.normal) :
    r.dispatch method path = r'.dispatch method path := by
  unfold dispatch
  cases hr : r.resolve method path with
  | error e =>
    cases hr' : r'.resolve method path with
    | error e' =>
      rw [hr, hr'] at h
      cases h
      rfl
    | ok found' =>
      rw [hr, hr'] at h
      cases h
  | ok found =>
    cases hr' : r'.resolve method path with
    | error e' =>
      rw [hr, hr'] at h
      cases h
    | ok found' =>
      rw [hr, hr'] at h
      obtain ⟨hroute, hbindings⟩ := RouteMatch.mk.inj (Except.ok.inj h)
      obtain ⟨-, -, haction, hstrategy⟩ := Route.of_normal_eq hroute
      simp only [hs, ht, hstrategy, haction, show found.bindings = found'.bindings from hbindings]

end Router

/-! ## Groups -/

namespace Builder

/-- Two ways to go on that no request can tell apart. -/
structure ServeAlike (p p' : Progress (Builder ρ)) : Prop where
  /-- Both fail, or neither does. -/
  failure : p.failure.isSome = p'.failure.isSome
  /-- What is wrong with the pattern is the same. -/
  fault : ∀ e, p.failure = some (.pattern e) ↔ p'.failure = some (.pattern e)
  /-- The same requests lead to a route, with the same bindings, and the others are refused in the
  same way. -/
  resolve : ∀ method path, (p.state.toRouter.resolve method path).map RouteMatch.normal =
    (p'.state.toRouter.resolve method path).map RouteMatch.normal
  /-- The replies are the same. -/
  dispatch : ∀ method path,
    p.state.toRouter.dispatch method path = p'.state.toRouter.dispatch method path

theorem ServeAlike.refl (p : Progress (Builder ρ)) : ServeAlike p p :=
  ⟨rfl, fun _ => .rfl, fun _ _ => rfl, fun _ _ => rfl⟩

section

variable [Regex.PropertyTable]

theorem failure_setAction_congr {b : Builder ρ} {pattern pattern' : String}
    (h : Path.normalizePattern (b.scope.apply pattern) =
      Path.normalizePattern (b.scope.apply pattern'))
    (method : String) (action : Action ρ) (strategy : String) :
    (b.setAction method pattern action strategy).failure.isSome =
        (b.setAction method pattern' action strategy).failure.isSome ∧
      ∀ e, (b.setAction method pattern action strategy).failure = some (.pattern e) ↔
        (b.setAction method pattern' action strategy).failure = some (.pattern e) := by
  have hcompile := Pattern.compile_congr h
  unfold setAction RouteTable.set
  simp only
  cases b.table.isSealed with
  | true => exact ⟨rfl, fun e => ⟨nofun, nofun⟩⟩
  | false =>
    cases hc : Pattern.compile (b.scope.apply pattern) <;>
      cases hc' : Pattern.compile (b.scope.apply pattern') <;> rw [hc, hc'] at hcompile
    · cases hcompile
      exact ⟨rfl, fun _ => .rfl⟩
    · cases hcompile
    · cases hcompile
    · exact ⟨rfl, fun e => ⟨nofun, nofun⟩⟩

/-- Patterns that are the same in normal form under the scope are registered alike. -/
theorem serveAlike_set {b : Builder ρ} {pattern pattern' : String}
    (h : Path.normalizePattern (b.scope.apply pattern) =
      Path.normalizePattern (b.scope.apply pattern'))
    (method : String) (source : ActionSource ρ) (strategy : String) :
    ServeAlike (b.set method pattern source strategy) (b.set method pattern' source strategy) := by
  unfold set withAction
  cases source.resolve with
  | error e => exact .refl _
  | ok action =>
    have hresolve : ∀ m path,
        ((b.setAction method pattern action strategy).state.toRouter.resolve m path).map
            RouteMatch.normal =
          ((b.setAction method pattern' action strategy).state.toRouter.resolve m path).map
            RouteMatch.normal := by
      intro m path
      rw [setAction_state, setAction_state]
      exact Router.resolve_of_alike (b.table.alike_register h _ _ _) _ _ m path
    obtain ⟨hfailure, hfault⟩ := failure_setAction_congr h method action strategy
    refine ⟨hfailure, hfault, hresolve, fun m path => ?_⟩
    refine Router.dispatch_of_resolve ?_ ?_ (hresolve m path)
    · simp only [setAction_state, toRouter, Router.new]
    · simp only [setAction_state, toRouter, Router.new]

/-- A group that has nothing but a prefix puts before a pattern what it adds to an empty one. -/
theorem run_group_set (b : Builder ρ) (base : String) {q : String} {c : Char} {rest : List Char}
    (hq : q.toList = '/' :: c :: rest) (method : String) (source : ActionSource ρ)
    (strategy : String) :
    (Step.group { pathPrefix := some base } [.set method q source strategy]).run b =
      b.set method (Scope.joinPrefix "" base ++ q) source strategy := by
  have hpattern : Scope.underGroups [{ pathPrefix := some base }] q =
      Scope.joinPrefix "" base ++ q := by
    rw [Scope.underGroups, List.foldr_cons, List.foldr_nil, Scope.apply_of_toList hq]
    simp only [Scope.nest, Scope.root]
  have haction : ∀ action : Action ρ, action.underGroups [{ pathPrefix := some base }] = action :=
    Action.inNamespace_empty
  have hrun := run_inside_set [{ pathPrefix := some base }] b method q source strategy
  simp only [hpattern, haction] at hrun
  exact hrun

/-- **A group's prefix is put before the text of a pattern.** A pattern that begins with `/` and goes
on after it can be registered inside a group, or in the group's place with the prefix before it: no
request tells the two apart, unless the prefix begins with a section. That prefix is given a `/`,
which the same text is not as a part of a pattern. -/
theorem serves_prefixed (b : Builder ρ) {base q : String}
    (hlast : base.toList.getLast? ≠ some '/') (hq : q.toList.head? = some '/') (hne : q ≠ "/")
    (method : String) (source : ActionSource ρ) (strategy : String) :
    let grouped := (Step.group { pathPrefix := some base } [.set method q source strategy]).run b
    (base.toList.head? ≠ some '[' →
      ServeAlike grouped ((Step.set method (base ++ q) source strategy).run b)) ∧
    (base.toList.head? = some '[' →
      grouped = (Step.set method ("/" ++ (base ++ q)) source strategy).run b) := by
  intro grouped
  obtain ⟨rest, hrest⟩ := List.head?_eq_some_iff.1 hq
  cases rest with
  | nil => exact absurd (String.toList_inj.1 hrest) hne
  | cons c rest =>
    have hgrouped : grouped = b.set method (Scope.joinPrefix "" base ++ q) source strategy :=
      run_group_set b base hrest method source strategy
    rw [hgrouped, Step.run, Step.run]
    refine ⟨fun hhead => ?_, fun hhead => ?_⟩
    · exact serveAlike_set (b.scope.normalizePattern_apply_joinPrefix hlast hhead q) method source
        strategy
    · have hbase : base ≠ "" := by
        rintro rfl
        cases hhead
      have hslash : base.toList.head? ≠ some '/' := by
        rw [hhead]
        decide
      rw [Scope.joinPrefix_of_head?_ne hlast hbase hslash, String.append_assoc]

end

/-- The action of the routes below. -/
def editPage : Action Unit := .member (.named "Pages") "edit"

/-- A prefix that has no `/` before it and holds a placeholder. -/
def userPrefix : String := "user/\x7bid:\\d+\x7d"

theorem serves_userPrefix :
    let grouped := (Step.group { pathPrefix := some userPrefix }
      [.set "GET" "/edit[/\x7btab\x7d]" (.action editPage) "uri"]).run bare
    let plain := (Step.set "GET" (userPrefix ++ "/edit[/\x7btab\x7d]") (.action editPage) "uri").run bare
    (userPrefix.toList.getLast? ≠ some '/' ∧ userPrefix.toList.head? ≠ some '[') ∧
      ServeAlike grouped plain ∧
      (plain.state.toRouter.resolve "get" "/user/18/edit/name").toOption.map (·.bindings) =
        some [("id", "18"), ("tab", "name")] ∧
      (plain.state.toRouter.resolve "get" "/user/name/edit").toOption.isNone := by
  refine ⟨by decide, ?_, by decide +kernel, by decide +kernel⟩
  exact (serves_prefixed bare (by decide) (by decide) (by decide) "GET" (.action editPage) "uri").1
    (by decide)

/-- A prefix that begins with a section. Written out before a pattern, it may be left out. -/
def languagePrefix : String := "[/\x7blang\x7d]"

/-- In a group with that prefix, no request for the pattern alone is served, nor one with a language
before it. -/
theorem not_serves_languagePrefix :
    let grouped := (Step.group { pathPrefix := some languagePrefix }
      [.set "GET" "/x" (.action editPage) "uri"]).run bare
    let plain := (Step.set "GET" (languagePrefix ++ "/x") (.action editPage) "uri").run bare
    languagePrefix.toList.getLast? ≠ some '/' ∧
      (plain.state.toRouter.resolve "get" "/x").toOption.map (·.bindings) = some [] ∧
      (plain.state.toRouter.resolve "get" "/en/x").toOption.map (·.bindings) = some [("lang", "en")] ∧
      (∀ path ∈ ["/x", "/en/x"], grouped.state.toRouter.resolve "get" path =
        .error (.notFound "get" path)) ∧
      ¬ ServeAlike grouped plain := by
  intro grouped plain
  have hplain : (plain.state.toRouter.resolve "get" "/x").toOption.map (·.bindings) = some [] := by
    decide +kernel
  have hgrouped : ∀ path ∈ ["/x", "/en/x"],
      (grouped.state.toRouter.table.find "get" path).isNone ∧
        grouped.state.toRouter.table.allowedMethods path = [] := by decide +kernel
  have hnotFound : ∀ path ∈ ["/x", "/en/x"], grouped.state.toRouter.resolve "get" path =
      .error (.notFound "get" path) := by
    intro path hp
    obtain ⟨hfind, hallowed⟩ := hgrouped path hp
    exact Router.resolve_eq_notFound.2 ⟨⟨rfl, rfl⟩, Option.isNone_iff_eq_none.1 hfind, hallowed⟩
  refine ⟨by decide, hplain, by decide +kernel, hnotFound, fun halike => ?_⟩
  have hresolve := halike.resolve "get" "/x"
  rw [hnotFound "/x" List.mem_cons_self] at hresolve
  cases hfound : plain.state.toRouter.resolve "get" "/x" with
  | error e =>
    rw [hfound] at hplain
    cases hplain
  | ok found =>
    rw [hfound] at hresolve
    cases hresolve

end Builder

end UriRouter
