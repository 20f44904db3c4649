import UriRouter.Proofs.Build.Atomicity
import UriRouter.Proofs.Derive.Resource
import UriRouter.Proofs.Serve.Allowed

/-!
# Serving the routes of a resource

What the extension for resources registers, and which requests lead to which action.

* `Builder.apply_resource` : what applying the extension does to a builder;
* `Builder.resolve_resource` : the requests that lead to the actions of a resource.
-/

set_option autoImplicit false

namespace UriRouter

open UriRouter.Pattern

variable {ρ : Type}

/-! ## The actions of a resource -/

/-- The name that a resource is registered under. -/
def resourceNameOf (target : TargetRef ρ) (options : ExtensionOptions) : String :=
  options.name.getD (resourceName target.name)

/-- The registration for an action of a resource. -/
def ResourceAction.registration (a : ResourceAction) (target : TargetRef ρ) (resource : String) :
    Registration ρ :=
  ⟨a.verb, a.pattern resource, .member target a.name⟩

/-- The actions of a resource that options include. -/
def includedActions (options : ExtensionOptions) : List ResourceAction :=
  resourceActions.filter fun a => options.includes a.name

theorem mem_includedActions {options : ExtensionOptions} {a : ResourceAction} :
    a ∈ includedActions options ↔ a ∈ resourceActions ∧ options.includes a.name = true :=
  List.mem_filter

/-- The registrations for those actions. -/
def resourceRegistrations (target : TargetRef ρ) (options : ExtensionOptions) :
    List (Registration ρ) :=
  (includedActions options).map (·.registration target (resourceNameOf target options))

namespace ResourceAction

theorem normalize_verb {a : ResourceAction} (ha : a ∈ resourceActions) :
    Method.normalize a.verb = a.verb := by
  have hall : ∀ a ∈ resourceActions, Method.normalize a.verb = a.verb := by decide +kernel
  exact hall a ha

theorem asksForId_of_name {a : ResourceAction} (ha : a ∈ resourceActions) :
    (a.name = "show" → a.asksForId = true) ∧ (a.name = "make" → a.asksForId = false) := by
  have hall : ∀ a ∈ resourceActions,
      (a.name = "show" → a.asksForId = true) ∧ (a.name = "make" → a.asksForId = false) := by decide
  exact hall a ha

/-- Among the actions that ask for an identifier, and among those that do not, no two lead from one
path. -/
theorem eq_of_asksForId {resource : String} {a a' : ResourceAction} (ha : a ∈ resourceActions)
    (ha' : a' ∈ resourceActions) (hid : a.asksForId = a'.asksForId) (hv : a.verb = a'.verb)
    {path : String} {bindings bindings' : Bindings} (h : a.IsInstance resource path bindings)
    (h' : a'.IsInstance resource path bindings') : a = a' ∧ bindings = bindings' := by
  rcases eq_of_isInstance ha ha' hv h h' with h | ⟨-, ⟨hm, hs, -⟩ | ⟨hm, hs, -⟩⟩
  · exact h
  · rw [(asksForId_of_name ha).2 hm, (asksForId_of_name ha').1 hs] at hid
    cases hid
  · rw [(asksForId_of_name ha').2 hm, (asksForId_of_name ha).1 hs] at hid
    cases hid

/-- The path of `make` leads to `make`, and to `show` only under the same verb. -/
theorem isInstance_make (resource : String) {m a : ResourceAction} (hm : m ∈ resourceActions)
    (ha : a ∈ resourceActions) (hmake : m.name = "make") (hshow : a.name = "show") :
    m.verb = a.verb ∧ m.IsInstance resource ("/" ++ resource ++ "/make") [] := by
  have hall : ∀ m ∈ resourceActions, ∀ a ∈ resourceActions, m.name = "make" → a.name = "show" →
      m.verb = a.verb ∧ m.tail = "/make" := by decide
  obtain ⟨hverb, htail⟩ := hall m hm a ha hmake hshow
  refine ⟨hverb, (isInstance_of_not_asksForId hm ((asksForId_of_name hm).2 hmake)).2 ⟨?_, rfl⟩⟩
  rw [pattern, htail]

/-- The call that an action comes to under a scope. -/
def call (a : ResourceAction) (s : Scope) (target : TargetRef ρ) (resource : String) :
    RouteCall ρ := Builder.callUnder s (a.registration target resource)

theorem isFor_call {s : Scope} {target : TargetRef ρ} {resource : String} {a : ResourceAction}
    (ha : a ∈ resourceActions) (method : String) :
    (a.call s target resource).isFor method = true ↔ Method.normalize method = a.verb := by
  have hverb : (a.call s target resource).method = a.verb := rfl
  rw [RouteCall.isFor, hverb, normalize_verb ha, beq_iff_eq, eq_comm]

end ResourceAction

theorem Builder.unknownResourceAction?_eq_none {options : ExtensionOptions}
    (h : ∀ action ∈ options.only.getD [] ++ options.except, isResourceAction action = true) :
    unknownResourceAction? options = none := by
  rw [unknownResourceAction?, List.find?_eq_none]
  intro action ha
  rw [h action ha]
  decide

theorem findSome?_eq_some_iff_of_unique {α β : Type} {f : α → Option β} {l : List α} {y : β}
    (hu : ∀ a ∈ l, ∀ a' ∈ l, ∀ y y', f a = some y → f a' = some y' → y = y') :
    l.findSome? f = some y ↔ ∃ a ∈ l, f a = some y := by
  constructor
  · exact List.exists_of_findSome?_eq_some
  · rintro ⟨a, ha, hy⟩
    have hsome : (l.findSome? f).isSome = true :=
      List.findSome?_isSome_iff.2 ⟨a, ha, by rw [hy]; rfl⟩
    obtain ⟨y', hy'⟩ := Option.isSome_iff_exists.1 hsome
    obtain ⟨a', ha', h'⟩ := List.exists_of_findSome?_eq_some hy'
    rw [hy', hu a' ha' a ha y' y h' hy]

section

variable [Regex.PropertyTable]

/-! ## Applying the extension -/

namespace Builder

/-- **What applying the extension for resources does**: it makes the registrations for the actions
one after the other, or none if the options name an action that no resource has. -/
theorem apply_resource {b : Builder ρ}
    (h : b.extensions.get? resourceExtensionName = some .resource) (target : TargetRef ρ)
    (options : ExtensionOptions) :
    b.apply resourceExtensionName target options =
      match unknownResourceAction? options with
      | some action => .failed b (.usage (.unknownResourceAction action))
      | none => b.setAll (resourceRegistrations target options) := by
  rw [apply, maxNesting, applyNested, h]
  simp only [Extension.resource]
  cases unknownResourceAction? options with
  | some action => rfl
  | none =>
    simp only [Plan.registering, Progress.each_map, Progress.andThen_done]
    rw [← each_register, resourceRegistrations, Progress.each_map]
    rfl

end Builder

/-! ## The log of a resource -/

namespace ResourceAction

section Call

variable {s : Scope} {target : TargetRef ρ} {resource : String}

/-- What the call for an action adds: a route that serves the action, and whose pattern matches what
is made from the template. -/
theorem exists_route (target : TargetRef ρ) (hs : s.pathPrefix = "")
    (hname : ∀ c ∈ resource.toList, c ∉ delimiters) {a : ResourceAction} (ha : a ∈ resourceActions) :
    ∃ route, (a.call s target resource).route? = some route ∧
      route.action = .member (target.inNamespace s.nameSpace) a.name ∧
      route.pattern.isFixed = !a.asksForId ∧ ∀ path bindings,
        route.pattern.captures? path = some bindings ↔ a.IsInstance resource path bindings := by
  obtain ⟨p, hp, hfixed, hcaptures⟩ := compile_pattern ha hname
  have hpattern : (a.call s target resource).pattern = a.pattern resource := by
    rw [call, Builder.callUnder, Scope.apply, hs]
    rfl
  exact ⟨_, by rw [RouteCall.route?, hpattern, hp], rfl, hfixed, hcaptures⟩

theorem action_route (hs : s.pathPrefix = "") (hname : ∀ c ∈ resource.toList, c ∉ delimiters)
    {a : ResourceAction} (ha : a ∈ resourceActions) {route : Route ρ}
    (hr : (a.call s target resource).route? = some route) :
    route.action = .member (target.inNamespace s.nameSpace) a.name := by
  obtain ⟨route', hr', haction, -⟩ := exists_route target hs hname ha
  rw [← Option.some.inj (hr'.symm.trans hr), haction]

theorem fixedRoute?_call (hs : s.pathPrefix = "") (hname : ∀ c ∈ resource.toList, c ∉ delimiters)
    {a : ResourceAction} (ha : a ∈ resourceActions) {method path : String} {route : Route ρ} :
    (a.call s target resource).fixedRoute? method path = some route ↔
      (a.call s target resource).route? = some route ∧ a.asksForId = false ∧
        Method.normalize method = a.verb ∧ a.IsInstance resource (Path.normalize path) [] := by
  obtain ⟨route', hroute, -, hfixed, -⟩ := exists_route target hs hname ha
  have hpattern : (a.call s target resource).pattern = a.pattern resource := by
    rw [call, Builder.callUnder, Scope.apply, hs]
    rfl
  rw [RouteCall.fixedRoute?, Option.filter_eq_some_iff, hpattern, normalizePattern_pattern]
  refine and_congr_right fun hr => ?_
  obtain rfl : route' = route := Option.some.inj (hroute.symm.trans hr)
  rw [Bool.and_eq_true, Bool.and_eq_true, isFor_call ha, hfixed, Bool.not_eq_true', beq_iff_eq,
    and_assoc]
  refine and_congr_right fun hid => and_congr_right fun _ => ?_
  rw [isInstance_of_not_asksForId ha hid, and_iff_left rfl, eq_comm]

/-- What a path binds in the route that the call for an action adds, if it is not fixed. -/
theorem matchedRoute?_call (hs : s.pathPrefix = "")
    (hname : ∀ c ∈ resource.toList, c ∉ delimiters) {a : ResourceAction}
    (ha : a ∈ resourceActions) {method path : String} {found : RouteMatch ρ} :
    (a.call s target resource).matchedRoute? method path = some found ↔
      (a.call s target resource).route? = some found.route ∧ a.asksForId = true ∧
        Method.normalize method = a.verb ∧
        a.IsInstance resource (Path.normalize path) found.bindings := by
  obtain ⟨route, hroute, -, hfixed, hcaptures⟩ := exists_route target hs hname ha
  rw [RouteCall.matchedRoute?, Option.bind_eq_some_iff]
  simp only [Option.filter_eq_some_iff, Bool.and_eq_true, isFor_call ha, Option.map_eq_some_iff]
  constructor
  · rintro ⟨route', ⟨hr, hid, hm⟩, bindings, hb, rfl⟩
    obtain rfl : route = route' := Option.some.inj (hroute.symm.trans hr)
    rw [hfixed, Bool.not_not] at hid
    exact ⟨hr, hid, hm, (hcaptures _ _).1 hb⟩
  · rintro ⟨hr, hid, hm, hinstance⟩
    obtain rfl : route = found.route := Option.some.inj (hroute.symm.trans hr)
    exact ⟨_, ⟨hr, by rw [hfixed, hid]; rfl, hm⟩, _, (hcaptures _ _).2 hinstance, rfl⟩

theorem findSome?_fixedRoute? (hs : s.pathPrefix = "")
    (hname : ∀ c ∈ resource.toList, c ∉ delimiters) {actions : List ResourceAction}
    (hall : ∀ a ∈ actions, a ∈ resourceActions) {method path : String} {route : Route ρ} :
    (actions.map (·.call s target resource)).reverse.findSome? (·.fixedRoute? method path) =
      some route ↔
    ∃ a ∈ actions, (a.call s target resource).fixedRoute? method path = some route := by
  rw [← List.map_reverse, List.findSome?_map, findSome?_eq_some_iff_of_unique]
  · simp
  · intro a ha a' ha' y y' hy hy'
    have ha := hall a (List.mem_reverse.1 ha)
    have ha' := hall a' (List.mem_reverse.1 ha')
    obtain ⟨hr, hid, hm, hi⟩ := (fixedRoute?_call hs hname ha).1 hy
    obtain ⟨hr', hid', hm', hi'⟩ := (fixedRoute?_call hs hname ha').1 hy'
    obtain ⟨rfl, -⟩ := eq_of_asksForId ha ha' (hid.trans hid'.symm) (hm.symm.trans hm') hi hi'
    exact Option.some.inj (hr.symm.trans hr')

/-- The other route that is found in the log of actions, and what the path binds there. -/
theorem findSome?_matchedRoute? (hs : s.pathPrefix = "")
    (hname : ∀ c ∈ resource.toList, c ∉ delimiters) {actions : List ResourceAction}
    (hall : ∀ a ∈ actions, a ∈ resourceActions) {method path : String} {found : RouteMatch ρ} :
    (actions.map (·.call s target resource)).findSome? (·.matchedRoute? method path) =
      some found ↔
    ∃ a ∈ actions, (a.call s target resource).matchedRoute? method path = some found := by
  rw [List.findSome?_map, findSome?_eq_some_iff_of_unique]
  · simp
  · intro a ha a' ha' y y' hy hy'
    have ha := hall a ha
    have ha' := hall a' ha'
    obtain ⟨hr, hid, hm, hi⟩ := (matchedRoute?_call hs hname ha).1 hy
    obtain ⟨hr', hid', hm', hi'⟩ := (matchedRoute?_call hs hname ha').1 hy'
    obtain ⟨rfl, hb⟩ := eq_of_asksForId ha ha' (hid.trans hid'.symm) (hm.symm.trans hm') hi hi'
    have hroute : y.route = y'.route := Option.some.inj (hr.symm.trans hr')
    cases y
    cases y'
    cases hroute
    cases hb
    rfl

/-- **Which action a request leads to.** The action is one of those that are registered, under its
verb, and the path is made from its template; only, the path of `make` does not lead to `show` if
`make` is registered too. -/
theorem answerOf_calls (hs : s.pathPrefix = "") (hname : ∀ c ∈ resource.toList, c ∉ delimiters)
    {actions : List ResourceAction} (hall : ∀ a ∈ actions, a ∈ resourceActions)
    {method path : String} {action : Action ρ} {bindings : Bindings} :
    (∃ found, RouteTable.answerOf (actions.map (·.call s target resource)) method path = some found ∧
      found.route.action = action ∧ found.bindings = bindings) ↔
    ∃ a ∈ actions, action = .member (target.inNamespace s.nameSpace) a.name ∧
      Method.normalize method = a.verb ∧ a.IsInstance resource (Path.normalize path) bindings ∧
      ¬ (a.name = "show" ∧ Path.normalize path = "/" ++ resource ++ "/make" ∧
        ∃ m ∈ actions, m.name = "make") := by
  constructor
  · rintro ⟨found, hfound, rfl, rfl⟩
    unfold RouteTable.answerOf at hfound
    split at hfound
    · rename_i route hroute
      cases hfound
      obtain ⟨a, ha, hroute⟩ := (findSome?_fixedRoute? hs hname hall).1 hroute
      obtain ⟨hr, hid, hm, hi⟩ := (fixedRoute?_call hs hname (hall a ha)).1 hroute
      refine ⟨a, ha, action_route hs hname (hall a ha) hr, hm, hi, ?_⟩
      rintro ⟨hshow, -⟩
      rw [(asksForId_of_name (hall a ha)).1 hshow] at hid
      cases hid
    · rename_i hnone
      obtain ⟨a, ha, hroute⟩ := (findSome?_matchedRoute? hs hname hall).1 hfound
      obtain ⟨hr, hid, hm, hi⟩ := (matchedRoute?_call hs hname (hall a ha)).1 hroute
      refine ⟨a, ha, action_route hs hname (hall a ha) hr, hm, hi, ?_⟩
      -- the route of `make` is fixed, and would have been found
      rintro ⟨hshow, hpath, m, hmem, hmake⟩
      obtain ⟨hverb, hmi⟩ := isInstance_make resource (hall m hmem) (hall a ha) hmake hshow
      obtain ⟨route, hmr, -⟩ := exists_route target hs hname (hall m hmem)
      have hmfixed : (m.call s target resource).fixedRoute? method path = some route :=
        (fixedRoute?_call hs hname (hall m hmem)).2
          ⟨hmr, (asksForId_of_name (hall m hmem)).2 hmake, hm.trans hverb.symm, hpath ▸ hmi⟩
      rw [(findSome?_fixedRoute? hs hname hall).2 ⟨m, hmem, hmfixed⟩] at hnone
      cases hnone
  · rintro ⟨a, ha, rfl, hm, hi, hnot⟩
    obtain ⟨route, hr, haction, -⟩ := exists_route target hs hname (hall a ha)
    refine ⟨⟨route, bindings⟩, ?_, haction, rfl⟩
    unfold RouteTable.answerOf
    cases hid : a.asksForId with
    | false =>
      obtain ⟨hpath, rfl⟩ := (isInstance_of_not_asksForId (hall a ha) hid).1 hi
      have hfixed := (fixedRoute?_call hs hname (hall a ha)).2 ⟨hr, hid, hm, hi⟩
      rw [(findSome?_fixedRoute? hs hname hall).2 ⟨a, ha, hfixed⟩]
    | true =>
      have hmatched : (a.call s target resource).matchedRoute? method path =
          some ⟨route, bindings⟩ :=
        (matchedRoute?_call hs hname (hall a ha)).2 ⟨hr, hid, hm, hi⟩
      -- a fixed route for the path could only be that of `make`
      have hnone : (actions.map (·.call s target resource)).reverse.findSome?
          (·.fixedRoute? method path) = none := by
        refine Option.eq_none_iff_forall_ne_some.2 fun fixed hfixed => ?_
        obtain ⟨a', ha', hfixed⟩ := (findSome?_fixedRoute? hs hname hall).1 hfixed
        obtain ⟨-, hid', hm', hi'⟩ := (fixedRoute?_call hs hname (hall a' ha')).1 hfixed
        rcases eq_of_isInstance (hall a' ha') (hall a ha) (hm'.symm.trans hm) hi' hi with
          ⟨rfl, -⟩ | ⟨hpath, ⟨hmake, hshow, -⟩ | ⟨hmake, -⟩⟩
        · rw [hid] at hid'
          cases hid'
        · exact hnot ⟨hshow, hpath, a', ha', hmake⟩
        · rw [(asksForId_of_name (hall a ha)).2 hmake] at hid
          cases hid
      rw [hnone]
      exact (findSome?_matchedRoute? hs hname hall).2 ⟨a, ha, hmatched⟩

end Call

end ResourceAction

/-! ## Requests -/

theorem RouteTable.implements_of_toList {t : RouteTable ρ} (ho : t.isSealed = false)
    (h : t.toList = []) : t.Implements [] where
  isOpen := ho
  fixed method path := (MethodRoutes.empty_of_toList_eq_nil (toList_routesOf h _)).1 _
  matched method path := by
    rw [(MethodRoutes.empty_of_toList_eq_nil (toList_routesOf h _)).2]
    rfl

namespace Builder

/-- A builder outside all prefixes that has registered nothing, with the extension for
resources. -/
structure AwaitsResource (b : Builder ρ) : Prop where
  extension : b.extensions.get? resourceExtensionName = some .resource
  noPrefix : b.scope.pathPrefix = ""
  isOpen : b.table.isSealed = false
  noRoutes : b.table.toList = []

/-- Applied where nothing has been registered, the extension for resources succeeds, and the table
answers as the calls for the actions promise. -/
theorem find_of_apply_resource {b : Builder ρ} (hb : b.AwaitsResource) (target : TargetRef ρ)
    {options : ExtensionOptions}
    (hname : ∀ c ∈ (resourceNameOf target options).toList, c ∉ delimiters)
    (hknown : ∀ action ∈ options.only.getD [] ++ options.except, isResourceAction action = true) :
    ∃ b', b.apply resourceExtensionName target options = .done b' ∧
      ∀ method path, b'.toRouter.table.find method path = RouteTable.answerOf
        ((includedActions options).map (·.call b.scope target (resourceNameOf target options)))
        method path := by
  refine ⟨{ b with table := ((includedActions options).map
    (·.call b.scope target (resourceNameOf target options))).foldl RouteTable.register b.table },
    ?_, fun method path => ?_⟩
  · have hcompile : ∀ r ∈ resourceRegistrations target options,
        ∃ p, compile (b.scope.apply r.pattern) = .ok p := by
      intro r hr
      obtain ⟨a, ha, rfl⟩ := List.mem_map.1 hr
      obtain ⟨p, hp, -⟩ := ResourceAction.compile_pattern (List.mem_filter.1 ha).1 hname
      refine ⟨p, ?_⟩
      rw [Scope.apply, hb.noPrefix]
      exact hp
    rw [apply_resource hb.extension, unknownResourceAction?_eq_none hknown]
    simp only
    rw [setAll_of_compile hb.isOpen hcompile, resourceRegistrations, List.map_map]
    rfl
  · exact ((RouteTable.implements_of_toList hb.isOpen hb.noRoutes).foldl _).find method path

/-- **The requests that lead to the actions of a resource.** Where the resource's name is literal
text, the extension registers all actions that the options include. A request leads to such an
action if its method is the action's verb and its path in normal form is made from the action's
template, with the identifier as the parameter `id`; and it leads nowhere else. Only one path is
made from two templates under one verb: that of `make`, which leads to `show` with the identifier
`make` where `make` itself is left out. -/
theorem resolve_resource {b : Builder ρ} (hb : b.AwaitsResource) (target : TargetRef ρ)
    {options : ExtensionOptions}
    (hname : ∀ c ∈ (resourceNameOf target options).toList, c ∉ delimiters)
    (hknown : ∀ action ∈ options.only.getD [] ++ options.except, isResourceAction action = true) :
    (∃ b', b.apply resourceExtensionName target options = .done b' ∧
      ∀ method path action bindings,
        (∃ found, b'.toRouter.resolve method path = .ok found ∧ found.route.action = action ∧
          found.bindings = bindings) ↔
        ∃ a ∈ resourceActions, options.includes a.name = true ∧
          action = .member (target.inNamespace b.scope.nameSpace) a.name ∧
          Method.normalize method = a.verb ∧
          a.IsInstance (resourceNameOf target options) (Path.normalize path) bindings ∧
          ¬ (a.name = "show" ∧ options.includes "make" = true ∧
            Path.normalize path = "/" ++ resourceNameOf target options ++ "/make")) ∧
    ∀ a ∈ resourceActions, ∀ a' ∈ resourceActions, a.verb = a'.verb →
      ∀ path bindings bindings', a.IsInstance (resourceNameOf target options) path bindings →
        a'.IsInstance (resourceNameOf target options) path bindings' →
        a = a' ∧ bindings = bindings' ∨ path = "/" ++ resourceNameOf target options ++ "/make" ∧
          (a.name = "make" ∧ a'.name = "show" ∧ bindings' = [("id", "make")] ∨
            a'.name = "make" ∧ a.name = "show" ∧ bindings = [("id", "make")]) := by
  refine ⟨?_, fun a ha a' ha' hv path bindings bindings' h h' =>
    ResourceAction.eq_of_isInstance ha ha' hv h h'⟩
  obtain ⟨b', happly, hfind⟩ := find_of_apply_resource hb target hname hknown
  refine ⟨b', happly, fun method path action bindings => ?_⟩
  have hmake : (∃ m ∈ includedActions options, m.name = "make") ↔
      options.includes "make" = true := by
    refine ⟨?_, fun h => ⟨⟨"make", "get", "/make"⟩, mem_includedActions.2 ⟨by decide, h⟩, rfl⟩⟩
    rintro ⟨m, hm, hmake⟩
    exact hmake ▸ (mem_includedActions.1 hm).2
  simp only [Router.resolve_eq_ok, hfind]
  rw [ResourceAction.answerOf_calls hb.noPrefix hname fun a ha => (mem_includedActions.1 ha).1, hmake]
  constructor
  · rintro ⟨a, ha, haction, hm, hinstance, hnot⟩
    obtain ⟨ha, hi⟩ := mem_includedActions.1 ha
    exact ⟨a, ha, hi, haction, hm, hinstance, fun ⟨h₁, h₂, h₃⟩ => hnot ⟨h₁, h₃, h₂⟩⟩
  · rintro ⟨a, ha, hi, haction, hm, hinstance, hnot⟩
    exact ⟨a, mem_includedActions.2 ⟨ha, hi⟩, haction, hm, hinstance,
      fun ⟨h₁, h₂, h₃⟩ => hnot ⟨h₁, h₃, h₂⟩⟩

theorem awaitsResource_standard : (standard : Builder ρ).AwaitsResource where
  extension := by
    simp [standard, addStrategy, addExtension, NameMap.get?_insert]
  noPrefix := rfl
  isOpen := rfl
  noRoutes := rfl

end Builder

end

namespace Builder

/-- A target whose name stands for the resource `postcomment`. -/
def commentsTarget : TargetRef String := .named "Blog::PostCommentController"

theorem resolve_comments :
    resourceNameOf commentsTarget { except := ["make"] } = "postcomment" ∧
    ∃ b', standard.apply resourceExtensionName commentsTarget { except := ["make"] } = .done b' ∧
      ∃ found, b'.toRouter.resolve "GET" "postcomment/make" = .ok found ∧
        found.route.action = .member commentsTarget "show" ∧ found.bindings = [("id", "make")] := by
  have hresource : resourceNameOf commentsTarget { except := ["make"] } = "postcomment" := by
    decide +kernel
  have hname : ∀ c ∈ (resourceNameOf commentsTarget { except := ["make"] }).toList,
      c ∉ delimiters := by
    rw [hresource]
    exact areWellFormed_literals.1 (by decide +kernel)
  obtain ⟨⟨b', happly, hresolve⟩, -⟩ := resolve_resource awaitsResource_standard commentsTarget hname
    (by decide)
  refine ⟨hresource, b', happly, (hresolve _ _ _ _).2 ⟨⟨"show", "get", "/\x7bid\x7d"⟩, by decide,
    by decide, rfl, by decide +kernel, ?_, by decide⟩⟩
  rw [hresource]
  exact ⟨"make", by decide, by decide, by decide +kernel, rfl⟩

end Builder

end UriRouter
