import UriRouter.Proofs.Serve.Allowed

/-!
# Patterns that no path has in common

Where no path matches the patterns of two calls, the order of the calls does not matter, nor does
it which of their patterns are fixed: a path leads to the one route whose pattern it matches, and a
path that matches none leads nowhere, by whatever method.

* `RouteCall.matchOf?` : what a path binds in the route that a call adds;
* `RouteTable.IsSeparate` : calls whose patterns have no path in common;
* `Router.resolve_of_isSeparate`, `Router.resolve_of_noMatch` : what a request is resolved to;
* `Router.exists_call_of_resolve` : the call that a route which was found comes from.
-/

set_option autoImplicit false

namespace UriRouter

variable [Regex.PropertyTable] {ρ : Type}

theorem Pattern.captures?_of_isFixed {raw : String} {p : Pattern} (h : compile raw = .ok p)
    (hf : p.isFixed = true) (path : String) :
    p.captures? path = if Path.normalizePattern raw = path then some [] else none := by
  unfold isFixed at hf
  split at hf
  · rename_i fixed hk
    rw [captures?, hk, ← RouteTable.fixed_of_compile h hk]
  · cases hf

namespace RouteCall

/-- The route that a call adds and what a path binds there, if it matches. -/
def matchOf? (path : String) (r : RouteCall ρ) : Option (RouteMatch ρ) :=
  r.route?.bind fun route => (route.pattern.captures? (Path.normalize path)).map (⟨route, ·⟩)

theorem matchOf?_eq_some {r : RouteCall ρ} {path : String} {found : RouteMatch ρ} :
    r.matchOf? path = some found ↔ r.route? = some found.route ∧
      found.route.pattern.captures? (Path.normalize path) = some found.bindings := by
  rw [matchOf?, Option.bind_eq_some_iff]
  constructor
  · rintro ⟨route, hr, hmap⟩
    obtain ⟨bindings, hb, rfl⟩ := Option.map_eq_some_iff.1 hmap
    exact ⟨hr, hb⟩
  · rintro ⟨hr, hb⟩
    exact ⟨found.route, hr, Option.map_eq_some_iff.2 ⟨_, hb, rfl⟩⟩

/-- A fixed route is found by a path that it matches. It binds nothing. -/
theorem fixedRoute?_eq_some {r : RouteCall ρ} {method path : String} {route : Route ρ} :
    r.fixedRoute? method path = some route ↔
      route.pattern.isFixed = true ∧ r.isFor method = true ∧
        r.matchOf? path = some ⟨route, []⟩ := by
  rw [fixedRoute?, Option.filter_eq_some_iff, matchOf?_eq_some, Bool.and_eq_true,
    Bool.and_eq_true, beq_iff_eq]
  constructor
  · rintro ⟨hr, ⟨hf, hm⟩, hpath⟩
    have hcaptures := Pattern.captures?_of_isFixed (RouteTable.route?_eq_some hr).2 hf
    exact ⟨hf, hm, hr, (hcaptures _).trans (if_pos hpath)⟩
  · rintro ⟨hf, hm, hr, hb⟩
    have hcaptures := Pattern.captures?_of_isFixed (RouteTable.route?_eq_some hr).2 hf
    refine ⟨hr, ⟨hf, hm⟩, ?_⟩
    by_contra hne
    rw [hcaptures, if_neg hne] at hb
    cases hb

theorem matchedRoute?_eq_some {r : RouteCall ρ} {method path : String} {found : RouteMatch ρ} :
    r.matchedRoute? method path = some found ↔
      found.route.pattern.isFixed = false ∧ r.isFor method = true ∧
        r.matchOf? path = some found := by
  rw [matchedRoute?, Option.bind_eq_some_iff, matchOf?_eq_some]
  simp only [Option.filter_eq_some_iff, Bool.and_eq_true, Bool.not_eq_true',
    Option.map_eq_some_iff]
  constructor
  · rintro ⟨route, ⟨hr, hf, hm⟩, bindings, hb, rfl⟩
    exact ⟨hf, hm, hr, hb⟩
  · rintro ⟨hf, hm, hr, hb⟩
    exact ⟨found.route, ⟨hr, hf, hm⟩, _, hb, rfl⟩

theorem bindings_of_isFixed {r : RouteCall ρ} {path : String} {found : RouteMatch ρ}
    (h : r.matchOf? path = some found) (hf : found.route.pattern.isFixed = true) :
    found.bindings = [] := by
  obtain ⟨hr, hb⟩ := matchOf?_eq_some.1 h
  rw [Pattern.captures?_of_isFixed (RouteTable.route?_eq_some hr).2 hf] at hb
  split at hb
  · exact (Option.some.inj hb).symm
  · cases hb

end RouteCall

namespace RouteTable

/-- Calls of which no two have patterns that match the same path. -/
def IsSeparate (log : List (RouteCall ρ)) : Prop :=
  ∀ r ∈ log, ∀ r' ∈ log, ∀ path, (r.matchOf? path).isSome = true →
    (r'.matchOf? path).isSome = true → r = r'

/-- What is promised for a path comes from a call whose pattern it matches. -/
theorem exists_call_of_answerOf {log : List (RouteCall ρ)} {method path : String}
    {found : RouteMatch ρ} (h : answerOf log method path = some found) :
    ∃ r ∈ log, r.isFor method = true ∧ r.matchOf? path = some found := by
  unfold answerOf at h
  split at h
  · rename_i route hroute
    cases h
    obtain ⟨r, hr, hf⟩ := List.exists_of_findSome?_eq_some hroute
    obtain ⟨-, hm, hmatch⟩ := RouteCall.fixedRoute?_eq_some.1 hf
    exact ⟨r, List.mem_reverse.1 hr, hm, hmatch⟩
  · obtain ⟨r, hr, hf⟩ := List.exists_of_findSome?_eq_some h
    obtain ⟨-, hm, hmatch⟩ := RouteCall.matchedRoute?_eq_some.1 hf
    exact ⟨r, hr, hm, hmatch⟩

/-- Where patterns have no path in common, each call is promised what its pattern matches. -/
theorem IsSeparate.answerOf_eq_some {log : List (RouteCall ρ)} (h : IsSeparate log)
    {r : RouteCall ρ} (hr : r ∈ log) {method path : String} {found : RouteMatch ρ}
    (hm : r.isFor method = true) (hf : r.matchOf? path = some found) :
    answerOf log method path = some found := by
  -- whatever is found is found through a call that the path matches, so through this one
  have hsame : ∀ found', answerOf log method path = some found' → found' = found := by
    intro found' hfound
    obtain ⟨r', hr', -, hf'⟩ := exists_call_of_answerOf hfound
    obtain rfl := h r hr r' hr' path (by rw [hf]; rfl) (by rw [hf']; rfl)
    exact Option.some.inj (hf'.symm.trans hf)
  have hsome : ∃ found', answerOf log method path = some found' := by
    unfold answerOf
    split
    · exact ⟨_, rfl⟩
    · rename_i hnone
      cases hfixed : found.route.pattern.isFixed with
      | true =>
        have hmatch : r.matchOf? path = some ⟨found.route, []⟩ := by
          rw [hf, ← RouteCall.bindings_of_isFixed hf hfixed]
        have hroute := List.findSome?_eq_none_iff.1 hnone r (List.mem_reverse.2 hr)
        rw [RouteCall.fixedRoute?_eq_some.2 ⟨hfixed, hm, hmatch⟩] at hroute
        cases hroute
      | false =>
        refine Option.isSome_iff_exists.1 (List.findSome?_isSome_iff.2 ⟨r, hr, ?_⟩)
        rw [RouteCall.matchedRoute?_eq_some.2 ⟨hfixed, hm, hf⟩]
        rfl
  obtain ⟨found', hfound⟩ := hsome
  rw [hfound, hsame found' hfound]

end RouteTable

namespace Router

variable {log : List (RouteCall ρ)} {strategies : Strategies ρ} {targets : Targets ρ}
  {method path : String}

theorem table_new_find (log : List (RouteCall ρ)) (strategies : Strategies ρ)
    (targets : Targets ρ) (method path : String) :
    (new (.ofLog log) strategies targets).table.find method path =
      RouteTable.answerOf log method path :=
  (RouteTable.implements_ofLog log).find method path

/-- The route that is found comes from a call whose pattern the path matches. -/
theorem exists_call_of_resolve {found : RouteMatch ρ}
    (h : (new (.ofLog log) strategies targets).resolve method path = .ok found) :
    ∃ r ∈ log, r.isFor method = true ∧ r.matchOf? path = some found := by
  rw [resolve_eq_ok, table_new_find] at h
  exact RouteTable.exists_call_of_answerOf h

/-- **Where patterns have no path in common**, a path leads to the route whose pattern it
matches. -/
theorem resolve_of_isSeparate (h : RouteTable.IsSeparate log) {r : RouteCall ρ} (hr : r ∈ log)
    {found : RouteMatch ρ} (hm : r.isFor method = true) (hf : r.matchOf? path = some found) :
    (new (.ofLog log) strategies targets).resolve method path = .ok found := by
  rw [resolve_eq_ok, table_new_find]
  exact h.answerOf_eq_some hr hm hf

theorem resolve_of_noMatch (h : ∀ r ∈ log, r.matchOf? path = none) :
    (new (.ofLog log) strategies targets).resolve method path =
      .error (.notFound (Method.normalize method) path) := by
  have hfind : ∀ method,
      (new (.ofLog log) strategies targets).table.find method path = none := by
    intro method
    rw [table_new_find]
    refine Option.eq_none_iff_forall_ne_some.2 fun found hfound => ?_
    obtain ⟨r, hr, -, hf⟩ := RouteTable.exists_call_of_answerOf hfound
    rw [h r hr] at hf
    cases hf
  have hallowed := (RouteTable.lists_ofLog log).sealed.allowedMethods_eq_nil.2
    fun method _ => hfind method
  exact resolve_eq_notFound.2 ⟨⟨rfl, rfl⟩, hfind method, hallowed⟩

end Router

end UriRouter
