import Mathlib.Data.List.Induction
import UriRouter.Proofs.NameMap
import UriRouter.Proofs.Table.Log

/-!
# The routes of a table

* `RouteTable.mem_toList_of_find` : the route that a table finds is one of its own;
* `RouteTable.mem_toList_foldl_register` : a table's routes are those of the calls it has been given;
* `RouteTable.mem_routes_foldl_register` : the routes of calls that do not contradict each other are
  all there.
-/

set_option autoImplicit false

namespace UriRouter

variable {ρ : Type}

namespace MethodRoutes

theorem mem_of_firstMatch {path : String} {routes : List (Route ρ)} {found : RouteMatch ρ}
    (h : firstMatch path routes = some found) : found.route ∈ routes := by
  induction routes with
  | nil => cases h
  | cons route rest ih =>
    rw [firstMatch] at h
    split at h
    · cases h
      exact List.mem_cons_self
    · exact List.mem_cons_of_mem _ (ih h)

theorem mem_toList_of_find {r : MethodRoutes ρ} {path : String} {found : RouteMatch ρ}
    (h : r.find path = some found) : found.route ∈ r.toList := by
  unfold find at h
  split at h
  · rename_i route hroute
    cases h
    have hentry := NameMap.mem_of_findEntry hroute
    exact List.mem_append_left _ (List.mem_map.2 ⟨_, hentry, rfl⟩)
  · exact List.mem_append_right _ (mem_of_firstMatch h)

theorem mem_toList_add {r : MethodRoutes ρ} {route other : Route ρ}
    (h : other ∈ (r.add route).toList) : other = route ∨ other ∈ r.toList := by
  unfold add at h
  split at h
  · rcases List.mem_append.1 h with h | h
    · obtain ⟨e, he, rfl⟩ := List.mem_map.1 h
      rcases NameMap.mem_of_mem_insertEntry he with rfl | he
      · exact .inl rfl
      · exact .inr (List.mem_append_left _ (List.mem_map.2 ⟨e, he, rfl⟩))
    · exact .inr (List.mem_append_right _ h)
  · rcases List.mem_append.1 h with h | h
    · exact .inr (List.mem_append_left _ h)
    · rcases List.mem_append.1 h with h | h
      · exact .inr (List.mem_append_right _ h)
      · exact .inl (List.mem_singleton.1 h)

/-- The route that was added is among the routes. -/
theorem mem_toList_add_self (r : MethodRoutes ρ) (route : Route ρ) :
    route ∈ (r.add route).toList := by
  unfold add
  split
  · rename_i path _
    have hget : NameMap.findEntry path (r.fixed.insert path route).entries = some route := by
      have h := NameMap.get?_insert r.fixed path path route
      rwa [if_pos rfl] at h
    exact List.mem_append_left _ (List.mem_map.2 ⟨_, NameMap.mem_of_findEntry hget, rfl⟩)
  · exact List.mem_append_right _ (List.mem_append_right _ (List.mem_singleton.2 rfl))

end MethodRoutes

namespace RouteTable

theorem mem_toList_of_get? {t : RouteTable ρ} {method : String} {routes : MethodRoutes ρ}
    (h : t.methods.get? method = some routes) {route : Route ρ} (hr : route ∈ routes.toList) :
    route ∈ t.toList :=
  List.mem_flatMap.2 ⟨routes, List.mem_map.2 ⟨_, NameMap.mem_of_findEntry h, rfl⟩, hr⟩

/-- The route that a table finds is one of its own. -/
theorem mem_toList_of_find {t : RouteTable ρ} {method path : String} {found : RouteMatch ρ}
    (h : t.find method path = some found) : found.route ∈ t.toList := by
  unfold find findNormal at h
  split at h
  · rename_i routes hroutes
    exact mem_toList_of_get? hroutes (MethodRoutes.mem_toList_of_find h)
  · cases h

/-- Adding a route brings no other one in. -/
theorem mem_toList_add {t : RouteTable ρ} {route other : Route ρ}
    (h : other ∈ (t.add route).toList) : other = route ∨ other ∈ t.toList := by
  obtain ⟨routes, hroutes, hother⟩ := List.mem_flatMap.1 h
  obtain ⟨e, he, rfl⟩ := List.mem_map.1 hroutes
  rcases NameMap.mem_of_mem_insertEntry he with rfl | he
  · refine (MethodRoutes.mem_toList_add hother).imp_right fun hother => ?_
    unfold routesOf at hother
    cases hg : t.methods.get? route.method with
    | none =>
      rw [hg] at hother
      cases hother
    | some routes =>
      rw [hg] at hother
      exact mem_toList_of_get? hg hother
  · exact .inr (List.mem_flatMap.2 ⟨e.2, List.mem_map.2 ⟨e, he, rfl⟩, hother⟩)

variable [Regex.PropertyTable]

theorem mem_toList_register {t : RouteTable ρ} {r : RouteCall ρ} {route : Route ρ}
    (h : route ∈ (t.register r).toList) : r.route? = some route ∨ route ∈ t.toList := by
  cases hs : t.isSealed with
  | true =>
    rw [register_of_sealed hs] at h
    exact .inr h
  | false =>
    rw [register_of_open hs] at h
    cases hr : r.route? with
    | none =>
      rw [hr] at h
      exact .inr h
    | some added =>
      rw [hr] at h
      exact (mem_toList_add h).imp_left fun he => congrArg some he.symm

/-- The routes of a table that has been given calls are those of the calls and those it had. -/
theorem mem_toList_foldl_register {t : RouteTable ρ} {log : List (RouteCall ρ)} {route : Route ρ}
    (h : route ∈ (log.foldl register t).toList) :
    (∃ r ∈ log, r.route? = some route) ∨ route ∈ t.toList := by
  induction log generalizing t with
  | nil => exact .inr h
  | cons r log ih =>
    rcases ih h with ⟨r', hr', hroute⟩ | h
    · exact .inl ⟨r', List.mem_cons_of_mem _ hr', hroute⟩
    · exact (mem_toList_register h).imp_left fun hroute => ⟨r, List.mem_cons_self, hroute⟩

/-! ## The routes of one method -/

/-- The route of a call is one of its method's. -/
theorem mem_routes_register_self {t : RouteTable ρ} (ho : t.isSealed = false) {r : RouteCall ρ}
    {route : Route ρ} (hr : r.route? = some route) : route ∈ (t.register r).routes r.method := by
  rw [register_of_open ho, hr, Option.map_some, Option.getD_some, routes, routesOf_add,
    (route?_eq_some hr).1, if_pos rfl]
  exact MethodRoutes.mem_toList_add_self _ route

/-- A call for one method leaves the routes of the others as they are. -/
theorem routes_register_of_ne {t : RouteTable ρ} {r : RouteCall ρ} {method : String}
    (hne : Method.normalize r.method ≠ Method.normalize method) :
    (t.register r).routes method = t.routes method := by
  cases hs : t.isSealed with
  | true => rw [register_of_sealed hs]
  | false =>
    rw [register_of_open hs]
    cases hr : r.route? with
    | none => rfl
    | some route =>
      rw [Option.map_some, Option.getD_some, routes, routesOf_add, (route?_eq_some hr).1,
        if_neg (Ne.symm hne), routes]

/-- Calls none of which adds another route for a method than the ones before it leave the routes
of all of them in the table. -/
theorem mem_routes_foldl_register {t : RouteTable ρ} (ho : t.isSealed = false)
    {log : List (RouteCall ρ)} (hsame : ∀ r ∈ log, ∀ r' ∈ log,
      Method.normalize r.method = Method.normalize r'.method → r.route? = r'.route?)
    {r : RouteCall ρ} (hr : r ∈ log) {route : Route ρ} (hroute : r.route? = some route) :
    route ∈ (log.foldl register t).routes r.method := by
  induction log using List.reverseRecOn with
  | nil => cases hr
  | append_singleton log last ih =>
    have hopen := isSealed_foldl_register ho log
    rw [List.foldl_append, List.foldl_cons, List.foldl_nil]
    by_cases hmethod : Method.normalize last.method = Method.normalize r.method
    · have hlast : last.route? = some route := by
        rw [← hroute]
        exact hsame last (by simp) r hr hmethod
      have hmem := mem_routes_register_self hopen hlast
      rwa [routes, hmethod] at hmem
    · rw [routes_register_of_ne hmethod]
      rcases List.mem_append.1 hr with hr | hr
      · exact ih (fun r₁ h₁ r₂ h₂ => hsame r₁ (List.mem_append_left _ h₁) r₂
          (List.mem_append_left _ h₂)) hr
      · obtain rfl := List.mem_singleton.1 hr
        exact absurd rfl hmethod

end RouteTable

end UriRouter
