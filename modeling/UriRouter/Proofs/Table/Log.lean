import UriRouter.Table.Basic

/-!
# Tables and the calls they come from

A table is reached from the empty one by calls that register a route, some of which fail. What it
answers can be read off the calls alone: the last fixed route for a path counts, and without one
the first other route that matches.

* `RouteTable.ofLog` : the table after a sequence of calls;
* `RouteTable.find_ofLog` : what it answers.
-/

set_option autoImplicit false

namespace UriRouter

variable {ρ : Type}

namespace RouteTable

theorem routesOf_add (t : RouteTable ρ) (route : Route ρ) (method : String) :
    (t.add route).routesOf method =
      if method = route.method then (t.routesOf method).add route else t.routesOf method := by
  rw [routesOf, add, NameMap.get?_insert]
  by_cases h : method = route.method
  · simp only [h, ↓reduceIte, Option.getD_some]
  · simp only [h, ↓reduceIte]
    rfl

theorem firstMatch_append (path : String) (routes routes' : List (Route ρ)) :
    MethodRoutes.firstMatch path (routes ++ routes') =
      (MethodRoutes.firstMatch path routes).or (MethodRoutes.firstMatch path routes') := by
  induction routes with
  | nil => rfl
  | cons route rest ih =>
    rw [List.cons_append, MethodRoutes.firstMatch, MethodRoutes.firstMatch, ih]
    cases route.pattern.captures? path <;> rfl

theorem find_eq (t : RouteTable ρ) (method path : String) :
    t.find method path = (t.routesOf (Method.normalize method)).find (Path.normalize path) := by
  unfold find findNormal routesOf
  cases t.methods.get? (Method.normalize method) <;> rfl

end RouteTable

/-! ## Calls -/

/-- A call that registers a route. -/
structure RouteCall (ρ : Type) where
  method : String
  pattern : String
  action : Action ρ
  strategy : String

variable [Regex.PropertyTable]

namespace RouteCall

/-- The route that a call adds to a table that is open. There is none if the pattern is faulty. -/
def route? (r : RouteCall ρ) : Option (Route ρ) :=
  match Pattern.compile r.pattern with
  | .ok compiled => some ⟨Method.normalize r.method, compiled, r.action, r.strategy⟩
  | .error _ => none

/-- Whether a call names a method, in whatever case. -/
def isFor (r : RouteCall ρ) (method : String) : Bool :=
  Method.normalize r.method == Method.normalize method

/-- The fixed route that a call adds for a method and a path. -/
def fixedRoute? (method path : String) (r : RouteCall ρ) : Option (Route ρ) :=
  r.route?.filter fun route =>
    route.pattern.isFixed && r.isFor method &&
      Path.normalizePattern r.pattern == Path.normalize path

/-- The route that a call adds for a method, if it is not fixed, and what a path binds there. -/
def matchedRoute? (method path : String) (r : RouteCall ρ) : Option (RouteMatch ρ) :=
  (r.route?.filter fun route => !route.pattern.isFixed && r.isFor method).bind fun route =>
    (route.pattern.captures? (Path.normalize path)).map (⟨route, ·⟩)

end RouteCall

namespace RouteTable

/-- The table after a call. One that fails leaves it as it was. -/
def register (t : RouteTable ρ) (r : RouteCall ρ) : RouteTable ρ :=
  match t.set r.method r.pattern r.action r.strategy with
  | .ok t' => t'
  | .error _ => t

/-- The table after a sequence of calls, none of which finds it sealed. -/
def ofLog (log : List (RouteCall ρ)) : RouteTable ρ := log.foldl register empty

/-- What a sequence of calls promises for a method and a path. -/
def answerOf (log : List (RouteCall ρ)) (method path : String) : Option (RouteMatch ρ) :=
  match log.reverse.findSome? (·.fixedRoute? method path) with
  | some route => some ⟨route, []⟩
  | none => log.findSome? (·.matchedRoute? method path)

/-! ## One call -/

theorem register_of_open {t : RouteTable ρ} (ho : t.isSealed = false) (r : RouteCall ρ) :
    t.register r = (r.route?.map t.add).getD t := by
  rw [register, set, RouteCall.route?, ho]
  cases Pattern.compile r.pattern <;> rfl

/-- A sealed table refuses a route, whatever its pattern is. -/
theorem set_of_sealed {t : RouteTable ρ} (h : t.isSealed = true) (method pattern : String)
    (action : Action ρ) (strategy : String) :
    t.set method pattern action strategy =
      .error (.configuration (.isSealed (Method.normalize method) pattern)) := by
  rw [set, h]
  rfl

theorem register_of_sealed {t : RouteTable ρ} (h : t.isSealed = true) (r : RouteCall ρ) :
    t.register r = t := by
  rw [register, set_of_sealed h]

/-- A table stays open when a route is registered. -/
theorem isSealed_register {t : RouteTable ρ} (ho : t.isSealed = false) (r : RouteCall ρ) :
    (t.register r).isSealed = false := by
  rw [register_of_open ho]
  cases r.route? <;> exact ho

theorem isSealed_foldl_register {t : RouteTable ρ} (ho : t.isSealed = false)
    (log : List (RouteCall ρ)) : (log.foldl register t).isSealed = false := by
  induction log generalizing t with
  | nil => exact ho
  | cons r log ih => exact ih (isSealed_register ho r)

/-- A fixed pattern stands for its own text in normal form. -/
theorem fixed_of_compile {raw path : String} {p : Pattern} (h : Pattern.compile raw = .ok p)
    (hk : p.kind = .fixed path) : path = Path.normalizePattern raw := by
  unfold Pattern.compile at h
  simp only at h
  split at h
  · cases h
  · rename_i items _
    split at h
    · cases h
    · rename_i kind hkind
      cases h
      cases hk
      unfold Pattern.kindOf at hkind
      split at hkind
      · cases hkind
        rfl
      · split at hkind <;> cases hkind

/-! ## A whole log -/

/-- A table that answers for every method and path as a sequence of calls promises, from what it
keeps by path and from what it keeps in order. -/
structure Implements (t : RouteTable ρ) (log : List (RouteCall ρ)) : Prop where
  isOpen : t.isSealed = false
  fixed : ∀ method path, (t.routesOf (Method.normalize method)).fixed.get? (Path.normalize path) =
    log.reverse.findSome? (·.fixedRoute? method path)
  matched : ∀ method path,
    MethodRoutes.firstMatch (Path.normalize path) (t.routesOf (Method.normalize method)).matched =
      log.findSome? (·.matchedRoute? method path)

theorem implements_empty : Implements (empty : RouteTable ρ) [] :=
  ⟨rfl, fun _ _ => rfl, fun _ _ => rfl⟩

theorem route?_eq_some {r : RouteCall ρ} {route : Route ρ} (h : r.route? = some route) :
    route.method = Method.normalize r.method ∧ Pattern.compile r.pattern = .ok route.pattern := by
  unfold RouteCall.route? at h
  split at h
  · rename_i compiled hc
    cases h
    exact ⟨rfl, hc⟩
  · cases h

/-- The routes kept by path after one more route. -/
theorem fixed_add (t : RouteTable ρ) {r : RouteCall ρ} {route : Route ρ}
    (hr : r.route? = some route) (method path : String) :
    ((t.add route).routesOf (Method.normalize method)).fixed.get? (Path.normalize path) =
      (r.fixedRoute? method path).or
        ((t.routesOf (Method.normalize method)).fixed.get? (Path.normalize path)) := by
  obtain ⟨hm, hc⟩ := route?_eq_some hr
  simp only [RouteCall.fixedRoute?, RouteCall.isFor, hr, Option.filter_some]
  rw [routesOf_add, hm]
  by_cases hf : Method.normalize r.method = Method.normalize method
  · rw [if_pos hf.symm, MethodRoutes.add]
    cases hk : route.pattern.kind with
    | matched matcher => simp [Pattern.isFixed, hk]
    | fixed fixed =>
      simp only [NameMap.get?_insert, fixed_of_compile hc hk, Pattern.isFixed, hk, hf]
      by_cases hp : Path.normalizePattern r.pattern = Path.normalize path
      · simp [hp]
      · simp [hp, Ne.symm hp]
  · rw [if_neg (Ne.symm hf)]
    simp [hf]

/-- The routes kept in order after one more route. -/
theorem firstMatch_add (t : RouteTable ρ) {r : RouteCall ρ} {route : Route ρ}
    (hr : r.route? = some route) (method path : String) :
    MethodRoutes.firstMatch (Path.normalize path)
        ((t.add route).routesOf (Method.normalize method)).matched =
      (MethodRoutes.firstMatch (Path.normalize path)
        (t.routesOf (Method.normalize method)).matched).or (r.matchedRoute? method path) := by
  obtain ⟨hm, -⟩ := route?_eq_some hr
  simp only [RouteCall.matchedRoute?, RouteCall.isFor, hr, Option.filter_some]
  rw [routesOf_add, hm]
  by_cases hf : Method.normalize r.method = Method.normalize method
  · rw [if_pos hf.symm, MethodRoutes.add]
    cases hk : route.pattern.kind with
    | fixed fixed => simp [Pattern.isFixed, hk]
    | matched matcher =>
      rw [firstMatch_append]
      simp only [MethodRoutes.firstMatch, Pattern.isFixed, hk, hf]
      cases hb : route.pattern.captures? (Path.normalize path) <;> simp [hb]
  · rw [if_neg (Ne.symm hf)]
    simp [hf]

/-- A faulty call adds nothing on either side, any other one route on both. -/
theorem Implements.register {t : RouteTable ρ} {log : List (RouteCall ρ)}
    (h : Implements t log) (r : RouteCall ρ) : Implements (t.register r) (log ++ [r]) := by
  refine ⟨isSealed_register h.isOpen r, fun method path => ?_, fun method path => ?_⟩
  · rw [List.reverse_append, List.reverse_singleton, List.singleton_append, List.findSome?_cons,
      ← h.fixed, register_of_open h.isOpen]
    cases hr : r.route? with
    | none => simp [RouteCall.fixedRoute?, hr]
    | some route =>
      rw [Option.map_some, Option.getD_some, fixed_add t hr]
      cases r.fixedRoute? method path <;> rfl
  · rw [List.findSome?_append, List.findSome?_singleton, ← h.matched, register_of_open h.isOpen]
    cases hr : r.route? with
    | none => simp [RouteCall.matchedRoute?, hr]
    | some route => rw [Option.map_some, Option.getD_some, firstMatch_add t hr]

theorem Implements.foldl {t : RouteTable ρ} {log : List (RouteCall ρ)} (h : Implements t log)
    (log' : List (RouteCall ρ)) : Implements (log'.foldl RouteTable.register t) (log ++ log') := by
  induction log' generalizing t log with
  | nil => simpa using h
  | cons r rest ih =>
    have := ih (h.register r)
    rwa [List.append_assoc, List.singleton_append] at this

theorem implements_ofLog (log : List (RouteCall ρ)) : Implements (ofLog log) log :=
  implements_empty.foldl log

theorem Implements.find {t : RouteTable ρ} {log : List (RouteCall ρ)} (h : Implements t log)
    (method path : String) : t.find method path = answerOf log method path := by
  rw [find_eq, MethodRoutes.find, h.fixed, h.matched]
  rfl

/-- Calls that fail leave no trace. -/
theorem foldl_register_filter {t : RouteTable ρ} (ho : t.isSealed = false)
    (log : List (RouteCall ρ)) :
    (log.filter (·.route?.isSome)).foldl register t = log.foldl register t := by
  induction log generalizing t with
  | nil => rfl
  | cons r rest ih =>
    rw [List.filter_cons, List.foldl_cons]
    cases hr : r.route? with
    | none =>
      have ht : t.register r = t := by rw [register_of_open ho, hr]; rfl
      rw [ht]
      exact ih ho
    | some route => exact ih (isSealed_register ho r)

/-- **A table implements its log.** For every method and path it finds the last fixed route that
was registered for them, or else the first other one that matches, and it is the table that the
calls that did not fail make alone. -/
theorem find_ofLog (log : List (RouteCall ρ)) :
    (∀ method path, (ofLog log).find method path = answerOf log method path) ∧
      ofLog (log.filter (·.route?.isSome)) = ofLog log :=
  ⟨(implements_ofLog log).find, foldl_register_filter rfl log⟩

end RouteTable

end UriRouter
