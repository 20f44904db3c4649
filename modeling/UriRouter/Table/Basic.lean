import UriRouter.NameMap
import UriRouter.Table.Route

/-!
# Route tables

Routes by method. Under each method the fixed patterns are kept by their path, a later one taking
the place of an earlier one, and all others in the order of registration, the first that matches
being the one that counts. A sealed table takes no further route.

* `RouteTable.set` : registers a route;
* `RouteTable.find` : the route that a method and a path lead to;
* `RouteTable.allowedMethods` : the methods under which a path leads anywhere.
-/

set_option autoImplicit false

namespace UriRouter

/-- What is wrong with a registration. -/
inductive RegistrationError where
  | pattern (e : PatternError)
  | usage (e : UsageError)
  | configuration (e : ConfigurationError)
  deriving DecidableEq, Repr

/-- The error in words. -/
def RegistrationError.message : RegistrationError → String
  | .pattern e => e.message
  | .usage e => e.message
  | .configuration e => e.message

/-- The routes of one method. -/
structure MethodRoutes (ρ : Type) where
  /-- The routes with fixed patterns, by their path. -/
  fixed : NameMap (Route ρ) := {}
  /-- The other routes, in the order of registration. -/
  matched : List (Route ρ) := []

namespace MethodRoutes

variable {ρ : Type}

/-- The first route that matches a path in normal form. -/
def firstMatch (path : String) : List (Route ρ) → Option (RouteMatch ρ)
  | [] => none
  | route :: rest =>
    match route.pattern.captures? path with
    | some bindings => some ⟨route, bindings⟩
    | none => firstMatch path rest

/-- The route that a path in normal form leads to. -/
def find (r : MethodRoutes ρ) (path : String) : Option (RouteMatch ρ) :=
  match r.fixed.get? path with
  | some route => some ⟨route, []⟩
  | none => firstMatch path r.matched

/-- Whether a path in normal form leads to a route. -/
def accepts (r : MethodRoutes ρ) (path : String) : Bool :=
  r.fixed.contains path || r.matched.any (·.pattern.accepts path)

/-- Adds a route in the place that its pattern asks for. -/
def add (r : MethodRoutes ρ) (route : Route ρ) : MethodRoutes ρ :=
  match route.pattern.kind with
  | .fixed path => { r with fixed := r.fixed.insert path route }
  | .matched _ => { r with matched := r.matched ++ [route] }

/-- The routes, those with fixed patterns first and in the order of their paths. -/
def toList (r : MethodRoutes ρ) : List (Route ρ) := r.fixed.values ++ r.matched

/-- A path is accepted exactly when it leads to a route. -/
theorem accepts_eq_isSome (r : MethodRoutes ρ) (path : String) :
    r.accepts path = (r.find path).isSome := by
  have h : ∀ routes : List (Route ρ),
      routes.any (·.pattern.accepts path) = (firstMatch path routes).isSome := by
    intro routes
    induction routes with
    | nil => rfl
    | cons route rest ih =>
      rw [List.any_cons, ih, Pattern.accepts_eq_isSome, firstMatch]
      cases route.pattern.captures? path <;> rfl
  unfold accepts find NameMap.contains
  cases r.fixed.get? path with
  | some route => rfl
  | none => simpa using h r.matched

end MethodRoutes

/-- Routes by method. -/
structure RouteTable (ρ : Type) where
  methods : NameMap (MethodRoutes ρ) := {}
  isSealed : Bool := false

namespace RouteTable

variable {ρ : Type}

/-- The table without routes. -/
def empty : RouteTable ρ := {}

/-- The routes of a method in normal form. -/
def routesOf (t : RouteTable ρ) (method : String) : MethodRoutes ρ :=
  (t.methods.get? method).getD {}

/-- Adds a compiled route. -/
def add (t : RouteTable ρ) (route : Route ρ) : RouteTable ρ :=
  { t with methods := t.methods.insert route.method ((t.routesOf route.method).add route) }

/-- Registers a route. A sealed table refuses it before its pattern is looked at. -/
def set [Regex.PropertyTable] (t : RouteTable ρ) (method pattern : String) (action : Action ρ)
    (strategy : String) : Except RegistrationError (RouteTable ρ) :=
  let method := Method.normalize method
  if t.isSealed then .error (.configuration (.isSealed method pattern))
  else match Pattern.compile pattern with
    | .error e => .error (.pattern e)
    | .ok compiled => .ok (t.add ⟨method, compiled, action, strategy⟩)

/-- The table that takes no further route. -/
def sealed (t : RouteTable ρ) : RouteTable ρ := { t with isSealed := true }

/-- The route that a method and a path, both in normal form, lead to. -/
def findNormal (t : RouteTable ρ) (method path : String) : Option (RouteMatch ρ) :=
  match t.methods.get? method with
  | some routes => routes.find path
  | none => none

/-- The route that a method and a path lead to. -/
def find (t : RouteTable ρ) (method path : String) : Option (RouteMatch ρ) :=
  t.findNormal (Method.normalize method) (Path.normalize path)

/-- The methods under which a path leads to a route, in order. -/
def allowedMethods (t : RouteTable ρ) (path : String) : List String :=
  (t.methods.entries.filter fun e => e.2.accepts (Path.normalize path)).map (·.1)

/-- The methods that have a route, in order. -/
def methodNames (t : RouteTable ρ) : List String := t.methods.names

/-- The routes of a method. -/
def routes (t : RouteTable ρ) (method : String) : List (Route ρ) :=
  (t.routesOf (Method.normalize method)).toList

/-- All routes, by method. -/
def toList (t : RouteTable ρ) : List (Route ρ) := t.methods.values.flatMap (·.toList)

/-- The number of routes. -/
def size (t : RouteTable ρ) : Nat := t.toList.length

end RouteTable

end UriRouter
