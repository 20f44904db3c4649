import UriRouter.Serve.Strategy
import UriRouter.Table.Basic

/-!
# Routers

A router serves requests from a sealed table: it resolves a method and a path to a route, and has
the route's strategy serve it.

* `Router.resolve` : the route and its parameters, or the reason there is none;
* `Router.dispatch` : the reply to a request.
-/

set_option autoImplicit false

namespace UriRouter

/-- A sealed table with the strategies and targets that its routes name. -/
structure Router (ρ : Type) where
  table : RouteTable ρ
  strategies : Strategies ρ
  targets : Targets ρ

namespace Router

variable {ρ : Type}

/-- A router for a table, which is sealed. -/
def new (table : RouteTable ρ) (strategies : Strategies ρ) (targets : Targets ρ) : Router ρ :=
  ⟨table.sealed, strategies, targets⟩

/-- A router with the standard strategy and without targets. -/
def ofTable (table : RouteTable ρ) : Router ρ := new table .standard {}

/-- The route that a method and a path lead to. If only other methods lead anywhere, the error
names them. -/
def resolve (r : Router ρ) (method path : String) : Except DispatchError (RouteMatch ρ) :=
  let normalMethod := Method.normalize method
  let normalPath := Path.normalize path
  match r.table.findNormal normalMethod normalPath with
  | some found => .ok found
  | none =>
    match r.table.allowedMethods normalPath with
    | [] => .error (.notFound normalMethod path)
    | allowed => .error (.methodNotAllowed normalMethod path allowed)

/-- Serves a request. The strategy is looked up once the route is known. -/
def dispatch (r : Router ρ) (method path : String) : Reply DispatchError ρ :=
  match r.resolve method path with
  | .error e => .fail e
  | .ok found =>
    match r.strategies.find found.route.strategy with
    | .error e => .fail (.configuration e)
    | .ok strategy => strategy.invoke ⟨found.route.action, found.bindings, r.targets⟩

end Router

end UriRouter
