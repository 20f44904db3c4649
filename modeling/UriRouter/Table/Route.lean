import UriRouter.Action
import UriRouter.Pattern.Compiled

/-!
# Routes

A registered route, and a route with the parameters that a path binds.
-/

set_option autoImplicit false

namespace UriRouter

/-- The tag of the strategy that passes values as they stand in the path. -/
def uriStrategyTag : String := "uri"

/-- A registered route. -/
structure Route (ρ : Type) where
  /-- The method, in normal form. -/
  method : String
  pattern : Pattern
  action : Action ρ
  /-- The tag of the strategy that serves it. -/
  strategy : String

/-- A route that a path matches, with the parameters it binds. -/
structure RouteMatch (ρ : Type) where
  route : Route ρ
  bindings : Bindings

end UriRouter
