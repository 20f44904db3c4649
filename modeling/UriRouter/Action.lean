import UriRouter.Callee
import UriRouter.Configuration

/-!
# Actions

What a route does with a request: it calls a handler, or an operation of a target, which is a
controller at hand or the name of one.

* `Action.ofDescriptor` : the action that a text `Target#member` describes;
* `Action.inNamespace` : the action with its target's name qualified.
-/

set_option autoImplicit false

namespace UriRouter

/-- A name in a namespace; the empty namespace changes nothing. -/
def qualify (space name : String) : String :=
  if space.isEmpty then name else space ++ "::" ++ name

/-- A target of an action. -/
inductive TargetRef (ρ : Type) where
  /-- The target registered under a name when the route is served. -/
  | named (name : String)
  | bound (controller : Controller ρ)

/-- What a route does. -/
inductive Action (ρ : Type) where
  | handler (h : Handler ρ)
  | member (target : TargetRef ρ) (name : String)

namespace TargetRef

variable {ρ : Type}

/-- The name of a target. -/
def name : TargetRef ρ → String
  | .named name => name
  | .bound controller => controller.name

/-- The target with its name qualified; a controller at hand stays as it is. -/
def inNamespace (space : String) : TargetRef ρ → TargetRef ρ
  | .named name => .named (qualify space name)
  | .bound controller => .bound controller

end TargetRef

namespace Action

variable {ρ : Type}

/-- The action with its target's name qualified. -/
def inNamespace (space : String) : Action ρ → Action ρ
  | .handler h => .handler h
  | .member target name => .member (target.inNamespace space) name

/-- The action that a text describes: a target's name, a `#` and a member, neither of them empty
and with no other `#`. -/
def ofDescriptor (descriptor : String) : Except ConfigurationError (Action ρ) :=
  let cs := descriptor.toList
  let target := cs.takeWhile (· != '#')
  let member := (cs.dropWhile (· != '#')).drop 1
  if target.isEmpty || member.isEmpty || member.contains '#' then
    .error (.invalidDescriptor descriptor)
  else .ok (.member (.named (String.ofList target)) (String.ofList member))

end Action

/-- How an action is given at registration. -/
inductive ActionSource (ρ : Type) where
  | action (a : Action ρ)
  /-- A text `Target#member`, read when the route is registered. -/
  | descriptor (text : String)

/-- The action that is meant. -/
def ActionSource.resolve {ρ : Type} : ActionSource ρ → Except ConfigurationError (Action ρ)
  | .action a => .ok a
  | .descriptor text => Action.ofDescriptor text

end UriRouter
