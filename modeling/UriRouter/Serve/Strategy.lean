import UriRouter.NameMap
import UriRouter.Table.Route

/-!
# Strategies

A strategy serves a matched route: it finds the callee, arranges the bound parameters in the order
the callee declares them, and calls it. Strategies differ in what they do to the values on the way.

A name stands for one controller, the same for every request that goes to it: a factory is written
here as the controller that it makes, and a factory that makes different ones is left out.

* `Invocation.resolve` : the callee of a matched route;
* `arrange` : the arguments for a signature;
* `Strategy.uri`, `Strategy.mapValues` : values as they stand in the path, or changed one by one.
-/

set_option autoImplicit false

namespace UriRouter

/-- Why a request was not served. -/
inductive DispatchError where
  /-- No method leads anywhere from this path. -/
  | notFound (method path : String)
  /-- Only other methods do. -/
  | methodNotAllowed (method path : String) (allowed : List String)
  | argument (e : ArgumentError)
  | configuration (e : ConfigurationError)
  /-- The callee itself failed. -/
  | handler (message : String)
  deriving DecidableEq, Repr

namespace DispatchError

/-- The error in words. -/
def message : DispatchError → String
  | .notFound method path => "no route matches " ++ method ++ " " ++ path
  | .methodNotAllowed method path allowed =>
    "method " ++ method ++ " is not allowed for " ++ path ++
      " (allowed: " ++ commaList allowed ++ ")"
  | .argument e => e.message
  | .configuration e => e.message
  | .handler message => "handler failed: " ++ message

/-- Whether no method leads anywhere. -/
def isNotFound : DispatchError → Bool
  | .notFound .. => true
  | _ => false

/-- Whether only other methods lead anywhere. -/
def isMethodNotAllowed : DispatchError → Bool
  | .methodNotAllowed .. => true
  | _ => false

/-- The methods that do, where the error names them. -/
def allowed? : DispatchError → Option (List String)
  | .methodNotAllowed _ _ allowed => some allowed
  | _ => none

/-- Whether the error names a method as allowed, in any letter case. -/
def can (e : DispatchError) (method : String) : Bool :=
  (e.allowed?.getD []).contains (Method.normalize method)

/-- The error of serving that a failed call is. -/
def ofCall : CallError → DispatchError
  | .argument e => .argument e
  | .failed message => .handler message

end DispatchError

/-- Controllers by name. -/
abbrev Targets (ρ : Type) := NameMap (Controller ρ)

/-- The controller registered under a name. -/
def Targets.instantiate {ρ : Type} (targets : Targets ρ) (name : String) :
    Except ConfigurationError (Controller ρ) :=
  match targets.get? name with
  | some controller => .ok controller
  | none => .error (.unknownTarget name targets.names)

/-- A matched route on its way to being served. -/
structure Invocation (ρ : Type) where
  action : Action ρ
  bindings : Bindings
  targets : Targets ρ

/-- What a route was found to call. -/
structure Resolved (ρ : Type) where
  /-- What it is called in descriptions: `handler`, or the controller and the member. -/
  callee : String
  signature : Signature
  call : Arguments → Reply CallError ρ

namespace Resolved

variable {ρ : Type}

/-- A handler as a callee. -/
def ofHandler (h : Handler ρ) : Resolved ρ := ⟨"handler", h.signature, h.call⟩

/-- A controller's operation as a callee. -/
def ofMember (c : Controller ρ) (member : String) : Except ConfigurationError (Resolved ρ) :=
  match c.operation? member with
  | some op => .ok ⟨c.name ++ "#" ++ member, op.signature, c.call member⟩
  | none => .error (.unknownMember c.name member)

end Resolved

/-- The callee. A target's name is looked up only now. -/
def Invocation.resolve {ρ : Type} (i : Invocation ρ) : Except ConfigurationError (Resolved ρ) :=
  match i.action with
  | .handler h => .ok (.ofHandler h)
  | .member (.bound c) member => Resolved.ofMember c member
  | .member (.named name) member =>
    match i.targets.instantiate name with
    | .ok c => Resolved.ofMember c member
    | .error e => .error e

/-- The value that a path binds to a name: the first, if there are several. -/
def Bindings.get? (b : Bindings) (name : String) : Option String :=
  (b.find? (·.1 == name)).map (·.2)

/-- The argument for a parameter. -/
def argumentFor (b : Bindings) (p : Parameter) :
    Except ConfigurationError (String × Option String) :=
  match b.get? p.name, p.fallback with
  | some value, _ => .ok (p.name, some value)
  | none, .value text => .ok (p.name, some text)
  | none, .absent => .ok (p.name, none)
  | none, .required => .error (.missingDefault p.name)

/-- The arguments for a signature: one for each parameter, in order. -/
def arrange : Signature → Bindings → Except ConfigurationError Arguments
  | [], _ => .ok []
  | p :: rest, b =>
    match argumentFor b p with
    | .error e => .error e
    | .ok argument =>
      match arrange rest b with
      | .error e => .error e
      | .ok arguments => .ok (argument :: arguments)

/-- A way of serving matched routes. -/
structure Strategy (ρ : Type) where
  invoke : Invocation ρ → Reply DispatchError ρ

namespace Strategy

variable {ρ : Type}

/-- Calls the callee with its arguments changed by `f`, unless `f` fails. -/
def withArguments (f : Arguments → Except ArgumentError Arguments) : Strategy ρ where
  invoke i :=
    match i.resolve with
    | .error e => .fail (.configuration e)
    | .ok callee =>
      match arrange callee.signature i.bindings with
      | .error e => .fail (.configuration e)
      | .ok arguments =>
        match f arguments with
        | .error e => .fail (.argument e)
        | .ok arguments => (callee.call arguments).mapError .ofCall

/-- Passes the values as they stand in the path. -/
def uri : Strategy ρ := withArguments .ok

/-- Passes the values with `f`, which is told the parameter's name, applied to each. -/
def mapValues (f : String → String → Except ArgumentError String) : Strategy ρ :=
  withArguments (Arguments.tryMap f)

end Strategy

/-- Strategies by tag. -/
abbrev Strategies (ρ : Type) := NameMap (Strategy ρ)

namespace Strategies

variable {ρ : Type}

/-- The strategy that every router has. -/
def standard : Strategies ρ := .ofList [(uriStrategyTag, .uri)]

/-- The strategy with a tag. -/
def find (s : Strategies ρ) (tag : String) : Except ConfigurationError (Strategy ρ) :=
  match s.get? tag with
  | some strategy => .ok strategy
  | none => .error (.unknownStrategy tag s.names)

end Strategies

end UriRouter
