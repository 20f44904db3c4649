import UriRouter.Scope
import UriRouter.Serve.Strategy
import UriRouter.Table.Basic

/-!
# Extensions

An extension turns a target into registrations. It sees the scope, the methods and the targets of
the builder it is applied to, and answers with a plan: the registrations to make and the other
extensions to apply, in order, and after them a failure if there is one. It cannot change the
builder in any other way.

* `BuildView`, `BuildView.describe` : what an extension sees;
* `PlanStep`, `Plan`, `Extension` : what it answers with, and the extension itself.
-/

set_option autoImplicit false

namespace UriRouter

/-- What an extension is told besides its target. -/
structure ExtensionOptions where
  /-- A name to use instead of the target's. -/
  name : Option String := none
  /-- The actions to register; all of them where nothing is said. -/
  only : Option (List String) := none
  /-- The actions to leave out. -/
  except : List String := []
  deriving DecidableEq, Repr

/-- Whether an action is to be registered. -/
def ExtensionOptions.includes (o : ExtensionOptions) (action : String) : Bool :=
  (match o.only with
    | none => true
    | some only => only.contains action) && !o.except.contains action

/-- The name and the operations of a target. -/
structure TargetInfo where
  name : String
  operations : List Operation
  deriving DecidableEq, Repr

/-- What an extension sees of a builder. -/
structure BuildView (ρ : Type) where
  scope : Scope
  methods : List String
  targets : Targets ρ

namespace BuildView

variable {ρ : Type}

/-- The name and the operations of a target. A target's name is looked up in the namespace of the
scope. -/
def describe (v : BuildView ρ) (target : TargetRef ρ) : Except ConfigurationError TargetInfo :=
  match target with
  | .bound c => .ok ⟨c.name, c.operations⟩
  | .named name =>
    match v.targets.instantiate (qualify v.scope.nameSpace name) with
    | .ok c => .ok ⟨c.name, c.operations⟩
    | .error e => .error e

end BuildView

/-- A registration that is still to be made, under the scope it will be made in. -/
structure Registration (ρ : Type) where
  method : String
  pattern : String
  action : Action ρ

/-- A step of a plan. -/
inductive PlanStep (ρ : Type) where
  | register (r : Registration ρ)
  /-- The extension that is known by the name then is applied. -/
  | apply (extension : String) (target : TargetRef ρ) (options : ExtensionOptions)

/-- Steps to make in order, and what fails after them. -/
structure Plan (ρ : Type) where
  steps : List (PlanStep ρ) := []
  failure : Option RegistrationError := none

namespace Plan

variable {ρ : Type}

/-- The plan that only fails. -/
def fail (e : RegistrationError) : Plan ρ := ⟨[], some e⟩

/-- The plan to make registrations. -/
def registering (registrations : List (Registration ρ)) : Plan ρ :=
  ⟨registrations.map .register, none⟩

/-- The plan to make registrations, or to make none and fail. -/
def ofExcept : Except RegistrationError (List (Registration ρ)) → Plan ρ
  | .ok registrations => registering registrations
  | .error e => fail e

end Plan

/-- A way of turning a target into registrations. -/
structure Extension (ρ : Type) where
  plan : BuildView ρ → TargetRef ρ → ExtensionOptions → Plan ρ

end UriRouter
