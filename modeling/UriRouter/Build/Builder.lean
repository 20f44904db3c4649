import UriRouter.Build.Extension
import UriRouter.Serve.Router

/-!
# Builders

A builder registers routes under a scope and keeps the strategies, targets and extensions that are
known by name. When all is registered it becomes a router.

* `Progress` : a state, and the failure that stopped work on it; what was done before stays;
* `Builder.set`, `Builder.forMethods`, `Builder.apply` : registration;
* `Builder.within` : work inside a group, after which the scope is what it was before.
-/

set_option autoImplicit false

namespace UriRouter

/-- A state that work has led to, and the failure that stopped the work, if any. -/
structure Progress (σ : Type) where
  state : σ
  failure : Option RegistrationError := none

namespace Progress

variable {σ : Type}

/-- Work that has not failed. -/
def done (s : σ) : Progress σ := ⟨s, none⟩

/-- Work that failed and left the state as it was. -/
def failed (s : σ) (e : RegistrationError) : Progress σ := ⟨s, some e⟩

/-- Further work, unless the work so far has failed. -/
def andThen (p : Progress σ) (f : σ → Progress σ) : Progress σ :=
  match p.failure with
  | some _ => p
  | none => f p.state

/-- Work on each item in turn, up to the first failure. -/
def each {α : Type} (f : σ → α → Progress σ) : σ → List α → Progress σ
  | s, [] => done s
  | s, a :: rest => (f s a).andThen fun s => each f s rest

end Progress

/-- The methods that are meant by any method, unless a builder has others. -/
def standardMethods : List String := ["get", "post", "put", "patch", "delete"]

/-- What a router is built from. -/
structure Builder (ρ : Type) where
  table : RouteTable ρ := {}
  scope : Scope := {}
  /-- The methods that are meant by any method, in normal form. -/
  methods : List String := standardMethods
  strategies : Strategies ρ := .standard
  targets : Targets ρ := {}
  extensions : NameMap (Extension ρ) := {}

namespace Builder

variable [Regex.PropertyTable] {ρ : Type}

/-- The builder with the standard strategy and no extension. -/
def bare : Builder ρ := {}

/-- The builder with other methods. -/
def withMethods (b : Builder ρ) (methods : List String) : Builder ρ :=
  { b with methods := methods.map Method.normalize }

/-! ## Registration -/

/-- Registers an action: the scope's prefix is put before the pattern, and a target's name is
qualified with the scope's namespace. -/
def setAction (b : Builder ρ) (method pattern : String) (action : Action ρ) (strategy : String) :
    Progress (Builder ρ) :=
  match b.table.set method (b.scope.apply pattern) (action.inNamespace b.scope.nameSpace)
      strategy with
  | .ok table => .done { b with table := table }
  | .error e => .failed b e

/-- Does something with an action, once it is known which one is meant. -/
def withAction (b : Builder ρ) (source : ActionSource ρ)
    (f : Action ρ → Progress (Builder ρ)) : Progress (Builder ρ) :=
  match source.resolve with
  | .ok action => f action
  | .error e => .failed b (.configuration e)

/-- Registers a route that a strategy serves. -/
def set (b : Builder ρ) (method pattern : String) (source : ActionSource ρ) (strategy : String) :
    Progress (Builder ρ) :=
  b.withAction source fun action => b.setAction method pattern action strategy

/-- Registers a route under several methods, up to the first failure. -/
def forMethods (b : Builder ρ) (methods : List String) (pattern : String)
    (source : ActionSource ρ) : Progress (Builder ρ) :=
  b.withAction source fun action =>
    Progress.each (fun b method => b.setAction method pattern action uriStrategyTag) b methods

/-- Registers a route under all methods of the builder. -/
def any (b : Builder ρ) (pattern : String) (source : ActionSource ρ) : Progress (Builder ρ) :=
  b.forMethods b.methods pattern source

/-- Registers a route under all methods of the builder but some. -/
def except (b : Builder ρ) (excluded : List String) (pattern : String)
    (source : ActionSource ρ) : Progress (Builder ρ) :=
  b.forMethods (b.methods.filter fun m => !(excluded.map Method.normalize).contains m) pattern
    source

/-! ## Scopes -/

/-- Works inside a group. Whatever the work does to the scope, it is then what it was before. -/
def within {α : Type} (b : Builder ρ) (g : Group) (body : Builder ρ → α × Builder ρ) :
    α × Builder ρ :=
  let (a, inside) := body { b with scope := b.scope.nest g }
  (a, { inside with scope := b.scope })

/-- Gives the rest of the group another prefix. -/
def setPrefix (b : Builder ρ) (p : String) : Builder ρ := { b with scope := b.scope.withPrefix p }

/-- Gives the rest of the group another namespace. -/
def setNamespace (b : Builder ρ) (n : String) : Builder ρ :=
  { b with scope := b.scope.withNamespace n }

/-! ## Names -/

/-- Makes an extension known by a name. -/
def addExtension (b : Builder ρ) (name : String) (e : Extension ρ) : Builder ρ :=
  { b with extensions := b.extensions.insert name e }

/-- Makes a controller known by a name. -/
def addTarget (b : Builder ρ) (name : String) (c : Controller ρ) : Builder ρ :=
  { b with targets := b.targets.insert name c }

/-- Makes a strategy known by a tag. -/
def addStrategy (b : Builder ρ) (tag : String) (s : Strategy ρ) : Builder ρ :=
  { b with strategies := b.strategies.insert tag s }

/-! ## Extensions -/

/-- What extensions see. -/
def view (b : Builder ρ) : BuildView ρ := ⟨b.scope, b.methods, b.targets⟩

/-- Applies the extension known by a name to a target. The plans of extensions may apply others, which
count as known down to the given depth only: a plan that goes deeper fails. -/
def applyNested : Nat → Builder ρ → String → TargetRef ρ → ExtensionOptions → Progress (Builder ρ)
  | 0, b, name, _, _ => .failed b (.configuration (.unknownExtension name []))
  | depth + 1, b, name, target, options =>
    match b.extensions.get? name with
    | none => .failed b (.configuration (.unknownExtension name b.extensions.names))
    | some e =>
      let plan := e.plan b.view target options
      (Progress.each (fun b (step : PlanStep ρ) =>
        match step with
        | .register r => b.setAction r.method r.pattern r.action uriStrategyTag
        | .apply name target options => applyNested depth b name target options)
        b plan.steps).andThen fun b => ⟨b, plan.failure⟩

/-- How deeply extensions may apply one another. What succeeds does not hang on the
number. -/
def maxNesting : Nat := 8

/-- Applies the extension known by a name to a target. -/
def apply (b : Builder ρ) (name : String) (target : TargetRef ρ) (options : ExtensionOptions) :
    Progress (Builder ρ) :=
  applyNested maxNesting b name target options

/-! ## The end of building -/

/-- Lets no further route be registered. -/
def sealed (b : Builder ρ) : Builder ρ := { b with table := b.table.sealed }

/-- The router that serves what was registered. -/
def toRouter (b : Builder ρ) : Router ρ := .new b.table b.strategies b.targets

end Builder

end UriRouter
