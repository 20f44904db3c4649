import UriRouter.Build.Standard

/-!
# Build programs

Building written down as data: a program is a list of steps, and a group is a step that holds a
program of its own. A failing step ends the programs around it, unless the step is attempted.

* `Step` : a step;
* `Step.run`, `runSteps` : what a step and a program do to a builder.
-/

set_option autoImplicit false

namespace UriRouter

/-- A step of building. -/
inductive Step (ρ : Type) where
  | set (method pattern : String) (source : ActionSource ρ) (strategy : String)
  | forMethods (methods : List String) (pattern : String) (source : ActionSource ρ)
  | any (pattern : String) (source : ActionSource ρ)
  | except (excluded : List String) (pattern : String) (source : ActionSource ρ)
  | apply (extension : String) (target : TargetRef ρ) (options : ExtensionOptions)
  | setPrefix (p : String)
  | setNamespace (n : String)
  | seal
  | addExtension (name : String) (e : Extension ρ)
  | addTarget (name : String) (c : Controller ρ)
  | addStrategy (tag : String) (s : Strategy ρ)
  | group (g : Group) (body : List (Step ρ))
  /-- A step whose failure does not matter. -/
  | attempt (step : Step ρ)

namespace Step

variable {ρ : Type}

/-- Registers the operations of a controller. -/
def operations (target : TargetRef ρ) : Step ρ := .apply operationsExtensionName target {}

/-- Registers the routes of a resource. -/
def resource (target : TargetRef ρ) (options : ExtensionOptions) : Step ρ :=
  .apply resourceExtensionName target options

end Step

mutual

/-- What a step does to a builder. -/
def Step.run [Regex.PropertyTable] {ρ : Type} : Step ρ → Builder ρ → Progress (Builder ρ)
  | .set method pattern source strategy, b => b.set method pattern source strategy
  | .forMethods methods pattern source, b => b.forMethods methods pattern source
  | .any pattern source, b => b.any pattern source
  | .except excluded pattern source, b => b.except excluded pattern source
  | .apply extension target options, b => b.apply extension target options
  | .setPrefix p, b => .done (b.setPrefix p)
  | .setNamespace n, b => .done (b.setNamespace n)
  | .seal, b => .done b.sealed
  | .addExtension name e, b => .done (b.addExtension name e)
  | .addTarget name c, b => .done (b.addTarget name c)
  | .addStrategy tag s, b => .done (b.addStrategy tag s)
  | .group g body, b =>
    let (failure, b) := b.within g fun inside =>
      let p := runSteps body inside
      (p.failure, p.state)
    ⟨b, failure⟩
  | .attempt step, b => .done (step.run b).state

/-- What a program does to a builder, up to its first failure. -/
def runSteps [Regex.PropertyTable] {ρ : Type} : List (Step ρ) → Builder ρ → Progress (Builder ρ)
  | [], b => .done b
  | step :: rest, b => (step.run b).andThen (runSteps rest)

end

end UriRouter
