import UriRouter.Build.Extension
import UriRouter.Derive.Path
import UriRouter.Derive.Suffix
import UriRouter.Derive.Verb

/-!
# Routes for the operations of a controller

Every operation whose name begins with a verb is registered under that verb, at a pattern made of
the rest of its name and its parameters. All patterns are compiled before any is registered, so an
operation that cannot be registered keeps the others out as well.

* `operationRoutes` : the registrations for a list of operations;
* `Extension.operations` : the extension that makes them.
-/

set_option autoImplicit false

namespace UriRouter

variable [Regex.PropertyTable] {ρ : Type}

/-- The method and the pattern of an operation, unless its name begins with no verb. -/
def operationRoute? (verbs : List String) (op : Operation) :
    Option (String × Except UsageError String) :=
  (splitVerb verbs op.name).map fun (verb, rest) =>
    (verb, derivePattern (derivePath rest) <$> deriveSuffix op)

/-- The registrations for those of the operations that the options include and that have a verb,
unless one of them cannot be registered. -/
def operationRoutes (view : BuildView ρ) (target : TargetRef ρ) (options : ExtensionOptions) :
    List Operation → Except RegistrationError (List (Registration ρ))
  | [] => .ok []
  | op :: rest =>
    if !options.includes op.name then operationRoutes view target options rest
    else match operationRoute? view.methods op with
      | none => operationRoutes view target options rest
      | some (_, .error e) => .error (.usage e)
      | some (verb, .ok pattern) =>
        match Pattern.compile (view.scope.apply pattern) with
        | .error e => .error (.pattern e)
        | .ok _ =>
          (⟨verb, pattern, .member target op.name⟩ :: ·) <$>
            operationRoutes view target options rest

/-- Registers the operations of a controller by their names. -/
def Extension.operations : Extension ρ where
  plan view target options :=
    match view.describe target with
    | .error e => .fail (.configuration e)
    | .ok info => .ofExcept (operationRoutes view target options info.operations)

end UriRouter
