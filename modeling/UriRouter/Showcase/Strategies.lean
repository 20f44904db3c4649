import UriRouter.Description

/-!
# Strategies that show their work

Small strategies with which a router can be tried out.
-/

set_option autoImplicit false

namespace UriRouter.Showcase

/-- Passes each value with its parameter's name before it. -/
def naming : Strategy String :=
  .mapValues fun parameter value => .ok (parameter ++ "=" ++ value)

/-- Refuses values in which the letter `x` occurs. -/
def refusing : Strategy String :=
  .mapValues fun parameter value =>
    if value.toList.contains 'x' then .error (.invalid parameter value "rejected") else .ok value

/-- Answers with the callee, the action and the bound parameters, and calls nothing. -/
def inspecting : Strategy String where
  invoke i :=
    match i.resolve with
    | .error e => .fail (.configuration e)
    | .ok resolved =>
      .ofExcept (.ok (resolved.describe ++ " <- " ++ i.action.describe ++ " [" ++
        ";".intercalate (i.bindings.map fun b => b.1 ++ "=" ++ b.2) ++ "]"))

end UriRouter.Showcase
