import UriRouter.Callee
import UriRouter.Configuration
import UriRouter.Pattern.Item

/-!
# Placeholders of an operation's parameters

Each parameter of an operation becomes a placeholder after a `/`. Those that may be left unbound
have to come last; each opens an optional section that holds all after it as well.

* `deriveSuffix` : the placeholders of an operation, as the text of a pattern;
* `derivePattern` : the pattern of an operation, from its path and its placeholders.
-/

set_option autoImplicit false

namespace UriRouter

/-- The placeholder for a parameter, after a `/`. -/
def Parameter.piece (p : Parameter) : List Char :=
  '/' :: (Pattern.Item.placeholder p.name p.constraint).render

/-- The placeholders for parameters that stand inside `depth` optional sections, which end with
them. -/
def suffixFrom (operation : String) (depth : Nat) : Signature → Except UsageError (List Char)
  | [] => .ok (List.replicate depth ']')
  | p :: rest =>
    if p.isOptional then
      ('[' :: p.piece ++ ·) <$> suffixFrom operation (depth + 1) rest
    else if depth = 0 then (p.piece ++ ·) <$> suffixFrom operation depth rest
    else .error (.requiredAfterOptional operation p.name)

/-- The placeholders for an operation's parameters. -/
def deriveSuffix (op : Operation) : Except UsageError String :=
  String.ofList <$> suffixFrom op.name 0 op.signature

/-- The pattern with a path and placeholders. Where the path is empty, the placeholders stand for
themselves if they begin with `/`. -/
def derivePattern (path suffix : String) : String :=
  if path.isEmpty then
    match suffix.toList with
    | '/' :: _ => suffix
    | _ => "/" ++ suffix
  else path ++ suffix

end UriRouter
