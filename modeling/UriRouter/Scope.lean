/-!
# Scopes

The prefix and the namespace under which routes are registered. Groups nest, and each nested group
adds its own part to both.

* `Scope.nest` : the scope of a group inside a scope;
* `Scope.apply` : a pattern under the scope's prefix.
-/

set_option autoImplicit false

namespace UriRouter

/-- What a group adds to the scope around it. -/
structure Group where
  pathPrefix : Option String := none
  nameSpace : Option String := none
  deriving DecidableEq, Repr

/-- A prefix of patterns, without a `/` at its end, and a namespace of targets. -/
structure Scope where
  pathPrefix : String := ""
  nameSpace : String := ""
  deriving DecidableEq, Repr

namespace Scope

/-- The scope outside all groups. -/
def root : Scope := {}

/-- The text without the signs `/` at its end. -/
def trimSlashes (s : String) : String :=
  String.ofList (s.toList.reverse.dropWhile (· == '/')).reverse

/-- A prefix and another one after it, which is given a `/` to begin with if it has none. A prefix
of signs `/` alone adds nothing. -/
def joinPrefix (base added : String) : String :=
  let added := trimSlashes added
  match added.toList with
  | [] => base
  | '/' :: _ => base ++ added
  | _ => base ++ "/" ++ added

/-- A namespace and one inside it. -/
def joinNamespace (outer inner : String) : String :=
  if inner.isEmpty then outer
  else if outer.isEmpty then inner
  else outer ++ "::" ++ inner

/-- The scope of a group inside this one. -/
def nest (s : Scope) (g : Group) : Scope where
  pathPrefix := match g.pathPrefix with
    | some p => joinPrefix s.pathPrefix p
    | none => s.pathPrefix
  nameSpace := joinNamespace s.nameSpace (g.nameSpace.getD "")

/-- The scope with another prefix. -/
def withPrefix (s : Scope) (p : String) : Scope := { s with pathPrefix := joinPrefix "" p }

/-- The scope with another namespace. -/
def withNamespace (s : Scope) (n : String) : Scope := { s with nameSpace := n }

/-- The pattern under the prefix. The patterns of the root, empty or `/`, become the prefix
itself. -/
def apply (s : Scope) (pattern : String) : String :=
  if s.pathPrefix.isEmpty then pattern
  else match pattern.toList with
    | [] => s.pathPrefix
    | ['/'] => s.pathPrefix
    | '/' :: _ => s.pathPrefix ++ pattern
    | '[' :: _ => s.pathPrefix ++ pattern
    | _ => s.pathPrefix ++ "/" ++ pattern

end Scope

end UriRouter
