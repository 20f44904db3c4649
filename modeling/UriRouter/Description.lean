import UriRouter.Build.Builder
import UriRouter.Text.Quoted

/-!
# Descriptions

Values of the library described in full, field by field, for a reader who looks for a mistake.
Texts are quoted, lists stand between square brackets, and records name their fields.
-/

set_option autoImplicit false

namespace UriRouter

open UriRouter.Text

namespace Description

/-- A record with all its fields. -/
def record (name : String) (fields : List (String × String)) : String :=
  name ++ " \x7b " ++ ", ".intercalate (fields.map fun f => f.1 ++ ": " ++ f.2) ++ " \x7d"

/-- A record of which only some fields are shown. -/
def partialRecord (name : String) (fields : List (String × String)) : String :=
  name ++ " \x7b " ++ String.join (fields.map fun f => f.1 ++ ": " ++ f.2 ++ ", ") ++ ".. \x7d"

/-- A constructor with one argument. -/
def wrapped (name argument : String) : String := name ++ "(" ++ argument ++ ")"

/-- A list of texts. -/
def texts (items : List String) : String := listed (items.map quoted)

/-- An optional text. -/
def optionalText (s : Option String) : String := optionText (s.map quoted)

/-- A truth value. -/
def truthValue (b : Bool) : String := if b then "true" else "false"

end Description

open Description

/-- The description of a fallback. -/
def Fallback.describe : Fallback → String
  | .required => "Required"
  | .absent => "Absent"
  | .value text => wrapped "Value" (quoted text)

/-- The description of a parameter. -/
def Parameter.describe (p : Parameter) : String :=
  record "ParamSpec" [("name", quoted p.name), ("default", p.fallback.describe),
    ("constraint", optionalText p.constraint)]

/-- The description of a signature. -/
def Signature.describe (s : Signature) : String :=
  record "Signature" [("params", listed (s.map Parameter.describe))]

/-- The description of an operation. -/
def Operation.describe (op : Operation) : String :=
  record "Operation" [("name", quoted op.name), ("signature", Signature.describe op.signature)]

/-- The description of a target. -/
def TargetRef.describe {ρ : Type} : TargetRef ρ → String
  | .named name => wrapped "Named" (quoted name)
  | .bound controller => wrapped "Instance" (quoted controller.name)

/-- The description of an action. -/
def Action.describe {ρ : Type} : Action ρ → String
  | .handler h => wrapped "Handler" (Signature.describe h.signature)
  | .member target name =>
    record "Member" [("target", target.describe), ("member", quoted name)]

/-- The description of a function that serves as a handler. -/
def Handler.describe {ρ : Type} (h : Handler ρ) : String :=
  partialRecord "FnHandler" [("signature", Signature.describe h.signature)]

/-- The description of a strategy that maps values. -/
def Strategy.describeMapping : String := "MapStrategy \x7b .. \x7d"

/-- The description of bound parameters. -/
def Bindings.describe (b : Bindings) : String :=
  record "Params"
    [("entries", listed (b.map fun e => "(" ++ quoted e.1 ++ ", " ++ quoted e.2 ++ ")"))]

/-- The description of arguments. -/
def Arguments.describe (args : Arguments) : String :=
  record "Args"
    [("entries", listed (args.map fun e => "(" ++ quoted e.1 ++ ", " ++ optionalText e.2 ++ ")"))]

/-- The description of options. -/
def ExtensionOptions.describe (o : ExtensionOptions) : String :=
  record "ExtensionOptions" [("name", optionalText o.name), ("only", optionText (o.only.map texts)),
    ("except", texts o.except)]

/-- The description of a group. -/
def Group.describe (g : Group) : String :=
  record "Group" [("prefix", optionalText g.pathPrefix), ("namespace", optionalText g.nameSpace)]

/-- The description of a scope. -/
def Scope.describe (s : Scope) : String :=
  record "Scope" [("prefix", quoted s.pathPrefix), ("namespace", quoted s.nameSpace)]

/-- The description of a route. -/
def Route.describe {ρ : Type} (r : Route ρ) : String :=
  record "Route" [("method", quoted r.method), ("pattern", quoted r.pattern.raw),
    ("action", r.action.describe), ("strategy", quoted r.strategy)]

/-- The description of a route with its parameters. -/
def RouteMatch.describe {ρ : Type} (m : RouteMatch ρ) : String :=
  record "RouteMatch" [("route", m.route.describe), ("params", Bindings.describe m.bindings)]

/-- The description of a callee. -/
def Resolved.describe {ρ : Type} (r : Resolved ρ) : String :=
  record "Resolved" [("callee", r.callee), ("signature", Signature.describe r.signature)]

/-- The description of a table, which counts the routes and does not list them. -/
def RouteTable.describe {ρ : Type} (t : RouteTable ρ) : String :=
  record "RouteTable" [("methods", texts t.methodNames), ("routes", toString t.size),
    ("sealed", truthValue t.isSealed)]

/-- The description of strategies. -/
def Strategies.describe {ρ : Type} (s : Strategies ρ) : String :=
  record "Strategies" [("tags", texts (NameMap.names s))]

/-- The description of targets. -/
def Targets.describe {ρ : Type} (t : Targets ρ) : String :=
  record "Targets" [("names", texts (NameMap.names t))]

/-- The description of a builder. -/
def Builder.describe {ρ : Type} (b : Builder ρ) : String :=
  record "Collector" [("table", b.table.describe), ("scope", b.scope.describe),
    ("methods", texts b.methods), ("strategies", Strategies.describe b.strategies),
    ("targets", Targets.describe b.targets), ("extensions", texts b.extensions.names)]

/-- The description of a router. -/
def Router.describe {ρ : Type} (r : Router ρ) : String :=
  record "Dispatcher" [("table", r.table.describe),
    ("strategies", Strategies.describe r.strategies), ("targets", Targets.describe r.targets)]

end UriRouter
