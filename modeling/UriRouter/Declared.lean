import UriRouter.Callee

/-!
# Controllers from declared methods

A controller can be given as a list of methods. Each states the types of its parameters, and it is
called with values of these types: the operation is declared and the arguments are read by what is
said here, from the types and from what is written beside the parameters. Methods that are not
meant to be called by routes do not occur in the list.

* `TypedParameter` : a parameter of a method, the parameter that it declares, and how it is read;
* `TypedParameter.Body` : what a method does, a function of the values of its parameters;
* `DeclaredMethod`, `Controller.ofMethods` : a method, and the controller that methods make.
-/

set_option autoImplicit false

namespace UriRouter

open UriRouter.Text

/-- The constraint on values of a kind, for a parameter that states none. -/
def Text.ScalarType.constraint? : ScalarType → Option String
  | .natural _ => some "[0-9]+"
  | .integer _ => some "-?[0-9]+"
  | .text => some "\\w+"
  | .truthValue | .character => none

/-- A parameter of a method. -/
structure TypedParameter where
  name : String
  type : ScalarType
  /-- Whether the method can do without a value. -/
  isOption : Bool := false
  /-- The text that is read where nothing is bound. -/
  default? : Option String := none
  /-- The regular expression that is written beside the parameter. -/
  regex? : Option String := none

namespace TypedParameter

/-- A default counts before the type. -/
def fallback (p : TypedParameter) : Fallback :=
  match p.default?, p.isOption with
  | some text, _ => .value text
  | none, true => .absent
  | none, false => .required

/-- What is written counts before the type. -/
def constraint? (p : TypedParameter) : Option String := p.regex?.or p.type.constraint?

/-- The parameter that is declared. -/
def parameter (p : TypedParameter) : Parameter := ⟨p.name, p.fallback, p.constraint?⟩

/-- What the method takes: a value of the type, or perhaps none. -/
@[reducible] def Value (p : TypedParameter) : Type :=
  match p.isOption with
  | true => Option p.type.Value
  | false => p.type.Value

/-- Reads the argument at a place. Only the type says whether it may be missing, not the default. -/
def read (p : TypedParameter) (arguments : Arguments) (index : Nat) :
    Except ArgumentError p.Value :=
  match p with
  | ⟨_, type, true, _, _⟩ => arguments.optional index type.readValue
  | ⟨_, type, false, _, _⟩ => arguments.required index type.readValue

/-- The values that a method takes, in order. -/
@[reducible] def Values : List TypedParameter → Type
  | [] => Unit
  | p :: rest => p.Value × Values rest

/-- The arguments from a place on, read in order up to the first that cannot be used. -/
def readFrom (arguments : Arguments) (index : Nat) :
    (parameters : List TypedParameter) → Except ArgumentError (Values parameters)
  | [] => .ok ()
  | p :: rest =>
    match p.read arguments index with
    | .error e => .error e
    | .ok value =>
      match readFrom arguments (index + 1) rest with
      | .error e => .error e
      | .ok values => .ok (value, values)

/-- What a method with these parameters does. -/
@[reducible] def Body (ρ : Type) : List TypedParameter → Type
  | [] => Except CallError ρ
  | p :: rest => p.Value → Body ρ rest

/-- What it does with these values. -/
def Body.apply {ρ : Type} :
    (parameters : List TypedParameter) → Body ρ parameters → Values parameters → Except CallError ρ
  | [], result, _ => result
  | _ :: rest, body, (value, values) => Body.apply rest (body value) values

end TypedParameter

/-- A method of a controller. -/
structure DeclaredMethod (ρ : Type) where
  name : String
  parameters : List TypedParameter
  body : TypedParameter.Body ρ parameters

namespace DeclaredMethod

variable {ρ : Type}

/-- The operation that is declared. -/
def operation (m : DeclaredMethod ρ) : Operation := ⟨m.name, m.parameters.map (·.parameter)⟩

/-- What a call comes to. Arguments beyond the parameters are left unread. -/
def call (m : DeclaredMethod ρ) (arguments : Arguments) : Except CallError ρ :=
  match TypedParameter.readFrom arguments 0 m.parameters with
  | .error e => .error (.argument e)
  | .ok values => TypedParameter.Body.apply m.parameters m.body values

end DeclaredMethod

/-- The controller that methods make. -/
def Controller.ofMethods {ρ : Type} (name : String) (methods : List (DeclaredMethod ρ)) :
    Controller ρ where
  name := name
  operations := methods.map (·.operation)
  call member arguments :=
    match methods.find? (·.name == member) with
    | some m => .ofExcept (m.call arguments)
    | none => .fail (noOperation name member)

end UriRouter
