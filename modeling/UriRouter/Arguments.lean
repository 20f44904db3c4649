import UriRouter.Text.Scalar

/-!
# Arguments

The values an operation is called with, one for each of its parameters and in their order. A value
may be missing.

* `Arguments.required`, `Arguments.optional` : a value read as some type;
* `Arguments.tryMap` : the arguments with each value replaced, unless that fails;
* `Arguments.render` : a call in short form.
-/

set_option autoImplicit false

namespace UriRouter

/-- Why an argument cannot be used. -/
inductive ArgumentError where
  | missing (parameter : String)
  | invalid (parameter value reason : String)
  deriving DecidableEq, Repr

/-- The error in words. -/
def ArgumentError.message : ArgumentError → String
  | .missing parameter => "missing value for parameter `" ++ parameter ++ "`"
  | .invalid parameter value reason =>
    "invalid value `" ++ value ++ "` for parameter `" ++ parameter ++ "`: " ++ reason

/-- Parameter names with their values. -/
abbrev Arguments := List (String × Option String)

namespace Arguments

variable {α : Type}

/-- The name of the parameter at a place; beyond the last it is empty. -/
def nameAt (args : Arguments) (index : Nat) : String := (args[index]?.map (·.1)).getD ""

/-- The value at a place, if there is one. -/
def valueAt? (args : Arguments) (index : Nat) : Option String := args[index]?.bind (·.2)

/-- The values, in order. -/
def values (args : Arguments) : List (Option String) := args.map (·.2)

/-- Reads the value of a parameter. -/
def readValue (read : String → Except Text.ReadFault α) (parameter value : String) :
    Except ArgumentError α :=
  match read value with
  | .ok a => .ok a
  | .error fault => .error (.invalid parameter value fault.reason)

/-- The value at a place, which has to be there. -/
def required (args : Arguments) (index : Nat) (read : String → Except Text.ReadFault α) :
    Except ArgumentError α :=
  match args.valueAt? index with
  | some value => readValue read (args.nameAt index) value
  | none => .error (.missing (args.nameAt index))

/-- The value at a place, if it is there. -/
def optional (args : Arguments) (index : Nat) (read : String → Except Text.ReadFault α) :
    Except ArgumentError (Option α) :=
  match args.valueAt? index with
  | some value => some <$> readValue read (args.nameAt index) value
  | none => .ok none

/-- The arguments with `f` applied to each value that is there, up to the first failure. -/
def tryMap (f : String → String → Except ArgumentError String) :
    Arguments → Except ArgumentError Arguments
  | [] => .ok []
  | (name, none) :: rest => do .ok ((name, none) :: (← tryMap f rest))
  | (name, some value) :: rest => do
    let value ← f name value
    .ok ((name, some value) :: (← tryMap f rest))

/-- A call in short form: the name of what is called, and the values, with `-` for none. -/
def render (callee : String) (args : Arguments) : String :=
  callee ++ "(" ++ ",".intercalate (args.values.map (·.getD "-")) ++ ")"

/-- Replacing values changes no name. -/
theorem map_fst_of_tryMap {f : String → String → Except ArgumentError String}
    {args args' : Arguments} (h : tryMap f args = .ok args') :
    args'.map (·.1) = args.map (·.1) := by
  induction args generalizing args' with
  | nil => cases h; rfl
  | cons a rest ih =>
    obtain ⟨name, _ | value⟩ := a
    · cases hr : tryMap f rest with
      | error e => simp [tryMap, hr, bind, Except.bind] at h
      | ok r =>
        simp only [tryMap, hr, bind, Except.bind, Except.ok.injEq] at h
        subst h
        simp [ih hr]
    · cases hv : f name value with
      | error e => simp [tryMap, hv, bind, Except.bind] at h
      | ok v =>
        cases hr : tryMap f rest with
        | error e => simp [tryMap, hv, hr, bind, Except.bind] at h
        | ok r =>
          simp only [tryMap, hv, hr, bind, Except.bind, Except.ok.injEq] at h
          subst h
          simp [ih hr]

end Arguments

end UriRouter
