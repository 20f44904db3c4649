import UriRouter.Callee
import UriRouter.Text.Scalar

/-!
# Handlers that show their arguments

Small handlers with which a router can be tried out.
-/

set_option autoImplicit false

namespace UriRouter.Showcase

/-- A handler that joins its values, with `-` for none. -/
def joining (signature : Signature) : Handler String where
  signature := signature
  call arguments := .ofExcept (.ok ("|".intercalate (arguments.values.map (·.getD "-"))))

/-- A handler that always fails. -/
def failing (signature : Signature) (message : String) : Handler String where
  signature := signature
  call _ := .fail (.failed message)

/-- How a value is read: it has to be there, or it may be missing. -/
inductive Presence where
  | required
  | optional
  deriving DecidableEq, Repr

/-- The value at a place, read as a scalar and written out, if it is there. -/
def readScalar (arguments : Arguments) (index : Nat) (presence : Presence)
    (type : Text.ScalarType) : Except ArgumentError (Option String) :=
  match presence with
  | .required => (fun s => some s.render) <$> arguments.required index type.read
  | .optional => (fun s => s.map (·.render)) <$> arguments.optional index type.read

/-- The values from a place on, each read in its own way and written out, up to the first
failure. -/
def readScalars (arguments : Arguments) (index : Nat) :
    List (Presence × Text.ScalarType) → Except ArgumentError (List String)
  | [] => .ok []
  | (presence, type) :: rest => do
    let value ← readScalar arguments index presence type
    .ok (value.getD "-" :: (← readScalars arguments (index + 1) rest))

/-- A handler that reads its values as scalars and joins them, with `-` for none. -/
def typed (signature : Signature) (types : List (Presence × Text.ScalarType)) :
    Handler String where
  signature := signature
  call arguments :=
    match readScalars arguments 0 types with
    | .ok values => .ofExcept (.ok ("|".intercalate values))
    | .error e => .fail (.argument e)

end UriRouter.Showcase
