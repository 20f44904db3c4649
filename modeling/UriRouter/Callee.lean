import UriRouter.Arguments
import UriRouter.Signature

/-!
# What a route calls

Handlers, and controllers with named operations. A call answers with a result and with the entries
it leaves in the journal of calls; nothing else can be observed of it. In particular a callee has no
memory: it answers the same call the same way each time.

A controller's operations are those that it lists, and an operation is found by the first of its
name. A controller that finds its operations in another way, and so has some that it does not list
or hides some that it does, is left out here.

* `Reply` : the outcome of a call;
* `Handler`, `Controller` : what can be called.
-/

set_option autoImplicit false

namespace UriRouter

/-- Whose record a call is entered in. -/
inductive RecordKey where
  | handler (tag : String)
  | controller (id : String)
  deriving DecidableEq, Repr

/-- A call in the journal. -/
structure JournalEntry where
  key : RecordKey
  /-- The operation that was called, where the callee has several. -/
  member : Option String
  arguments : Arguments
  deriving DecidableEq, Repr

/-- The result of a call and what it left in the journal, in order. -/
structure Reply (ε ρ : Type) where
  result : Except ε ρ
  journal : List JournalEntry := []

namespace Reply

variable {ε δ ρ : Type}

/-- A result without a journal entry. -/
def ofExcept (result : Except ε ρ) : Reply ε ρ := ⟨result, []⟩

/-- A failure without a journal entry. -/
def fail (e : ε) : Reply ε ρ := ⟨.error e, []⟩

/-- The reply with its error seen as an error of another kind. -/
def mapError (f : ε → δ) (r : Reply ε ρ) : Reply δ ρ := ⟨r.result.mapError f, r.journal⟩

end Reply

/-- Why a call failed. -/
inductive CallError where
  /-- An argument could not be used. -/
  | argument (e : ArgumentError)
  /-- The callee itself failed. -/
  | failed (message : String)
  deriving DecidableEq, Repr

/-- A function with declared parameters. -/
structure Handler (ρ : Type) where
  signature : Signature
  call : Arguments → Reply CallError ρ

/-- A named operation and its parameters. -/
structure Operation where
  name : String
  signature : Signature
  deriving DecidableEq, Repr

/-- A named thing with operations. -/
structure Controller (ρ : Type) where
  name : String
  operations : List Operation
  call : String → Arguments → Reply CallError ρ

namespace Controller

variable {ρ : Type}

/-- The first operation with a name. -/
def operation? (c : Controller ρ) (member : String) : Option Operation :=
  c.operations.find? (·.name == member)

/-- The failure of a call to an operation that a controller does not have. -/
def noOperation (name member : String) : CallError :=
  .failed ("`" ++ name ++ "` has no operation `" ++ member ++ "`")

end Controller

end UriRouter
