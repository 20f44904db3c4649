/-!
# Signatures

The parameters that an operation declares, in the order in which it takes them.

* `Parameter`, `Signature` : a declared parameter and a list of them;
* `Signature.ofShorthands` : a signature written as a list of words.
-/

set_option autoImplicit false

namespace UriRouter

/-- What becomes of a parameter that the path does not bind. -/
inductive Fallback where
  /-- It has to be bound. -/
  | required
  /-- It has no value. -/
  | absent
  /-- It has this value. -/
  | value (text : String)
  deriving DecidableEq, Repr

/-- A declared parameter. -/
structure Parameter where
  name : String
  fallback : Fallback := .required
  /-- The regular expression its value has to match, where one is declared. -/
  constraint : Option String := none
  deriving DecidableEq, Repr

/-- Whether a parameter may be left unbound. -/
def Parameter.isOptional (p : Parameter) : Bool := p.fallback != .required

/-- The parameter that a word declares: `name=value` one with a default, where the first `=`
counts, `name?` one that may have no value, and any other word one that has to be bound. -/
def Parameter.ofShorthand (word : String) : Parameter :=
  let cs := word.toList
  match cs.dropWhile (· != '=') with
  | _ :: value => ⟨String.ofList (cs.takeWhile (· != '=')), .value (String.ofList value), none⟩
  | [] =>
    if cs.getLast? = some '?' then ⟨String.ofList cs.dropLast, .absent, none⟩
    else ⟨word, .required, none⟩

/-- The parameters of an operation, in order. -/
abbrev Signature := List Parameter

namespace Signature

/-- The signature that words declare. -/
def ofShorthands (words : List String) : Signature := words.map Parameter.ofShorthand

/-- The place of the first parameter with a name. -/
def position? (s : Signature) (name : String) : Option Nat := s.findIdx? (·.name == name)

end Signature

end UriRouter
