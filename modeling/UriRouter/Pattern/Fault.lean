/-!
# Faulty patterns

* `Pattern.Fault` : what is wrong with a pattern, and where;
* `PatternError.message` : the fault in words, with the pattern it was found in.

Positions count the bytes of the pattern in UTF-8.
-/

set_option autoImplicit false

namespace UriRouter

/-- What is wrong with a pattern. -/
inductive Pattern.Fault where
  /-- A `]` that closes nothing. -/
  | unexpectedClose (position : Nat)
  /-- A `[` that nothing closes. -/
  | unclosedSection (position : Nat)
  /-- A section that holds nothing. -/
  | emptySection (position : Nat)
  /-- Braces that make no placeholder. -/
  | invalidPlaceholder (text : String)
  /-- A constraint that is no regular expression. -/
  | invalidConstraint (name constraint : String)
  /-- A name that two placeholders bear. -/
  | duplicateParameter (name : String)
  /-- Placeholders and sections that make no regular expression together. -/
  | invalidRegex
  deriving DecidableEq, Repr

/-- The number of bytes of a text. -/
def Pattern.byteLength : List Char → Nat
  | [] => 0
  | c :: rest => c.utf8Size + byteLength rest

/-- A pattern in normal form and what is wrong with it. -/
structure PatternError where
  pattern : String
  fault : Pattern.Fault
  deriving DecidableEq, Repr

/-- What stands for the reason a regular expression is refused for. -/
def regexReason : String := "<regex>"

/-- A text between backquotes. -/
def ticked (s : String) : String := "`" ++ s ++ "`"

/-- The error in words. -/
def PatternError.message (e : PatternError) : String :=
  match e.fault with
  | .unexpectedClose position =>
    "unexpected `]` at byte " ++ toString position ++ " in pattern " ++ ticked e.pattern
  | .unclosedSection position =>
    "unclosed `[` at byte " ++ toString position ++ " in pattern " ++ ticked e.pattern
  | .emptySection position =>
    "empty optional group at byte " ++ toString position ++ " in pattern " ++ ticked e.pattern
  | .invalidPlaceholder text =>
    "invalid placeholder " ++ ticked text ++ " in pattern " ++ ticked e.pattern
  | .invalidConstraint name constraint =>
    "invalid constraint " ++ ticked constraint ++ " for parameter " ++ ticked name ++
      " in pattern " ++ ticked e.pattern ++ ": " ++ regexReason
  | .duplicateParameter name =>
    "duplicate parameter " ++ ticked name ++ " in pattern " ++ ticked e.pattern
  | .invalidRegex =>
    "pattern " ++ ticked e.pattern ++ " does not compile: " ++ regexReason

end UriRouter
