import UriRouter.Regex.Place

/-!
# What is known further ahead

A match is looked for from the end of the text to its start. At each place the work rests on what
is known one place further on: for each set of an expression, the answer just after a character of
it. An expression that stands in several copies has them one after the other.

* `Ahead` : that knowledge, in the form of the expression;
* `Ahead.dead` : that nothing leads to a match, which is so at the end of a text;
* `Answer.prefer` : the choice between two answers.
-/

set_option autoImplicit false

namespace UriRouter.Regex

/-- The number of copies of a repeated expression. Where there is no bound, the first one is the
body of a loop. -/
def copies (min : Nat) : Option Nat → Nat
  | some max => max
  | none => Nat.max min 1

/-- For each set of an expression, the answer just after a character of it. -/
def Ahead : Expr → Type
  | .empty => Unit
  | .chars _ => Answer
  | .assertion _ => Unit
  | .concat a b => Ahead a × Ahead b
  | .alternative a b => Ahead a × Ahead b
  | .group _ e => Ahead e
  | .repetition _ _ _ e => List (Ahead e)

/-- Nothing leads to a match. -/
def Ahead.dead : (e : Expr) → Ahead e
  | .empty => ()
  | .chars _ => (none : Answer)
  | .assertion _ => ()
  | .concat a b => (dead a, dead b)
  | .alternative a b => (dead a, dead b)
  | .group _ e => dead e
  | .repetition min max _ e => List.replicate (copies min max) (dead e)

/-- The answer of the first of two ways that has one, `a` coming first if `aFirst`. -/
def Answer.prefer (aFirst : Bool) (a b : Answer) : Answer := if aFirst then a.or b else b.or a

end UriRouter.Regex
