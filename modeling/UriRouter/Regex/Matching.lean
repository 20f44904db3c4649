import UriRouter.Regex.Circle

/-!
# Matching

What a regular expression matches, and which of several ways it takes: the first in the order of
preference, where left branches come before right ones, and more copies before fewer for a greedy
repetition. The match that begins first is taken, and of those the preferred one.

The text is gone through once, from its end to its start, and each part of the expression is looked
at once or twice at each place. This is enough because what follows an expression has one answer at
a place, however the place was reached; only inside loops whose body may consume nothing does the
way to it matter.

* `Expr.atPlace` : the answer at a place, and what that tells about the place before;
* `Expr.findIn` : the best way to a match in a text.
-/

set_option autoImplicit false

namespace UriRouter.Regex

/-- What is found at a place: the answer of going through an expression and on, and what is known
after each set, for the place before. -/
structure Finding (α : Type) where
  answer : Answer
  ahead : Unit → α

section

variable {α : Type}

/-- What is found where copies begin, of which the first `min` are required. The way on from the
copies has the answer `k`. -/
def copiesAt (body : α → Answer → Finding α) (greedy : Bool) (k : Answer) :
    Nat → List α → Finding (List α)
  | _, [] => ⟨k, fun _ => []⟩
  | min, c :: cs =>
    let rest := copiesAt body greedy k (min - 1) cs
    let first := body c rest.answer
    ⟨if min = 0 then .prefer greedy first.answer k else first.answer,
      fun _ => first.ahead () :: rest.ahead ()⟩

/-- What is found where at least `min` copies begin of a body that always consumes something. The
answer at its start does not hang on the answer `again` at its end. -/
def loopAt (body : α → Answer → Finding α) (greedy : Bool) (k : Answer) (min : Nat) :
    List α → Finding (List α)
  | [] => ⟨none, fun _ => []⟩
  | c :: cs =>
    let once := (body c none).answer
    let again := Answer.prefer greedy once k
    let before := copiesAt body greedy (if min = 0 then again else once) (min - 1) cs
    ⟨before.answer, fun _ => (body c again).ahead () :: before.ahead ()⟩

end

/-- What is found at a place for an expression, from what is known one place further on. The way on
from the expression has the answer `k` there. -/
def Expr.atPlace (p : Place) : (e : Expr) → Ahead e → Answer → Finding (Ahead e)
  | .empty, c, k => ⟨k, fun _ => c⟩
  | .chars set, c, k => ⟨if p.isBefore set then c else none, fun _ => k⟩
  | .assertion a, c, k => ⟨if a.holds p then k else none, fun _ => c⟩
  | .concat a b, c, k =>
    let second := b.atPlace p c.2 k
    let first := a.atPlace p c.1 second.answer
    ⟨first.answer, fun _ => (first.ahead (), second.ahead ())⟩
  | .alternative a b, c, k =>
    let first := a.atPlace p c.1 k
    let second := b.atPlace p c.2 k
    ⟨first.answer.or second.answer, fun _ => (first.ahead (), second.ahead ())⟩
  | .group name e, c, k =>
    let inner := e.atPlace p c (k.noting name false p)
    ⟨inner.answer.noting name true p, inner.ahead⟩
  | .repetition min (some _) greedy e, c, k => copiesAt (e.atPlace p) greedy k min c
  | .repetition min none greedy e, c, k =>
    if e.alwaysConsumes then loopAt (e.atPlace p) greedy k min c
    else
      ⟨((Expr.repetition min none greedy e).search p c 0 (.found k)).answer,
        fun _ => (Expr.repetition min none greedy e).lookBack p c 0 (.found k)⟩

/-- The best way to a match that begins in the text `before` a place, which is given from its last
character to its first, or at the place; `best` if there is none. -/
def Expr.findFrom (e : Expr) (rest : List Char) (ahead : Ahead e) (best : Answer) :
    List Char → Answer
  | [] => (e.atPlace ⟨none, rest⟩ ahead (some [])).answer.or best
  | x :: before =>
    let found := e.atPlace ⟨some x, rest⟩ ahead (some [])
    e.findFrom (x :: rest) (found.ahead ()) (found.answer.or best) before

/-- The best way to a match in a text. -/
def Expr.findIn (e : Expr) (text : List Char) : Answer :=
  e.findFrom [] (.dead e) none text.reverse

end UriRouter.Regex
