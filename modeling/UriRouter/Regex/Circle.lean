import UriRouter.Regex.Ahead

/-!
# Loops that may turn in a circle

A loop whose body can consume nothing would let a way turn in a circle. So inside such a loop a way
notes the points where ways meet, until it consumes a character, and is given up when it comes to
one of them again. The points are numbered from the loop inwards.

* `Search`, `Search.pass` : a search for a way that knows which points were passed;
* `Expr.search` : the search that goes through an expression and on;
* `Expr.lookBack` : what is known after each set, seen from one place before it.
-/

set_option autoImplicit false

namespace UriRouter.Regex

/-- A search for a way from one place. It takes the points that were passed there, each being a bit
of the number, and gives the points that have been passed after it. -/
abbrev Search := Nat → Answer × Nat

namespace Search

/-- The search that finds a known answer. -/
def found (answer : Answer) : Search := fun passed => (answer, passed)

/-- The search that ends without a way. -/
def dead : Search := found none

/-- Goes on past a point, unless it was passed before. -/
def pass (point : Nat) (k : Search) : Search := fun passed =>
  if passed.testBit point then (none, passed) else k (passed ||| 1 <<< point)

/-- Searches one way and, if it leads nowhere, the other. -/
def orElse (a b : Search) : Search := fun passed =>
  match a passed with
  | (some marks, passed) => (some marks, passed)
  | (none, passed) => b passed

/-- Searches two ways, `a` first if `aFirst`. -/
def prefer (aFirst : Bool) (a b : Search) : Search := if aFirst then a.orElse b else b.orElse a

/-- Goes on if a condition holds. -/
def given (condition : Bool) (k : Search) : Search := if condition then k else dead

/-- Notes where a group begins or ends, before it goes on. -/
def noting (name : Option String) (begins : Bool) (p : Place) (k : Search) : Search := fun passed =>
  let (answer, passed) := k passed
  (answer.noting name begins p, passed)

/-- The answer of a search that starts with no point passed. -/
def answer (k : Search) : Answer := (k 0).1

end Search

/-- The number of points in an expression. -/
def Expr.points : Expr → Nat
  | .empty => 0
  | .chars _ => 0
  | .assertion _ => 0
  | .concat a b => a.points + b.points
  | .alternative a b => 1 + a.points + b.points
  | .group _ e => e.points
  | .repetition _ (some max) _ e => 1 + max * e.points
  | .repetition min none _ e => 3 + Nat.max min 1 * e.points

section

variable {α : Type}

/-- Goes through copies, of which the first `min` are required. Each copy has `size` points of its
own, from `point` on. -/
def searchCopies (body : α → Nat → Search → Search) (greedy : Bool) (size : Nat) (leave : Search) :
    Nat → List α → Nat → Search
  | _, [], _ => leave
  | 0, c :: cs, point =>
    .prefer greedy (body c point (searchCopies body greedy size leave 0 cs (point + size))) leave
  | min + 1, c :: cs, point =>
    body c point (searchCopies body greedy size leave min cs (point + size))

/-- What is known after each set of copies, for the place before. -/
def lookBackCopies (body : α → Nat → Search → Search) (lookBack : α → Nat → Search → α)
    (greedy : Bool) (size : Nat) (leave : Search) : Nat → List α → Nat → List α
  | _, [], _ => []
  | min, c :: cs, point =>
    lookBack c point (searchCopies body greedy size leave (min - 1) cs (point + size)) ::
      lookBackCopies body lookBack greedy size leave (min - 1) cs (point + size)

end

/-- The search where a loop is left that need not be entered at all. Both ways meet there. -/
def leaveLoop (consumes : Bool) (min point : Nat) (k : Search) : Search :=
  if !consumes && min = 0 then .pass (point + 2) k else k

/-- The search at the end of a loop's body: one more run, or the way on. A run that has consumed
nothing comes back to the point passed here and is given up, so what follows it does not matter. -/
def endOfBody (consumes greedy : Bool) (min point : Nat) (body : Search → Search) (k : Search) :
    Search :=
  if consumes then .pass point (.prefer greedy (body .dead) k)
  else .pass (point + 1) (.prefer greedy (.pass point (body .dead))
    (leaveLoop consumes min point k))

/-- The search at the beginning of a loop, after the copies before it. -/
def searchLoop (consumes greedy : Bool) (min point : Nat) (body : Search → Search) (k : Search) :
    Search :=
  let again := endOfBody consumes greedy min point body k
  if consumes then (if min = 0 then again else body .dead)
  else
    let once := Search.pass point (body again)
    if min = 0 then .prefer greedy once (leaveLoop consumes min point k) else once

/-- The search for a way through an expression and on. Its points are numbered from `point` on. -/
def Expr.search (p : Place) : (e : Expr) → Ahead e → Nat → Search → Search
  | .empty, _, _, k => k
  | .chars set, c, _, _ => .given (p.isBefore set) (.found c)
  | .assertion a, _, _, k => .given (a.holds p) k
  | .concat a b, c, point, k => a.search p c.1 point (b.search p c.2 (point + a.points) k)
  | .alternative a b, c, point, k =>
    .orElse (a.search p c.1 (point + 1) (.pass point k))
      (b.search p c.2 (point + 1 + a.points) (.pass point k))
  | .group name e, c, point, k =>
    .noting name true p (e.search p c point (.noting name false p k))
  | .repetition min (some _) greedy e, c, point, k =>
    searchCopies (e.search p) greedy e.points (.pass point k) min c (point + 1)
  | .repetition min none greedy e, c, point, k =>
    match (c : List (Ahead e)) with
    | [] => .dead
    | c :: cs =>
      searchCopies (e.search p) greedy e.points
        (searchLoop e.alwaysConsumes greedy min point (e.search p c (point + 3)) k)
        (min - 1) cs (point + 3 + e.points)

/-- What is known after each set of an expression, for the place before `p`. The way on from the
expression is `k`. -/
def Expr.lookBack (p : Place) : (e : Expr) → Ahead e → Nat → Search → Ahead e
  | .empty, c, _, _ => c
  | .chars _, _, _, k => k.answer
  | .assertion _, c, _, _ => c
  | .concat a b, c, point, k =>
    (a.lookBack p c.1 point (b.search p c.2 (point + a.points) k),
      b.lookBack p c.2 (point + a.points) k)
  | .alternative a b, c, point, k =>
    (a.lookBack p c.1 (point + 1) (.pass point k),
      b.lookBack p c.2 (point + 1 + a.points) (.pass point k))
  | .group name e, c, point, k => e.lookBack p c point (.noting name false p k)
  | .repetition min (some _) greedy e, c, point, k =>
    lookBackCopies (e.search p) (e.lookBack p) greedy e.points (.pass point k) min c (point + 1)
  | .repetition min none greedy e, c, point, k =>
    match (c : List (Ahead e)) with
    | [] => []
    | c :: cs =>
      e.lookBack p c (point + 3)
          (endOfBody e.alwaysConsumes greedy min point (e.search p c (point + 3)) k) ::
        lookBackCopies (e.search p) (e.lookBack p) greedy e.points
          (searchLoop e.alwaysConsumes greedy min point (e.search p c (point + 3)) k)
          (min - 1) cs (point + 3 + e.points)

end UriRouter.Regex
