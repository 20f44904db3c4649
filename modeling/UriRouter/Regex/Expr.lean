import UriRouter.Regex.CharSet

/-!
# Regular expressions

The tree of a regular expression. Flags are resolved while the text is read, so the tree speaks
only of sets of characters, assertions and the ways to combine them.

An expression is kept simple while it is put together. A sequence has no sequence and nothing empty
in it, a choice has no choice in it, and a choice between sets is a set. Where all branches of a
choice are sequences that begin with the same members, these stand before the choice. This last
rule decides what is preferred: one way through the common members is tried with all branches
before the next way is.

* `Expr` : the tree;
* `Expr.sequence`, `Expr.choice`, `Expr.repeated` : the simple forms of combinations;
* `Expr.minLength?`, `Expr.isAlwaysEmpty` : how much an expression consumes.
-/

set_option autoImplicit false

namespace UriRouter.Regex

/-- A condition on the place between two characters. -/
inductive Assertion where
  | textStart
  | textEnd
  | lineStart
  | lineEnd
  /-- The start of a line, where `\r`, `\n` and both together end a line. -/
  | lineStartCrlf
  /-- The end of a line, where `\r`, `\n` and both together end a line. -/
  | lineEndCrlf
  | wordBoundary
  | notWordBoundary
  | wordStart
  | wordEnd
  /-- No word character before. -/
  | wordStartHalf
  /-- No word character after. -/
  | wordEndHalf
  deriving DecidableEq, Repr

/-- A regular expression. -/
inductive Expr where
  /-- Consumes nothing. -/
  | empty
  /-- Consumes one character of the set. -/
  | chars (set : CharSet)
  | assertion (a : Assertion)
  | concat (a b : Expr)
  /-- The first branch that leads to a match, the left one being tried first. -/
  | alternative (a b : Expr)
  /-- A group that notes what it consumes, under its name if it has one. -/
  | group (name : Option String) (e : Expr)
  /-- At least `min` and at most `max` copies, as many as possible if `greedy`, else as few. -/
  | repetition (min : Nat) (max : Option Nat) (greedy : Bool) (e : Expr)
  deriving DecidableEq, Repr

namespace Expr

/-! ## Length -/

/-- The least number of characters that an expression consumes; none if it has a part that nothing
matches, wherever it stands. -/
def minLength? : Expr → Option Nat
  | .empty => some 0
  | .chars set => if set.isEmpty then none else some 1
  | .assertion _ => some 0
  | .concat a b => a.minLength?.bind fun m => b.minLength?.map fun n => m + n
  | .alternative a b => a.minLength?.bind fun m => b.minLength?.map fun n => min m n
  | .group _ e => e.minLength?
  | .repetition min _ _ e => e.minLength?.map fun n => n * min

/-- Whether an expression is known to consume something. -/
def alwaysConsumes (e : Expr) : Bool := e.minLength?.any (0 < ·)

/-- Whether an expression consumes nothing, whatever it matches. -/
def isAlwaysEmpty : Expr → Bool
  | .empty => true
  | .chars _ => false
  | .assertion _ => true
  | .concat a b => a.isAlwaysEmpty && b.isAlwaysEmpty
  | .alternative a b => a.isAlwaysEmpty && b.isAlwaysEmpty
  | .group _ e => e.isAlwaysEmpty
  | .repetition _ max _ e => max.isSome && e.isAlwaysEmpty

/-! ## Sequences -/

/-- The members of a sequence. -/
def members : Expr → List Expr
  | .empty => []
  | .concat a b => a.members ++ b.members
  | e => [e]

/-- The sequence of members. -/
def ofMembers : List Expr → Expr
  | [] => .empty
  | [e] => e
  | e :: rest => .concat e (ofMembers rest)

/-- The expressions one after the other. -/
def sequence (es : List Expr) : Expr := ofMembers (es.flatMap members)

/-! ## Choices -/

/-- The branches of a choice. -/
def branches : Expr → List Expr
  | .alternative a b => a.branches ++ b.branches
  | e => [e]

/-- The choice between branches. -/
def ofBranches : List Expr → Expr
  | [] => .empty
  | [e] => e
  | e :: rest => .alternative e (ofBranches rest)

/-- The characters that branches consume, if each of them consumes just one. -/
def setOfBranches? : List Expr → Option CharSet
  | [] => some .empty
  | .chars set :: rest => (setOfBranches? rest).map set.union
  | _ :: _ => none

/-- The choice between branches, which is a set if all branches are. -/
def choiceOfBranches (branches : List Expr) : Expr :=
  match branches with
  | [e] => e
  | branches =>
    match setOfBranches? branches with
    | some set => .chars set
    | none => ofBranches branches

/-- Whether an expression consumes one certain character. -/
def isSingle : Expr → Bool
  | .chars set => set.isSingle
  | _ => false

/-- The members of a sequence, those that stand side by side and consume one certain character
being taken together. -/
def pieces : List Expr → List (List Expr)
  | [] => []
  | e :: rest =>
    match pieces rest with
    | (d :: run) :: more =>
      if e.isSingle && d.isSingle then (e :: d :: run) :: more else [e] :: (d :: run) :: more
    | more => [e] :: more

/-- Whether there is a group in an expression. -/
def hasGroup : Expr → Bool
  | .concat a b => a.hasGroup || b.hasGroup
  | .alternative a b => a.hasGroup || b.hasGroup
  | .group _ _ => true
  | .repetition _ _ _ e => e.hasGroup
  | _ => false

/-- What two lists begin with in common. Groups are never the same. -/
def commonStart : List (List Expr) → List (List Expr) → List (List Expr)
  | p :: ps, q :: qs => if p = q && !p.any hasGroup then p :: commonStart ps qs else []
  | _, _ => []

/-- What all the sequences begin with, if each has more than one piece. -/
def commonStartOfAll : List (List (List Expr)) → List (List Expr)
  | [] => []
  | [ps] => if ps.length < 2 then [] else ps
  | ps :: rest => if ps.length < 2 then [] else commonStart ps (commonStartOfAll rest)

/-- The choice between expressions, where what all its branches begin with stands before it. -/
def choice (es : List Expr) : Expr :=
  let branches := es.flatMap branches
  if (setOfBranches? branches).isSome || branches.length < 2 then choiceOfBranches branches
  else
    match (commonStartOfAll (branches.map fun e => pieces e.members)).flatten with
    | [] => choiceOfBranches branches
    | start =>
      sequence
        (start ++ [choiceOfBranches ((branches.map fun e =>
          ofMembers (e.members.drop start.length)).flatMap Expr.branches)])

/-! ## Repetitions -/

/-- The repetition of an expression. What consumes nothing is not matched more than once. -/
def repeated (min : Nat) (max : Option Nat) (greedy : Bool) (e : Expr) : Expr :=
  let (min, max) :=
    if e.isAlwaysEmpty then (Nat.min min 1, some (Nat.min (max.getD 1) 1)) else (min, max)
  if max = some 0 then .empty
  else if min = 1 && max = some 1 then e
  else .repetition min max greedy e

end Expr

end UriRouter.Regex
