import UriRouter.Regex.Expr

/-!
# Places in a text

* `Place`, `Assertion.holds` : a place between two characters, and the conditions on it;
* `Mark`, `Answer` : where groups begin and end on the way of a match, and whether there is a way;
* `textOf?` : the text that a group consumed.
-/

set_option autoImplicit false

namespace UriRouter.Regex

open UriRouter.Text

/-- A place between two characters of a text. -/
structure Place where
  /-- The character before the place. -/
  before : Option Char
  /-- The text after the place. -/
  rest : List Char
  deriving DecidableEq, Repr

namespace Place

/-- Whether the character before the place belongs to a word. -/
def wordBefore (p : Place) : Bool := p.before.any isWordChar

/-- Whether the character after the place belongs to a word. -/
def wordAfter (p : Place) : Bool := p.rest.head?.any isWordChar

/-- Whether the character after the place belongs to a set. -/
def isBefore (p : Place) (set : CharSet) : Bool := p.rest.head?.any set.mem

end Place

/-- Whether an assertion holds at a place. -/
def Assertion.holds (p : Place) : Assertion → Bool
  | .textStart => p.before.isNone
  | .textEnd => p.rest.isEmpty
  | .lineStart => p.before.isNone || p.before == some '\n'
  | .lineEnd => p.rest.isEmpty || p.rest.head? == some '\n'
  | .lineStartCrlf =>
    p.before.isNone || p.before == some '\n' ||
      p.before == some '\r' && p.rest.head? != some '\n'
  | .lineEndCrlf =>
    p.rest.isEmpty || p.rest.head? == some '\r' ||
      p.rest.head? == some '\n' && p.before != some '\r'
  | .wordBoundary => p.wordBefore != p.wordAfter
  | .notWordBoundary => p.wordBefore == p.wordAfter
  | .wordStart => !p.wordBefore && p.wordAfter
  | .wordEnd => p.wordBefore && !p.wordAfter
  | .wordStartHalf => !p.wordBefore
  | .wordEndHalf => !p.wordAfter

/-- Where a named group begins or ends. -/
structure Mark where
  name : String
  /-- Whether the group begins there. -/
  begins : Bool
  /-- The text after the place. -/
  rest : List Char
  deriving DecidableEq, Repr

/-- The marks on the best way to a match, in the order of the way; none if no way leads to one. -/
abbrev Answer := Option (List Mark)

/-- The answer where a group begins or ends, from the answer just after that. -/
def Answer.noting (name : Option String) (begins : Bool) (p : Place) (answer : Answer) : Answer :=
  match name with
  | none => answer
  | some n => answer.map (⟨n, begins, p.rest⟩ :: ·)

/-- The text after the last place where a group of a name begins or ends. -/
def lastMark? (name : String) (begins : Bool) (marks : List Mark) : Option (List Char) :=
  ((marks.filter fun m => m.begins == begins && m.name == name).getLast?).map (·.rest)

/-- The text that a group consumed the last time. -/
def textOf? (name : String) (marks : List Mark) : Option (List Char) :=
  match lastMark? name true marks, lastMark? name false marks with
  | some first, some last => some (first.take (first.length - last.length))
  | _, _ => none

end UriRouter.Regex
