import UriRouter.Path
import UriRouter.Pattern.Reader
import UriRouter.Regex.Matching

/-!
# Compiled patterns

A pattern without placeholders and sections is fixed: it stands for its own text. Any other is
matched by a regular expression.

* `Pattern.compile` : a pattern ready for matching, or what is wrong with it;
* `Pattern.captures?`, `Pattern.accepts` : the parameters a path binds, and whether it matches.
-/

set_option autoImplicit false

namespace UriRouter

/-- A path's parameters and their values, in the order the pattern declares them. -/
abbrev Bindings := List (String × String)

/-- The expression that a pattern with placeholders or sections is matched by. -/
structure Pattern.Matcher where
  /-- The text of the expression. -/
  text : String
  expr : Regex.Expr
  deriving DecidableEq, Repr

/-- How a pattern is matched. -/
inductive Pattern.Kind where
  /-- By comparison with a path in normal form. -/
  | fixed (path : String)
  | matched (matcher : Pattern.Matcher)
  deriving DecidableEq, Repr

/-- A pattern ready for matching. -/
structure Pattern where
  /-- The text as it was given. -/
  raw : String
  kind : Pattern.Kind
  /-- The names of the placeholders, from left to right. -/
  parameters : List String
  deriving DecidableEq, Repr

namespace Pattern

/-- The text of the expression for a sequence of parts, from the beginning of the path to its
end. -/
def matcherText (items : List Item) : List Char := '^' :: regexTextOf 0 items ++ ['$']

/-- How a sequence of parts that renders to `source` is matched. -/
def kindOf [Regex.PropertyTable] (source : String) (items : List Item) : Except Fault Kind :=
  if items.all (·.isLiteral) then .ok (.fixed source)
  else match Regex.read? (matcherText items) with
    | some e => .ok (.matched ⟨String.ofList (matcherText items), e⟩)
    | none => .error .invalidRegex

/-- Compiles a pattern. -/
def compile [Regex.PropertyTable] (raw : String) : Except PatternError Pattern :=
  let source := Path.normalizePattern raw
  match readItems source.toList with
  | .error fault => .error ⟨source, fault⟩
  | .ok items =>
    match kindOf source items with
    | .error fault => .error ⟨source, fault⟩
    | .ok kind => .ok ⟨raw, kind, namesOf items⟩

/-- Whether the pattern is fixed. -/
def isFixed (p : Pattern) : Bool :=
  match p.kind with
  | .fixed _ => true
  | .matched _ => false

/-- The path that a fixed pattern stands for. -/
def fixedPath? (p : Pattern) : Option String :=
  match p.kind with
  | .fixed path => some path
  | .matched _ => none

/-- The text of the expression that a pattern is matched by. -/
def matcherText? (p : Pattern) : Option String :=
  match p.kind with
  | .fixed _ => none
  | .matched m => some m.text

/-- The parameters among `names` whose groups took part in a match, numbered from `index` on. -/
def bindingsFrom (marks : List Regex.Mark) (index : Nat) : List String → Bindings
  | [] => []
  | name :: rest =>
    match Regex.textOf? (groupName index) marks with
    | some text => (name, String.ofList text) :: bindingsFrom marks (index + 1) rest
    | none => bindingsFrom marks (index + 1) rest

/-- The parameters that a path binds, if it matches. A placeholder in a section that was left out
is not bound. -/
def captures? (p : Pattern) (path : String) : Option Bindings :=
  match p.kind with
  | .fixed fixed => if fixed = path then some [] else none
  | .matched m => (m.expr.findIn path.toList).map (bindingsFrom · 0 p.parameters)

/-- Whether a path matches. -/
def accepts (p : Pattern) (path : String) : Bool :=
  match p.kind with
  | .fixed fixed => fixed == path
  | .matched m => (m.expr.findIn path.toList).isSome

/-- A path matches exactly when it yields parameters. -/
theorem accepts_eq_isSome (p : Pattern) (path : String) :
    p.accepts path = (p.captures? path).isSome := by
  unfold accepts captures?
  split
  · rename_i fixed _
    by_cases h : fixed = path <;> simp [h]
  · simp

end Pattern

end UriRouter
