import UriRouter.Pattern.Fault
import UriRouter.Pattern.Item
import UriRouter.Regex.Reader

/-!
# Reading patterns

The text of a pattern is read one character at a time. Outside braces a character is a literal or
a bracket; inside braces it belongs to the placeholder until the brace that closes it, where a
backslash takes the character after it along and inner braces have to balance.

* `ReadState.step` : what one character does;
* `readItems` : the tree of a pattern, or its first fault from the left;
* `readItems_append` : reading a text and then another is reading both in a row.
-/

set_option autoImplicit false

namespace UriRouter.Pattern

open UriRouter.Text

/-- A section that is not closed yet. -/
structure OpenSection where
  /-- Where its `[` stands. -/
  position : Nat
  /-- The parts before it in the sequence around it, the latest first. -/
  before : List Item
  deriving Repr

/-- A placeholder that is not closed yet. -/
structure OpenPlaceholder where
  /-- The inner braces that are open. -/
  depth : Nat := 0
  /-- Whether a backslash was just read. -/
  escaped : Bool := false
  /-- What has been read of it, the latest first. -/
  body : List Char := []
  deriving DecidableEq, Repr

/-- What has been read of a pattern. -/
structure ReadState where
  /-- The number of bytes read. -/
  position : Nat := 0
  /-- The parts of the current sequence, the latest first. -/
  items : List Item := []
  /-- The sections around it, the innermost first. -/
  sections : List OpenSection := []
  /-- The names of the placeholders, the latest first. -/
  names : List String := []
  placeholder : Option OpenPlaceholder := none
  deriving Repr

/-- A letter or `_`, and then letters, digits or `_`, all ASCII. -/
def isValidName (name : List Char) : Bool :=
  match name with
  | [] => false
  | c :: rest => (isAsciiLetter c || c == '_') && rest.all isAsciiWordChar

variable [Regex.PropertyTable]

/-- The parts of a placeholder that stands between braces: a name, and after the first `:` a
constraint, which is a regular expression by itself. -/
def splitPlaceholder (body : List Char) : Except Fault (String × Option String) :=
  let name := body.takeWhile (· != ':')
  let invalid : Fault := .invalidPlaceholder (String.ofList ('\x7b' :: body ++ ['\x7d']))
  if !isValidName name then .error invalid
  else match body.dropWhile (· != ':') with
    | [] => .ok (String.ofList name, none)
    | [_] => .error invalid
    | _ :: constraint =>
      match Regex.read? constraint with
      | some _ => .ok (String.ofList name, some (String.ofList constraint))
      | none => .error (.invalidConstraint (String.ofList name) (String.ofList constraint))

/-- The placeholder that stands between braces. -/
def placeholderOf (body : List Char) : Except Fault Item :=
  (splitPlaceholder body).map fun parts => .placeholder parts.1 parts.2

namespace ReadState

/-- Adds a part, unless it is a placeholder whose name is taken. -/
def push (st : ReadState) (item : Item) : Except Fault ReadState :=
  match item with
  | .placeholder name _ =>
    if st.names.contains name then .error (.duplicateParameter name)
    else .ok { st with items := item :: st.items, names := name :: st.names }
  | item => .ok { st with items := item :: st.items }

/-- What a character outside braces does. -/
def stepOutside (st : ReadState) (c : Char) : Except Fault ReadState :=
  match c with
  | '[' => .ok { st with items := [], sections := ⟨st.position, st.items⟩ :: st.sections }
  | ']' =>
    match st.sections with
    | [] => .error (.unexpectedClose st.position)
    | ⟨position, before⟩ :: sections =>
      if st.items.isEmpty then .error (.emptySection position)
      else .ok { st with items := .optional st.items.reverse :: before, sections := sections }
  | '\x7b' => .ok { st with placeholder := some {} }
  | '\x7d' => .error (.invalidPlaceholder "\x7d")
  | c => st.push (.literal c)

/-- What a character inside braces does. -/
def stepInside (st : ReadState) (p : OpenPlaceholder) (c : Char) : Except Fault ReadState :=
  let keep (depth : Nat) (escaped : Bool) : Except Fault ReadState :=
    .ok { st with placeholder := some ⟨depth, escaped, c :: p.body⟩ }
  if p.escaped then keep p.depth false
  else match c with
    | '\\' => keep p.depth true
    | '\x7b' => keep (p.depth + 1) false
    | '\x7d' =>
      if p.depth = 0 then
        (placeholderOf p.body.reverse).bind { st with placeholder := none }.push
      else keep (p.depth - 1) false
    | _ => keep p.depth false

/-- What one character does. -/
def step (st : ReadState) (c : Char) : Except Fault ReadState := do
  let st' ← match st.placeholder with
    | none => st.stepOutside c
    | some p => st.stepInside p c
  .ok { st' with position := st.position + c.utf8Size }

/-- Reads a text. -/
def read (st : ReadState) : List Char → Except Fault ReadState
  | [] => .ok st
  | c :: rest =>
    match st.step c with
    | .ok st' => read st' rest
    | .error e => .error e

/-- The parts, if neither a placeholder nor a section is left open. -/
def finish (st : ReadState) : Except Fault (List Item) :=
  match st.placeholder, st.sections with
  | some p, _ => .error (.invalidPlaceholder (String.ofList ('\x7b' :: p.body.reverse)))
  | none, s :: _ => .error (.unclosedSection s.position)
  | none, [] => .ok st.items.reverse

/-- Reading a text and then another is reading both in a row. -/
theorem read_append (st : ReadState) (s t : List Char) :
    st.read (s ++ t) = (st.read s).bind (·.read t) := by
  induction s generalizing st with
  | nil => rfl
  | cons c rest ih =>
    simp only [List.cons_append, read]
    cases st.step c with
    | ok st' => exact ih st'
    | error e => rfl

end ReadState

/-- The tree of a pattern. -/
def readItems (s : List Char) : Except Fault (List Item) :=
  match ReadState.read {} s with
  | .ok st => st.finish
  | .error e => .error e

end UriRouter.Pattern
