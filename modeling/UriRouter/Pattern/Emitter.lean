import UriRouter.Pattern.Compiled

/-!
# Writing the expression of a pattern in one pass

The expression that a pattern is matched by can be written while the pattern is read, without a
tree: from the left to the right, a placeholder being skipped to the brace that closes it. Literal
characters are kept until something else follows, a section is noted with what was written before
it, and a section is empty if nothing has been written since it was opened.

* `untilBrace` : the search for the brace that closes a placeholder;
* `Emission`, `Emission.emit` : what has been written, and the pass over a text;
* `compileInOnePass` : a pattern compiled in this way.
-/

set_option autoImplicit false

namespace UriRouter.Pattern

/-- What stands before the brace that closes a placeholder and what stands after it, if anything
closes the placeholder. The reading is inside `depth` inner braces, and `escaped` says whether a
backslash stands before the text. -/
def untilBrace (depth : Nat) (escaped : Bool) : List Char → Option (List Char × List Char)
  | [] => none
  | c :: rest =>
    let keep (depth : Nat) (escaped : Bool) : Option (List Char × List Char) :=
      (untilBrace depth escaped rest).map fun x => (c :: x.1, x.2)
    if escaped then keep depth false
    else match c with
      | '\\' => keep depth true
      | '\x7b' => keep (depth + 1) false
      | '\x7d' => if depth = 0 then some ([], rest) else keep (depth - 1) false
      | _ => keep depth false

theorem length_of_untilBrace {s body after : List Char} {depth : Nat} {escaped : Bool}
    (h : untilBrace depth escaped s = some (body, after)) : after.length < s.length := by
  induction s generalizing depth escaped body with
  | nil => cases h
  | cons c rest ih =>
    have keep : ∀ {depth' : Nat} {escaped' : Bool},
        (untilBrace depth' escaped' rest).map (fun x => (c :: x.1, x.2)) = some (body, after) →
        after.length < (c :: rest).length := by
      intro depth' escaped' h
      obtain ⟨⟨body', after'⟩, hx, he⟩ := Option.map_eq_some_iff.1 h
      cases he
      exact Nat.lt_succ_of_lt (ih hx)
    unfold untilBrace at h
    simp only at h
    split at h
    · exact keep h
    · split at h
      · exact keep h
      · exact keep h
      · split at h
        · cases h
          exact Nat.lt_succ_self _
        · exact keep h
      · exact keep h

/-- What has been written of an expression. -/
structure Emission where
  output : List Char := ['^']
  /-- Literal characters that are not written yet. -/
  literal : List Char := []
  /-- The names of the placeholders, from left to right. -/
  parameters : List String := []
  /-- The sections that are open, the innermost first: where the `[` stands, and how many bytes had
  been written before it. -/
  sections : List (Nat × Nat) := []
  /-- Whether there has been a section. -/
  hasSections : Bool := false
  deriving DecidableEq, Repr

/-- What a whole pattern is written as. -/
structure Written where
  /-- The expression, to the end of the path. -/
  text : List Char
  parameters : List String
  /-- Whether there is nothing in the pattern but literal characters. -/
  isFixed : Bool
  deriving DecidableEq, Repr

namespace Emission

/-- Writes the literal characters. -/
def flush (e : Emission) : Emission :=
  { e with output := e.output ++ Regex.escape e.literal, literal := [] }

/-- Begins a section whose `[` stands at a position. -/
def openSection (e : Emission) (position : Nat) : Emission :=
  { e with
    output := e.output ++ "(?:".toList
    sections := (position, byteLength e.output) :: e.sections
    hasSections := true }

/-- Ends the innermost section with the `]` at a position. -/
def closeSection (e : Emission) (position : Nat) : Except Fault Emission :=
  match e.sections with
  | [] => .error (.unexpectedClose position)
  | (start, mark) :: sections =>
    if byteLength e.output = mark + byteLength "(?:".toList then .error (.emptySection start)
    else .ok { e with output := e.output ++ ")?".toList, sections := sections }

/-- Adds a placeholder, unless its name is taken. Its number is the number of those before it. -/
def addPlaceholder (e : Emission) (name : String) (constraint : Option String) :
    Except Fault Emission :=
  if e.parameters.contains name then .error (.duplicateParameter name)
  else .ok { e with
    output := e.output ++ ("(?P<".toList ++ (groupName e.parameters.length).toList ++
      '>' :: constraintText constraint ++ [')'])
    parameters := e.parameters ++ [name] }

/-- The pass over a text that stands at a position. -/
def emit [Regex.PropertyTable] (e : Emission) (position : Nat) (s : List Char) :
    Except Fault Emission :=
  match s with
  | [] => .ok e.flush
  | '[' :: rest => (e.flush.openSection position).emit (position + 1) rest
  | ']' :: rest =>
    match e.flush.closeSection position with
    | .error fault => .error fault
    | .ok e' => e'.emit (position + 1) rest
  | '\x7b' :: rest =>
    match _h : untilBrace 0 false rest with
    | none => .error (.invalidPlaceholder (String.ofList ('\x7b' :: rest)))
    | some (body, after) =>
      match splitPlaceholder body with
      | .error fault => .error fault
      | .ok (name, constraint) =>
        match e.flush.addPlaceholder name constraint with
        | .error fault => .error fault
        | .ok e' => e'.emit (position + byteLength ('\x7b' :: body ++ ['\x7d'])) after
  | '\x7d' :: _ => .error (.invalidPlaceholder "\x7d")
  | c :: rest => emit { e with literal := e.literal ++ [c] } (position + c.utf8Size) rest
termination_by s.length
decreasing_by
  all_goals simp only [List.length_cons]
  all_goals first
    | omega
    | exact Nat.lt_succ_of_lt (length_of_untilBrace _h)

/-- What has been written at the end of a text, if no section is left open. -/
def finish (e : Emission) : Except Fault Written :=
  match e.sections with
  | (position, _) :: _ => .error (.unclosedSection position)
  | [] => .ok ⟨e.output ++ ['$'], e.parameters, e.parameters.isEmpty && !e.hasSections⟩

end Emission

/-- Compiles a pattern in one pass. -/
def compileInOnePass [Regex.PropertyTable] (raw : String) : Except PatternError Pattern :=
  let source := Path.normalizePattern raw
  match (Emission.emit {} 0 source.toList).bind Emission.finish with
  | .error fault => .error ⟨source, fault⟩
  | .ok w =>
    if w.isFixed then .ok ⟨raw, .fixed source, w.parameters⟩
    else match Regex.read? w.text with
      | some e => .ok ⟨raw, .matched ⟨String.ofList w.text, e⟩, w.parameters⟩
      | none => .error ⟨source, .invalidRegex⟩

end UriRouter.Pattern
