import UriRouter.Regex.Escape

/-!
# Bracketed classes

Reading what stands between square brackets: single characters, ranges, escapes, named POSIX
classes and further brackets, joined into one set, and the operators `&&`, `--` and `~~` between
such sets, all of one precedence and taken from left to right. A `^` after the bracket stands for
the complement of the whole.

* `OpenBracket` : what has been read of a bracket;
* `readBracket` : a whole bracket, without its first `[`.
-/

set_option autoImplicit false

namespace UriRouter.Regex

open UriRouter.Text

variable [PropertyTable]

/-- A set and the depth of the brackets and operators it was written with. -/
structure ClassPart where
  set : CharSet
  nesting : Nat
  deriving DecidableEq, Repr

/-- An operator between sets. -/
inductive SetOperator where
  | intersection
  | difference
  | symmetricDifference
  deriving DecidableEq, Repr

/-- The set that an operator makes of two. -/
def SetOperator.apply : SetOperator → CharSet → CharSet → CharSet
  | .intersection => .intersection
  | .difference => .difference
  | .symmetricDifference => .symmetricDifference

namespace ClassPart

/-- A set written without brackets or operators. -/
def plain (set : CharSet) : ClassPart := ⟨set, 0⟩

/-- The union of sets, in the order they were written. -/
def unionSet : List ClassPart → CharSet
  | [] => .empty
  | [p] => p.set
  | p :: rest => .union p.set (unionSet rest)

/-- Parts that stand side by side. Two or more of them count as one level. -/
def sideBySide (parts : List ClassPart) : ClassPart :=
  match parts with
  | [p] => p
  | [] => plain .empty
  | parts => ⟨unionSet parts, 1 + (parts.map (·.nesting)).foldl max 0⟩

/-- Two parts joined by an operator. Case is disregarded on each side of it. -/
def join (ignoreCase : Bool) (op : SetOperator) (p q : ClassPart) : ClassPart :=
  ⟨op.apply (p.set.foldIf ignoreCase) (q.set.foldIf ignoreCase), 1 + max p.nesting q.nesting⟩

/-- A part between brackets. -/
def bracketed (ignoreCase negated : Bool) (p : ClassPart) : ClassPart :=
  ⟨.complementIf negated (p.set.foldIf ignoreCase), 1 + p.nesting⟩

end ClassPart

/-- A bracket that is not closed yet. -/
structure OpenBracket where
  negated : Bool
  /-- The parts since the bracket or the last operator, the latest first. -/
  parts : List ClassPart
  /-- The last operator and all that stands before it. -/
  left : Option (SetOperator × ClassPart)
  deriving DecidableEq, Repr

namespace OpenBracket

/-- Adds a part. -/
def push (b : OpenBracket) (p : ClassPart) : OpenBracket := { b with parts := p :: b.parts }

/-- All that has been read, as one part. -/
def content (b : OpenBracket) (ignoreCase : Bool) : ClassPart :=
  let right := ClassPart.sideBySide b.parts.reverse
  match b.left with
  | none => right
  | some (op, left) => left.join ignoreCase op right

/-- Adds an operator. -/
def operator (b : OpenBracket) (ignoreCase : Bool) (op : SetOperator) : OpenBracket :=
  { b with parts := [], left := some (op, b.content ignoreCase) }

/-- The part that the bracket makes when it is closed. -/
def close (b : OpenBracket) (ignoreCase : Bool) : ClassPart :=
  (b.content ignoreCase).bracketed ignoreCase b.negated

end OpenBracket

/-- The signs `-` at the beginning of a bracket, which stand for themselves. -/
def readDashes (verbose inComment : Bool) (bracket : OpenBracket) :
    List Char → OpenBracket × List Char
  | [] => (bracket, [])
  | c :: rest =>
    if inComment then readDashes verbose (c != '\n') bracket rest
    else if verbose && isBlank c then readDashes verbose false bracket rest
    else if verbose && c == '#' then readDashes verbose true bracket rest
    else if c == '-' then readDashes verbose false (bracket.push (.plain (.single c))) rest
    else (bracket, c :: rest)

/-- The beginning of a bracket after its `[`: an optional `^`, signs `-`, and, where no sign has
been read, a `]` that stands for itself. -/
def openBracket (verbose : Bool) (s : List Char) : OpenBracket × List Char :=
  let (negated, s) := match skipBlanks verbose s with
    | '^' :: rest => (true, rest)
    | s => (false, s)
  match readDashes verbose false ⟨negated, [], none⟩ s with
  | (⟨negated, [], left⟩, ']' :: rest) => (⟨negated, [.plain (.single ']')], left⟩, rest)
  | (bracket, s) => (bracket, s)

/-- A named class, after its `[`, up to and with its `:]`. Its complement is that of the class with
the case relatives, if case is disregarded. -/
def readPosix (ignoreCase : Bool) : List Char → Option (CharSet × List Char)
  | ':' :: s =>
    let (negated, s) := match s with
      | '^' :: rest => (true, rest)
      | s => (false, s)
    match s.dropWhile (· != ':') with
    | ':' :: ']' :: rest =>
      (CharSet.posix? (String.ofList (s.takeWhile (· != ':')))).map
        fun set => (.complementIf negated (set.foldIf ignoreCase), rest)
    | _ => none
  | _ => none

/-- One end of a range, or a part of its own: a character or an escape. -/
def readMember (shorthands : Shorthands) (verbose ignoreCase : Bool) :
    List Char → Option (Atom × List Char)
  | [] => none
  | '\\' :: rest => readEscape shorthands verbose ignoreCase rest
  | c :: rest => some (.char c, rest)

/-- The set of a member; an assertion is none. -/
def Atom.toSet? : Atom → Option CharSet
  | .char c => some (.single c)
  | .set s => some s
  | .assertion _ => none

/-- A member or a range between two characters. A `-` before the end of the bracket, or before
another `-`, makes no range. -/
def readRange (shorthands : Shorthands) (verbose ignoreCase : Bool) (s : List Char) :
    Option (CharSet × List Char) :=
  match readMember shorthands verbose ignoreCase s with
  | none => none
  | some (first, rest) =>
    let rest := skipBlanks verbose rest
    match rest with
    | '-' :: after =>
      if peekPast verbose after = some ']' || peekPast verbose after = some '-' then
        first.toSet?.map (·, rest)
      else
        match first, readMember shorthands verbose ignoreCase (skipBlanks verbose after) with
        | .char c, some (.char d, rest) => if c ≤ d then some (.range c d, rest) else none
        | _, _ => none
    | _ => first.toSet?.map (·, rest)

/-- The rest of a bracket, with the brackets around it. Each turn consumes some text, so `fuel`
need not exceed its length. -/
def readBracketFrom (shorthands : Shorthands) (verbose ignoreCase : Bool) :
    Nat → OpenBracket → List OpenBracket → List Char → Option (ClassPart × List Char)
  | 0, _, _, _ => none
  | fuel + 1, bracket, outer, s =>
    match skipBlanks verbose s with
    | [] => none
    | '[' :: rest =>
      match readPosix ignoreCase rest with
      | some (set, rest) =>
        readBracketFrom shorthands verbose ignoreCase fuel (bracket.push (.plain set)) outer rest
      | none =>
        let (inner, rest) := openBracket verbose rest
        readBracketFrom shorthands verbose ignoreCase fuel inner (bracket :: outer) rest
    | ']' :: rest =>
      match outer with
      | [] => some (bracket.close ignoreCase, rest)
      | around :: outer =>
        readBracketFrom shorthands verbose ignoreCase fuel
          (around.push (bracket.close ignoreCase)) outer rest
    | '&' :: '&' :: rest =>
      readBracketFrom shorthands verbose ignoreCase fuel
        (bracket.operator ignoreCase .intersection) outer rest
    | '-' :: '-' :: rest =>
      readBracketFrom shorthands verbose ignoreCase fuel
        (bracket.operator ignoreCase .difference) outer rest
    | '~' :: '~' :: rest =>
      readBracketFrom shorthands verbose ignoreCase fuel
        (bracket.operator ignoreCase .symmetricDifference) outer rest
    | s =>
      match readRange shorthands verbose ignoreCase s with
      | some (set, rest) =>
        readBracketFrom shorthands verbose ignoreCase fuel (bracket.push (.plain set)) outer rest
      | none => none

/-- A bracket, after its `[`, and the text after its `]`. -/
def readBracket (shorthands : Shorthands) (verbose ignoreCase : Bool) (s : List Char) :
    Option (ClassPart × List Char) :=
  let (bracket, rest) := openBracket verbose s
  readBracketFrom shorthands verbose ignoreCase (rest.length + 1) bracket [] rest

end UriRouter.Regex
