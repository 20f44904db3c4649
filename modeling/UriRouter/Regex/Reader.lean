import UriRouter.Regex.Bracket

/-!
# Reading regular expressions

The text of a regular expression is read from left to right. The reader's state holds the
sequence it is in the middle of, the finished branches beside it, and the groups around them; each
step consumes one construct. So reading a text and then another is reading both in a row, as long
as the first ends between two constructs.

* `ReaderState`, `ReaderState.step` : the state, and what one construct does to it;
* `read?` : the expression a text denotes, if it denotes one.

References to earlier groups and conditions on the text around the match have no reading. Properties
are read by the names that a `PropertyTable` has. One thing is left out: the flag `u` cannot be
cleared, so what a text means for single bytes, with shorthands for ASCII alone, has no reading
either.
-/

set_option autoImplicit false

namespace UriRouter.Regex

open UriRouter.Text

variable [PropertyTable]

/-- The flags that the text may set for what follows in the same group. -/
structure Flags where
  ignoreCase : Bool := false
  multiLine : Bool := false
  dotAll : Bool := false
  /-- Lines end in `\r`, `\n` or both together, not in `\n` only. -/
  crlf : Bool := false
  /-- Exchanges the greedy repetitions and those marked with `?`. -/
  swapGreed : Bool := false
  verbose : Bool := false
  deriving DecidableEq, Repr

/-- The flags with the one that a letter names set or cleared. Text is always Unicode, so that
flag cannot be cleared. -/
def Flags.set? (flags : Flags) (letter : Char) (value : Bool) : Option Flags :=
  match letter with
  | 'i' => some { flags with ignoreCase := value }
  | 'm' => some { flags with multiLine := value }
  | 's' => some { flags with dotAll := value }
  | 'R' => some { flags with crlf := value }
  | 'U' => some { flags with swapGreed := value }
  | 'x' => some { flags with verbose := value }
  | 'u' => if value then some flags else none
  | _ => none

/-- The assertion that `^` stands for. -/
def Flags.startAssertion (flags : Flags) : Assertion :=
  if flags.multiLine then if flags.crlf then .lineStartCrlf else .lineStart else .textStart

/-- The assertion that `$` stands for. -/
def Flags.endAssertion (flags : Flags) : Assertion :=
  if flags.multiLine then if flags.crlf then .lineEndCrlf else .lineEnd else .textEnd

/-- The set that `.` stands for: all characters but those that end a line, or all. -/
def Flags.dot (flags : Flags) : CharSet :=
  if flags.dotAll then CharSet.complement .empty
  else if flags.crlf then (CharSet.ofList [('\n', '\n'), ('\r', '\r')]).complement
  else (CharSet.single '\n').complement

/-- What the text of one construct denotes. -/
structure Part where
  expr : Expr
  /-- How deeply constructs nest in the text: groups, repetitions, brackets, sequences and choices
  of more than one member each count one. -/
  depth : Nat
  /-- Whether a repetition may follow. -/
  repeatable : Bool := true
  deriving DecidableEq, Repr

namespace Part

/-- The greatest depth a text may have. -/
def maxDepth : Nat := 250

/-- How deep parts are that form one construct. -/
def depthOf : List Part → Nat
  | [] => 0
  | [p] => p.depth
  | parts => 1 + (parts.map (·.depth)).foldl max 0

/-- The parts one after the other. -/
def sequence (parts : List Part) : Part := ⟨.sequence (parts.map (·.expr)), depthOf parts, true⟩

/-- The choice between parts. -/
def choice (parts : List Part) : Part := ⟨.choice (parts.map (·.expr)), depthOf parts, true⟩

end Part

/-- What a group is for. -/
inductive GroupKind where
  /-- It only holds a part together. -/
  | plain
  /-- It notes what it consumes. -/
  | noting (name : Option String)
  deriving DecidableEq, Repr

/-- The expression of a group. -/
def GroupKind.wrap : GroupKind → Expr → Expr
  | .plain, e => e
  | .noting name, e => .group name e

/-- What stood open when a group began. -/
structure OpenGroup where
  kind : GroupKind
  /-- The sequence around the group, the latest first. -/
  items : List Part
  /-- The branches before that sequence, the latest first. -/
  branches : List Part
  /-- The flags to return to. -/
  flags : Flags
  deriving DecidableEq, Repr

/-- What has been read of an expression. -/
structure ReaderState where
  flags : Flags := {}
  /-- The current sequence, the latest first. -/
  items : List Part := []
  /-- The finished branches of the current group, the latest first. -/
  branches : List Part := []
  /-- The groups around the current one, the innermost first. -/
  outer : List OpenGroup := []
  /-- The names of the groups so far. -/
  names : List String := []
  deriving DecidableEq, Repr

namespace ReaderState

/-- Adds an item to the sequence. -/
def push (st : ReaderState) (p : Part) : ReaderState := { st with items := p :: st.items }

/-- The part that the current group holds. -/
def content (st : ReaderState) : Part :=
  .choice (.sequence st.items.reverse :: st.branches).reverse

/-- Begins the next branch. -/
def nextBranch (st : ReaderState) : ReaderState :=
  { st with items := [], branches := .sequence st.items.reverse :: st.branches }

/-- Begins a group. -/
def openGroup (st : ReaderState) (kind : GroupKind) (flags : Flags) : ReaderState :=
  { flags := flags, items := [], branches := [],
    outer := ⟨kind, st.items, st.branches, st.flags⟩ :: st.outer,
    names := st.names }

/-- Ends the current group, if there is one. -/
def closeGroup? (st : ReaderState) : Option ReaderState :=
  match st.outer with
  | [] => none
  | group :: outer =>
    let content := st.content
    some { flags := group.flags,
           items := ⟨group.kind.wrap content.expr, 1 + content.depth, true⟩ :: group.items,
           branches := group.branches, outer := outer, names := st.names }

/-- Repeats the last item, if there is one that can be repeated. -/
def repeatLast? (st : ReaderState) (min : Nat) (max : Option Nat) (greedy : Bool) :
    Option ReaderState :=
  match st.items with
  | [] => none
  | p :: items =>
    if p.repeatable then
      some { st with
        items := ⟨.repeated min max (greedy != st.flags.swapGreed) p.expr, 1 + p.depth, true⟩ ::
          items }
    else none

/-- Adds what an escape or a plain character stands for. -/
def pushAtom (st : ReaderState) : Atom → ReaderState
  | .char c => st.push ⟨.chars ((CharSet.single c).foldIf st.flags.ignoreCase), 0, true⟩
  | .set s => st.push ⟨.chars s, 0, true⟩
  | .assertion a => st.push ⟨.assertion a, 0, true⟩

/-- Whether a character may stand in a group's name. -/
def isNameChar (first : Bool) (c : Char) : Bool :=
  if first then c == '_' || isAlphabetic c
  else c == '_' || c == '.' || c == '[' || c == ']' || isAlphanumeric c

/-- A group's name up to its `>`. -/
def readName (first : Bool) : List Char → Option (List Char × List Char)
  | [] => none
  | c :: rest =>
    if c == '>' then some ([], rest)
    else if isNameChar first c then
      (readName false rest).map fun (name, after) => (c :: name, after)
    else none

/-- Begins a group whose name follows. The name is not empty and not that of another group. -/
def openNamed? (st : ReaderState) (s : List Char) : Option (ReaderState × List Char) :=
  match readName true s with
  | none => none
  | some (name, rest) =>
    if name.isEmpty || st.names.contains (String.ofList name) then none
    else
      let name := String.ofList name
      some ({ st.openGroup (.noting (some name)) st.flags with names := name :: st.names }, rest)

/-- What flags are set by, before `:` or `)`. -/
structure FlagText where
  flags : Flags
  /-- The letters so far. -/
  letters : List Char := []
  negated : Bool := false
  deriving DecidableEq, Repr

/-- Letters of flags to set, and after a `-` of flags to clear; then the `:` or `)` and the text
after it. No letter and no `-` is repeated, and a `-` is not the last. -/
def readFlags (text : FlagText) : List Char → Option (FlagText × Char × List Char)
  | [] => none
  | c :: rest =>
    if c == ':' || c == ')' then some (text, c, rest)
    else if c == '-' then
      match rest with
      | [] => none
      | d :: _ =>
        if text.negated || d == ':' || d == ')' then none
        else readFlags { text with negated := true } rest
    else if text.letters.contains c then none
    else match text.flags.set? c (!text.negated) with
      | none => none
      | some flags => readFlags { text with flags := flags, letters := c :: text.letters } rest

/-- Begins a group, after its `(`, or sets flags. -/
def stepOpen (st : ReaderState) (s : List Char) : Option (ReaderState × List Char) :=
  match skipBlanks st.flags.verbose s with
  | '?' :: 'P' :: '<' :: rest => st.openNamed? rest
  | '?' :: '<' :: rest => st.openNamed? rest
  | '?' :: rest =>
    match readFlags { flags := st.flags } rest with
    | none => none
    | some (text, ')', after) =>
      if text.letters.isEmpty then none
      else some ({ st with flags := text.flags, items := ⟨.empty, 0, false⟩ :: st.items }, after)
    | some (text, _, after) => some (st.openGroup .plain text.flags, after)
  | rest => some (st.openGroup (.noting none) st.flags, rest)

/-- A decimal number of 32 bits. -/
def readDecimal (verbose : Bool) (s : List Char) : Option (Nat × List Char) :=
  match readFiltered verbose isAsciiDigit false (s.dropWhile isBlank) with
  | ([], _) => none
  | (digits, rest) =>
    let n := digits.foldl (fun n c => n * 10 + (c.toNat - '0'.toNat)) 0
    if n < 0x100000000 then some (n, rest.dropWhile isBlank) else none

/-- The bounds of a repetition between braces, after its `{`, up to and with its `}`. -/
def readBounds (verbose : Bool) (s : List Char) : Option (Nat × Option Nat × List Char) :=
  match readDecimal verbose (skipBlanks verbose s) with
  | none => none
  | some (min, '\x7d' :: rest) => some (min, some min, rest)
  | some (min, ',' :: rest) =>
    match skipBlanks verbose rest with
    | '\x7d' :: rest => some (min, none, rest)
    | rest =>
      match readDecimal verbose rest with
      | some (max, '\x7d' :: rest) => if min ≤ max then some (min, some max, rest) else none
      | _ => none
  | _ => none

/-- Repeats the last item; a `?` at the beginning of the text asks for few copies. -/
def stepRepeat (st : ReaderState) (min : Nat) (max : Option Nat) (s : List Char) :
    Option (ReaderState × List Char) :=
  match s with
  | '?' :: rest => (st.repeatLast? min max false).map (·, rest)
  | rest => (st.repeatLast? min max true).map (·, rest)

/-- Reads one construct, of which `c` is the first character and `s` the text after it. -/
def step (shorthands : Shorthands) (st : ReaderState) (c : Char) (s : List Char) :
    Option (ReaderState × List Char) :=
  match c with
  | '(' => st.stepOpen s
  | ')' => st.closeGroup?.map (·, s)
  | '|' => some (st.nextBranch, s)
  | '[' =>
    (readBracket shorthands st.flags.verbose st.flags.ignoreCase s).map
      fun (part, rest) => (st.push ⟨.chars part.set, part.nesting, true⟩, rest)
  | '?' => st.stepRepeat 0 (some 1) s
  | '*' => st.stepRepeat 0 none s
  | '+' => st.stepRepeat 1 none s
  | '\x7b' =>
    match readBounds st.flags.verbose s with
    | some (min, max, rest) => st.stepRepeat min max (skipBlanks st.flags.verbose rest)
    | none => none
  | '\\' =>
    (readEscape shorthands st.flags.verbose st.flags.ignoreCase s).map
      fun (atom, rest) => (st.pushAtom atom, rest)
  | '.' => some (st.push ⟨.chars st.flags.dot, 0, true⟩, s)
  | '^' => some (st.pushAtom (.assertion st.flags.startAssertion), s)
  | '$' => some (st.pushAtom (.assertion st.flags.endAssertion), s)
  | c => some (st.pushAtom (.char c), s)

/-- Reads constructs to the end of the text. Each consumes a character at least, so `fuel` need
not exceed the length of the text. -/
def readFrom (shorthands : Shorthands) : Nat → ReaderState → List Char → Option ReaderState
  | fuel, st, s =>
    match fuel, skipBlanks st.flags.verbose s with
    | _, [] => some st
    | 0, _ => none
    | fuel + 1, c :: rest =>
      match st.step shorthands c rest with
      | none => none
      | some (st, rest) => readFrom shorthands fuel st rest

/-- All that has been read, if no group is left open. -/
def finish? (st : ReaderState) : Option Part := if st.outer.isEmpty then some st.content else none

end ReaderState

/-- The expression that a text denotes, with a reading of the shorthands. The text must not nest
deeper than `Part.maxDepth`. -/
def readWith? (shorthands : Shorthands) (s : List Char) : Option Expr :=
  match (ReaderState.readFrom shorthands s.length {} s).bind (·.finish?) with
  | none => none
  | some part => if part.depth ≤ Part.maxDepth then some part.expr else none

/-- The expression that a text denotes. -/
def read? (s : List Char) : Option Expr := readWith? .unicode s

end UriRouter.Regex
