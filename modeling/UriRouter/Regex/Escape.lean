import UriRouter.Regex.Blank
import UriRouter.Regex.Expr

/-!
# Escapes

What a backslash and the characters after it stand for: one character, a set with a shorthand or
with the name of a Unicode property, or an assertion. Which properties there are, and what their
sets hold, differs between versions of Unicode, so they are a parameter: a table that every reading
looks names up in.

* `Shorthands` : the sets that `\d`, `\w`, `\s` and their capitals stand for;
* `PropertyTable`, `readProperty` : the sets of properties, and a property by its name;
* `readEscape` : one escape, without its backslash;
* `escape` : a text with a backslash before each character that has a meaning of its own.
-/

set_option autoImplicit false

namespace UriRouter.Regex

open UriRouter.Text

/-- What an escape stands for. -/
inductive Atom where
  | char (c : Char)
  | set (s : CharSet)
  | assertion (a : Assertion)
  deriving DecidableEq, Repr

/-- The sets that single letters after a backslash stand for. -/
abbrev Shorthands := Char → Option CharSet

/-- The shorthands for the Unicode properties, a capital standing for the complement. -/
def Shorthands.unicode : Shorthands
  | 'd' => some .digit
  | 'D' => some (.complement .digit)
  | 's' => some .blank
  | 'S' => some (.complement .blank)
  | 'w' => some .word
  | 'W' => some (.complement .word)
  | _ => none

/-- The characters with a meaning of their own in a regular expression. -/
def metaChars : List Char :=
  ['\\', '.', '+', '*', '?', '(', ')', '|', '[', ']', '\x7b', '\x7d', '^', '$', '#', '&', '-', '~']

/-- A character as a regular expression that matches just it. -/
def escapeChar (c : Char) : List Char := if metaChars.contains c then ['\\', c] else [c]

/-- A text as a regular expression that matches just it. -/
def escape (s : List Char) : List Char := s.flatMap escapeChar

/-- The value of a hexadecimal digit. -/
def hexDigit? (c : Char) : Option Nat :=
  if '0' ≤ c && c ≤ '9' then some (c.toNat - '0'.toNat)
  else if 'a' ≤ c && c ≤ 'f' then some (c.toNat - 'a'.toNat + 10)
  else if 'A' ≤ c && c ≤ 'F' then some (c.toNat - 'A'.toNat + 10)
  else none

/-- The character with a number, if there is one. -/
def charOfNumber? (n : Nat) : Option Char := if n.isValidChar then some (Char.ofNat n) else none

/-- The number that hexadecimal digits make, put after the digits of `value`. -/
def hexNumber (value : Nat) : List Char → Nat
  | [] => value
  | c :: rest => hexNumber (value * 16 + (hexDigit? c).getD 0) rest

/-- The character whose number is written with `count` hexadecimal digits, or with any number of
them between braces. -/
def readHexChar (verbose : Bool) (count : Nat) (s : List Char) : Option (Char × List Char) :=
  match skipBlanks verbose s with
  | '\x7b' :: rest =>
    match readFiltered verbose (fun c => (hexDigit? c).isSome) false (skipBlanks verbose rest) with
    | ([], _) => none
    | (digits, '\x7d' :: rest) =>
      (charOfNumber? (hexNumber 0 digits)).map (·, skipBlanks verbose rest)
    | _ => none
  | s => go count 0 s
where
  /-- Reads `count` more digits. -/
  go : Nat → Nat → List Char → Option (Char × List Char)
    | 0, value, s => (charOfNumber? value).map (·, s)
    | _ + 1, _, [] => none
    | n + 1, value, c :: rest =>
      match hexDigit? c with
      | some d => go n (value * 16 + d) (skipBlanks verbose rest)
      | none => none

/-- The assertion that a word between braces after `\b` names. -/
def boundaryNamed? (name : String) : Option Assertion :=
  match name with
  | "start" => some .wordStart
  | "end" => some .wordEnd
  | "start-half" => some .wordStartHalf
  | "end-half" => some .wordEndHalf
  | _ => none

/-- What follows `\b`: a word between braces that names a kind of boundary, or nothing of the
kind. Braces that begin with anything but a letter or `-` are a repetition. -/
def readBoundary (verbose : Bool) (s : List Char) : Option (Atom × List Char) :=
  match s with
  | '\x7b' :: rest =>
    match skipBlanks verbose rest with
    | [] => none
    | c :: inside =>
      if isNameChar c then
        match readFiltered verbose isNameChar false (c :: inside) with
        | (name, '\x7d' :: after) =>
          (boundaryNamed? (String.ofList name)).map fun a => (.assertion a, after)
        | _ => none
      else some (.assertion .wordBoundary, s)
  | _ => some (.assertion .wordBoundary, s)
where
  /-- The characters of the names of boundaries. -/
  isNameChar (c : Char) : Bool := isAsciiLetter c || c == '-'

/-- The sets that the names of Unicode properties stand for. -/
class PropertyTable where
  /-- The set of a property, from its name as it is written. -/
  set? : String → Option CharSet

/-- The table that knows no property. -/
instance (priority := low) PropertyTable.empty : PropertyTable := ⟨fun _ => none⟩

/-- Whether a character may stand between the braces around the name of a property. Other characters
are in no name. In verbose mode blanks are left out of names. -/
def isPropertyChar (verbose : Bool) (c : Char) : Bool :=
  (!isAscii c || isAsciiLetter c || isAsciiDigit c ||
    [' ', '_', '-', '.', ':', '=', '!'].contains c) && !(verbose && isBlank c)

section

variable [PropertyTable]

/-- The set of the property with a name, or its complement. Case is disregarded before that. -/
def propertyAtom? (ignoreCase negated : Bool) (name : List Char) : Option Atom :=
  (PropertyTable.set? (String.ofList name)).map
    fun set => .set (.complementIf negated (set.foldIf ignoreCase))

/-- A property, after the letter `p` or `P`: a name between braces, or a name of one letter. -/
def readProperty (verbose ignoreCase negated : Bool) (s : List Char) :
    Option (Atom × List Char) :=
  match skipBlanks verbose s with
  | [] => none
  | '\x7b' :: rest =>
    match readFiltered verbose (isPropertyChar verbose) false rest with
    | (name, '\x7d' :: after) => (propertyAtom? ignoreCase negated name).map (·, after)
    | _ => none
  | c :: rest =>
    if isAsciiLetter c then
      (propertyAtom? ignoreCase negated [c]).map (·, skipBlanks verbose rest)
    else none

end

/-- What the letter or the sign after a backslash stands for, where it needs no more text. -/
def escapedAtom? (c : Char) : Option Atom :=
  match c with
  | 'a' => some (.char '\x07')
  | 'f' => some (.char '\x0c')
  | 't' => some (.char '\t')
  | 'n' => some (.char '\n')
  | 'r' => some (.char '\r')
  | 'v' => some (.char '\x0b')
  | 'A' => some (.assertion .textStart)
  | 'z' => some (.assertion .textEnd)
  | 'B' => some (.assertion .notWordBoundary)
  | '<' => some (.assertion .wordStart)
  | '>' => some (.assertion .wordEnd)
  | c =>
    if isAscii c && !isAsciiLetter c && !isAsciiDigit c then some (.char c) else none

/-- An escape, after its backslash, and the text after it. References to earlier groups, unknown
letters and characters beyond ASCII cannot be escaped. -/
def readEscape [PropertyTable] (shorthands : Shorthands) (verbose ignoreCase : Bool) :
    List Char → Option (Atom × List Char)
  | [] => none
  | c :: rest =>
    match shorthands c with
    | some s => some (.set s, rest)
    | none =>
      match c with
      | 'x' => (readHexChar verbose 2 rest).map fun (c, after) => (.char c, after)
      | 'u' => (readHexChar verbose 4 rest).map fun (c, after) => (.char c, after)
      | 'U' => (readHexChar verbose 8 rest).map fun (c, after) => (.char c, after)
      | 'b' => readBoundary verbose rest
      | 'p' => readProperty verbose ignoreCase false rest
      | 'P' => readProperty verbose ignoreCase true rest
      | c => (escapedAtom? c).map (·, rest)

end UriRouter.Regex
