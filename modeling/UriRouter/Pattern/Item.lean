import UriRouter.Regex.Escape

/-!
# Patterns as trees

A pattern is a sequence of literal characters, placeholders and optional sections.

* `Item.render`, `renderAll` : the text of a pattern;
* `Item.names`, `namesOf` : the names of its placeholders, from left to right;
* `Item.regexText`, `regexTextOf` : the regular expression that matches what the pattern stands
  for, where the placeholders, counted from the left, become named groups.
-/

set_option autoImplicit false

namespace UriRouter.Pattern

/-- One part of a pattern. -/
inductive Item where
  /-- A character that stands for itself. -/
  | literal (c : Char)
  /-- A named part of the path, with the regular expression it has to match if one is given. -/
  | placeholder (name : String) (constraint : Option String)
  /-- A section that may be left out. -/
  | optional (items : List Item)
  deriving Repr

/-- What a placeholder without a constraint has to match: a piece of the path without `/`. -/
def defaultConstraint : String := "[^/]+"

/-- The name of the group that captures the placeholder with a number. No name in a constraint
can shift it, because groups are found by name and never by position. -/
def groupName (index : Nat) : String := "__sy" ++ toString index

/-- A constraint with the shorthands `\d` and `\w` replaced by the ASCII digits and by the ASCII
letters, digits and `_`. Inside brackets, of which `depth` are open, only the ranges are written.
All else, any other escape included, is kept. -/
def asciiShorthands (depth : Nat) : List Char → List Char
  | [] => []
  | ['\\'] => ['\\']
  | '\\' :: 'd' :: rest =>
    (if depth = 0 then "[0-9]" else "0-9").toList ++ asciiShorthands depth rest
  | '\\' :: 'w' :: rest =>
    (if depth = 0 then "[0-9A-Za-z_]" else "0-9A-Za-z_").toList ++ asciiShorthands depth rest
  | '\\' :: c :: rest => '\\' :: c :: asciiShorthands depth rest
  | '[' :: rest => '[' :: asciiShorthands (depth + 1) rest
  | ']' :: rest => ']' :: asciiShorthands (depth - 1) rest
  | c :: rest => c :: asciiShorthands depth rest

/-- Whether `\d` or `\w` stands somewhere in a text, be its `\` an escaped one. -/
def mentionsShorthand : List Char → Bool
  | [] => false
  | '\\' :: c :: rest => c == 'd' || c == 'w' || mentionsShorthand (c :: rest)
  | _ :: rest => mentionsShorthand rest

/-- A constraint whose shorthands are for ASCII characters. Where none is mentioned, the constraint
is not gone through. -/
def asciiConstraint (s : List Char) : List Char :=
  if mentionsShorthand s then asciiShorthands 0 s else s

/-- The regular expression for what a placeholder matches. -/
def constraintText (constraint : Option String) : List Char :=
  match constraint with
  | none => defaultConstraint.toList
  | some c => asciiConstraint c.toList

mutual

/-- The text of a part of a pattern. -/
def Item.render : Item → List Char
  | .literal c => [c]
  | .placeholder name none => '\x7b' :: name.toList ++ ['\x7d']
  | .placeholder name (some constraint) =>
    '\x7b' :: name.toList ++ ':' :: constraint.toList ++ ['\x7d']
  | .optional items => '[' :: renderAll items ++ [']']

/-- The text of a sequence of parts. -/
def renderAll : List Item → List Char
  | [] => []
  | item :: rest => item.render ++ renderAll rest

end

mutual

/-- The names of the placeholders in a part. -/
def Item.names : Item → List String
  | .literal _ => []
  | .placeholder name _ => [name]
  | .optional items => namesOf items

/-- The names of the placeholders in a sequence of parts, from left to right. -/
def namesOf : List Item → List String
  | [] => []
  | item :: rest => item.names ++ namesOf rest

end

mutual

/-- The regular expression for a part whose placeholders are numbered from `index` on. -/
def Item.regexText (index : Nat) : Item → List Char
  | .literal c => Regex.escapeChar c
  | .placeholder _ constraint =>
    "(?P<".toList ++ (groupName index).toList ++ '>' :: constraintText constraint ++ [')']
  | .optional items => "(?:".toList ++ regexTextOf index items ++ ")?".toList

/-- The regular expression for a sequence of parts. -/
def regexTextOf (index : Nat) : List Item → List Char
  | [] => []
  | item :: rest => item.regexText index ++ regexTextOf (index + item.names.length) rest

end

/-- Whether a part is a single character. -/
def Item.isLiteral : Item → Bool
  | .literal _ => true
  | _ => false

/-- The literal parts of a text. -/
def literals (s : List Char) : List Item := s.map .literal

@[simp] theorem renderAll_nil : renderAll [] = [] := by simp [renderAll]

@[simp] theorem renderAll_cons (item : Item) (rest : List Item) :
    renderAll (item :: rest) = item.render ++ renderAll rest := by simp [renderAll]

theorem renderAll_append (xs ys : List Item) :
    renderAll (xs ++ ys) = renderAll xs ++ renderAll ys := by
  induction xs with
  | nil => simp
  | cons x xs ih => simp [ih]

@[simp] theorem namesOf_nil : namesOf [] = [] := by simp [namesOf]

@[simp] theorem namesOf_cons (item : Item) (rest : List Item) :
    namesOf (item :: rest) = item.names ++ namesOf rest := by simp [namesOf]

theorem namesOf_append (xs ys : List Item) : namesOf (xs ++ ys) = namesOf xs ++ namesOf ys := by
  induction xs with
  | nil => simp
  | cons x xs ih => simp [ih]

/-- Numbering goes on where it stopped. -/
theorem regexTextOf_append (index : Nat) (xs ys : List Item) :
    regexTextOf index (xs ++ ys) =
      regexTextOf index xs ++ regexTextOf (index + (namesOf xs).length) ys := by
  induction xs generalizing index with
  | nil => simp [regexTextOf]
  | cons x xs ih => simp [regexTextOf, ih, Nat.add_assoc]

end UriRouter.Pattern
