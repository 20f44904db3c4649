import UriRouter.Text.Data.Invisible
import UriRouter.Text.Letter

/-!
# Quoted text

How a text or a character is shown in a description of a value: between quotes, with the quote,
the backslash and every character without a shape of its own escaped.

* `quoted`, `quotedChar` : a text between double quotes, a character between single quotes;
* `listed`, `optionText` : the same description of a list and of an optional value.
-/

set_option autoImplicit false

namespace UriRouter.Text

/-- The number of a character in hexadecimal, with small letters and no leading zero. -/
def hexNumber (c : Char) : List Char := Nat.toDigits 16 c.toNat

/-- Whether a character is spelled out by its number. -/
def isInvisible (c : Char) : Bool :=
  c.toNat < 0x20 || inRanges invisibleRanges c.toNat

/-- A character inside quotes of the kind `quote`; the other kind of quote needs no escape. -/
def escapeChar (quote c : Char) : List Char :=
  if c == quote || c == '\\' then ['\\', c]
  else if c == '\x00' then ['\\', '0']
  else if c == '\t' then ['\\', 't']
  else if c == '\r' then ['\\', 'r']
  else if c == '\n' then ['\\', 'n']
  else if isInvisible c then ['\\', 'u', '\x7b'] ++ hexNumber c ++ ['\x7d']
  else [c]

/-- A text between double quotes. -/
def quoted (s : String) : String :=
  String.ofList (['"'] ++ s.toList.flatMap (escapeChar '"') ++ ['"'])

/-- A character between single quotes. -/
def quotedChar (c : Char) : String :=
  String.ofList (['\x27'] ++ escapeChar '\x27' c ++ ['\x27'])

/-- A list of described items between square brackets. -/
def listed (items : List String) : String := "[" ++ ", ".intercalate items ++ "]"

/-- An optional described value. -/
def optionText : Option String → String
  | none => "None"
  | some s => "Some(" ++ s ++ ")"

end UriRouter.Text
