/-!
# Reading scalars

Integers of a given width, truth values and single characters, read from text.

* `readNatural`, `readInteger` : decimal integers, digit by digit, so that the first fault met
  from the left is the one reported;
* `ScalarType`, `Scalar` : a kind of value chosen when the program runs, and a value of one;
* `ScalarType.readValue` : a text read as a value of a kind.
-/

set_option autoImplicit false

namespace UriRouter.Text

/-- Why a text is not a value of the wanted type. -/
inductive ReadFault where
  | emptyInteger
  | invalidDigit
  | tooLarge
  | tooSmall
  | notTruthValue
  | emptyCharacter
  | manyCharacters
  deriving DecidableEq, Repr

/-- The fault in words. -/
def ReadFault.reason : ReadFault → String
  | .emptyInteger => "cannot parse integer from empty string"
  | .invalidDigit => "invalid digit found in string"
  | .tooLarge => "number too large to fit in target type"
  | .tooSmall => "number too small to fit in target type"
  | .notTruthValue => "provided string was not `true` or `false`"
  | .emptyCharacter => "cannot parse char from empty string"
  | .manyCharacters => "too many characters in string"

/-- The value of a decimal digit. -/
def digitValue? (c : Char) : Option Nat :=
  if '0' ≤ c && c ≤ '9' then some (c.toNat - '0'.toNat) else none

/-- The number whose leading digits make `value` and whose other digits follow. A number above
`limit` is the fault `excess`, reported at the first digit that goes too far. -/
def readDigits (limit : Nat) (excess : ReadFault) (value : Nat) :
    List Char → Except ReadFault Nat
  | [] => .ok value
  | c :: rest =>
    match digitValue? c with
    | none => .error .invalidDigit
    | some d =>
      if limit < value * 10 + d then .error excess
      else readDigits limit excess (value * 10 + d) rest

/-- A text of digits, at least one, that names a number up to `limit`. -/
def readMagnitude (limit : Nat) (excess : ReadFault) : List Char → Except ReadFault Nat
  | [] => .error .invalidDigit
  | digits => readDigits limit excess 0 digits

/-- How many numbers have `bits` binary digits at most. -/
def numberRange (bits : Nat) : Nat := Nat.pow 2 bits

/-- A number of `bits` bits, with or without a `+` before it. -/
def readNatural (bits : Nat) (s : String) : Except ReadFault Nat :=
  match s.toList with
  | [] => .error .emptyInteger
  | '+' :: digits => readMagnitude (numberRange bits - 1) .tooLarge digits
  | digits => readMagnitude (numberRange bits - 1) .tooLarge digits

/-- An integer of `bits` bits, one of them the sign. -/
def readInteger (bits : Nat) (s : String) : Except ReadFault Int :=
  match s.toList with
  | [] => .error .emptyInteger
  | '+' :: digits => Int.ofNat <$> readMagnitude (numberRange (bits - 1) - 1) .tooLarge digits
  | '-' :: digits => (fun n => -Int.ofNat n) <$> readMagnitude (numberRange (bits - 1)) .tooSmall digits
  | digits => Int.ofNat <$> readMagnitude (numberRange (bits - 1) - 1) .tooLarge digits

/-- The word `true` or the word `false`. -/
def readTruthValue (s : String) : Except ReadFault Bool :=
  if s == "true" then .ok true
  else if s == "false" then .ok false
  else .error .notTruthValue

/-- A text of exactly one character. -/
def readCharacter (s : String) : Except ReadFault Char :=
  match s.toList with
  | [] => .error .emptyCharacter
  | [c] => .ok c
  | _ => .error .manyCharacters

/-- The kinds of scalar. -/
inductive ScalarType where
  | natural (bits : Nat)
  | integer (bits : Nat)
  | truthValue
  | character
  | text
  deriving DecidableEq, Repr

/-- A scalar of some kind. -/
inductive Scalar where
  | natural (n : Nat)
  | integer (z : Int)
  | truthValue (b : Bool)
  | character (c : Char)
  | text (s : String)
  deriving DecidableEq, Repr

/-- The plain text of a scalar. -/
def Scalar.render : Scalar → String
  | .natural n => toString n
  | .integer z => toString z
  | .truthValue b => if b then "true" else "false"
  | .character c => String.ofList [c]
  | .text s => s

/-- The values of a kind. -/
@[reducible] def ScalarType.Value : ScalarType → Type
  | .natural _ => Nat
  | .integer _ => Int
  | .truthValue => Bool
  | .character => Char
  | .text => String

/-- A value of the wanted type. Every text is a value of type `text`. -/
def ScalarType.readValue : (type : ScalarType) → String → Except ReadFault type.Value
  | .natural bits => readNatural bits
  | .integer bits => readInteger bits
  | .truthValue => readTruthValue
  | .character => readCharacter
  | .text => .ok

/-- A value as a scalar. -/
def ScalarType.scalar : (type : ScalarType) → type.Value → Scalar
  | .natural _ => .natural
  | .integer _ => .integer
  | .truthValue => .truthValue
  | .character => .character
  | .text => .text

/-- A scalar of the wanted type. -/
def ScalarType.read (type : ScalarType) (s : String) : Except ReadFault Scalar :=
  type.scalar <$> type.readValue s

end UriRouter.Text
