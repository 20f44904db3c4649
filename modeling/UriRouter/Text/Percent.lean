import UriRouter.Text.Utf8

/-!
# Percent decoding

A `%` with two hexadecimal digits after it stands for a byte; any other `%` stands for itself.
The bytes are then read as UTF-8.

* `Percent.decodeBytes` : the bytes that bytes with percent escapes stand for;
* `Percent.decode` : the text that a text with percent escapes stands for.
-/

set_option autoImplicit false

namespace UriRouter.Text.Percent

/-- The value of a hexadecimal digit of either case. -/
def hexValue (b : UInt8) : Option UInt8 :=
  if 0x30 ≤ b && b ≤ 0x39 then some (b - 0x30)
  else if 0x41 ≤ b && b ≤ 0x46 then some (b - 0x41 + 10)
  else if 0x61 ≤ b && b ≤ 0x66 then some (b - 0x61 + 10)
  else none

/-- The byte that two hexadecimal digits name. -/
def byteOf (hi lo : UInt8) : Option UInt8 :=
  match hexValue hi, hexValue lo with
  | some h, some l => some (h * 16 + l)
  | _, _ => none

/-- The bytes with each escape replaced by the byte it names. -/
def decodeBytes : List UInt8 → List UInt8
  | [] => []
  | 0x25 :: hi :: lo :: rest =>
    match byteOf hi lo with
    | some b => b :: decodeBytes rest
    | none => 0x25 :: decodeBytes (hi :: lo :: rest)
  | b :: rest => b :: decodeBytes rest

/-- The text with its escapes decoded, or the fault in the bytes they name. -/
def decode (s : String) : Except Utf8Fault String :=
  String.ofList <$> Utf8.decode (decodeBytes (Utf8.encode s.toList))

end UriRouter.Text.Percent
