import ScreenRoutes.Text.Hex

/-!
# Percent encoding

A route carries an argument value with every byte of its UTF-8 form that is not an unreserved
ASCII character written as `%XX`. Decoding takes `%XX` with two hexadecimal digits as one byte,
leaves every other `%` alone, and fails where the bytes are no UTF-8.
-/

namespace ScreenRoutes.Text

/-- Whether `c` stands for itself in an encoded text: `A-Z a-z 0-9 - _ . ~`. -/
def isUnreserved (c : Char) : Bool :=
  c.isAlphanum || c == '-' || c == '_' || c == '.' || c == '~'

/-- A byte as `%XX`. -/
def percentByte (b : UInt8) : List Char :=
  ['%', hexUpper (b.toNat / 16), hexUpper (b.toNat % 16)]

/-- The encoded form of one character. -/
def percentChar (c : Char) : List Char :=
  if isUnreserved c then [c] else (String.utf8EncodeChar c).flatMap percentByte

def percentEncode (cs : List Char) : List Char :=
  cs.flatMap percentChar

/-- The bytes that an encoded text stands for. -/
def percentBytes : List Char → List UInt8
  | [] => []
  | '%' :: a :: b :: rest =>
    match hexValue? a, hexValue? b with
    | some x, some y => UInt8.ofNat (16 * x + y) :: percentBytes rest
    | _, _ => String.utf8EncodeChar '%' ++ percentBytes (a :: b :: rest)
  | c :: rest => String.utf8EncodeChar c ++ percentBytes rest

/-- The characters whose UTF-8 form the bytes are. -/
def utf8Decode? (bytes : List UInt8) : Option (List Char) :=
  (ByteArray.mk bytes.toArray).utf8Decode?.map Array.toList

/-- The text that an encoded text stands for, if its bytes are UTF-8. -/
def percentDecode? (cs : List Char) : Option (List Char) :=
  utf8Decode? (percentBytes cs)

/-- An argument value as a route carries it. -/
def encode (value : String) : String :=
  String.ofList (percentEncode value.toList)

/-- The argument value that a piece of a route carries. -/
def decode? (raw : String) : Option String :=
  (percentDecode? raw.toList).map String.ofList

end ScreenRoutes.Text
