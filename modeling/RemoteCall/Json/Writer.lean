import RemoteCall.Json.Basic
import RemoteCall.Text.Quoted
/-!
# Writing JSON

The compact text of a value, as octets. Inside strings only the quote, the backslash and the
controls are escaped. The functions take the octets that follow the value, so that a text is
built from its end without copying.
-/

namespace RemoteCall.Json

/-- The octets of a text of ASCII characters. -/
def ascii (cs : List Char) : Bytes :=
  cs.map fun c => UInt8.ofNat c.toNat

/-- A lower-case hexadecimal digit. -/
def hexDigit (n : UInt8) : UInt8 :=
  if n < 10 then 0x30 + n else 0x57 + n

/-- How an octet of a string is written. -/
def escape (b : UInt8) : Bytes :=
  if b = 0x22 then [0x5C, 0x22]
  else if b = 0x5C then [0x5C, 0x5C]
  else if b < 0x20 then
    if b = 0x08 then [0x5C, 0x62]
    else if b = 0x09 then [0x5C, 0x74]
    else if b = 0x0A then [0x5C, 0x6E]
    else if b = 0x0C then [0x5C, 0x66]
    else if b = 0x0D then [0x5C, 0x72]
    else [0x5C, 0x75, 0x30, 0x30, hexDigit (b / 16), hexDigit (b % 16)]
  else [b]

/-- A string in quotes, in front of what follows it. -/
def writeString (s : String) (rest : Bytes) : Bytes :=
  0x22 :: ((Utf8.encode s).flatMap escape ++ 0x22 :: rest)

/-- An integer in decimal, in front of what follows it. -/
def writeInt (i : Int) (rest : Bytes) : Bytes :=
  if i < 0 then 0x2D :: (ascii (Nat.toDigits 10 i.natAbs) ++ rest)
  else ascii (Nat.toDigits 10 i.natAbs) ++ rest

/-- A number, in front of what follows it. -/
def writeNumber (n : Number) (rest : Bytes) : Bytes :=
  match n with
  | .int i => writeInt i rest
  | .real bits => ascii (Binary64.toText bits).toList ++ rest

mutual

/-- A value, in front of what follows it. -/
def writeOnto : Json → Bytes → Bytes
  | null, rest => 0x6E :: 0x75 :: 0x6C :: 0x6C :: rest
  | bool true, rest => 0x74 :: 0x72 :: 0x75 :: 0x65 :: rest
  | bool false, rest => 0x66 :: 0x61 :: 0x6C :: 0x73 :: 0x65 :: rest
  | number n, rest => writeNumber n rest
  | string s, rest => writeString s rest
  | array [], rest => 0x5B :: 0x5D :: rest
  | array (x :: xs), rest => 0x5B :: writeOnto x (writeElements xs rest)
  | object [], rest => 0x7B :: 0x7D :: rest
  | object ((k, x) :: ms), rest =>
    0x7B :: writeString k (0x3A :: writeOnto x (writeMembers ms rest))

/-- The elements of a list after the first, and its closing bracket. -/
def writeElements : List Json → Bytes → Bytes
  | [], rest => 0x5D :: rest
  | x :: xs, rest => 0x2C :: writeOnto x (writeElements xs rest)

/-- The members of an object after the first, and its closing brace. -/
def writeMembers : List (String × Json) → Bytes → Bytes
  | [], rest => 0x7D :: rest
  | (k, x) :: ms, rest => 0x2C :: writeString k (0x3A :: writeOnto x (writeMembers ms rest))

end

/-- The compact text of a value, as octets. -/
def write (j : Json) : Bytes :=
  writeOnto j []

/-- The compact text of a value. -/
def toText (j : Json) : String :=
  (Utf8.decode? j.write).getD ""

/-- A character of a text as ASCII: itself, or the escapes of its UTF-16 units. -/
def asciiChar (c : Char) : List Char :=
  let unit (n : Nat) : List Char := '\\' :: 'u' :: (Text.paddedHexadecimal 4 n).toList
  if c.toNat < 0x7F then [c]
  else if c.toNat < 0x10000 then unit c.toNat
  else
    let n := c.toNat - 0x10000
    unit (0xD800 + n / 0x400) ++ unit (0xDC00 + n % 0x400)

/-- The compact text of a value in ASCII. Only strings hold other characters, so that escapes
can stand for them. -/
def toAscii (j : Json) : String :=
  String.ofList (j.toText.toList.flatMap asciiChar)

end RemoteCall.Json
