import RemoteCall.Json.Basic
import RemoteCall.Text.Numeral
/-!
# Reading JSON

Readers take a value from the front of an octet string and return it with what follows it, or
nothing if no such value stands there. Blanks in front of a value are passed over. Arrays and
objects may be nested only so deep; `skipValue` passes over a value of any depth.
-/

namespace RemoteCall.Json

/-- A reader of values from the front of an octet string. -/
abbrev Reader (α : Type) := Bytes → Option (α × Bytes)

/-- How deep arrays and objects may be nested. -/
def maxLevels : Nat := 127

/-- Whether an octet is a space, a tab or the end of a line. -/
def isBlank (b : UInt8) : Bool :=
  b == 0x20 || b == 0x09 || b == 0x0A || b == 0x0D

/-- What is left of a text after the blanks at its front. -/
def skipBlanks (bs : Bytes) : Bytes :=
  bs.dropWhile isBlank

/-- What is left of a text after blanks and the given octet. -/
def expect (b : UInt8) (bs : Bytes) : Option Bytes :=
  match skipBlanks bs with
  | c :: rest => if c = b then some rest else none
  | [] => none

/-- What is left of a text after the given octets. -/
def dropWord (word bs : Bytes) : Option Bytes :=
  if bs.take word.length = word then some (bs.drop word.length) else none

/-! ## Strings -/

/-- The value of a hexadecimal digit. -/
def hexValue? (b : UInt8) : Option Nat :=
  if 0x30 ≤ b ∧ b ≤ 0x39 then some (b.toNat - 0x30)
  else if 0x61 ≤ b ∧ b ≤ 0x66 then some (b.toNat - 0x57)
  else if 0x41 ≤ b ∧ b ≤ 0x46 then some (b.toNat - 0x37)
  else none

/-- The number that four hexadecimal digits denote. -/
def hexWord? (a b c d : UInt8) : Option Nat := do
  return 4096 * (← hexValue? a) + 256 * (← hexValue? b) + 16 * (← hexValue? c) + (← hexValue? d)

/-- The octet that a backslash and the given octet stand for. -/
def unescape? (b : UInt8) : Option UInt8 :=
  if b = 0x22 ∨ b = 0x5C ∨ b = 0x2F then some b
  else if b = 0x62 then some 0x08
  else if b = 0x66 then some 0x0C
  else if b = 0x6E then some 0x0A
  else if b = 0x72 then some 0x0D
  else if b = 0x74 then some 0x09
  else none

/-- Reads the octets of a string after its opening quote, up to the closing quote. Those
already read are given in reverse. Escaped surrogates must stand in pairs. -/
def readOctets (passed : Bytes) : Bytes → Option (Bytes × Bytes)
  | [] => none
  | 0x22 :: rest => some (passed.reverse, rest)
  | 0x5C :: 0x75 :: a :: b :: c :: d :: rest =>
    match hexWord? a b c d with
    | none => none
    | some high =>
      if 0xDC00 ≤ high ∧ high ≤ 0xDFFF then none
      else if 0xD800 ≤ high ∧ high ≤ 0xDBFF then
        match rest with
        | 0x5C :: 0x75 :: e :: f :: g :: h :: rest =>
          match hexWord? e f g h with
          | none => none
          | some low =>
            if 0xDC00 ≤ low ∧ low ≤ 0xDFFF then
              let c := Char.ofNat (0x10000 + 0x400 * (high - 0xD800) + (low - 0xDC00))
              readOctets ((String.utf8EncodeChar c).reverse ++ passed) rest
            else none
        | _ => none
      else readOctets ((String.utf8EncodeChar (Char.ofNat high)).reverse ++ passed) rest
  | 0x5C :: b :: rest =>
    match unescape? b with
    | some c => readOctets (c :: passed) rest
    | none => none
  | b :: rest => if b < 0x20 ∨ b = 0x5C then none else readOctets (b :: passed) rest

/-- Reads a string. Its octets must be UTF-8. -/
def readString : Reader String := fun bs =>
  match expect 0x22 bs with
  | none => none
  | some rest =>
    match readOctets [] rest with
    | none => none
    | some (octets, rest) => (Utf8.decode? octets).map (·, rest)

/-- Passes over the octets of a string after its opening quote. Escapes must be well formed,
but what the octets encode is not looked at. -/
def skipOctets : Bytes → Option Bytes
  | [] => none
  | 0x22 :: rest => some rest
  | 0x5C :: 0x75 :: a :: b :: c :: d :: rest =>
    if (hexWord? a b c d).isSome then skipOctets rest else none
  | 0x5C :: b :: rest => if (unescape? b).isSome then skipOctets rest else none
  | b :: rest => if b < 0x20 ∨ b = 0x5C then none else skipOctets rest

/-! ## Numbers -/

/-- The parts of the text of a number. -/
structure Numeral where
  /-- Whether a minus sign stands in front. -/
  negative : Bool
  /-- The digits before the point, most significant first. -/
  whole : List Nat
  /-- The digits after the point, if there is a point. -/
  fraction : Option (List Nat)
  /-- The exponent, if there is one. -/
  exponent : Option Int
  deriving Repr, DecidableEq

/-- Whether an octet is a decimal digit. -/
def isDigit (b : UInt8) : Bool :=
  0x30 ≤ b && b ≤ 0x39

/-- The decimal digits at the front of a text, and what follows them. -/
def readDigits (bs : Bytes) : List Nat × Bytes :=
  ((bs.takeWhile isDigit).map fun b => b.toNat - 0x30, bs.dropWhile isDigit)

/-- The size of the exponent that decimal digits denote. No digits count any more once it is
`2 ^ 31` or above, where every number but zero is too large or too small already. -/
def exponentOfDigits (digits : List Nat) : Nat :=
  digits.foldl (fun n d => if n < 0x80000000 then 10 * n + d else n) 0

/-- Reads the digits after the point, if there is a point. -/
def readFraction (bs : Bytes) : Option (Option (List Nat) × Bytes) :=
  match bs with
  | 0x2E :: rest =>
    match readDigits rest with
    | ([], _) => none
    | (digits, rest) => some (some digits, rest)
  | _ => some (none, bs)

/-- The sign of an exponent, and what follows it. -/
def readSign (bs : Bytes) : Bool × Bytes :=
  match bs with
  | 0x2B :: rest => (false, rest)
  | 0x2D :: rest => (true, rest)
  | _ => (false, bs)

/-- Reads an exponent, if there is one. -/
def readExponent (bs : Bytes) : Option (Option Int × Bytes) :=
  match bs with
  | b :: rest =>
    if b = 0x65 ∨ b = 0x45 then
      let (negative, rest) := readSign rest
      match readDigits rest with
      | ([], _) => none
      | (digits, rest) =>
        let n : Int := exponentOfDigits digits
        some (some (if negative then -n else n), rest)
    else some (none, bs)
  | [] => some (none, bs)

/-- Reads the text of a number. Nothing but a lone zero begins with a zero. -/
def readNumeral (bs : Bytes) : Option (Numeral × Bytes) :=
  let (negative, bs) := match bs with
    | 0x2D :: rest => (true, rest)
    | _ => (false, bs)
  match readDigits bs with
  | ([], _) => none
  | (0 :: _ :: _, _) => none
  | (whole, rest) =>
    match readFraction rest with
    | none => none
    | some (fraction, rest) =>
      match readExponent rest with
      | none => none
      | some (exponent, rest) => some ({ negative, whole, fraction, exponent }, rest)

/-- The integer that a numeral without point and exponent denotes, if its magnitude is below
`2 ^ 64`. Minus zero is none. -/
def Numeral.int? (n : Numeral) : Option Int :=
  match n.fraction, n.exponent with
  | none, none =>
    (Text.decimalBelow? UInt64.size n.whole).bind fun magnitude =>
      if n.negative then if magnitude = 0 then none else some (-magnitude)
      else some magnitude
  | _, _ => none

/-- Appends digits to a significand of 64 bits while they fit, and returns how many of them
were appended, added to those `appended` before, and how many were left out. -/
def appendDigits (significand appended : Nat) : (digits : List Nat) → Nat × Nat × Nat
  | [] => (significand, appended, 0)
  | d :: ds =>
    if 10 * significand + d < UInt64.size then appendDigits (10 * significand + d) (appended + 1) ds
    else (significand, appended, ds.length + 1)

/-- The binary fraction that a numeral denotes. Digits beyond the first that fit into 64 bits
only count for the magnitude. -/
def Numeral.real? (n : Numeral) : Option UInt64 :=
  let (significand, _, dropped) := appendDigits 0 0 n.whole
  let (significand, appended, _) := appendDigits significand 0 (n.fraction.getD [])
  let exponent := (dropped : Int) - appended + n.exponent.getD 0
  let magnitude :=
    if significand = 0 then some 0 else Binary64.ofDecimal significand exponent
  magnitude.map fun bits => if n.negative then bits ||| Binary64.zero true else bits

/-- The number that a numeral denotes: an integer if it is one of 64 bits, and else a binary
fraction. -/
def Numeral.number? (n : Numeral) : Option Number :=
  match n.int? with
  | some i => if -0x8000000000000000 ≤ i then some (.int i) else n.real?.map .real
  | none => n.real?.map .real

/-- Reads an integer between two bounds, both included. -/
def readInt (low high : Int) : Reader Int := fun bs =>
  match readNumeral (skipBlanks bs) with
  | none => none
  | some (n, rest) =>
    match n.int? with
    | none => none
    | some i => if low ≤ i ∧ i ≤ high then some (i, rest) else none

/-! ## Lists and objects -/

/-- Reads the elements of a list after its opening bracket, at most as many as the bound has
octets. Those already read are given in reverse. -/
def readElements {α : Type} (element : Reader α) :
    (bound : Bytes) → List α → Bytes → Option (List α × Bytes)
  | [], _, _ => none
  | _ :: bound, passed, bs =>
    match element bs with
    | none => none
    | some (x, rest) =>
      match skipBlanks rest with
      | 0x2C :: rest => readElements element bound (x :: passed) rest
      | 0x5D :: rest => some ((x :: passed).reverse, rest)
      | _ => none

/-- Reads what follows the opening bracket of a list. Each element takes an octet, so the text
bounds their number. -/
def readListTail {α : Type} (element : Reader α) : Reader (List α) := fun bs =>
  match skipBlanks bs with
  | 0x5D :: rest => some ([], rest)
  | _ => readElements element bs [] bs

/-- Reads a list. -/
def readList {α : Type} (element : Reader α) : Reader (List α) := fun bs =>
  (expect 0x5B bs).bind (readListTail element)

/-- Reads the members of an object after its opening brace, at most as many as the bound has
octets. The reader of a value takes the name and what was gathered from the members before
it. -/
def readMembers {σ : Type} (value : String → σ → Reader σ) :
    (bound : Bytes) → σ → Bytes → Option (σ × Bytes)
  | [], _, _ => none
  | _ :: bound, s, bs =>
    match readString bs with
    | none => none
    | some (name, rest) =>
      match expect 0x3A rest with
      | none => none
      | some rest =>
        match value name s rest with
        | none => none
        | some (s, rest) =>
          match skipBlanks rest with
          | 0x2C :: rest => readMembers value bound s rest
          | 0x7D :: rest => some (s, rest)
          | _ => none

/-- Reads what follows the opening brace of an object. -/
def readObjectTail {σ : Type} (value : String → σ → Reader σ) (start : σ) : Reader σ := fun bs =>
  match skipBlanks bs with
  | 0x7D :: rest => some (start, rest)
  | _ => readMembers value bs start bs

/-- Reads an object of which every member is a value of one kind, in order. -/
def readDictionaryTail {α : Type} (element : Reader α) : Reader (List (String × α)) := fun bs =>
  (readObjectTail (fun name s rest => (element rest).map fun (x, rest) => ((name, x) :: s, rest))
    [] bs).map fun (ms, rest) => (sortMembers ms.reverse, rest)

/-! ## Values -/

/-- Reads a value; `nested` reads the values inside an array or object, if it may be one. -/
def readValue (nested : Option (Reader Json)) : Reader Json := fun bs =>
  match skipBlanks bs with
  | [] => none
  | b :: rest =>
    if b = 0x6E then (dropWord [0x75, 0x6C, 0x6C] rest).map (null, ·)
    else if b = 0x74 then (dropWord [0x72, 0x75, 0x65] rest).map (bool true, ·)
    else if b = 0x66 then (dropWord [0x61, 0x6C, 0x73, 0x65] rest).map (bool false, ·)
    else if b = 0x22 then
      (readString (b :: rest)).map fun (s, rest) => (string s, rest)
    else if b = 0x5B then
      nested.bind fun element =>
        (readListTail element rest).map fun (xs, rest) => (array xs, rest)
    else if b = 0x7B then
      nested.bind fun element =>
        (readDictionaryTail element rest).map fun (ms, rest) => (object ms, rest)
    else
      match readNumeral (b :: rest) with
      | none => none
      | some (n, rest) => n.number?.map fun n => (number n, rest)

/-- Reads a value that may be null. -/
def readNullable {α : Type} (read : Reader α) : Reader (Option α) := fun bs =>
  match skipBlanks bs with
  | 0x6E :: rest => (dropWord [0x75, 0x6C, 0x6C] rest).map (none, ·)
  | _ => (read bs).map fun (x, rest) => (some x, rest)

/-- Reads a value in which arrays and objects are nested at most `levels` deep. -/
def readJson : (levels : Nat) → Reader Json
  | 0 => readValue none
  | levels + 1 => readValue (some (readJson levels))

/-- An array or object that has been entered and not yet left. -/
inductive Bracket where
  /-- An array. -/
  | array
  /-- An object. -/
  | object
  deriving Repr, DecidableEq

/-- Passes over a name and the colon after it. -/
def skipName (bs : Bytes) : Option Bytes :=
  (expect 0x22 bs).bind fun rest => (skipOctets rest).bind (expect 0x3A)

/-- Passes over a string, a number or one of the three words. -/
def skipScalar (b : UInt8) (rest : Bytes) : Option Bytes :=
  if b = 0x6E then dropWord [0x75, 0x6C, 0x6C] rest
  else if b = 0x74 then dropWord [0x72, 0x75, 0x65] rest
  else if b = 0x66 then dropWord [0x61, 0x6C, 0x73, 0x65] rest
  else if b = 0x22 then skipOctets rest
  else (readNumeral (b :: rest)).map (·.2)

/-- Passes over the rest of a value, given the arrays and objects that are entered. Before a
value `ended` is false, and after one it is true. Each step passes an octet or ends, so that one
more step than there are octets is enough; the bound has an octet for each step. -/
def skipNested : (bound : Bytes) → (ended : Bool) → List Bracket → Bytes → Option Bytes
  | [], _, _, _ => none
  | _ :: _, true, [], bs => some bs
  | _ :: bound, true, .array :: outer, bs =>
    match skipBlanks bs with
    | 0x2C :: rest => skipNested bound false (.array :: outer) rest
    | 0x5D :: rest => skipNested bound true outer rest
    | _ => none
  | _ :: bound, true, .object :: outer, bs =>
    match skipBlanks bs with
    | 0x2C :: rest =>
      match skipName rest with
      | some rest => skipNested bound false (.object :: outer) rest
      | none => none
    | 0x7D :: rest => skipNested bound true outer rest
    | _ => none
  | _ :: bound, false, outer, bs =>
    match skipBlanks bs with
    | [] => none
    | b :: rest =>
      if b = 0x5B then
        match skipBlanks rest with
        | 0x5D :: rest => skipNested bound true outer rest
        | _ => skipNested bound false (.array :: outer) rest
      else if b = 0x7B then
        match skipBlanks rest with
        | 0x7D :: rest => skipNested bound true outer rest
        | _ =>
          match skipName rest with
          | some rest => skipNested bound false (.object :: outer) rest
          | none => none
      else
        match skipScalar b rest with
        | some rest => skipNested bound true outer rest
        | none => none

/-- Passes over a value, however deep. -/
def skipValue (bs : Bytes) : Option Bytes :=
  skipNested (0 :: bs) false [] bs

/-- The value that a reader finds in a whole text, which may end in blanks. -/
def readWhole {α : Type} (read : Reader α) (bs : Bytes) : Option α :=
  match read bs with
  | some (x, rest) => if (skipBlanks rest).isEmpty then some x else none
  | none => none

/-- The value that a whole text denotes. -/
def parse? (bs : Bytes) : Option Json :=
  readWhole (readJson maxLevels) bs

end RemoteCall.Json
