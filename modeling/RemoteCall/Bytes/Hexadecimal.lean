import RemoteCall.Bytes
/-!
# Octets in hexadecimal

An octet is written with two digits, the one of greater weight first. Writing gives lower-case
digits, and reading takes digits of either case; what is written reads back.
-/

namespace RemoteCall.Bytes

/-- The lower-case digit of a number below sixteen. -/
def hexDigit (n : Nat) : Char :=
  if n < 10 then Char.ofNat (0x30 + n) else Char.ofNat (0x57 + n)

/-- The value of a digit of either case. -/
def hexDigit? (c : Char) : Option Nat :=
  if '0' ≤ c ∧ c ≤ '9' then some (c.toNat - 0x30)
  else if 'a' ≤ c ∧ c ≤ 'f' then some (c.toNat - 0x57)
  else if 'A' ≤ c ∧ c ≤ 'F' then some (c.toNat - 0x37)
  else none

/-- The two digits of an octet. -/
def octetDigits (b : UInt8) : List Char :=
  [hexDigit (b.toNat / 16), hexDigit (b.toNat % 16)]

/-- The hexadecimal text of an octet string. -/
def toHex (bs : Bytes) : String :=
  bs.foldl (fun text b => (octetDigits b).foldl String.push text) ""

/-- Reads octets of two digits each; those already read are given in reverse. -/
def readHex (passed : Bytes) : List Char → Option Bytes
  | [] => some passed.reverse
  | [_] => none
  | c :: d :: rest =>
    match hexDigit? c, hexDigit? d with
    | some m, some n => readHex (UInt8.ofNat (16 * m + n) :: passed) rest
    | _, _ => none

/-- The octet string that a hexadecimal text denotes. -/
def ofHex? (s : String) : Option Bytes :=
  readHex [] s.toList

/-- A digit reads back as the number it was written for. -/
theorem hexDigit?_hexDigit : ∀ n < 16, hexDigit? (hexDigit n) = some n := by
  decide

/-- A hexadecimal text has the digits of the octets in order. -/
theorem toList_toHex (bs : Bytes) : (toHex bs).toList = bs.flatMap octetDigits := by
  suffices key : ∀ text : String,
      (bs.foldl (fun text b => (octetDigits b).foldl String.push text) text).toList =
        text.toList ++ bs.flatMap octetDigits by simpa [toHex] using key ""
  induction bs with
  | nil => simp
  | cons b bs ih => intro text; rw [List.foldl_cons, ih]; simp [octetDigits]

/-- Octets read back after those that were read before. -/
theorem readHex_flatMap (passed bs : Bytes) :
    readHex passed (bs.flatMap octetDigits) = some (passed.reverse ++ bs) := by
  induction bs generalizing passed with
  | nil => simp [readHex]
  | cons b bs ih =>
    have hb : b.toNat < 256 := b.toNat_lt
    have high := hexDigit?_hexDigit (b.toNat / 16) (by omega)
    have low := hexDigit?_hexDigit (b.toNat % 16) (by omega)
    have whole : UInt8.ofNat (16 * (b.toNat / 16) + b.toNat % 16) = b := by
      rw [Nat.div_add_mod, UInt8.ofNat_toNat]
    simp [octetDigits, readHex, high, low, whole, ih]

/-- What is written reads back. -/
theorem ofHex?_toHex (bs : Bytes) : ofHex? (toHex bs) = some bs := by
  simp [ofHex?, toList_toHex, readHex_flatMap]

end RemoteCall.Bytes
