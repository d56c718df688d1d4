import RemoteCall.Text.Numeral
/-!
# IPv4 addresses

Four octets, written in decimal and separated by dots, without leading zeros.
-/

namespace RemoteCall.Address

/-- An IPv4 address, most significant octet first. -/
structure IPv4 where
  /-- The first octet. -/
  a : UInt8
  /-- The second octet. -/
  b : UInt8
  /-- The third octet. -/
  c : UInt8
  /-- The fourth octet. -/
  d : UInt8
  deriving Repr, DecidableEq

namespace IPv4

/-- The octets in decimal, separated by dots. -/
def toText (ip : IPv4) : String :=
  s!"{ip.a.toNat}.{ip.b.toNat}.{ip.c.toNat}.{ip.d.toNat}"

/-- Reads one octet of at most three digits. -/
def readOctet (cs : List Char) : Option (UInt8 × List Char) :=
  match Text.readNumber 10 3 false cs with
  | some (n, rest) => if n < 256 then some (UInt8.ofNat n, rest) else none
  | none => none

/-- Reads a dot and the octet after it. -/
def readDotOctet : List Char → Option (UInt8 × List Char)
  | '.' :: cs => readOctet cs
  | _ => none

/-- Reads an address from the front of a text. -/
def read (cs : List Char) : Option (IPv4 × List Char) := do
  let (a, cs) ← readOctet cs
  let (b, cs) ← readDotOctet cs
  let (c, cs) ← readDotOctet cs
  let (d, cs) ← readDotOctet cs
  return (⟨a, b, c, d⟩, cs)

end IPv4

end RemoteCall.Address
