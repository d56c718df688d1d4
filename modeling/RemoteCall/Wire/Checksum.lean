import RemoteCall.Bytes
/-!
# Checksums

CRC-32C: the remainder of a message modulo the Castagnoli polynomial, in reflected bit
order, started from all ones and complemented at the end. One octet is eight single-bit
shifts of the remainder; each shift is linear over exclusive or, so the checksum of a
message is an affine function of its bits.
-/

namespace RemoteCall.Checksum

/-- The Castagnoli polynomial, least significant coefficient in the highest bit. -/
def polynomial : UInt32 := 0x82F63B78

/-- Shift the remainder by one bit, subtracting the polynomial when a one falls out. -/
def shift (r : UInt32) : UInt32 :=
  if r &&& 1 = 1 then (r >>> 1) ^^^ polynomial else r >>> 1

/-- Shift the remainder by a number of bits. -/
def shifts : Nat → UInt32 → UInt32
  | 0, r => r
  | n + 1, r => shifts n (shift r)

/-- The remainder after one more octet. -/
def step (r : UInt32) (b : UInt8) : UInt32 :=
  shifts 8 (r ^^^ b.toUInt32)

/-- The remainder after a message, from a given remainder. -/
def run (r : UInt32) (message : Bytes) : UInt32 :=
  message.foldl step r

/-- The CRC-32C of a message. -/
def crc32c (message : Bytes) : UInt32 :=
  run 0xFFFFFFFF message ^^^ 0xFFFFFFFF

/-- The remainder after a concatenation is the remainder after its second part, started
from the remainder after its first. -/
theorem run_append (r : UInt32) (first second : Bytes) :
    run r (first ++ second) = run (run r first) second := by
  simp [run]

end RemoteCall.Checksum
