/-!
# Byte strings

Byte strings are lists of octets. Numbers are stored in little-endian order: the octet of
least weight comes first. `littleEndian` writes a number into a field of a given width,
dropping what does not fit, and `ofLittleEndian` reads a field back.
-/

namespace RemoteCall

/-- A string of octets. -/
abbrev Bytes := List UInt8

namespace Bytes

/-- The `width` low octets of a number, least significant first. -/
def littleEndian : (width : Nat) → Nat → Bytes
  | 0, _ => []
  | width + 1, n => UInt8.ofNat (n % 256) :: littleEndian width (n / 256)

/-- The number whose octets are given, least significant first. -/
def ofLittleEndian : Bytes → Nat
  | [] => 0
  | b :: bs => b.toNat + 256 * ofLittleEndian bs

/-- The number stored in the `width` octets from `offset` on. -/
def field (bs : Bytes) (offset width : Nat) : Nat :=
  ofLittleEndian ((bs.drop offset).take width)

/-- Octets behind a field do not change it. -/
theorem field_append {bs : Bytes} {offset width : Nat} (h : offset + width ≤ bs.length)
    (more : Bytes) : (bs ++ more).field offset width = bs.field offset width := by
  rw [field, field, List.drop_append_of_le_length (by omega),
    List.take_append_of_le_length (by rw [List.length_drop]; omega)]

/-- A field of the given width is exactly that long. -/
@[simp]
theorem length_littleEndian (width n : Nat) : (littleEndian width n).length = width := by
  induction width generalizing n with
  | zero => rfl
  | succ width ih => simp [littleEndian, ih]

/-- Writing the number that a field holds gives the field back. -/
theorem littleEndian_ofLittleEndian (bs : Bytes) :
    littleEndian bs.length (ofLittleEndian bs) = bs := by
  induction bs with
  | nil => rfl
  | cons b bs ih =>
    have hb : b.toNat < 256 := b.toNat_lt
    have hmod : (b.toNat + 256 * ofLittleEndian bs) % 256 = b.toNat := by omega
    have hdiv : (b.toNat + 256 * ofLittleEndian bs) / 256 = ofLittleEndian bs := by omega
    simp [littleEndian, ofLittleEndian, hmod, hdiv, ih]

/-- A field behind other octets is a field of what follows them. -/
theorem field_append_right {bs : Bytes} {offset : Nat} (h : bs.length ≤ offset) (more : Bytes)
    (width : Nat) : (bs ++ more).field offset width = more.field (offset - bs.length) width := by
  rw [field, field, List.drop_append, List.drop_eq_nil_of_le h, List.nil_append]

end Bytes

end RemoteCall
