import Mathlib.Algebra.Ring.Nat
import Mathlib.Logic.Function.Basic
import RemoteCall.Wire.Checksum
/-!
# What checksums tell apart

Shifting a remainder by one bit is linear over exclusive or (`shift_xor`) and loses nothing
(`shift_injective`): the highest coefficient of the polynomial is one, so the highest bit tells
whether a one has fallen out. Two remainders that differ therefore stay different, whatever message
comes next (`run_injective`).

A remainder has room for four octets. Reading at most so many is adding the number that they form
and shifting it out, bit by bit (`run_eq_shifts`). Two messages that differ only in a window of four
octets thus have different checksums (`crc32c_inj_of_window`), wherever the window is.
-/

namespace RemoteCall

namespace Bytes

/-- A number takes no more room than the octets that it is stored in. -/
theorem ofLittleEndian_lt (bs : Bytes) : ofLittleEndian bs < 2 ^ (8 * bs.length) := by
  induction bs with
  | nil => exact Nat.one_pos
  | cons b bs ih =>
    have hb : b.toNat < 256 := b.toNat_lt
    rw [ofLittleEndian, List.length_cons, Nat.mul_succ, Nat.pow_add]
    omega

/-- Octet strings of one length are equal if they stand for one number. -/
theorem ofLittleEndian_inj {bs cs : Bytes} (hlength : bs.length = cs.length)
    (h : ofLittleEndian bs = ofLittleEndian cs) : bs = cs := by
  rw [← littleEndian_ofLittleEndian bs, h, hlength, littleEndian_ofLittleEndian]

/-- The octet of least weight does not overlap with the others. -/
theorem ofLittleEndian_cons_eq_xor (b : UInt8) (bs : Bytes) :
    ofLittleEndian (b :: bs) = b.toNat ^^^ 2 ^ 8 * ofLittleEndian bs := by
  have hb : b.toNat < 2 ^ 8 := b.toNat_lt
  rw [ofLittleEndian]
  refine Nat.eq_of_testBit_eq fun i => ?_
  rw [Nat.add_comm, show 256 = 2 ^ 8 from rfl, Nat.testBit_two_pow_mul_add _ hb, Nat.testBit_xor,
    Nat.testBit_two_pow_mul]
  by_cases hi : i < 8
  · simp [hi, Nat.not_le.2 hi]
  · have hlarge : b.toNat < 2 ^ i := Nat.lt_of_lt_of_le hb (Nat.pow_le_pow_right (by decide) (by omega))
    simp [hi, Nat.not_lt.1 hi, Nat.testBit_lt_two_pow hlarge]

end Bytes

namespace Checksum

/-! ## One bit -/

/-- The bit that falls out when a remainder is shifted. -/
theorem and_one_eq_one_iff (r : UInt32) : r &&& 1 = 1 ↔ r.toNat % 2 = 1 := by
  rw [← UInt32.toNat_inj, UInt32.toNat_and, ← Nat.and_one_is_mod]
  rfl

/-- What stays of a remainder when it is shifted. -/
theorem toNat_shiftRight_one (r : UInt32) : (r >>> 1).toNat = r.toNat / 2 := by
  rw [UInt32.toNat_shiftRight]
  exact Nat.shiftRight_eq_div_pow r.toNat 1

/-- Shifting subtracts the polynomial if the remainder is odd. -/
theorem shift_eq (r : UInt32) :
    shift r = r >>> 1 ^^^ if r.toNat % 2 = 1 then polynomial else 0 := by
  rw [shift]
  simp only [and_one_eq_one_iff]
  split
  · rfl
  · rw [UInt32.xor_zero]

/-- Shifting is linear. -/
theorem shift_xor (r s : UInt32) : shift (r ^^^ s) = shift r ^^^ shift s := by
  rw [shift_eq, shift_eq r, shift_eq s, UInt32.shiftRight_xor, UInt32.toNat_xor]
  have hodd := @Nat.xor_mod_two_eq_one r.toNat s.toNat
  -- The polynomial is subtracted on the left if it is subtracted once on the right.
  by_cases hr : r.toNat % 2 = 1 <;> by_cases hs : s.toNat % 2 = 1
  all_goals
    simp only [hr, hs, hodd, not_true_eq_false, not_false_eq_true, iff_true, iff_false, if_true,
      if_false, UInt32.xor_zero]
  · rw [UInt32.xor_assoc (r >>> 1), UInt32.xor_comm (s >>> 1), ← UInt32.xor_assoc polynomial,
      UInt32.xor_self, UInt32.zero_xor]
  · rw [UInt32.xor_assoc, UInt32.xor_assoc, UInt32.xor_comm (s >>> 1)]
  · rw [UInt32.xor_assoc]

/-- Only the remainder zero becomes zero. -/
theorem eq_zero_of_shift {r : UInt32} (h : shift r = 0) : r = 0 := by
  have hr := r.toNat_lt
  rw [shift_eq] at h
  rw [← UInt32.toNat_inj]
  split at h
  next hodd =>
    -- A half is too small to cancel the highest coefficient of the polynomial.
    have hhalf := congrArg UInt32.toNat (UInt32.xor_eq_zero_iff.1 h)
    rw [toNat_shiftRight_one, show polynomial.toNat = 2197175160 from rfl] at hhalf
    omega
  next heven =>
    have hhalf := congrArg UInt32.toNat (UInt32.xor_eq_zero_iff.1 h)
    rw [toNat_shiftRight_one, UInt32.toNat_zero] at hhalf
    rw [UInt32.toNat_zero]
    omega

/-- Shifting loses nothing. -/
theorem shift_injective : Function.Injective shift := by
  intro r s h
  have hzero : shift (r ^^^ s) = 0 := by
    rw [shift_xor, h, UInt32.xor_self]
  exact UInt32.xor_eq_zero_iff.1 (eq_zero_of_shift hzero)

/-- As long as no one falls out, shifting is halving. -/
theorem shift_ofNat_double {m : Nat} (h : 2 * m < 2 ^ 32) :
    shift (UInt32.ofNat (2 * m)) = UInt32.ofNat m := by
  have hdouble : (UInt32.ofNat (2 * m)).toNat = 2 * m := by
    rw [UInt32.toNat_ofNat', Nat.mod_eq_of_lt h]
  rw [shift_eq, hdouble, if_neg (by omega), UInt32.xor_zero, ← UInt32.toNat_inj,
    toNat_shiftRight_one, hdouble, UInt32.toNat_ofNat']
  omega

/-! ## Several bits -/

/-- Shifting by several bits is linear. -/
theorem shifts_xor (n : Nat) (r s : UInt32) : shifts n (r ^^^ s) = shifts n r ^^^ shifts n s := by
  induction n generalizing r s with
  | zero => rfl
  | succ n ih => rw [shifts, shifts, shifts, shift_xor, ih]

/-- Shifting by several bits loses nothing. -/
theorem shifts_injective (n : Nat) : Function.Injective (shifts n) := by
  induction n with
  | zero => exact Function.injective_id
  | succ n ih => exact ih.comp shift_injective

/-- Bits are shifted out one after the other. -/
theorem shifts_add (m n : Nat) (r : UInt32) : shifts (m + n) r = shifts n (shifts m r) := by
  induction m generalizing r with
  | zero => rw [Nat.zero_add, shifts]
  | succ m ih => rw [Nat.succ_add, shifts, shifts, ih]

/-- Bits that are zero can be shifted out. -/
theorem shifts_ofNat_mul {n m : Nat} (h : 2 ^ n * m < 2 ^ 32) :
    shifts n (UInt32.ofNat (2 ^ n * m)) = UInt32.ofNat m := by
  induction n with
  | zero => rw [Nat.pow_zero, Nat.one_mul, shifts]
  | succ n ih =>
    rw [Nat.pow_succ, Nat.mul_comm (2 ^ n), Nat.mul_assoc] at h ⊢
    rw [shifts, shift_ofNat_double h]
    exact ih (by omega)

/-! ## Messages -/

/-- An octet that is read loses nothing of the remainder. -/
theorem step_injective (b : UInt8) : Function.Injective (step · b) := by
  intro r s h
  exact (UInt32.xor_left_inj _).1 (shifts_injective 8 h)

/-- Remainders that differ still differ after any message. -/
theorem run_injective (message : Bytes) : Function.Injective (run · message) := by
  induction message with
  | nil => exact Function.injective_id
  | cons b message ih => exact ih.comp (step_injective b)

/-- Reading at most four octets is adding the number that they form and shifting it out. -/
theorem run_eq_shifts (r : UInt32) {bs : Bytes} (h : bs.length ≤ 4) :
    run r bs = shifts (8 * bs.length) (r ^^^ UInt32.ofNat (Bytes.ofLittleEndian bs)) := by
  induction bs generalizing r with
  | nil => exact UInt32.xor_zero.symm
  | cons b bs ih =>
    rw [List.length_cons] at h
    -- The octets behind the first one do not reach beyond the remainder.
    have hroom : 2 ^ 8 * Bytes.ofLittleEndian bs < 2 ^ 32 := by
      have hlt := Bytes.ofLittleEndian_lt bs
      have hle : 2 ^ (8 * bs.length) ≤ 2 ^ 24 := Nat.pow_le_pow_right (by decide) (by omega)
      omega
    calc run r (b :: bs)
        = run (step r b) bs := rfl
      _ = shifts (8 * bs.length) (step r b ^^^ UInt32.ofNat (Bytes.ofLittleEndian bs)) :=
          ih _ (by omega)
      _ = shifts (8 * bs.length) (shifts 8 (r ^^^ b.toUInt32) ^^^
            shifts 8 (UInt32.ofNat (2 ^ 8 * Bytes.ofLittleEndian bs))) := by
          rw [step, shifts_ofNat_mul hroom]
      _ = shifts (8 * (bs.length + 1)) (r ^^^ UInt32.ofNat (Bytes.ofLittleEndian (b :: bs))) := by
          rw [← shifts_xor, ← shifts_add, Bytes.ofLittleEndian_cons_eq_xor, UInt32.ofNat_xor,
            UInt32.ofNat_uInt8ToNat, UInt32.xor_assoc, Nat.mul_succ, Nat.add_comm]

/-- At most four octets can be told from the remainder that they leave. -/
theorem eq_of_run_eq {r : UInt32} {bs cs : Bytes} (hlength : bs.length = cs.length)
    (hshort : bs.length ≤ 4) (h : run r bs = run r cs) : bs = cs := by
  rw [run_eq_shifts r hshort, run_eq_shifts r (hlength ▸ hshort), hlength] at h
  have hnumber := (UInt32.xor_right_inj r).1 (shifts_injective _ h)
  have hsmall : ∀ ds : Bytes, ds.length ≤ 4 → Bytes.ofLittleEndian ds < 2 ^ 32 := fun ds hds =>
    Nat.lt_of_lt_of_le ds.ofLittleEndian_lt (Nat.pow_le_pow_right (by decide) (by omega))
  refine Bytes.ofLittleEndian_inj hlength ?_
  rw [← UInt32.toNat_inj, UInt32.toNat_ofNat', UInt32.toNat_ofNat',
    Nat.mod_eq_of_lt (hsmall bs hshort), Nat.mod_eq_of_lt (hsmall cs (hlength ▸ hshort))] at hnumber
  exact hnumber

/-- Messages that differ at most in a window of four octets are equal if their checksums are. -/
theorem crc32c_inj_of_window {before after bs cs : Bytes} (hlength : bs.length = cs.length)
    (hshort : bs.length ≤ 4)
    (h : crc32c (before ++ bs ++ after) = crc32c (before ++ cs ++ after)) : bs = cs := by
  have hrun := (UInt32.xor_left_inj _).1 h
  rw [run_append, run_append, run_append, run_append] at hrun
  exact eq_of_run_eq hlength hshort (run_injective after hrun)

end Checksum

end RemoteCall
