import RemoteCall.Proofs.Wire.Checksum
import RemoteCall.Proofs.Wire.RoundTrip
/-!
# Corrupted payloads

A payload that has been changed on its way is checked against the checksum of the payload that was
sent. If no more than four neighbouring octets were changed, the two checksums differ, and the
reader reports it and finds no frame (`Frame.corrupted_window_is_detected`). Where these octets are,
how long the payload is, and what comes behind the frame do not matter.
-/

namespace RemoteCall

namespace Bytes

variable {start width : Nat} {bs cs : Bytes}

/-- Two octet strings of one length have the same octets outside a window. -/
structure AgreeOutside (start width : Nat) (bs cs : Bytes) : Prop where
  /-- They have one length. -/
  length_eq : cs.length = bs.length
  /-- Before the window and behind it they have the same octets. -/
  getElem?_eq : ∀ i, i < start ∨ start + width ≤ i → cs[i]? = bs[i]?

namespace AgreeOutside

/-- What stands before the window. -/
theorem take_eq (h : AgreeOutside start width bs cs) : cs.take start = bs.take start := by
  ext1 i
  rw [List.getElem?_take, List.getElem?_take]
  split
  next hi => exact h.getElem?_eq i (.inl hi)
  next => rfl

/-- What stands behind the window. -/
theorem drop_eq (h : AgreeOutside start width bs cs) :
    cs.drop (start + width) = bs.drop (start + width) := by
  ext1 i
  rw [List.getElem?_drop, List.getElem?_drop]
  exact h.getElem?_eq _ (.inr (Nat.le_add_right _ _))

end AgreeOutside

/-- An octet string is what stands before a window, in it, and behind it. -/
theorem eq_append_window (start width : Nat) (bs : Bytes) :
    bs = bs.take start ++ (bs.drop start).take width ++ bs.drop (start + width) := by
  rw [List.append_assoc, ← List.drop_drop, List.take_append_drop, List.take_append_drop]

end Bytes

namespace Checksum

/-- Messages that agree outside a window of four octets have different checksums, unless they are
equal. -/
theorem crc32c_injective_of_agreeOutside {start width : Nat} {bs cs : Bytes} (hwidth : width ≤ 4)
    (hagree : Bytes.AgreeOutside start width bs cs) (h : crc32c bs = crc32c cs) : bs = cs := by
  rw [bs.eq_append_window start width, cs.eq_append_window start width, hagree.take_eq,
    hagree.drop_eq] at h ⊢
  have hlength : ((bs.drop start).take width).length = ((cs.drop start).take width).length := by
    simp only [List.length_take, List.length_drop, hagree.length_eq]
  have hshort : ((bs.drop start).take width).length ≤ 4 :=
    Nat.le_trans (List.length_take_le _ _) hwidth
  rw [crc32c_inj_of_window hlength hshort h]

end Checksum

namespace Frame

variable {maxPayload : Nat} {payload corrupted : Bytes}

/-- What the reader makes of a frame in which the payload has been replaced by another one of the
same length. -/
theorem decode_of_replaced (e : Envelope) (hfield : payload.length < 2 ^ 32)
    (hmax : payload.length ≤ maxPayload) (hlength : corrupted.length = payload.length)
    (more : Bytes) :
    decode maxPayload ((sealed e payload).encode ++ corrupted ++ more) =
      if Checksum.crc32c corrupted = Checksum.crc32c payload then
        .ok (some (⟨sealed e payload, corrupted⟩, more))
      else .error (.checksumMismatch (Checksum.crc32c payload) (Checksum.crc32c corrupted)) := by
  have henvelope : Envelope.decode ((sealed e payload).encode ++ corrupted ++ more) =
      .ok (sealed e payload) := by
    rw [List.append_assoc]
    exact Envelope.decode_encode _ _
  have hbody : ((sealed e payload).encode ++ corrupted ++ more).drop Envelope.size =
      corrupted ++ more := by
    rw [List.append_assoc, List.drop_left' (Envelope.length_encode _)]
  -- The length in the envelope is also that of the other payload.
  have hpayload : (sealed e payload).payloadLength.toNat = corrupted.length := by
    rw [hlength]
    exact (sound_sealed e hmax hfield).length_eq
  rw [decode_of_envelope henvelope (by omega), hbody, hpayload]
  simp only [List.take_left, List.drop_left, Nat.lt_irrefl, if_false, ne_eq, ite_not]
  rfl

/-- No frame is found in the begin of an octet string in which there is a defect. -/
theorem decodeAll_take_of_error {data : Bytes} {defect : WireError}
    (h : decode maxPayload data = .error defect) (arrived : Nat) :
    (decodeAll maxPayload (data.take arrived)).frames = [] := by
  have hreads := reads_decodeAll maxPayload (data.take arrived)
  generalize decodeAll maxPayload (data.take arrived) = s at hreads
  cases hreads with
  | cut _ => rfl
  | malformed _ => rfl
  | frame hframe _ =>
    -- A frame would still be there when the rest has arrived.
    have happend := decode_append (by rw [hframe]; simp) (data.drop arrived)
    rw [List.take_append_drop, h, hframe] at happend
    cases happend

/-- Up to four neighbouring octets of a payload that are changed on the way are always noticed. The
payload is written into a frame behind its envelope. If it is replaced there by another payload, of
the same length and with the same octets outside a window of the given width, the reader reports
the two checksums, which are different, whatever follows. It finds no frame, neither in the whole
octet string nor in the part of it that has arrived. -/
theorem corrupted_window_is_detected (e : Envelope) {start width : Nat}
    (hfield : payload.length < 2 ^ 32) (hmax : payload.length ≤ maxPayload) (hwidth : width ≤ 4)
    (hagree : Bytes.AgreeOutside start width payload corrupted) (hne : corrupted ≠ payload) :
    ∃ header : Bytes, header.length = Envelope.size ∧
      encode e payload maxPayload = .ok (header ++ payload) ∧
      Checksum.crc32c payload ≠ Checksum.crc32c corrupted ∧
      ∀ more : Bytes,
        let data := header ++ corrupted ++ more
        let defect : WireError :=
          .checksumMismatch (Checksum.crc32c payload) (Checksum.crc32c corrupted)
        decode maxPayload data = .error defect ∧
        decodeAll maxPayload data = ⟨[], data, some defect⟩ ∧
        ∀ arrived, (decodeAll maxPayload (data.take arrived)).frames = [] := by
  have hchecksums : Checksum.crc32c payload ≠ Checksum.crc32c corrupted := by
    intro hsame
    exact hne (Checksum.crc32c_injective_of_agreeOutside hwidth hagree hsame).symm
  refine ⟨(sealed e payload).encode, Envelope.length_encode _, encode_eq e hmax, hchecksums, ?_⟩
  intro more data defect
  have hdecode : decode maxPayload data = .error defect := by
    rw [decode_of_replaced e hfield hmax hagree.length_eq more, if_neg (Ne.symm hchecksums)]
  exact ⟨hdecode, (reads_iff.1 (.malformed hdecode)).symm, decodeAll_take_of_error hdecode⟩

/-- The last two of nine octets are changed, and half an envelope follows. -/
theorem two_changed_octets_are_detected :
    let e := Envelope.request 7 42 0
    let payload : Bytes := [0x31, 0x32, 0x33, 0x34, 0x35, 0x36, 0x37, 0x38, 0x39]
    let corrupted : Bytes := [0x31, 0x32, 0x33, 0x34, 0x35, 0x36, 0x37, 0x00, 0xFF]
    Bytes.AgreeOutside 6 4 payload corrupted ∧ corrupted ≠ payload ∧
      ∃ header : Bytes, encode e payload 9 = .ok (header ++ payload) ∧
        decode 9 (header ++ corrupted ++ e.encode.take 18) =
          .error (.checksumMismatch 0xE3069283 (Checksum.crc32c corrupted)) := by
  intro e payload corrupted
  have hagree : Bytes.AgreeOutside 6 4 payload corrupted := by
    refine ⟨rfl, fun i hi => ?_⟩
    rcases hi with hi | hi
    · revert i
      decide
    · have hlong : 9 ≤ i := by omega
      rw [List.getElem?_eq_none hlong, List.getElem?_eq_none hlong]
  have hne : corrupted ≠ payload := by decide
  have hmax : payload.length ≤ 9 := by decide
  obtain ⟨header, -, hwritten, -, hread⟩ :=
    corrupted_window_is_detected e (by decide) hmax (by decide) hagree hne
  have hchecksum : Checksum.crc32c payload = 0xE3069283 := by decide +kernel
  rw [hchecksum] at hread
  exact ⟨hagree, hne, header, hwritten, (hread _).1⟩

end Frame

end RemoteCall
