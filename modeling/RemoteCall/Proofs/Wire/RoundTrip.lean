import RemoteCall.Proofs.Wire.Stream
/-!
# Frames that were written

What has been written as a frame is read as the same frame, whatever follows it. Reading the
begin of a stream of such frames gives the first of them, and leaves over what belongs to the
others (`Frame.Reads.take_of_octets`).
-/

namespace RemoteCall

namespace Bytes

/-- Reading a field gives the number written, modulo what the field can hold. -/
theorem ofLittleEndian_littleEndian (width n : Nat) :
    ofLittleEndian (littleEndian width n) = n % 256 ^ width := by
  induction width generalizing n with
  | zero => simp [littleEndian, ofLittleEndian, Nat.mod_one]
  | succ width ih =>
    have hb : (UInt8.ofNat (n % 256)).toNat = n % 256 := by
      simp
    rw [littleEndian, ofLittleEndian, ih, hb, Nat.pow_succ, Nat.mul_comm (256 ^ width) 256,
      Nat.mod_mul]

/-- Reading a field at the begin gives the number written there. -/
theorem field_littleEndian (width n : Nat) (more : Bytes) :
    (littleEndian width n ++ more).field 0 width = n % 256 ^ width := by
  rw [field, List.drop_zero, List.take_append_of_le_length (by simp),
    List.take_of_length_le (by simp), ofLittleEndian_littleEndian]

end Bytes

namespace MessageKind

/-- The number of a kind stands for that kind. -/
theorem ofCode_code (k : MessageKind) : ofCode k.code = .ok k := by
  cases k <;> rfl

end MessageKind

namespace Envelope

/-- An envelope that was written is read again, whatever follows it. -/
theorem decode_encode (e : Envelope) (more : Bytes) : decode (e.encode ++ more) = .ok e := by
  have hword (w : UInt32) : UInt32.ofNat (w.toNat % 256 ^ 4) = w := by
    rw [Nat.mod_eq_of_lt (show w.toNat < 256 ^ 4 from w.toNat_lt), UInt32.ofNat_toNat]
  have hlong (w : UInt64) : UInt64.ofNat (w.toNat % 256 ^ 8) = w := by
    rw [Nat.mod_eq_of_lt (show w.toNat < 256 ^ 8 from w.toNat_lt), UInt64.ofNat_toNat]
  have hsize : ¬((e.encode ++ more).take size).length < size := by
    rw [List.length_take, List.length_append, length_encode]
    omega
  rw [decode, if_neg hsize]
  simp only [word, encode, List.append_assoc, Bytes.field_append_right, Bytes.field_littleEndian,
    Bytes.length_littleEndian, Nat.le_refl, Nat.reduceLeDiff, Nat.reduceSub, hword, hlong,
    checkMagic, MessageKind.ofCode_code]
  rfl

end Envelope

namespace Frame

variable {maxPayload : Nat}

/-- The octets of a frame. -/
def octets (f : Frame) : Bytes :=
  f.envelope.encode ++ f.payload

/-- A frame is sound if its envelope tells the length and the checksum of its payload, and the
limit allows the payload. -/
structure Sound (maxPayload : Nat) (f : Frame) : Prop where
  /-- The length is that of the payload. -/
  length_eq : f.envelope.payloadLength.toNat = f.payload.length
  /-- The checksum is that of the payload. -/
  checksum_eq : f.envelope.checksum = Checksum.crc32c f.payload
  /-- The payload is not too large. -/
  length_le : f.payload.length ≤ maxPayload

/-- A frame that is filled in for its payload is sound. -/
theorem sound_sealed (e : Envelope) {payload : Bytes} (hmax : payload.length ≤ maxPayload)
    (hfield : payload.length < 2 ^ 32) : Sound maxPayload ⟨sealed e payload, payload⟩ where
  length_eq := by
    rw [sealed, UInt32.toNat_ofNat', Nat.mod_eq_of_lt hfield]
  checksum_eq := rfl
  length_le := hmax

/-- Writing a frame that is not too large fills it in. -/
theorem encode_eq (e : Envelope) {payload : Bytes} (hmax : payload.length ≤ maxPayload) :
    encode e payload maxPayload = .ok (octets ⟨sealed e payload, payload⟩) :=
  if_neg (Nat.not_lt.2 hmax)

/-- A frame that was written is read again, whatever follows it. -/
theorem decode_octets {f : Frame} (h : f.Sound maxPayload) (more : Bytes) :
    decode maxPayload (f.octets ++ more) = .ok (some (f, more)) := by
  have henvelope : Envelope.decode (f.octets ++ more) = .ok f.envelope := by
    rw [octets, List.append_assoc]
    exact f.envelope.decode_encode (f.payload ++ more)
  have hmax : f.envelope.payloadLength.toNat ≤ maxPayload := by
    rw [h.length_eq]
    exact h.length_le
  have hbody : (f.octets ++ more).drop Envelope.size = f.payload ++ more := by
    rw [octets, List.append_assoc, ← f.envelope.length_encode, List.drop_left]
  rw [decode_of_envelope henvelope hmax, hbody, h.length_eq]
  simp only [List.take_left, List.drop_left, Nat.lt_irrefl, if_false, h.checksum_eq, ne_eq,
    not_true_eq_false]

/-- There is nothing in no octets. -/
theorem decode_nil : decode maxPayload [] = .ok none :=
  decode_eq_none_of_length_lt (by decide)

/-- Reading the begin of a stream of sound frames gives the first of them. What is left over,
together with what has not come yet, belongs to the others. -/
theorem Reads.take_of_octets {data more : Bytes} {s : Stream} (h : Reads maxPayload data s)
    {frames : List Frame} (hsound : ∀ f ∈ frames, f.Sound maxPayload)
    (hdata : data ++ more = (frames.map octets).flatten) :
    s.error? = none ∧ ∃ left, frames = s.frames ++ left ∧
      s.rest ++ more = (left.map octets).flatten := by
  induction h generalizing frames with
  | cut _ => exact ⟨rfl, frames, rfl, hdata⟩
  | @malformed data e herror =>
    have happend := decode_append (by rw [herror]; simp) more
    rw [hdata, herror] at happend
    cases frames with
    | nil => cases happend.symm.trans decode_nil
    | cons f frames =>
      rw [List.map_cons, List.flatten_cons, decode_octets (hsound f List.mem_cons_self)] at happend
      cases happend
  | @frame data rest frame s hframe hrest ih =>
    have happend := decode_append (by rw [hframe]; simp) more
    rw [hdata, hframe] at happend
    cases frames with
    | nil => cases happend.symm.trans decode_nil
    | cons f frames =>
      rw [List.map_cons, List.flatten_cons, decode_octets (hsound f List.mem_cons_self)] at happend
      obtain ⟨rfl, hmore⟩ : f = frame ∧ (frames.map octets).flatten = rest ++ more := by
        simpa [Except.map] using happend
      obtain ⟨hnone, left, rfl, hleft⟩ :=
        ih (fun f hf => hsound f (List.mem_cons_of_mem _ hf)) hmore.symm
      exact ⟨hnone, left, rfl, hleft⟩

/-- A row of sound frames of which none is complete has no frames. -/
theorem eq_nil_of_decode {frames : List Frame} (hsound : ∀ f ∈ frames, f.Sound maxPayload)
    (h : decode maxPayload (frames.map octets).flatten = .ok none) : frames = [] := by
  cases frames with
  | nil => rfl
  | cons f frames =>
    rw [List.map_cons, List.flatten_cons, decode_octets (hsound f List.mem_cons_self)] at h
    cases h

end Frame

end RemoteCall
