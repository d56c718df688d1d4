import Mathlib.Algebra.Ring.Nat
import RemoteCall.Wire.Frame
/-!
# Streams of frames

Reading a stream is reading one frame after the other, until the rest of the stream is cut off
or malformed. `Frame.Reads` says so without any bound on the number of frames. It has exactly one
result for every octet string, and `Frame.decodeAll` finds it (`Frame.reads_iff`).

What has been read does not change when more octets arrive: a frame and a defect are the same in
every longer string (`Frame.decode_append`). Hence a stream can be read piece by piece
(`Frame.Reads.append`, `Frame.Reads.append_of_error`).
-/

namespace RemoteCall

namespace Frame

variable {maxPayload : Nat} {data : Bytes}

/-! ## One frame -/

/-- Nothing can be said about less than an envelope. -/
theorem decode_eq_none_of_length_lt (h : data.length < Envelope.size) :
    decode maxPayload data = .ok none := by
  rw [decode, if_pos (by rw [List.length_take]; omega)]

/-- A defect of the envelope is a defect of the frame. -/
theorem decode_eq_error_of_envelope {e : WireError} (hsize : Envelope.size ≤ data.length)
    (he : Envelope.decode data = .error e) : decode maxPayload data = .error e := by
  rw [decode, if_neg (by rw [List.length_take]; omega), he]
  rfl

/-- A payload that is too large is a defect of the frame. -/
theorem decode_eq_error_of_lt {envelope : Envelope} (he : Envelope.decode data = .ok envelope)
    (hmax : maxPayload < envelope.payloadLength.toNat) :
    decode maxPayload data =
      .error (.payloadTooLarge envelope.payloadLength.toNat maxPayload) := by
  have hsize := Envelope.size_le_of_decode he
  rw [decode, if_neg (by rw [List.length_take]; omega), he]
  simp only [bind, Except.bind, if_pos hmax]
  rfl

/-- If there is a sound envelope with an allowed length, the payload decides. -/
theorem decode_of_envelope {envelope : Envelope} (he : Envelope.decode data = .ok envelope)
    (hmax : envelope.payloadLength.toNat ≤ maxPayload) :
    decode maxPayload data =
      let length := envelope.payloadLength.toNat
      let payload := (data.drop Envelope.size).take length
      if payload.length < length then .ok none
      else if Checksum.crc32c payload ≠ envelope.checksum then
        .error (.checksumMismatch envelope.checksum (Checksum.crc32c payload))
      else .ok (some (⟨envelope, payload⟩, (data.drop Envelope.size).drop length)) := by
  have hsize := Envelope.size_le_of_decode he
  rw [decode, if_neg (by rw [List.length_take]; omega), he]
  simp only [bind, Except.bind, if_neg (Nat.not_lt.2 hmax)]
  split
  · rfl
  · split <;> rfl

/-- What is found at the begin of an octet string is found in every longer one. -/
theorem decode_append (h : decode maxPayload data ≠ .ok none) (more : Bytes) :
    decode maxPayload (data ++ more) =
      (decode maxPayload data).map (Option.map fun (frame, rest) => (frame, rest ++ more)) := by
  have hsize : Envelope.size ≤ data.length := by
    refine Nat.not_lt.1 fun hlt => ?_
    exact h (decode_eq_none_of_length_lt hlt)
  have happend := Envelope.decode_append hsize more
  cases he : Envelope.decode data with
  | error e =>
    rw [decode_eq_error_of_envelope hsize he, decode_eq_error_of_envelope _ (happend.trans he)]
    · rfl
    · rw [List.length_append]
      omega
  | ok envelope =>
    rw [he] at happend
    rcases Nat.lt_or_ge maxPayload envelope.payloadLength.toNat with hmax | hmax
    · rw [decode_eq_error_of_lt he hmax, decode_eq_error_of_lt happend hmax]
      rfl
    · rw [decode_of_envelope he hmax] at h ⊢
      have hlong : envelope.payloadLength.toNat ≤ (data.drop Envelope.size).length := by
        refine Nat.not_lt.1 fun hlt => ?_
        exact h (if_pos (by rw [List.length_take]; omega))
      rw [decode_of_envelope happend hmax, List.drop_append_of_le_length hsize]
      simp only [List.take_append_of_le_length hlong, List.drop_append_of_le_length hlong]
      split
      · rfl
      · split <;> rfl

/-- A frame has the envelope at the begin of the octet string, and the payload behind it. -/
theorem split_of_decode {frame : Frame} {rest : Bytes}
    (h : decode maxPayload data = .ok (some (frame, rest))) :
    Envelope.size ≤ data.length ∧ data.drop Envelope.size = frame.payload ++ rest := by
  have hsize : Envelope.size ≤ data.length := by
    refine Nat.not_lt.1 fun hlt => ?_
    rw [decode_eq_none_of_length_lt hlt] at h
    cases h
  refine ⟨hsize, ?_⟩
  cases he : Envelope.decode data with
  | error e =>
    rw [decode_eq_error_of_envelope hsize he] at h
    cases h
  | ok envelope =>
    rcases Nat.lt_or_ge maxPayload envelope.payloadLength.toNat with hmax | hmax
    · rw [decode_eq_error_of_lt he hmax] at h
      cases h
    · rw [decode_of_envelope he hmax] at h
      simp only at h
      split at h
      · cases h
      · split at h
        · cases h
        · cases h
          exact (List.take_append_drop _ _).symm

/-- What follows a frame begins where the frame ends. -/
theorem rest_of_decode {frame : Frame} {rest : Bytes}
    (h : decode maxPayload data = .ok (some (frame, rest))) :
    frame.length + rest.length = data.length ∧ rest = data.drop frame.length := by
  obtain ⟨hsize, hdrop⟩ := split_of_decode h
  have hlength := congrArg List.length hdrop
  rw [List.length_drop, List.length_append] at hlength
  rw [length, ← List.drop_drop, hdrop, List.drop_left]
  exact ⟨by omega, rfl⟩

/-! ## All frames -/

/-- The result of reading a stream frame by frame. -/
inductive Reads (maxPayload : Nat) : Bytes → Stream → Prop
  /-- The stream is cut off. -/
  | cut {data : Bytes} (h : decode maxPayload data = .ok none) : Reads maxPayload data ⟨[], data, none⟩
  /-- The stream is malformed. -/
  | malformed {data : Bytes} {e : WireError} (h : decode maxPayload data = .error e) :
      Reads maxPayload data ⟨[], data, some e⟩
  /-- There is a frame, and more after it. -/
  | frame {data rest : Bytes} {frame : Frame} {s : Stream}
      (h : decode maxPayload data = .ok (some (frame, rest))) (hrest : Reads maxPayload rest s) :
      Reads maxPayload data { s with frames := frame :: s.frames }

namespace Reads

variable {s s' : Stream}

/-- There is only one result. -/
theorem eq (h : Reads maxPayload data s) (h' : Reads maxPayload data s') : s = s' := by
  induction h generalizing s' with
  | cut hnone =>
    cases h' with
    | cut _ => rfl
    | malformed herror => cases hnone.symm.trans herror
    | frame hframe _ => cases hnone.symm.trans hframe
  | malformed herror =>
    cases h' with
    | cut hnone => cases hnone.symm.trans herror
    | malformed herror' =>
      cases herror.symm.trans herror'
      rfl
    | frame hframe _ => cases herror.symm.trans hframe
  | frame hframe _ ih =>
    cases h' with
    | cut hnone => cases hnone.symm.trans hframe
    | malformed herror => cases herror.symm.trans hframe
    | frame hframe' hrest' =>
      cases hframe.symm.trans hframe'
      rw [ih hrest']

/-- The rest begins where the frames end, and there is no frame at its begin. -/
theorem rest_eq (h : Reads maxPayload data s) :
    s.rest = data.drop (s.frames.map length).sum ∧
      (s.error? = none → decode maxPayload s.rest = .ok none) ∧
      ∀ e, s.error? = some e → decode maxPayload s.rest = .error e := by
  induction h with
  | cut hnone => exact ⟨rfl, fun _ => hnone, nofun⟩
  | malformed herror =>
    refine ⟨rfl, nofun, fun e he => ?_⟩
    cases he
    exact herror
  | frame hframe _ ih =>
    obtain ⟨hrest, hnone, herror⟩ := ih
    refine ⟨?_, hnone, herror⟩
    rw [List.map_cons, List.sum_cons, ← List.drop_drop, ← (rest_of_decode hframe).2]
    exact hrest

/-- If a stream is cut off, one can go on reading where it was cut. -/
theorem append (h : Reads maxPayload data s) (hcut : s.error? = none) {more : Bytes}
    (hmore : Reads maxPayload (s.rest ++ more) s') :
    Reads maxPayload (data ++ more) { s' with frames := s.frames ++ s'.frames } := by
  induction h with
  | cut _ => exact hmore
  | malformed _ => cases hcut
  | frame hframe _ ih =>
    have happend := decode_append (by rw [hframe]; simp) more
    rw [hframe] at happend
    exact .frame happend (ih hcut hmore)

/-- If a stream is malformed, nothing that follows is read. -/
theorem append_of_error (h : Reads maxPayload data s) {e : WireError} (herror : s.error? = some e)
    (more : Bytes) : Reads maxPayload (data ++ more) { s with rest := s.rest ++ more } := by
  induction h with
  | cut _ => cases herror
  | malformed hmalformed =>
    have happend := decode_append (by rw [hmalformed]; simp) more
    rw [hmalformed] at happend
    exact .malformed happend
  | frame hframe _ ih =>
    have happend := decode_append (by rw [hframe]; simp) more
    rw [hframe] at happend
    exact .frame happend (ih herror)

end Reads

/-- The bound on the number of frames is never reached, as every frame takes octets. -/
theorem reads_decodeUpTo {count : Nat} (h : data.length < count) :
    Reads maxPayload data (decodeUpTo maxPayload count data) := by
  induction count generalizing data with
  | zero => omega
  | succ count ih =>
    rw [decodeUpTo]
    split
    next e herror => exact .malformed herror
    next hnone => exact .cut hnone
    next frame rest hframe =>
      have hlength := (rest_of_decode hframe).1
      rw [length, Envelope.size] at hlength
      exact .frame hframe (ih (by omega))

/-- Reading a stream always ends. -/
theorem reads_decodeAll (maxPayload : Nat) (data : Bytes) :
    Reads maxPayload data (decodeAll maxPayload data) :=
  reads_decodeUpTo (Nat.lt_succ_self data.length)

/-- What reading a stream ends with is what `decodeAll` finds. -/
theorem reads_iff {s : Stream} : Reads maxPayload data s ↔ s = decodeAll maxPayload data := by
  constructor
  · intro h
    exact h.eq (reads_decodeAll maxPayload data)
  · rintro rfl
    exact reads_decodeAll maxPayload data

end Frame

end RemoteCall
