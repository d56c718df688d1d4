import Mathlib.Algebra.Ring.Nat
import RemoteCall.Proofs.Wire.Canonical
/-!
# The length field

The length field of an envelope has 32 bits, while the limit on payloads is any number. Writing a
frame compares the length of the payload with the limit and with nothing else. A limit of `2 ^ 32` or
more therefore lets payloads through whose length does not fit into the field, and the field gets what
is left of the length modulo `2 ^ 32`.

The reader believes the field. What it makes of such a frame is said by `Frame.decode_octets_sealed`:
it takes the begin of the payload for the payload, and looks for the next frame in the middle of it,
unless the checksum gives it away. `Frame.length_is_kept_iff` says when nothing of this happens.
-/

namespace RemoteCall

namespace Envelope

variable (systemId correlationId : UInt64) (n : Nat)

/-- The envelope of a request has the length modulo `2 ^ 32`. -/
theorem toNat_payloadLength_request :
    (request systemId correlationId n).payloadLength.toNat = n % 2 ^ 32 :=
  UInt32.toNat_ofNat'

/-- So has the envelope of a response. -/
theorem toNat_payloadLength_responseTo (e : Envelope) :
    (e.responseTo n).payloadLength.toNat = n % 2 ^ 32 :=
  UInt32.toNat_ofNat'

end Envelope

namespace Frame

variable {maxPayload : Nat} {payload written : Bytes}

/-- A frame that is filled in for its payload has the length modulo `2 ^ 32`. -/
theorem toNat_payloadLength_sealed (e : Envelope) (payload : Bytes) :
    (sealed e payload).payloadLength.toNat = payload.length % 2 ^ 32 :=
  UInt32.toNat_ofNat'

/-- The remainder is the number itself exactly if the field can hold it. -/
private theorem mod_field_eq_iff (n : Nat) : n % 2 ^ 32 = n ↔ n < 2 ^ 32 :=
  Nat.mod_eq_iff_lt (by decide)

/-- The only reason not to write a frame is that its payload exceeds the limit. -/
theorem encode_eq_error_iff (e : Envelope) {error : WireError} :
    encode e payload maxPayload = .error error ↔
      maxPayload < payload.length ∧ error = .payloadTooLarge payload.length maxPayload := by
  unfold encode
  by_cases hmax : maxPayload < payload.length
  · rw [if_pos hmax]
    simp [hmax, eq_comm]
  · rw [if_neg hmax]
    simp [hmax]

/-- What the reader makes of a frame that was filled in for a payload of any length. -/
theorem decode_octets_sealed (e : Envelope) (hmax : payload.length ≤ maxPayload) (more : Bytes) :
    let kept := payload.take (payload.length % 2 ^ 32)
    let lost := payload.drop (payload.length % 2 ^ 32)
    decode maxPayload (octets ⟨sealed e payload, payload⟩ ++ more) =
      if Checksum.crc32c kept = Checksum.crc32c payload then
        .ok (some (⟨sealed e payload, kept⟩, lost ++ more))
      else .error (.checksumMismatch (Checksum.crc32c payload) (Checksum.crc32c kept)) := by
  intro kept lost
  have hle : payload.length % 2 ^ 32 ≤ payload.length := Nat.mod_le _ _
  have henvelope : Envelope.decode (octets ⟨sealed e payload, payload⟩ ++ more) =
      .ok (sealed e payload) := by
    rw [octets, List.append_assoc]
    exact Envelope.decode_encode _ _
  have hbody : (octets ⟨sealed e payload, payload⟩ ++ more).drop Envelope.size =
      payload ++ more := by
    rw [octets, List.append_assoc, List.drop_left' (Envelope.length_encode _)]
  have hcomplete : ¬(payload.take (payload.length % 2 ^ 32)).length < payload.length % 2 ^ 32 := by
    rw [List.length_take]
    omega
  rw [decode_of_envelope henvelope (by rw [toNat_payloadLength_sealed]; omega), hbody,
    toNat_payloadLength_sealed]
  simp only [List.take_append_of_le_length hle, List.drop_append_of_le_length hle,
    if_neg hcomplete, ne_eq, ite_not]
  rfl

/-- If the reader gets back the payload, its length was in the field. -/
theorem length_lt_of_decode {e : Envelope} {rest : Bytes}
    (h : decode maxPayload written = .ok (some (⟨e, payload⟩, rest))) :
    payload.length < 2 ^ 32 := by
  have hlength : e.payloadLength.toNat = payload.length := (sound_of_decode h).1.length_eq
  have hfield : e.payloadLength.toNat < 2 ^ 32 := e.payloadLength.toNat_lt
  omega

/-- When the length that is written into an envelope is the length of the payload.

* A frame is written unless the payload exceeds the limit, which is the error.
* The envelope of a frame that is written, like that of a new request or response, tells the length
  modulo `2 ^ 32`; this is the true length exactly if it is below `2 ^ 32`.
* The reader, under the same limit, gets back the payload from the frame exactly in this case, and
  then it uses up the whole frame. Otherwise it never finds the payload, whatever follows the frame.

No length is lost under a limit below `2 ^ 32`. -/
theorem length_is_kept_iff (e : Envelope) (payload : Bytes) (maxPayload : Nat) :
    (∀ error, encode e payload maxPayload = .error error ↔
      maxPayload < payload.length ∧ error = .payloadTooLarge payload.length maxPayload) ∧
    (∀ written, encode e payload maxPayload = .ok written →
      ∃ envelope, Envelope.decode written = .ok envelope ∧
        envelope.payloadLength.toNat = payload.length % 2 ^ 32 ∧
        (envelope.payloadLength.toNat = payload.length ↔ payload.length < 2 ^ 32) ∧
        (decode maxPayload written = .ok (some (⟨envelope, payload⟩, [])) ↔
          payload.length < 2 ^ 32) ∧
        (¬payload.length < 2 ^ 32 → ∀ more envelope' rest,
          decode maxPayload (written ++ more) ≠ .ok (some (⟨envelope', payload⟩, rest)))) ∧
    (∀ systemId correlationId n,
      (Envelope.request systemId correlationId n).payloadLength.toNat = n % 2 ^ 32 ∧
        (e.responseTo n).payloadLength.toNat = n % 2 ^ 32 ∧ (n % 2 ^ 32 = n ↔ n < 2 ^ 32)) ∧
    (maxPayload < 2 ^ 32 → payload.length ≤ maxPayload → payload.length < 2 ^ 32) := by
  refine ⟨fun error => encode_eq_error_iff e, ?_, ?_, fun hlimit hmax => by omega⟩
  · intro written hwritten
    have hmax : payload.length ≤ maxPayload := by
      refine Nat.not_lt.1 fun hlt => ?_
      rw [(encode_eq_error_iff e).2 ⟨hlt, rfl⟩] at hwritten
      cases hwritten
    obtain rfl : octets ⟨sealed e payload, payload⟩ = written := by
      rw [encode_eq e hmax] at hwritten
      exact Except.ok.inj hwritten
    refine ⟨sealed e payload, Envelope.decode_encode _ _, toNat_payloadLength_sealed e payload, ?_,
      ?_, fun hlong more envelope' rest hfound => hlong (length_lt_of_decode hfound)⟩
    · rw [toNat_payloadLength_sealed]
      exact mod_field_eq_iff payload.length
    · constructor
      · exact length_lt_of_decode
      · intro hfield
        simpa using decode_octets (sound_sealed e hmax hfield) []
  · intro systemId correlationId n
    exact ⟨Envelope.toNat_payloadLength_request systemId correlationId n,
      e.toNat_payloadLength_responseTo n, mod_field_eq_iff n⟩

/-- The length of a short payload is kept under a limit that is far too large for the field. -/
theorem three_octets_keep_their_length :
    let e := Envelope.request 7 42 0
    ∃ envelope, encode e [1, 2, 3] (2 ^ 40) = .ok (envelope.encode ++ [1, 2, 3]) ∧
      envelope.payloadLength.toNat = 3 ∧
      decode (2 ^ 40) (envelope.encode ++ [1, 2, 3]) = .ok (some (⟨envelope, [1, 2, 3]⟩, [])) := by
  intro e
  have hwritten : encode e [1, 2, 3] (2 ^ 40) =
      .ok ((sealed e [1, 2, 3]).encode ++ [1, 2, 3]) := encode_eq e (by decide)
  obtain ⟨-, hkept, -⟩ := length_is_kept_iff e [1, 2, 3] (2 ^ 40)
  obtain ⟨envelope, hdecode, -, hlength, hread, -⟩ := hkept _ hwritten
  obtain rfl : sealed e [1, 2, 3] = envelope := by
    rw [Envelope.decode_encode] at hdecode
    exact Except.ok.inj hdecode
  exact ⟨_, hwritten, hlength.2 (by decide), hread.2 (by decide)⟩

/-- A payload of four gibibytes is written with the length zero, if the limit allows it, and is never
read again. The envelopes of a request and of a response to it have lost the length before that. -/
theorem four_gibibytes_lose_their_length :
    let payload : Bytes := List.replicate (2 ^ 32) 0
    let e := Envelope.request 1 1 (2 ^ 32)
    payload.length = 2 ^ 32 ∧ e.payloadLength = 0 ∧ (e.responseTo (2 ^ 32)).payloadLength = 0 ∧
      ∃ written envelope, encode e payload (2 ^ 32) = .ok written ∧
        Envelope.decode written = .ok envelope ∧ envelope.payloadLength = 0 ∧
        ∀ envelope' rest, decode (2 ^ 32) written ≠ .ok (some (⟨envelope', payload⟩, rest)) := by
  have hlength : (List.replicate (2 ^ 32) (0 : UInt8)).length = 2 ^ 32 := List.length_replicate
  -- Only the length of the payload matters, and nothing so large should be computed.
  generalize List.replicate (2 ^ 32) (0 : UInt8) = zeros at hlength ⊢
  intro payload e
  refine ⟨hlength, rfl, rfl, _, _, encode_eq e (Nat.le_of_eq hlength), Envelope.decode_encode _ _,
    ?_, ?_⟩
  · rw [← UInt32.toNat_inj, toNat_payloadLength_sealed, hlength]
    rfl
  · intro envelope' rest hfound
    have hlt : zeros.length < 2 ^ 32 := length_lt_of_decode hfound
    omega

end Frame

end RemoteCall
