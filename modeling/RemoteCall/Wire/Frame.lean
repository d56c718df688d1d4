import RemoteCall.Wire.Checksum
import RemoteCall.Wire.Envelope
/-!
# Frames

A frame is an envelope followed by its payload. `Frame.encode` fills in the length and the
checksum of the payload. `Frame.decode` reads the frame at the begin of an octet string: it
finds a frame, asks for more octets, or reports a defect, after which the stream cannot be
brought into step again. `Frame.decodeAll` reads frames until one of the other two happens.
`Frame.shortage` tells how many octets must come before it is worth looking again: until then
there is neither a frame nor a defect.
-/

namespace RemoteCall

/-- An envelope and its payload. -/
structure Frame where
  /-- The envelope. -/
  envelope : Envelope
  /-- The payload. -/
  payload : Bytes
  deriving Repr, DecidableEq

namespace Frame

/-- The largest payload that is accepted by default. -/
def defaultMaxPayload : Nat := 16 * 1024 * 1024

/-- The envelope with the length and the checksum of a payload. The length field holds 32
bits. -/
def sealed (e : Envelope) (payload : Bytes) : Envelope :=
  { e with
    payloadLength := UInt32.ofNat payload.length
    checksum := Checksum.crc32c payload }

/-- The octets of a frame, unless the payload exceeds the limit. -/
def encode (e : Envelope) (payload : Bytes) (maxPayload : Nat) : Except WireError Bytes :=
  if maxPayload < payload.length then
    .error (.payloadTooLarge payload.length maxPayload)
  else .ok ((sealed e payload).encode ++ payload)

/-- Reads the frame at the begin of an octet string, and returns it with what follows it.
Nothing is returned while octets are missing. -/
def decode (maxPayload : Nat) (data : Bytes) : Except WireError (Option (Frame × Bytes)) :=
  if (data.take Envelope.size).length < Envelope.size then .ok none
  else do
    let envelope ← Envelope.decode data
    let length := envelope.payloadLength.toNat
    -- The length is judged before the payload has arrived.
    if maxPayload < length then
      throw (.payloadTooLarge length maxPayload)
    let body := data.drop Envelope.size
    let payload := body.take length
    if payload.length < length then
      return none
    let computed := Checksum.crc32c payload
    if computed ≠ envelope.checksum then
      throw (.checksumMismatch envelope.checksum computed)
    return some (⟨envelope, payload⟩, body.drop length)

/-- The outcome of reading frames until no more can be read. -/
structure Stream where
  /-- The frames read, in order. -/
  frames : List Frame
  /-- What follows them. -/
  rest : Bytes
  /-- The defect found at the begin of the rest, if it is not just cut off. -/
  error? : Option WireError
  deriving Repr, DecidableEq

/-- Reads at most `count` frames from the begin of an octet string. -/
def decodeUpTo (maxPayload : Nat) : (count : Nat) → Bytes → Stream
  | 0, data => ⟨[], data, none⟩
  | count + 1, data =>
    match decode maxPayload data with
    | .error e => ⟨[], data, some e⟩
    | .ok none => ⟨[], data, none⟩
    | .ok (some (frame, rest)) =>
      let stream := decodeUpTo maxPayload count rest
      { stream with frames := frame :: stream.frames }

/-- Reads frames from the begin of an octet string until octets are missing or a defect is
found. Each frame takes at least one octet, so the length bounds their number. -/
def decodeAll (maxPayload : Nat) (data : Bytes) : Stream :=
  decodeUpTo maxPayload (data.length + 1) data

/-- How many octets must at least follow an octet string before the frame at its begin is
complete or shows a defect. -/
def shortage (maxPayload : Nat) (data : Bytes) : Nat :=
  match Envelope.decode data with
  | .ok envelope =>
    if maxPayload < envelope.payloadLength.toNat then 0
    else Envelope.size + envelope.payloadLength.toNat - data.length
  | .error _ => Envelope.size - data.length

/-- While octets are missing there is neither a frame nor a defect. -/
theorem decode_eq_none_of_shortage {maxPayload : Nat} {data : Bytes}
    (h : 0 < shortage maxPayload data) : decode maxPayload data = .ok none := by
  rw [shortage] at h
  split at h
  next envelope he =>
    have hsize := Envelope.size_le_of_decode he
    split at h
    · omega
    next hmax =>
      have hcut : ((data.drop Envelope.size).take envelope.payloadLength.toNat).length <
          envelope.payloadLength.toNat := by
        rw [List.length_take, List.length_drop]
        omega
      have hlong : ¬(data.take Envelope.size).length < Envelope.size := by
        rw [List.length_take]
        omega
      rw [decode, if_neg hlong, he]
      simp only [bind, Except.bind, if_neg hmax, if_pos hcut, pure, Except.pure]
  next => rw [decode, if_pos (by rw [List.length_take]; omega)]

/-- Octets that leave the frame incomplete reduce what is missing by their number. -/
theorem shortage_append {maxPayload : Nat} {data more : Bytes}
    (h : more.length < shortage maxPayload data) :
    shortage maxPayload (data ++ more) = shortage maxPayload data - more.length := by
  by_cases hsize : Envelope.size ≤ data.length
  · rw [shortage, shortage, Envelope.decode_append hsize, List.length_append]
    split
    · split <;> omega
    · omega
  · have hshort (bs : Bytes) (hbs : bs.length < Envelope.size) :
        shortage maxPayload bs = Envelope.size - bs.length := by
      rw [shortage, Envelope.decode, if_pos (by rw [List.length_take]; omega)]
    rw [hshort data (by omega)] at h ⊢
    rw [hshort (data ++ more) (by rw [List.length_append]; omega), List.length_append]
    omega

/-- The length of a frame. -/
def length (f : Frame) : Nat :=
  Envelope.size + f.payload.length

end Frame

end RemoteCall
