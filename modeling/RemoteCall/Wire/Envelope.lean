import RemoteCall.Bytes
import RemoteCall.Wire.Error
/-!
# Envelopes

Every message begins with an envelope of 36 octets, whose layout is fixed:

| offset | width | field          |
|--------|-------|----------------|
| 0      | 4     | begin marker   |
| 4      | 4     | message kind   |
| 8      | 4     | payload length |
| 12     | 4     | checksum       |
| 16     | 8     | system id      |
| 24     | 8     | correlation id |
| 32     | 4     | end marker     |

A response repeats the system id and the correlation id of its request.
-/

namespace RemoteCall

/-- Whether a message is a call or the answer to one. -/
inductive MessageKind where
  /-- A call to a service. -/
  | request
  /-- The answer to a request. -/
  | response
  deriving Repr, DecidableEq

namespace MessageKind

/-- The number that stands for a kind. -/
def code : MessageKind → UInt32
  | request => 1
  | response => 2

/-- The name of a kind. -/
def name : MessageKind → String
  | request => "request"
  | response => "response"

/-- The kind that a number stands for. -/
def ofCode (w : UInt32) : Except WireError MessageKind :=
  if w = 1 then .ok request
  else if w = 2 then .ok response
  else .error (.unknownKind w)

end MessageKind

/-- The header of fixed layout in front of every payload. -/
structure Envelope where
  /-- Request or response. -/
  kind : MessageKind
  /-- The length of the payload. -/
  payloadLength : UInt32
  /-- The checksum of the payload; zero until the message is framed. -/
  checksum : UInt32
  /-- The dispatcher that made the call. -/
  systemId : UInt64
  /-- The call that is made or answered. -/
  correlationId : UInt64
  deriving Repr, DecidableEq

namespace Envelope

/-- The length of an envelope. -/
def size : Nat := 36

/-- The marker at the begin of an envelope. -/
def beginMagic : UInt32 := 0x59415250

/-- The marker at the end of an envelope. -/
def endMagic : UInt32 := 0x79617270

/-- The envelope of a new request. The length field holds 32 bits. -/
def request (systemId correlationId : UInt64) (payloadLength : Nat) : Envelope :=
  { kind := .request
    payloadLength := UInt32.ofNat payloadLength
    checksum := 0
    systemId
    correlationId }

/-- The envelope of an answer to a request. -/
def responseTo (e : Envelope) (payloadLength : Nat) : Envelope :=
  { kind := .response
    payloadLength := UInt32.ofNat payloadLength
    checksum := 0
    systemId := e.systemId
    correlationId := e.correlationId }

/-- The octets of an envelope. -/
def encode (e : Envelope) : Bytes :=
  Bytes.littleEndian 4 beginMagic.toNat ++
    (Bytes.littleEndian 4 e.kind.code.toNat ++
      (Bytes.littleEndian 4 e.payloadLength.toNat ++
        (Bytes.littleEndian 4 e.checksum.toNat ++
          (Bytes.littleEndian 8 e.systemId.toNat ++
            (Bytes.littleEndian 8 e.correlationId.toNat ++
              Bytes.littleEndian 4 endMagic.toNat)))))

/-- Writes an envelope over the begin of a buffer, which must have room for it. -/
def writeOver (e : Envelope) (buffer : Bytes) : Except WireError Bytes :=
  if buffer.length < size then .error (.insufficientData size buffer.length)
  else .ok (e.encode ++ buffer.drop size)

/-- Checks a marker. -/
def checkMagic (expected actual : UInt32) : Except WireError Unit :=
  if expected = actual then .ok () else .error (.badMagic expected actual)

/-- The 32-bit field at an offset. -/
def word (bs : Bytes) (offset : Nat) : UInt32 :=
  UInt32.ofNat (bs.field offset 4)

/-- Reads the envelope at the begin of an octet string; what follows it is not looked at. -/
def decode (bs : Bytes) : Except WireError Envelope :=
  if (bs.take size).length < size then .error (.insufficientData size bs.length)
  else do
    -- Both markers come before what lies between them.
    checkMagic beginMagic (word bs 0)
    checkMagic endMagic (word bs 32)
    let kind ← MessageKind.ofCode (word bs 4)
    return {
      kind
      payloadLength := word bs 8
      checksum := word bs 12
      systemId := UInt64.ofNat (bs.field 16 8)
      correlationId := UInt64.ofNat (bs.field 24 8) }

/-- An octet string without defect is at least as long as an envelope. -/
theorem size_le_of_decode {bs : Bytes} {e : Envelope} (h : decode bs = .ok e) :
    size ≤ bs.length := by
  rw [decode] at h
  split at h
  · cases h
  next hlen =>
    rw [List.length_take] at hlen
    omega

/-- What follows an envelope is not looked at. -/
theorem decode_append {bs : Bytes} (h : size ≤ bs.length) (more : Bytes) :
    decode (bs ++ more) = decode bs := by
  have hsize : size = 36 := rfl
  have hfield (offset width : Nat) (hw : offset + width ≤ 36) :
      Bytes.field (bs ++ more) offset width = Bytes.field bs offset width :=
    Bytes.field_append (by omega) more
  have hword (offset : Nat) (hw : offset + 4 ≤ 36) : word (bs ++ more) offset = word bs offset := by
    rw [word, word, hfield offset 4 hw]
  rw [decode, decode, List.take_append_of_le_length h, hword 0 (by omega), hword 32 (by omega),
    hword 4 (by omega), hword 8 (by omega), hword 12 (by omega), hfield 16 8 (by omega),
    hfield 24 8 (by omega)]
  have hlong : ¬(bs.take size).length < size := by rw [List.length_take]; omega
  rw [if_neg hlong, if_neg hlong]

/-- An envelope is 36 octets long. -/
@[simp]
theorem length_encode (e : Envelope) : e.encode.length = size := by
  simp [encode, size]

end Envelope

end RemoteCall
