import RemoteCall.CallError
import RemoteCall.Payload.ReplyType
import RemoteCall.Wire.Header
/-!
# Payload codecs

A payload codec turns arguments into octets and octets into results. Each caller picks its
own; a call is decoded with the codec that encoded it. Faults are always JSON, so that they
stay readable whatever codec the caller picked. The JSON codec gives no reason when it fails.
-/

namespace RemoteCall

/-- What a payload codec may be asked to encode. -/
inductive Datum where
  /-- A value with a JSON form. -/
  | json (value : Json)
  /-- A value that no codec can represent. -/
  | unencodable
  deriving Repr, DecidableEq

/-- A way to turn values into octets and back. -/
structure Codec where
  /-- The name of the codec. -/
  name : String
  /-- The octets of a value. -/
  encode : Datum → Except CodecError Bytes
  /-- The value of the given type that octets stand for. -/
  decode : (t : ReplyType) → Bytes → Except CodecError t.Carrier

namespace Codec

/-- The codec whose octets are the compact JSON text of a value. -/
def json : Codec where
  name := "json"
  encode
    | .json value => .ok value.write
    | .unencodable => .error (.encode "*")
  decode t bs :=
    match Json.readWhole t.read bs with
    | some x => .ok x
    | none => .error (.decode "*")

/-- A codec whose octets are those of another, each combined with a key by exclusive or. -/
def masked (name : String) (key : UInt8) (inner : Codec) : Codec where
  name
  encode x := (inner.encode x).map fun bs => bs.map (· ^^^ key)
  decode t bs := inner.decode t (bs.map (· ^^^ key))

/-- Decodes octets into a reply of the given type. -/
def decodeReply (c : Codec) (t : ReplyType) (bs : Bytes) : Except CallError Reply :=
  match c.decode t bs with
  | .ok x => .ok ⟨t, x⟩
  | .error e => .error (.ofCodec e)

end Codec

/-! ## Payloads -/

/-- The payload of a request: the header, and the argument as the codec encodes it. -/
def encodeRequest (c : Codec) (service method : String) (argument : Datum) :
    Except CallError Bytes :=
  match RequestHeader.encode { service, method } with
  | .error e => .error (.failure (.encode e.message))
  | .ok header =>
    match c.encode argument with
    | .error e => .error (.ofCodec e)
    | .ok body => .ok (header ++ body)

/-- The payload of a response with a result. -/
def encodeSuccess (c : Codec) (result : Datum) : Except CallError Bytes :=
  match c.encode result with
  | .error e => .error (.ofCodec e)
  | .ok body => .ok (ResponseHeader.flags { faulted := false } :: body)

/-- The payload of a response with a fault. -/
def encodeFault (fault : Fault) : Except CallError Bytes :=
  match Codec.json.encode (.json fault.toJson) with
  | .error e => .error (.ofCodec e)
  | .ok body => .ok (ResponseHeader.flags { faulted := true } :: body)

/-- The error that the body of a faulted response stands for. -/
def decodeFault (body : Bytes) : CallError :=
  match Codec.json.decode .fault body with
  | .ok fault => .ofFault fault
  | .error e => .ofCodec e

end RemoteCall
