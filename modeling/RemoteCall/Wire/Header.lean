import RemoteCall.Text.Utf8
import RemoteCall.Wire.Error
/-!
# Headers

The payload of a request begins with the names of the service and of the method, each as a
length of sixteen bits and that many octets of UTF-8. The payload of a response begins with
an octet of flags, whose lowest bit marks a fault. What follows a header is its body.
-/

namespace RemoteCall

/-- What a request addresses. -/
structure RequestHeader where
  /-- The name of the service. -/
  service : String
  /-- The name of the method of that service. -/
  method : String
  deriving Repr, DecidableEq

namespace RequestHeader

/-- The longest name in octets. -/
def maxName : Nat := 65535

/-- The field that holds the name of the service. -/
def serviceField : String := "service_name"

/-- The field that holds the name of the method. -/
def methodField : String := "service_method"

/-- The octets of a name: its length, then its UTF-8. -/
def encodeName (field name : String) : Except WireError Bytes :=
  let text := Utf8.encode name
  if maxName < text.length then
    .error (.invalidField field s!"{text.length} bytes exceeds {maxName}")
  else .ok (Bytes.littleEndian 2 text.length ++ text)

/-- Reads a name, and returns it with what follows it. -/
def decodeName (field : String) (bs : Bytes) : Except WireError (String × Bytes) :=
  if bs.length < 2 then .error (.insufficientData 2 bs.length)
  else
    -- What is needed counts from the length field on, and so does what is available.
    let length := bs.field 0 2
    let body := bs.drop 2
    if body.length < length then .error (.insufficientData (length + 2) bs.length)
    else
      match Utf8.decode (body.take length) with
      | .ok name => .ok (name, body.drop length)
      | .error defect => .error (.invalidField field defect.message)

/-- The octets of a header. -/
def encode (h : RequestHeader) : Except WireError Bytes := do
  let service ← encodeName serviceField h.service
  let method ← encodeName methodField h.method
  return service ++ method

/-- Reads a header, and returns it with the body that follows it. -/
def decode (bs : Bytes) : Except WireError (RequestHeader × Bytes) := do
  let (service, rest) ← decodeName serviceField bs
  let (method, body) ← decodeName methodField rest
  return ({ service, method }, body)

end RequestHeader

/-- What the flags of a response say. -/
structure ResponseHeader where
  /-- The body is a fault, not a result. -/
  faulted : Bool
  deriving Repr, DecidableEq

namespace ResponseHeader

/-- The octet of flags. -/
def flags (h : ResponseHeader) : UInt8 :=
  if h.faulted then 1 else 0

/-- Reads a header, and returns it with the body that follows it. All flags but the lowest
are unknown. -/
def decode : Bytes → Except WireError (ResponseHeader × Bytes)
  | [] => .error (.insufficientData 1 0)
  | flags :: body =>
    if flags &&& ~~~1 ≠ 0 then
      .error (.invalidField "flags" s!"unknown bits 0x{Text.paddedHexadecimal 2 flags.toNat}")
    else .ok ({ faulted := flags &&& 1 ≠ 0 }, body)

end ResponseHeader

end RemoteCall
