import RemoteCall.Text.Quoted
/-!
# Wire errors

What can be wrong with octets that should hold an envelope, a frame or a header.
-/

namespace RemoteCall

/-- A defect of received octets, or of a message that should be sent. -/
inductive WireError where
  /-- There are `available` octets where at least `needed` are required. -/
  | insufficientData (needed available : Nat)
  /-- A marker of the envelope differs; the stream is out of step. -/
  | badMagic (expected actual : UInt32)
  /-- The kind of the message is neither request nor response. -/
  | unknownKind (kind : UInt32)
  /-- The checksum in the envelope, `expected`, is not that of the payload, `actual`. -/
  | checksumMismatch (expected actual : UInt32)
  /-- A payload of `size` octets exceeds the limit. -/
  | payloadTooLarge (size max : Nat)
  /-- A field of a header is malformed. -/
  | invalidField (field reason : String)
  deriving Repr, DecidableEq

namespace WireError

/-- A word in eight hexadecimal digits. -/
def wordText (w : UInt32) : String :=
  "0x" ++ Text.paddedHexadecimal 8 w.toNat

/-- The description of a wire error. -/
def message : WireError → String
  | insufficientData needed available => s!"insufficient data: need {needed} bytes, have {available}"
  | badMagic expected actual =>
    s!"bad magic number: expected {wordText expected}, got {wordText actual}"
  | unknownKind kind => s!"unknown message kind: {kind.toNat}"
  | checksumMismatch expected actual =>
    s!"checksum mismatch: expected {wordText expected}, got {wordText actual}"
  | payloadTooLarge size max => s!"payload too large: {size} bytes (max {max})"
  | invalidField field reason => s!"invalid header field {field}: {reason}"

end WireError

end RemoteCall
