import RemoteCall.Transport.InProcess
/-!
# Services

Small in-process services, to try out callers and transports with.
-/

namespace RemoteCall.Services

/-- The answer to a request that a service cannot read. -/
def badRequest (e : CallError) : Reaction :=
  .answer (.fault (.leaf "BadRequest" e.message))

/-- Answers with a result in JSON. -/
def result (value : Json) : Reaction :=
  .answer (.success .json (.json value))

/-- A service that answers with its argument, which must be a text. -/
def echo : Handler := fun _ payload =>
  match RequestHeader.decode payload with
  | .error e => badRequest (.failure (.wire e))
  | .ok (_, body) =>
    match Codec.json.decode .text body with
    | .ok text => result (.string text)
    | .error e => badRequest (.ofCodec e)

/-- A service that answers with what was asked of it. -/
def inspect : Handler := fun _ payload =>
  match RequestHeader.decode payload with
  | .ok (header, _) => result (.string s!"{header.service}.{header.method}")
  | .error e => result (.string e.message)

/-- The fault of arguments that are not valid. -/
def invalid (causes : List Fault) : Reaction :=
  .answer (.fault (.composite "validation failed" causes))

/-- Divides, rounding towards zero. -/
def divide (body : Bytes) : Reaction :=
  match Codec.json.decode .division body with
  | .error e => badRequest (.ofCodec e)
  | .ok d =>
    if d.rhs = 0 then invalid [.leaf "DivideByZero" "rhs was 0"]
    else result (ReplyType.toJson .quotient { value := d.lhs / d.rhs })

/-- A service that divides, validates and counts. -/
def calculator : Handler := fun _ payload =>
  match RequestHeader.decode payload with
  | .error _ => .answer (.raw [0xFF])
  | .ok (header, body) =>
    if header.method = "Divide" then divide body
    else if header.method = "Validate" then
      invalid [.leaf "Range" "lhs out of range",
        .composite "nested" [.leaf "Range" "rhs out of range"]]
    else if header.method = "Count" then result (.int 7)
    else .answer (.fault (.leaf "UnknownMethod" header.method))

/-- A service that reacts to every request in the same way. -/
def always (reaction : Reaction) : Handler := fun _ _ => reaction

end RemoteCall.Services
