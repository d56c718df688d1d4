import RemoteCall.Dispatch.Dispatcher
/-!
# In-process transport

A switchboard connects endpoints with handlers. A request to an endpoint goes to the handler
that is registered there when it is sent, as envelope and payload, without framing. The
handler reacts to it: it answers, now or later, or lets go of the request. A request that is
let go of fails its call, so that every call is resolved.
-/

namespace RemoteCall

/-- An answer to a request. -/
inductive Answer where
  /-- A response payload, taken as it is. -/
  | raw (payload : Bytes)
  /-- A result, encoded by a codec. -/
  | success (codec : Codec) (result : Datum)
  /-- A fault. -/
  | fault (f : Fault)

namespace Answer

/-- The payload of an answer. -/
def payload : Answer → Except CallError Bytes
  | raw payload => .ok payload
  | success codec result => encodeSuccess codec result
  | fault f => encodeFault f

end Answer

/-- How a handler reacts to a request. -/
inductive Reaction where
  /-- It answers. -/
  | answer (a : Answer)
  /-- It lets go of the request. -/
  | drop
  /-- It breaks off, which lets go of the request. -/
  | panic
  /-- It keeps the request, to answer it later or to let go of it later. -/
  | hold

/-- A handler reacts to the envelope and the payload of a request. -/
abbrev Handler := Envelope → Bytes → Reaction

/-- The handlers by endpoint. -/
abbrev Switchboard := Table Endpoint Handler

namespace Switchboard

/-- Registers a handler, unless there is one at the endpoint. -/
def register (s : Switchboard) (e : Endpoint) (h : Handler) : Except CallError Switchboard :=
  match s.insert? e h with
  | some s => .ok s
  | none => .error (.failure (.endpointInUse e.toText))

/-- Removes the handler at an endpoint; also tells whether there was one. -/
def unregister (s : Switchboard) (e : Endpoint) : Bool × Switchboard :=
  (s.contains e, s.erase e)

end Switchboard

/-- The way back from a handler to the dispatcher that sent a request. It can be used once. -/
structure Responder where
  /-- The envelope of the request. -/
  request : Envelope
  /-- The endpoint that the request was sent to. -/
  endpoint : String
  deriving Repr, DecidableEq

namespace Responder

/-- Lets go of the request: its call fails. -/
def release (r : Responder) (d : Dispatcher) : Dispatcher :=
  (d.fail r.request.correlationId (.failure (.noResponse r.endpoint))).2

/-- Answers the request. The result tells whether the dispatcher was still there. An answer
that cannot be encoded lets go of the request. -/
def respond (r : Responder) (a : Answer) (d : Dispatcher) : Except CallError Bool × Dispatcher :=
  match a.payload with
  | .error e => (.error e, r.release d)
  | .ok payload =>
    let (delivered, d) := d.receive (r.request.responseTo payload.length) payload
    (.ok delivered, d)

end Responder

end RemoteCall
