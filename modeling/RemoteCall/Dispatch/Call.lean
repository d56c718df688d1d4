import RemoteCall.Dispatch.Mailbox
import RemoteCall.Payload.Codec
import RemoteCall.Table
/-!
# Outstanding calls

A call that has been sent is outstanding until its result is known. Its record says how the
answer is to be decoded and to which mailbox the result goes. Outstanding calls are kept in a
table by their correlation ids; a call leaves the table once, when it is removed or drained.
-/

namespace RemoteCall

/-- The result of a call. -/
abbrev Outcome := Except CallError Reply

/-- The record of a call that waits for its answer. -/
structure OutstandingCall where
  /-- The correlation id. -/
  id : UInt64
  /-- The name of the method. -/
  method : String
  /-- The codec that decodes the answer. -/
  codec : Codec
  /-- The type of result that the caller expects. -/
  replyType : ReplyType
  /-- The mailbox of the caller. -/
  box : Nat

namespace OutstandingCall

/-- Decodes the body of a successful answer. -/
def decode (c : OutstandingCall) (body : Bytes) : Except CallError Reply :=
  c.codec.decodeReply c.replyType body

end OutstandingCall

/-- The outstanding calls by correlation id. -/
abbrev CallTable := Table UInt64 OutstandingCall

namespace CallTable

/-- Registers a call under its id. A second call with an id is rejected, and the first stays
as it is. -/
def insert (t : CallTable) (c : OutstandingCall) : Except CallError CallTable :=
  match t.insert? c.id c with
  | some t => .ok t
  | none => .error (.failure (.duplicateCorrelationId c.id))

/-- Removes every call. -/
def drain (t : CallTable) : List OutstandingCall × CallTable :=
  (t.values, .empty)

end CallTable

/-! ## Futures -/

/-- What a caller finds when it looks for the result of its call. -/
inductive Arrival (t : ReplyType) where
  /-- There is no result yet. -/
  | pending
  /-- The result has the expected type. -/
  | value (x : t.Carrier)
  /-- The call failed. -/
  | error (e : CallError)
  /-- The result has another type. -/
  | mismatch
  /-- No result will come. -/
  | closed

/-- What a caller that expects a given type finds in its mailbox. -/
def Mailbox.arrival (t : ReplyType) : Mailbox Outcome → Arrival t
  | waiting => .pending
  | holding (.error e) => .error e
  | holding (.ok reply) =>
    match reply.as? t with
    | some x => .value x
    | none => .mismatch
  | closed | abandoned => .closed

/-- The outcome of a call for a caller that waits for it, if there is one. A mailbox that was
closed means that the dispatcher is gone, and a result of another type cannot be decoded. -/
def Arrival.outcome {t : ReplyType} : Arrival t → Option (Except CallError t.Carrier)
  | pending => none
  | value x => some (.ok x)
  | error e => some (.error e)
  | mismatch => some (.error (.failure (.decode s!"result is not a {t.name}")))
  | closed => some (.error (.failure .dispatcherClosed))

end RemoteCall
