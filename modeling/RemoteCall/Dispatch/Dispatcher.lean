import RemoteCall.Config
import RemoteCall.Dispatch.CompletionPool
/-!
# Dispatchers

A dispatcher makes the calls to one endpoint. It frames a call as a request with a fresh
correlation id, keeps the call in its table until the answer arrives, decodes the answer with
the codec of the caller, and hands the result to its completion pool.

The rules of resolution are these. A response counts only if it is addressed to the
dispatcher. Its body is decoded while the call is still in the table. Whatever is wrong with a
response concerns only the call it answers. Errors are brought into canonical form. A fault of
the connection resolves every outstanding call with the same error.
-/

namespace RemoteCall

/-- What a caller asks a dispatcher to call. -/
structure CallRequest where
  /-- The codec of the caller. -/
  codec : Codec
  /-- The name of the service. -/
  service : String
  /-- The name of the method. -/
  method : String
  /-- The argument. -/
  argument : Datum
  /-- The type of result that the caller expects. -/
  replyType : ReplyType

/-- A call that a dispatcher has accepted, with the message to be sent for it. -/
structure Admission where
  /-- The correlation id. -/
  id : UInt64
  /-- The mailbox in which the result will arrive. -/
  box : Nat
  /-- The envelope of the request. -/
  envelope : Envelope
  /-- The payload of the request. -/
  payload : Bytes

/-- What a transport does with a request that it is given. -/
inductive SendOutcome where
  /-- The request is on its way, and the answer will come later if at all. -/
  | queued
  /-- The transport takes the request and fails the call at once. -/
  | resolved (e : CallError)
  /-- The transport refuses the request. -/
  | rejected (e : CallError)
  deriving Repr, DecidableEq

/-- The state of a dispatcher. -/
structure Dispatcher where
  /-- The number of the dispatcher, which its messages carry. -/
  systemId : UInt64
  /-- The endpoint that it calls. -/
  endpoint : Endpoint
  /-- The correlation id that is handed out next. -/
  nextId : UInt64
  /-- The outstanding calls. -/
  calls : CallTable
  /-- The jobs of the completion workers. -/
  pool : CompletionPool
  /-- The mailboxes of all callers. -/
  mail : MailRoom Outcome
  /-- How many calls may be outstanding, if there is a limit. -/
  limit : Option Nat
  /-- Whether background work goes on, so that there are workers. -/
  running : Bool
  /-- Whether the dispatcher has not been dropped. -/
  live : Bool

namespace Dispatcher

/-- A new dispatcher. Correlation ids begin with one. -/
def start (systemId : UInt64) (endpoint : Endpoint) (config : DispatcherConfig) : Dispatcher :=
  { systemId
    endpoint
    nextId := 1
    calls := .empty
    pool := .start config.completionWorkers
    mail := .empty
    limit := config.maxOutstandingCalls
    running := true
    live := true }

/-- The number of outstanding calls. -/
def outstanding (d : Dispatcher) : Nat :=
  d.calls.size

/-- Hands out a correlation id. -/
def allocate (d : Dispatcher) : UInt64 × Dispatcher :=
  (d.nextId, { d with nextId := d.nextId + 1 })

/-! ## Resolution -/

/-- Delivers the result of a call to its mailbox. -/
def deliver (d : Dispatcher) (job : Completion) : Dispatcher :=
  { d with mail := d.mail.send job.call.box job.outcome }

/-- Hands a call with its result to a worker, or delivers the result at once if background
work has stopped. -/
def resolve (d : Dispatcher) (call : OutstandingCall) (outcome : Outcome) : Dispatcher :=
  let job : Completion := { call, outcome }
  if d.running then { d with pool := d.pool.submit job } else d.deliver job

/-- Takes a call out of the table and resolves it. Nothing happens if it is not there. -/
def complete (d : Dispatcher) (id : UInt64) (outcome : Outcome) : Dispatcher :=
  match d.calls.remove? id with
  | some (call, calls) => { d with calls }.resolve call outcome
  | none => d

/-- Resolves a call with a value. -/
def completeSuccess (d : Dispatcher) (id : UInt64) (reply : Reply) : Dispatcher :=
  d.complete id (.ok reply)

/-- Fails a call. -/
def completeError (d : Dispatcher) (id : UInt64) (e : CallError) : Dispatcher :=
  d.complete id (.error e.normalize)

/-- Fails every outstanding call with one error. -/
def completeAllError (d : Dispatcher) (e : CallError) : Dispatcher :=
  let (calls, table) := d.calls.drain
  calls.foldl (fun d call => d.resolve call (.error e.normalize)) { d with calls := table }

/-- What a response payload means for a call: a result, or the error that the call fails with.
A fault and a malformed header mean the same for every call. -/
def readResponse (call : OutstandingCall) (payload : Bytes) : Outcome :=
  match ResponseHeader.decode payload with
  | .error e => .error (.failure (.decode e.message))
  | .ok (header, body) =>
    if header.faulted then .error (decodeFault body) else call.decode body

/-- Takes in a message from the far end. Only responses to this dispatcher count. -/
def handleResponse (d : Dispatcher) (envelope : Envelope) (payload : Bytes) : Dispatcher :=
  if envelope.kind ≠ .response ∨ envelope.systemId ≠ d.systemId then d
  else
    let id := envelope.correlationId
    match d.calls.find? id with
    | none => d
    | some call =>
      -- The call is still in the table while its answer is read.
      match readResponse call payload with
      | .ok reply => d.completeSuccess id reply
      | .error e => d.completeError id e

/-- Resolving a call touches the queues and the mailboxes only. -/
theorem frame_resolve (d : Dispatcher) (call : OutstandingCall) (outcome : Outcome) :
    ∃ pool mail, d.resolve call outcome = { d with pool, mail } := by
  rw [resolve]
  split
  · exact ⟨_, d.mail, rfl⟩
  · exact ⟨d.pool, _, rfl⟩

/-- Completing a call touches the table, the queues and the mailboxes only. -/
theorem frame_complete (d : Dispatcher) (id : UInt64) (outcome : Outcome) :
    ∃ calls pool mail, d.complete id outcome = { d with calls, pool, mail } := by
  rw [complete]
  split
  next call calls _ =>
    obtain ⟨pool, mail, hresolve⟩ := frame_resolve { d with calls } call outcome
    exact ⟨calls, pool, mail, hresolve⟩
  next => exact ⟨d.calls, d.pool, d.mail, rfl⟩

/-- Failing every call touches the table, the queues and the mailboxes only. -/
theorem frame_completeAllError (d : Dispatcher) (e : CallError) :
    ∃ calls pool mail, d.completeAllError e = { d with calls, pool, mail } := by
  have hfold : ∀ (calls : List OutstandingCall) (d : Dispatcher), ∃ pool mail,
      calls.foldl (fun d call => d.resolve call (.error e.normalize)) d = { d with pool, mail } := by
    intro calls
    induction calls with
    | nil => exact fun d => ⟨d.pool, d.mail, rfl⟩
    | cons call calls ih =>
      intro d
      obtain ⟨pool, mail, hresolve⟩ := d.frame_resolve call (.error e.normalize)
      rw [List.foldl_cons, hresolve]
      exact ih { d with pool, mail }
  exact ⟨.empty, hfold d.calls.values { d with calls := .empty }⟩

/-- A message from the far end touches the table, the queues and the mailboxes only. -/
theorem frame_handleResponse (d : Dispatcher) (envelope : Envelope) (payload : Bytes) :
    ∃ calls pool mail, d.handleResponse envelope payload = { d with calls, pool, mail } := by
  rw [handleResponse]
  split
  · exact ⟨d.calls, d.pool, d.mail, rfl⟩
  · simp only
    split
    · exact ⟨d.calls, d.pool, d.mail, rfl⟩
    · split <;> exact frame_complete _ _ _

/-! ## Calls -/

/-- Accepts a call: encodes the request, checks the limit, and registers the call under a
fresh id. Nothing changes if the request cannot be encoded or the limit is reached. -/
def accept (d : Dispatcher) (request : CallRequest) : Except CallError Admission × Dispatcher :=
  -- Encoding comes first, so that what cannot be encoded is reported even at the limit.
  match encodeRequest request.codec request.service request.method request.argument with
  | .error e => (.error e, d)
  | .ok payload =>
    match d.limit.filter (· ≤ d.outstanding) with
    | some limit => (.error (.failure (.tooManyOutstandingCalls limit)), d)
    | none =>
      let (id, d) := d.allocate
      let call : OutstandingCall :=
        { id
          method := request.method
          codec := request.codec
          replyType := request.replyType
          box := d.mail.next }
      match d.calls.insert call with
      | .error e => (.error e, d)
      | .ok calls =>
        (.ok { id, box := call.box, envelope := .request d.systemId id payload.length, payload },
          { d with calls, mail := d.mail.opened })

/-- Takes note of what the transport did with the request of a call. -/
def noteSend (d : Dispatcher) (id : UInt64) : SendOutcome → Dispatcher
  | .queued => d
  | .resolved e | .rejected e => d.completeError id e

/-! ## Background work -/

/-- A worker delivers its next result. Nothing happens if it has none. -/
def runWorker (d : Dispatcher) (worker : Nat) : Dispatcher :=
  match d.pool.next? worker with
  | none => d
  | some job => { d with pool := d.pool.advance worker }.deliver job

/-- A worker touches the queues and the mailboxes only. -/
theorem frame_runWorker (d : Dispatcher) (worker : Nat) :
    ∃ pool mail, d.runWorker worker = { d with pool, mail } := by
  rw [runWorker]
  split
  · exact ⟨d.pool, d.mail, rfl⟩
  · exact ⟨_, _, rfl⟩

/-- The workers deliver all results that they have. -/
def runWorkers (d : Dispatcher) : Dispatcher :=
  d.pool.pending.foldl deliver { d with pool := d.pool.cleared }

/-- Background work stops: the workers are gone, and the results that they had are lost. -/
def stop (d : Dispatcher) : Dispatcher :=
  { d with
    running := false
    pool := d.pool.cleared
    mail := d.pool.pending.foldl (fun m job => m.close job.call.box) d.mail }

/-- Drops the dispatcher: every outstanding call fails, and no message reaches it any more. -/
def close (d : Dispatcher) : Dispatcher :=
  { d.completeAllError (.failure .dispatcherClosed) with live := false }

/-! ## The way back from a transport -/

/-- A transport delivers a message; also tells whether the dispatcher was still there. -/
def receive (d : Dispatcher) (envelope : Envelope) (payload : Bytes) : Bool × Dispatcher :=
  (d.live, if d.live then d.handleResponse envelope payload else d)

/-- A transport fails a call; also tells whether the dispatcher was still there. -/
def fail (d : Dispatcher) (id : UInt64) (e : CallError) : Bool × Dispatcher :=
  (d.live, if d.live then d.completeError id e else d)

/-- A transport fails every call; also tells whether the dispatcher was still there. -/
def failAll (d : Dispatcher) (e : CallError) : Bool × Dispatcher :=
  (d.live, if d.live then d.completeAllError e else d)

end Dispatcher

end RemoteCall
