import RemoteCall.Host.Directory
/-!
# Calls of a host

Callers make calls through handles and wait for the results, in-process services are
registered, and requests that handlers kept are answered or let go of.
-/

namespace RemoteCall.Host

/-- Gives a request to the transport of a dispatcher. -/
def send (h : Host) (node : Nat) (a : Admission) : SendOutcome × Host :=
  match h.nodes[node]? with
  | none => (.queued, h)
  | some { dispatcher, transport } =>
    let endpoint := dispatcher.endpoint.toText
    match transport with
    | .null => (.resolved (.failure (.notImplemented endpoint)), h)
    | .recorder r =>
      let (outcome, r) := r.send a.envelope a.payload
      (outcome, h.modifyTransport node fun _ => .recorder r)
    | .socket c dial closing =>
      match c.send a.envelope a.payload with
      | .error e => (.rejected e, h)
      | .ok c => (.queued, h.modifyTransport node fun _ => .socket c dial closing)
    | .inProcess =>
      match h.switchboard.find? dispatcher.endpoint with
      | none => (.rejected (.failure (.endpointNotFound endpoint)), h)
      | some handler =>
        if h.running then
          let responder : Responder := { request := a.envelope, endpoint }
          let task : Task := { node, responder, payload := a.payload, handler }
          (.queued, { h with tasks := h.tasks ++ [task] })
        else (.resolved (.failure (.noResponse endpoint)), h)

/-- Makes a call through a dispatcher. The result is the number of the future and the
correlation id. -/
def call (h : Host) (node : Nat) (request : CallRequest) :
    Except CallError (Nat × UInt64) × Host :=
  match h.onDispatcher node (Dispatcher.accept · request) with
  | none => (.error (.failure .dispatcherClosed), h)
  | some (.error e, h) => (.error e, h)
  | some (.ok a, h) =>
    -- The call is in the table before its request is sent, so that an answer finds it.
    let (outcome, h) := h.send node a
    let h := h.modifyDispatcher node (Dispatcher.noteSend · a.id outcome)
    let future : Future :=
      { node, box := a.box, id := a.id, type := request.replyType, status := .pending }
    (.ok (h.futures.length, a.id), { h with futures := h.futures ++ [future] })

/-! ## Futures -/

/-- The mailbox of a future. -/
def mailboxOf (h : Host) (f : Future) : Mailbox Outcome :=
  match h.nodes[f.node]? with
  | some n => n.dispatcher.mail.state f.box
  | none => .closed

/-- The outcome of a future, if the caller still waits and it is there. -/
def outcomeOf? (h : Host) (f : Future) : Option Outcome :=
  match f.status with
  | .pending =>
    ((h.mailboxOf f).arrival f.type).outcome.map fun r => r.map fun x => ⟨f.type, x⟩
  | _ => none

/-- The outcomes that have arrived, with the numbers of their futures. Each future reports its
outcome once. -/
def poll (h : Host) : List (Nat × Outcome) × Host :=
  let found := h.futures.zipIdx.filterMap fun (f, i) => (h.outcomeOf? f).map (i, ·)
  let futures := h.futures.map fun f =>
    if (h.outcomeOf? f).isSome then { f with status := .resolved } else f
  (found, { h with futures })

/-- Drops a future whose result has not arrived; returns its correlation id. -/
def dropFuture (h : Host) (future : Nat) : Option UInt64 × Host :=
  match h.futures[future]? with
  | some f =>
    if f.status = .pending then
      let h := h.modifyDispatcher f.node fun d => { d with mail := d.mail.abandon f.box }
      (some f.id,
        { h with futures := h.futures.set future { f with status := .dropped } })
    else (none, h)
  | none => (none, h)

/-! ## In-process services -/

/-- Registers a handler at an endpoint. -/
def register (h : Host) (e : Endpoint) (handler : Handler) : Except CallError Unit × Host :=
  match h.switchboard.register e handler with
  | .ok switchboard => (.ok (), { h with switchboard })
  | .error e => (.error e, h)

/-- Removes the handler at an endpoint; also tells whether there was one. -/
def unregister (h : Host) (e : Endpoint) : Bool × Host :=
  let (removed, switchboard) := h.switchboard.unregister e
  (removed, { h with switchboard })

/-- Takes a request out of those that handlers kept. -/
def takeHeld (h : Host) (number : Nat) : Option Held × Host :=
  (h.held[number]?.join, { h with held := h.held.set number none })

/-- Answers a request that a handler kept; nothing if it is not kept any more. -/
def answer (h : Host) (number : Nat) (a : Answer) : Option (Except CallError Bool) × Host :=
  match h.takeHeld number with
  | (none, h) => (none, h)
  | (some held, h) =>
    let (result, h) := h.respond held.node held.responder a
    (some result, h)

/-- Lets go of a request that a handler kept; also tells whether it was kept. -/
def dropHeld (h : Host) (number : Nat) : Bool × Host :=
  match h.takeHeld number with
  | (none, h) => (false, h)
  | (some held, h) => (true, h.release held.node held.responder)

/-! ## Recording transports -/

/-- The recorder of a dispatcher. -/
def recorder? (h : Host) (node : Nat) : Option Recorder :=
  match h.nodes[node]?.map Node.transport with
  | some (.recorder r) => some r
  | _ => none

/-- Changes the recorder of a dispatcher. -/
def modifyRecorder (h : Host) (node : Nat) (f : Recorder → Recorder) : Host :=
  h.modifyTransport node fun
    | .recorder r => .recorder (f r)
    | t => t

/-- What a dispatcher has sent through its recorder since it was last asked for, and how often
the recorder was closed. -/
def collectSent (h : Host) (node : Nat) : List Frame × Nat × Host :=
  match h.recorder? node with
  | some r => (r.sent, r.closings, h.modifyRecorder node fun r => { r with sent := [] })
  | none => ([], 0, h)

/-- Makes the recorder of a dispatcher fail, or stop failing. -/
def setSendFailure (h : Host) (node : Nat) (failure : Option CallError) : Host :=
  h.modifyRecorder node fun r => { r with failure }

/-! ## Reports -/

/-- What handlers have served since it was last asked for. -/
def takeServed (h : Host) : List Served × Host :=
  (h.served, { h with served := [] })

/-- The addresses that were connected to since they were last asked for. -/
def takeDialed (h : Host) : List String × Host :=
  (h.dialed, { h with dialed := [] })

/-- The numbers of outstanding calls behind the handles. -/
def outstandingCalls (h : Host) : List (Option Nat) :=
  h.handles.map fun handle => do
    let node ← h.nodes[(← handle).node]?
    return node.dispatcher.outstanding

end RemoteCall.Host
