import RemoteCall.Proofs.Host.Session
/-!
# Sessions in one process

Here a session goes through a dispatcher with the in-process transport, and a handler of the same
host answers every request. Requests wait for the handler as tasks, which run in any order between
the calls and the turns of the completion workers. The tasks are the requests that have not been
answered (`LocalService.Holds`).
-/

namespace RemoteCall

/-- The handler that answers every request with what a function makes of its payload. -/
def Handler.answering (F : Bytes → Bytes) : Handler :=
  fun _ payload => .answer (.raw (F payload))

/-- A host on which such a handler is registered at an endpoint, and for which a dispatcher will
be built that calls it. -/
structure LocalService (F : Bytes → Bytes) where
  /-- The host before the dispatcher is built. -/
  host : Host
  /-- The endpoint of the handler. -/
  endpoint : Endpoint
  /-- Background work goes on. -/
  running : host.running = true
  /-- New dispatchers accept any number of calls. -/
  unlimited : host.config.maxOutstandingCalls = none
  /-- No other request is on its way to a handler. -/
  idle : host.tasks = []
  /-- The handler is registered. -/
  registered : host.switchboard.find? endpoint = some (Handler.answering F)

/-- The request of a call on its way to the handler. -/
def Posting.task (F : Bytes → Bytes) (node : Nat) (endpoint : Endpoint) (x : Posting) : Task :=
  { node
    responder := { request := x.admission.envelope, endpoint := endpoint.toText }
    payload := x.admission.payload
    handler := .answering F }

/-- The handler answers the request of a call. -/
theorem Host.serve_task {h : Host} {node : Nat} {n : Node} (hnode : h.nodes[node]? = some n)
    (hlive : n.dispatcher.live = true) (F : Bytes → Bytes) (endpoint : Endpoint) (x : Posting) :
    ∃ served, h.serve (x.task F node endpoint) =
      { h.modifyDispatcher node fun _ =>
          n.dispatcher.handleResponse
            (x.admission.envelope.responseTo (F x.admission.payload).length)
            (F x.admission.payload) with
        served } := by
  simp only [serve, react, Posting.task, Handler.answering, respond, onDispatcher, hnode,
    Option.map_some, Option.getD_some, Responder.respond, Answer.payload, Dispatcher.receive, hlive,
    if_true]
  exact ⟨_, rfl⟩

namespace LocalService

/-- A turn in a session. -/
inductive Turn where
  /-- A caller makes a call. -/
  | call (request : CallRequest)
  /-- A task runs. -/
  | serve (task : Nat)
  /-- A completion worker delivers its next result. -/
  | work (worker : Nat)

variable {F : Bytes → Bytes}

/-- The number of the dispatcher. -/
def node (s : LocalService F) : Nat :=
  s.host.nodes.length

/-- The session before the first call. -/
def opened (s : LocalService F) : Session :=
  { host := (s.host.build .inProcess s.endpoint).2, returned := [] }

/-- The session after one more turn. -/
def turn (s : LocalService F) (c : Session) : Turn → Session
  | .call request => c.call s.node request
  | .serve task =>
    match c.host.tasks[task]? with
    | some t => { c with host := { c.host with tasks := c.host.tasks.eraseIdx task }.serve t }
    | none => c
  | .work worker =>
    { c with host := c.host.modifyDispatcher s.node fun d => d.runWorker worker }

/-- The session after some turns. -/
def run (s : LocalService F) (turns : List Turn) : Session :=
  turns.foldl s.turn s.opened

/-- What holds after the calls of a log, of which those in flight have not been answered. -/
structure Holds (s : LocalService F) (c : Session) (d : Dispatcher) (log : CallLog)
    (inFlight : List Posting) : Prop where
  /-- The callers and the dispatcher are in order. -/
  serves : c.Serves F s.node d log inFlight
  /-- The dispatcher has the in-process transport. -/
  node_eq : c.host.nodes[s.node]? = some { dispatcher := d, transport := .inProcess }
  /-- It calls the endpoint of the handler. -/
  endpoint_eq : d.endpoint = s.endpoint
  /-- Background work goes on. -/
  running : c.host.running = true
  /-- The same handlers are registered. -/
  switchboard_eq : c.host.switchboard = s.host.switchboard
  /-- The tasks are the requests in flight. -/
  tasks_eq : c.host.tasks = inFlight.map (Posting.task F s.node s.endpoint)

namespace Holds

variable {s : LocalService F} {c : Session} {d : Dispatcher} {log : CallLog}
  {inFlight : List Posting}

/-- The request of a call that is accepted waits as a task. -/
theorem send (h : s.Holds c d log inFlight) {request : CallRequest} {a : Admission}
    {d' : Dispatcher} (haccepts : d.Accepts request a d') :
    (c.host.modifyDispatcher s.node fun _ => d').send s.node a =
      (.queued, { c.host.modifyDispatcher s.node fun _ => d' with
        tasks := c.host.tasks ++ [Posting.task F s.node s.endpoint ⟨request, a⟩] }) := by
  have hnode : (c.host.modifyDispatcher s.node fun _ => d').nodes[s.node]? =
      some { dispatcher := d', transport := .inProcess } :=
    Host.nodes_modifyNode h.node_eq _
  have hendpoint : d'.endpoint = s.endpoint := by
    obtain ⟨calls, rfl, -⟩ := haccepts.state_eq
    exact h.endpoint_eq
  have hhandler : c.host.switchboard.find? s.endpoint = some (Handler.answering F) := by
    rw [h.switchboard_eq]
    exact s.registered
  have hrunning : (c.host.modifyDispatcher s.node fun _ => d').running = true := h.running
  have hswitchboard : (c.host.modifyDispatcher s.node fun _ => d').switchboard =
      c.host.switchboard := rfl
  rw [Host.send, hnode]
  simp only [hendpoint, hswitchboard, hhandler, hrunning, if_true]
  rfl

/-- A call is refused, or one more request is in flight. -/
theorem call (h : s.Holds c d log inFlight) (request : CallRequest) :
    ∃ d' r inFlight', s.Holds (c.call s.node request) d' (log ++ [(request, r)]) inFlight' := by
  cases haccept : d.accept request with
  | mk r d' =>
    cases r with
    | error e =>
      have hrefuses := Dispatcher.refuses_of_accept haccept
      refine ⟨d', .error e, inFlight, ?_⟩
      rw [Session.call, Host.call_of_refused h.node_eq haccept]
      refine ⟨h.serves.call_of_refused _ rfl hrefuses, Host.nodes_modifyNode h.node_eq _, ?_,
        h.running, h.switchboard_eq, h.tasks_eq⟩
      cases hrefuses <;> exact h.endpoint_eq
    | ok a =>
      have haccepts := Dispatcher.accepts_of_accept haccept
      refine ⟨d', .ok a, inFlight ++ [⟨request, a⟩], ?_⟩
      rw [Session.call, Host.call_of_queued h.node_eq haccept (h.send haccepts)]
      refine ⟨h.serves.call_of_accepted _ rfl haccepts, Host.nodes_modifyNode h.node_eq _, ?_,
        h.running, h.switchboard_eq, ?_⟩
      · obtain ⟨calls, rfl, -⟩ := haccepts.state_eq
        exact h.endpoint_eq
      · rw [List.map_append, ← h.tasks_eq]
        rfl

/-- A task that runs answers a request in flight. -/
theorem serve (h : s.Holds c d log inFlight) (task : Nat) :
    ∃ d' inFlight', s.Holds (s.turn c (.serve task)) d' log inFlight' := by
  rw [turn]
  split
  next t ht =>
    -- The task is the request of a call in flight; which one does not matter.
    rw [h.tasks_eq, List.getElem?_map, Option.map_eq_some_iff] at ht
    obtain ⟨x, hx, rfl⟩ := ht
    have hserves := h.serves.perm (perm_cons_eraseIdx hx)
    have hnode : ({ c.host with tasks := c.host.tasks.eraseIdx task } : Host).nodes[s.node]? =
        some { dispatcher := d, transport := .inProcess } := h.node_eq
    obtain ⟨served, hserve⟩ := Host.serve_task hnode h.serves.exchange.live F s.endpoint x
    rw [hserve]
    refine ⟨_, inFlight.eraseIdx task, hserves.answer _ rfl, Host.nodes_modifyNode h.node_eq _, ?_,
      h.running, h.switchboard_eq, ?_⟩
    · obtain ⟨calls, pool, mail, hframe⟩ := d.frame_handleResponse
        (x.admission.envelope.responseTo (F x.admission.payload).length) (F x.admission.payload)
      rw [hframe]
      exact h.endpoint_eq
    · rw [← List.eraseIdx_map, ← h.tasks_eq]
      rfl
  next => exact ⟨d, inFlight, h⟩

/-- A completion worker answers no request. -/
theorem work (h : s.Holds c d log inFlight) (worker : Nat) :
    s.Holds (s.turn c (.work worker)) (d.runWorker worker) log inFlight := by
  refine ⟨h.serves.work worker _ rfl, Host.nodes_modifyNode h.node_eq _, ?_, h.running,
    h.switchboard_eq, h.tasks_eq⟩
  obtain ⟨pool, mail, hframe⟩ := d.frame_runWorker worker
  rw [hframe]
  exact h.endpoint_eq

end Holds

end LocalService

end RemoteCall
