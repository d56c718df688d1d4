import Mathlib.Data.List.Basic
import RemoteCall.Host.Calls
import RemoteCall.Proofs.Dispatch.Signal
/-!
# Turns of a host

Any number of dispatchers live in a host. Callers, handlers, the network, the completion workers
and the owners of dispatchers take turns in any order. An act is a turn that concerns one
dispatcher; the other turns build dispatchers, change the switchboard, or stop the background work.
Every turn is made of operations of the host.

The share of a dispatcher (`Host.Share`) is all that belongs to it: the dispatcher with its
transport, its requests on their way to handlers or kept by handlers, and the futures of its
calls. Beyond that little of a host matters to a dispatcher (`Host.Surroundings`).
-/

namespace RemoteCall

/-! ## Acts -/

namespace Host

/-- A turn that concerns one dispatcher. The numbers of requests count those of the dispatcher. -/
inductive Act where
  /-- A caller makes a call. -/
  | call (request : CallRequest)
  /-- A signal reaches the dispatcher. -/
  | signal (s : Signal)
  /-- Somebody asks for a correlation id. -/
  | allocate
  /-- The owners let go of the dispatcher. -/
  | drop
  /-- A completion worker delivers its next result. -/
  | work (worker : Nat)
  /-- Something happens to the connection. -/
  | event (event : Connection.Event)
  /-- A handler gets a request. -/
  | serve (request : Nat)
  /-- A handler gets a request and reacts to it in a way that depends on more than the request. -/
  | react (request : Nat) (reaction : Reaction)
  /-- A request is let go of before a handler gets it. -/
  | discard (request : Nat)
  /-- A request that a handler kept is answered. -/
  | answer (request : Nat) (a : Answer)
  /-- A request that a handler kept is let go of. -/
  | letGo (request : Nat)

end Host

/-- Whether an act can happen. The callers and the owners of a dispatcher are gone once it has been
dropped, and its connection is shut down only after that. -/
def Node.allows (n : Node) : Host.Act → Bool
  | .call _ | .signal _ | .allocate | .drop => n.dispatcher.live
  | .event .shutDown =>
    match n.transport with
    | .socket _ _ closing => closing
    | _ => false
  | _ => true

/-- Whether a request is one of a dispatcher. -/
def Task.isOf (node : Nat) (t : Task) : Bool :=
  t.node == node

/-- Whether a place keeps a request of a dispatcher. -/
def Held.isOf (node : Nat) (place : Option Held) : Bool :=
  place.any fun x => x.node == node

/-- Whether a future is one of a call of a dispatcher. -/
def Future.isOf (node : Nat) (f : Future) : Bool :=
  f.node == node

namespace Host

/-- Where the request with a number among those of a dispatcher waits for a handler. -/
def taskIndex (h : Host) (node request : Nat) : Nat :=
  h.tasks.findIdxNth (Task.isOf node) request

/-- Where the request with a number among those of a dispatcher is kept. -/
def heldIndex (h : Host) (node request : Nat) : Nat :=
  h.held.findIdxNth (Held.isOf node) request

/-- Takes out the request with a number among those of a dispatcher that wait for a handler, and
goes on with it. Nothing happens if there are not as many. -/
def withTask (h : Host) (node request : Nat) (f : Host → Task → Host) : Host :=
  match h.tasks[h.taskIndex node request]? with
  | none => h
  | some task => f { h with tasks := h.tasks.eraseIdx (h.taskIndex node request) } task

/-- One turn that concerns a dispatcher. -/
def act (h : Host) (node : Nat) (a : Act) : Host :=
  match h.nodes[node]? with
  | none => h
  | some n =>
    if !n.allows a then h
    else
      match a with
      | .call request => (h.call node request).2
      | .signal s => h.modifyDispatcher node fun d => d.take s
      | .allocate => h.modifyDispatcher node fun d => d.allocate.2
      | .drop => h.reclaim node
      | .work worker => h.modifyDispatcher node fun d => d.runWorker worker
      | .event event => h.dialEvent node event
      | .serve request => h.withTask node request serve
      | .react request reaction => h.withTask node request fun h task => h.react task reaction
      | .discard request =>
        h.withTask node request fun h task => h.release node task.responder
      | .answer request a => (h.answer (h.heldIndex node request) a).2
      | .letGo request => (h.dropHeld (h.heldIndex node request)).2

/-- An act of a dispatcher that is there. -/
theorem act_of_allows {h : Host} {node : Nat} {n : Node} (hnode : h.nodes[node]? = some n) {a : Act}
    (hallows : n.allows a = true) :
    h.act node a = match a with
      | .call request => (h.call node request).2
      | .signal s => h.modifyDispatcher node fun d => d.take s
      | .allocate => h.modifyDispatcher node fun d => d.allocate.2
      | .drop => h.reclaim node
      | .work worker => h.modifyDispatcher node fun d => d.runWorker worker
      | .event event => h.dialEvent node event
      | .serve request => h.withTask node request serve
      | .react request reaction => h.withTask node request fun h task => h.react task reaction
      | .discard request =>
        h.withTask node request fun h task => h.release node task.responder
      | .answer request a => (h.answer (h.heldIndex node request) a).2
      | .letGo request => (h.dropHeld (h.heldIndex node request)).2 := by
  unfold act
  rw [hnode]
  simp only [hallows, Bool.not_true, Bool.false_eq_true, if_false]
  cases a <;> rfl

/-- An act of a dispatcher that is not there, or one that cannot happen, changes nothing. -/
theorem act_eq_self_or_allows (h : Host) (node : Nat) (a : Act) :
    h.act node a = h ∨ ∃ n, h.nodes[node]? = some n ∧ n.allows a = true := by
  cases hnode : h.nodes[node]? with
  | none =>
    left
    unfold act
    rw [hnode]
  | some n =>
    by_cases hallows : n.allows a = true
    · exact .inr ⟨n, rfl, hallows⟩
    · left
      unfold act
      rw [hnode]
      exact if_pos (by simpa using hallows)

/-- A turn. -/
inductive Turn where
  /-- A dispatcher is built, with settings of its own. -/
  | build (b : TransportBuilder) (e : Endpoint) (config : DispatcherConfig)
      (connections : ConnectionConfig)
  /-- A handler is registered at an endpoint. -/
  | register (e : Endpoint) (handler : Handler)
  /-- The handler at an endpoint is removed. -/
  | unregister (e : Endpoint)
  /-- Background work stops for good. -/
  | stop
  /-- A turn concerns one dispatcher. -/
  | act (node : Nat) (a : Act)

/-- One turn. -/
def turn (h : Host) : Turn → Host
  | .build b e config connections => ({ h with config, connections }.build b e).2
  | .register e handler => (h.register e handler).2
  | .unregister e => (h.unregister e).2
  | .stop => h.stop
  | .act node a => h.act node a

/-- Several turns. -/
def run (h : Host) (turns : List Turn) : Host :=
  turns.foldl turn h

theorem run_append (h : Host) (turns more : List Turn) :
    h.run (turns ++ more) = (h.run turns).run more :=
  List.foldl_append

/-- What is collected turn by turn is collected in the first turns and then in the others. -/
theorem collected_append {α : Type} (inRun : Host → List Turn → List α)
    (inTurn : Host → Turn → List α) (hnil : ∀ h, inRun h [] = [])
    (hcons : ∀ h t turns, inRun h (t :: turns) = inTurn h t ++ inRun (h.turn t) turns) (h : Host)
    (turns more : List Turn) :
    inRun h (turns ++ more) = inRun h turns ++ inRun (h.run turns) more := by
  induction turns generalizing h with
  | nil =>
    rw [hnil]
    rfl
  | cons t turns ih =>
    rw [List.cons_append, hcons, hcons, ih, List.append_assoc]
    rfl

/-- How many correlation ids a dispatcher hands out in an act. -/
def Act.ids : Act → Nat
  | .call _ | .allocate => 1
  | _ => 0

/-- How many correlation ids a dispatcher hands out in a turn at most. -/
def Turn.ids (node : Nat) : Turn → Nat
  | .act other a => if other = node then a.ids else 0
  | _ => 0

/-! ## Shares -/

/-- What belongs to a dispatcher. -/
structure Share where
  /-- The dispatcher and its transport. -/
  node : Option Node
  /-- Its requests on their way to handlers. -/
  tasks : List Task
  /-- Its requests that handlers kept. -/
  held : List (Option Held)
  /-- The futures of its calls. -/
  futures : List Future

/-- The share of a dispatcher. -/
def share (h : Host) (node : Nat) : Share :=
  { node := h.nodes[node]?
    tasks := h.tasks.filter (Task.isOf node)
    held := h.held.filter (Held.isOf node)
    futures := h.futures.filter (Future.isOf node) }

/-- What matters to all dispatchers of a host. -/
structure Surroundings where
  /-- Whether background work goes on. -/
  running : Bool
  /-- The handlers of in-process services. -/
  switchboard : Switchboard
  /-- The number that the next dispatcher gets. -/
  nextSystemId : UInt64
  /-- How many dispatchers there are. -/
  size : Nat

/-- What matters to all dispatchers. -/
def surroundings (h : Host) : Surroundings :=
  { running := h.running
    switchboard := h.switchboard
    nextSystemId := h.nextSystemId
    size := h.nodes.length }

end Host

end RemoteCall
