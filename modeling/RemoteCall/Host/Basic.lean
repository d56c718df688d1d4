import RemoteCall.Transport.Basic
import RemoteCall.Transport.Link
/-!
# Hosts

A host is a process in which dispatchers live. It knows the transports by scheme, keeps one
dispatcher per endpoint for those who ask for it, holds the handlers of in-process services,
and has a clock and a network. Everything in it is a value; the operations in the modules
beside this one take a host to the next.
-/

namespace RemoteCall

/-- A dispatcher and its transport. -/
structure Node where
  /-- The dispatcher. -/
  dispatcher : Dispatcher
  /-- Its transport. -/
  transport : Transport

/-- Whether the connection of a dispatcher waits for its gate to be opened. -/
def Node.waitsAtGate (n : Node) : Bool :=
  match n.transport with
  | .socket _ (.waiting _ _ (some _) false) _ => true
  | _ => false

/-- A share in the ownership of a dispatcher. -/
structure Handle where
  /-- The number of the dispatcher. -/
  node : Nat
  /-- The service that calls through the handle address. -/
  service : String
  deriving Repr, DecidableEq

/-- Whether the caller still waits for the result of a call. -/
inductive Future.Status where
  /-- It waits. -/
  | pending
  /-- It has the result. -/
  | resolved
  /-- It does not want the result any more. -/
  | dropped
  deriving Repr, DecidableEq

/-- What a caller holds of a call. -/
structure Future where
  /-- The number of the dispatcher. -/
  node : Nat
  /-- The mailbox in which the result arrives. -/
  box : Nat
  /-- The correlation id. -/
  id : UInt64
  /-- The type of result that is expected. -/
  type : ReplyType
  /-- Whether the caller still waits. -/
  status : Future.Status
  deriving Repr, DecidableEq

/-- A request on its way to a handler. -/
structure Task where
  /-- The number of the dispatcher that sent it. -/
  node : Nat
  /-- The way back. -/
  responder : Responder
  /-- The payload. -/
  payload : Bytes
  /-- The handler that was registered when the request was sent. -/
  handler : Handler

/-- What became of a request that a handler served. -/
inductive Served.Result where
  /-- The handler answered. -/
  | answered (result : Except CallError Bool)
  /-- The handler let go of the request. -/
  | dropped
  /-- The handler broke off. -/
  | panicked
  /-- The handler kept the request, under the given number. -/
  | held (number : Nat)
  deriving Repr

/-- The record of a request that a handler served. -/
structure Served where
  /-- The envelope of the request. -/
  envelope : Envelope
  /-- What the payload says. -/
  call : Except WireError (RequestHeader × Bytes)
  /-- What became of the request. -/
  result : Served.Result

/-- A request that a handler kept. -/
structure Held where
  /-- The number of the dispatcher that sent it. -/
  node : Nat
  /-- The way back. -/
  responder : Responder
  deriving Repr, DecidableEq

/-- How the network treats attempts to connect. -/
inductive NetworkMode where
  /-- They succeed. -/
  | accept
  /-- They are refused. -/
  | refuse
  /-- They never end. -/
  | hang
  /-- They wait for the gate to be opened, and then succeed or are refused. -/
  | gate (accept : Bool)
  deriving Repr, DecidableEq

/-- The network that connections go through. -/
structure Network where
  /-- How it treats attempts to connect. -/
  mode : NetworkMode
  /-- How many octets a pipe holds. -/
  capacity : Nat
  deriving Repr, DecidableEq

/-- A process with its dispatchers. -/
structure Host where
  /-- Whether background work goes on. -/
  running : Bool
  /-- The time in milliseconds. -/
  clock : Nat
  /-- The number that the next dispatcher gets. -/
  nextSystemId : UInt64
  /-- The dispatchers in the order in which they were built. -/
  nodes : List Node
  /-- The transports by scheme. -/
  factory : TransportFactory
  /-- The settings of dispatchers. -/
  config : DispatcherConfig
  /-- The settings of connections. -/
  connections : ConnectionConfig
  /-- The dispatchers that are shared, by endpoint. -/
  cache : Table Endpoint Nat
  /-- The handles that were given out; those that were dropped are empty. -/
  handles : List (Option Handle)
  /-- The calls that were made. -/
  futures : List Future
  /-- The handlers of in-process services. -/
  switchboard : Switchboard
  /-- The requests on their way to handlers, the first in front. -/
  tasks : List Task
  /-- The requests that handlers kept; those that were answered or let go of are empty. -/
  held : List (Option Held)
  /-- The network. -/
  network : Network
  /-- The dispatchers that were built, or whose connections were let through a gate, since
  background work last ran, in that order. -/
  ready : List Nat
  /-- The links in the order in which they were established. -/
  links : List Link
  /-- What handlers have served since it was last asked for. -/
  served : List Served
  /-- The addresses that were connected to since they were last asked for. -/
  dialed : List String

namespace Host

/-- How many octets a pipe holds unless told otherwise. -/
def defaultCapacity : Nat := 1048576

/-- A host at work. -/
def start (factory : TransportFactory) (config : DispatcherConfig)
    (connections : ConnectionConfig) : Host :=
  { running := true
    clock := 0
    nextSystemId := 1
    nodes := []
    factory
    config
    connections
    cache := .empty
    handles := []
    futures := []
    switchboard := .empty
    tasks := []
    held := []
    network := { mode := .accept, capacity := defaultCapacity }
    ready := []
    links := []
    served := []
    dialed := [] }

/-- Changes a dispatcher together with its transport. -/
def modifyNode (h : Host) (node : Nat) (f : Node → Node) : Host :=
  { h with nodes := h.nodes.modify node f }

/-- Changes a dispatcher. -/
def modifyDispatcher (h : Host) (node : Nat) (f : Dispatcher → Dispatcher) : Host :=
  h.modifyNode node fun n => { n with dispatcher := f n.dispatcher }

/-- Changes a transport. -/
def modifyTransport (h : Host) (node : Nat) (f : Transport → Transport) : Host :=
  h.modifyNode node fun n => { n with transport := f n.transport }

/-- Applies an operation with a result to a dispatcher. -/
def onDispatcher {α : Type} (h : Host) (node : Nat) (f : Dispatcher → α × Dispatcher) :
    Option (α × Host) :=
  h.nodes[node]?.map fun n =>
    let (x, d) := f n.dispatcher
    (x, h.modifyDispatcher node fun _ => d)

/-- The number of the dispatcher behind a handle. -/
def nodeOf? (h : Host) (handle : Nat) : Option Nat :=
  (h.handles[handle]?.join).map Handle.node

/-- The number of the dispatcher with a system id. -/
def nodeWithSystemId? (h : Host) (systemId : UInt64) : Option Nat :=
  h.nodes.findIdx? fun n => n.dispatcher.systemId == systemId

end Host

end RemoteCall
