import RemoteCall.Host.Basic
/-!
# Background work

The work that goes on beside the callers: connections are opened, written and read, handlers
serve the requests sent to them, and completion workers deliver results. `Host.settle` lets
all of it run until nothing is left to do. What is served, read and delivered does not depend
on the order in which independent pieces of work take turns; here connections come first, then
requests in the order in which they were sent, and then results. The numbers of the links do
depend on it: connections that wait to be opened take turns in the order in which they became
ready, be it that their dispatcher was built or that their gate was opened.
-/

namespace RemoteCall

/-- A dispatcher with its established connection and the link that it goes over. -/
structure Conversation where
  /-- The dispatcher. -/
  dispatcher : Dispatcher
  /-- The connection. -/
  connection : Connection
  /-- The link. -/
  link : Link

namespace Conversation

/-- An event happens to the connection. When the connection ends it gives up the link, and the
dispatcher takes in what the event means for it. -/
def step (t : Conversation) (event : Connection.Event) : Conversation :=
  let (connection, effect) := t.connection.step t.dispatcher.live event
  { dispatcher := t.dispatcher.absorb effect
    connection
    link := if connection.isOpen then t.link else t.link.nearClose }

/-- Writes queued frames until the queue is empty, the pipe is full, or writing fails. -/
def write : (steps : Nat) → Conversation → Conversation
  | 0, t => t
  | steps + 1, t =>
    if !t.connection.isOpen then t
    else if t.connection.writing.isEmpty then
      if t.connection.queue.isEmpty then t else write steps (t.step (.wrote 0))
    else
      match t.link.nearWrite t.connection.writing with
      | (.failed reason, link) => { t with link }.step (.writeFailed reason)
      | (.wrote 0, link) => { t with link }
      | (.wrote count, link) => write steps ({ t with link }.step (.wrote count))

/-- Reads until nothing is left to read, or the connection ends. -/
def read : (steps : Nat) → Conversation → Conversation
  | 0, t => t
  | steps + 1, t =>
    if !t.connection.isOpen then t
    else
      match t.link.nearRead t.connection.config.readSize with
      | (.failed reason, link) => { t with link }.step (.readFailed reason)
      | (.finished, link) => { t with link }.step .finished
      | (.blocked, link) => { t with link }
      | (.read chunk, link) => read steps ({ t with link }.step (.received chunk))

/-- Whether there is a reason to write or to read: the peer has sent something or gone away,
reading fails, a frame waits behind none, or the pipe has room for more of a frame. A frame that
waits for room does not notice that writing has begun to fail. -/
def hasWork (t : Conversation) : Bool :=
  !t.link.inbound.isEmpty || !t.link.farOpen || t.link.readError.isSome ||
    if t.connection.writing.isEmpty then !t.connection.queue.isEmpty
    else t.link.outbound.length < t.link.capacity

/-- Writes and reads as much as possible. Every step of writing ends a frame, takes one from
the queue, or fills the pipe, and every step of reading takes an octet, which bounds their
numbers. -/
def run (t : Conversation) : Conversation :=
  if t.hasWork then
    let t := t.write (2 * t.connection.queue.length + 4)
    t.read (t.link.inbound.length + 1)
  else t

end Conversation

namespace Host

/-! ## Connections -/

/-- An event happens to the connection of a dispatcher that has no link yet. -/
def dialEvent (h : Host) (node : Nat) (event : Connection.Event) : Host :=
  h.modifyNode node fun n =>
    match n.transport with
    | .socket c _ closing =>
      let (c, effect) := c.step n.dispatcher.live event
      { dispatcher := n.dispatcher.absorb effect, transport := .socket c (.done none) closing }
    | _ => n

/-- A connection is established: it gets the next link. -/
def establish (h : Host) (node : Nat) (address : String) (capacity : Nat) : Host :=
  let h := h.dialEvent node .connected
  let h := h.modifyTransport node fun
    | .socket c _ closing => .socket c (.done (some h.links.length)) closing
    | t => t
  { h with links := h.links ++ [.start address capacity] }

/-- An attempt to connect that is refused. -/
def refuseDial (h : Host) (node : Nat) : Host :=
  h.dialEvent node (.connectFailed "refused")

/-- Lets an attempt to connect wait for its gate, if it has one, and for its time to run out. -/
def awaitDial (h : Host) (node : Nat) (address : String) (deadline capacity : Nat)
    (gate : Option Bool) (opened : Bool) : Host :=
  match gate, opened with
  | some true, true => h.establish node address capacity
  | some false, true => h.refuseDial node
  | _, _ =>
    if deadline ≤ h.clock then h.dialEvent node .connectTimedOut
    else h.modifyTransport node fun
      | .socket c _ closing => .socket c (.waiting deadline capacity gate opened) closing
      | t => t

/-- Goes on with opening a connection. The attempt begins when it first gets a turn, and its
time counts from then. -/
def dial (h : Host) (node : Nat) (c : Connection) : Dial → Host
  | .idle =>
    let h := { h with dialed := h.dialed ++ [c.address] }
    let capacity := h.network.capacity
    match h.network.mode with
    | .accept => h.establish node c.address capacity
    | .refuse => h.refuseDial node
    | .hang => h.awaitDial node c.address (h.clock + c.config.connectTimeout) capacity none false
    | .gate accept =>
      h.awaitDial node c.address (h.clock + c.config.connectTimeout) capacity (some accept) false
  | .waiting deadline capacity gate opened =>
    h.awaitDial node c.address deadline capacity gate opened
  | .done _ => h

/-- Writes and reads the established connection of a dispatcher. -/
def converse (h : Host) (node link : Nat) : Host :=
  match h.nodes[node]?, h.links[link]? with
  | some { dispatcher, transport := .socket connection dial closing }, some l =>
    let t : Conversation := { dispatcher, connection, link := l }
    let t := if closing then t.step .shutDown else t.run
    { h.modifyNode node fun _ =>
        { dispatcher := t.dispatcher, transport := .socket t.connection dial closing } with
      links := h.links.set link t.link }
  | _, _ => h

/-- Goes on with the connection of a dispatcher, if it has one. -/
def driveConnection (h : Host) (node : Nat) : Host :=
  match h.nodes[node]?.map Node.transport with
  | some (.socket c dial closing) =>
    match c.phase with
    | .ended => h
    | .connecting =>
      if closing then h.dialEvent node .shutDown
      else
        let h := h.dial node c dial
        match h.nodes[node]?.map Node.transport with
        | some (.socket _ (.done (some link)) _) => h.converse node link
        | _ => h
    | .established =>
      match dial with
      | .done (some link) => h.converse node link
      | _ => h
  | _ => h

/-! ## Requests to handlers -/

/-- Answers a request of a dispatcher. -/
def respond (h : Host) (node : Nat) (r : Responder) (a : Answer) : Except CallError Bool × Host :=
  (h.onDispatcher node (r.respond a)).getD (.ok false, h)

/-- Lets go of a request of a dispatcher. -/
def release (h : Host) (node : Nat) (r : Responder) : Host :=
  h.modifyDispatcher node r.release

/-- A handler that got a request reacts to it. -/
def react (h : Host) (task : Task) (reaction : Reaction) : Host :=
  let (result, h) : Served.Result × Host :=
    match reaction with
    | .answer a =>
      let (result, h) := h.respond task.node task.responder a
      (.answered result, h)
    | .drop => (.dropped, h.release task.node task.responder)
    | .panic => (.panicked, h.release task.node task.responder)
    | .hold =>
      (.held h.held.length,
        { h with held := h.held ++ [some { node := task.node, responder := task.responder }] })
  let record : Served :=
    { envelope := task.responder.request, call := RequestHeader.decode task.payload, result }
  { h with served := h.served ++ [record] }

/-- A request is handed over: the handler that it was sent to gets its envelope and its payload. -/
def serve (h : Host) (task : Task) : Host :=
  h.react task (task.handler task.responder.request task.payload)

/-- The handlers serve all requests on their way. -/
def serveAll (h : Host) : Host :=
  h.tasks.foldl serve { h with tasks := [] }

/-! ## All of it -/

/-- All background work runs until nothing is left to do. -/
def settle (h : Host) : Host :=
  if h.running then
    -- Serving a request opens no connection and delivering a result sends no request, so one
    -- pass over each kind of work leaves nothing to do.
    let turns := h.ready ++ List.range h.nodes.length
    let h := turns.foldl driveConnection { h with ready := [] }
    let h := h.serveAll
    { h with
      nodes := h.nodes.map fun n => { n with dispatcher := n.dispatcher.runWorkers } }
  else h

/-- Background work stops for good: connections end without a word, requests on their way to
handlers are let go of, and results that have not been delivered are lost. -/
def stop (h : Host) : Host :=
  -- Requests are let go of while there are still workers to take the failures.
  let h := h.tasks.foldl (fun h task => h.release task.node task.responder) { h with tasks := [] }
  let stopTransport : Transport → Transport
    | .socket c dial closing => .socket c.closed dial closing
    | t => t
  { h with
    running := false
    nodes := h.nodes.map fun n =>
      { dispatcher := n.dispatcher.stop, transport := stopTransport n.transport }
    links := h.links.map Link.nearClose }

/-- The clock moves on. -/
def advance (h : Host) (milliseconds : Nat) : Host :=
  { h with clock := h.clock + milliseconds }

/-- The network opens the gate for the attempts to connect that wait for it, which get their
turns behind what is ready already. -/
def openGate (h : Host) : Host :=
  { h with
    ready := h.ready ++ (List.range h.nodes.length).filter fun node =>
      (h.nodes[node]?.map Node.waitsAtGate).getD false
    nodes := h.nodes.map fun n =>
      match n.transport with
      | .socket c (.waiting deadline capacity gate _) closing =>
        { n with transport := .socket c (.waiting deadline capacity gate true) closing }
      | _ => n }

end Host

end RemoteCall
