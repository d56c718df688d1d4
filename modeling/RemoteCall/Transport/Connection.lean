import RemoteCall.Dispatch.Dispatcher
import RemoteCall.Wire.Inbox
/-!
# Connections

A connection carries the requests of one dispatcher as frames over a byte stream, and brings
back the responses. It is opened once. Requests wait in a queue until they can be written;
what is read is kept until it makes a complete frame. Whatever goes wrong ends the connection
for good: the queue is closed first, so that later requests are refused, and then every
outstanding call fails with the fault. `Connection.step` says what each event does.
-/

namespace RemoteCall

/-- How far a connection has come. -/
inductive Connection.Phase where
  /-- The stream is being opened. -/
  | connecting
  /-- The stream is open. -/
  | established
  /-- The connection has ended. -/
  | ended
  deriving Repr, DecidableEq

/-- The state of a connection. -/
structure Connection where
  /-- The text of the endpoint, for messages. -/
  endpoint : String
  /-- The address that is connected to. -/
  address : String
  /-- The settings. -/
  config : ConnectionConfig
  /-- How far the connection has come. -/
  phase : Connection.Phase
  /-- The rest of the frame that is being written. -/
  writing : Bytes
  /-- The frames to be written after it. -/
  queue : List Bytes
  /-- What has been read and makes no complete frame yet. -/
  inbox : Inbox config.maxPayload
  deriving Repr, DecidableEq

namespace Connection

/-- What happens to a connection. -/
inductive Event where
  /-- The stream is open. -/
  | connected
  /-- The stream could not be opened. -/
  | connectFailed (reason : String)
  /-- The stream was not opened in time. -/
  | connectTimedOut
  /-- The stream took octets of the frame being written. -/
  | wrote (count : Nat)
  /-- The stream refused to be written. -/
  | writeFailed (reason : String)
  /-- Octets were read from the stream. -/
  | received (chunk : Bytes)
  /-- The stream could not be read. -/
  | readFailed (reason : String)
  /-- The far end has closed the stream, and everything has been read. -/
  | finished
  /-- The dispatcher was dropped. -/
  | shutDown
  deriving Repr, DecidableEq

/-- What an event means for the dispatcher. -/
structure Effect where
  /-- The frames to be handed to it, in order. -/
  frames : List Frame := []
  /-- The fault that resolves its outstanding calls afterwards. -/
  fault : Option CallError := none
  deriving Repr, DecidableEq

/-- A connection that is about to be opened. -/
def start (endpoint address : String) (config : ConnectionConfig) : Connection :=
  { endpoint
    address
    config
    phase := .connecting
    writing := []
    queue := []
    inbox := .empty config.maxPayload }

/-- Whether requests are taken. -/
def isOpen (c : Connection) : Bool :=
  c.phase ≠ .ended

/-- The connection after its end. Nothing waits to be written or read any more. -/
def closed (c : Connection) : Connection :=
  { c with
    phase := .ended
    writing := []
    queue := []
    inbox := .empty c.config.maxPayload }

/-- Takes a request into the queue. A payload beyond the limit is refused, and so is every
request after the end of the connection. -/
def send (c : Connection) (e : Envelope) (payload : Bytes) : Except CallError Connection :=
  match Frame.encode e payload c.config.maxPayload with
  | .error e => .error (.failure (.wire e))
  | .ok frame =>
    if c.isOpen then .ok { c with queue := c.queue ++ [frame] }
    else .error (.failure (.disconnected c.endpoint))

/-- The end of the connection by a fault of the network. -/
def failed (c : Connection) (reason : String) : Connection × Effect :=
  (c.closed, { fault := some (.failure (.networkFault c.endpoint reason)) })

/-- Reads the frames that are complete after a chunk of octets. They are handed over in order;
a malformed frame ends the connection after those before it. If the dispatcher is gone, the
first complete frame ends the connection quietly. -/
def receive (c : Connection) (live : Bool) (chunk : Bytes) : Connection × Effect :=
  let intake := c.inbox.receive chunk
  -- Without a dispatcher the first frame finds nobody, and what follows it is not read.
  if !live && !intake.frames.isEmpty then (c.closed, {})
  else
    match intake.error? with
    | none => ({ c with inbox := intake.inbox }, { frames := intake.frames })
    | some e =>
      -- Frames in front of the malformed one are still handed over.
      let (c, effect) := c.failed ("malformed frame: " ++ e.message)
      (c, { effect with frames := intake.frames })

/-- Puts the next frame of the queue in front of the writer, if it has written the last. -/
def advance (c : Connection) : Connection :=
  match c.writing, c.queue with
  | [], frame :: queue => { c with writing := frame, queue }
  | _, _ => c

/-- What an event does to a connection, and what it means for the dispatcher. Events that
cannot happen in a phase do nothing. -/
def step (c : Connection) (live : Bool) (event : Event) : Connection × Effect :=
  match c.phase, event with
  | .ended, _ => (c, {})
  | _, .shutDown => (c.closed, {})
  | .connecting, .connected => ({ c with phase := .established }, {})
  | .connecting, .connectFailed reason => c.failed s!"connect to {c.address} failed: {reason}"
  | .connecting, .connectTimedOut =>
    c.failed
      s!"connect to {c.address} timed out after {ConnectionConfig.durationText c.config.connectTimeout}"
  | .established, .wrote count => ({ c with writing := c.writing.drop count }.advance, {})
  | .established, .writeFailed reason => c.failed s!"write failed: {reason}"
  | .established, .received chunk => c.receive live chunk
  | .established, .readFailed reason => c.failed s!"read failed: {reason}"
  | .established, .finished =>
    (c.closed, { fault := some (.failure (.disconnected c.endpoint)) })
  | _, _ => (c, {})

end Connection

namespace Dispatcher

/-- Takes in what a connection has for its dispatcher. A dispatcher that is gone takes in
nothing. -/
def absorb (d : Dispatcher) (effect : Connection.Effect) : Dispatcher :=
  let d := effect.frames.foldl (fun d f => (d.receive f.envelope f.payload).2) d
  match effect.fault with
  | none => d
  | some e => (d.failAll e).2

end Dispatcher

end RemoteCall
