import RemoteCall.Transport.Connection
import RemoteCall.Transport.InProcess
/-!
# Transports

A transport moves the requests of one dispatcher towards the far end. Which transport an
endpoint gets depends on its scheme: a builder is registered for every scheme that is known.
Besides the connection, the in-process transport and the null transport, which fails every
call, there is a recording transport that keeps what it is asked to send, and a builder that
refuses every endpoint.
-/

namespace RemoteCall

/-- A builder of transports. -/
inductive TransportBuilder where
  /-- Builds framed connections. -/
  | socket
  /-- Builds transports to the handlers of the process. -/
  | inProcess
  /-- Builds transports that fail every call. -/
  | null
  /-- Builds recording transports that count how often they are closed. -/
  | recording
  /-- Builds recording transports to which closing means nothing. -/
  | plain
  /-- Refuses every endpoint. -/
  | refusing
  deriving Repr, DecidableEq

namespace TransportBuilder

/-- The scheme that a builder is registered under. -/
def scheme : TransportBuilder → String
  | socket => "tcp"
  | inProcess => "inproc"
  | null => "null"
  | recording => "test"
  | plain => "plain"
  | refusing => "refuse"

/-- All builders. -/
def all : List TransportBuilder :=
  [socket, inProcess, null, recording, plain, refusing]

/-- The builder that is registered under a scheme. -/
def ofScheme? (s : String) : Option TransportBuilder :=
  all.find? fun b => b.scheme == s

end TransportBuilder

/-- The builders by scheme. -/
abbrev TransportFactory := Table String TransportBuilder

namespace TransportFactory

/-- Registers a builder under its scheme, and returns the builder that it replaces. -/
def register (f : TransportFactory) (b : TransportBuilder) :
    Option TransportBuilder × TransportFactory :=
  (f.find? b.scheme, f.replace b.scheme b)

/-- Registers builders one after the other, and returns what each of them replaces. -/
def registerAll (f : TransportFactory) :
    List TransportBuilder → List (Option TransportBuilder) × TransportFactory
  | [] => ([], f)
  | b :: bs =>
    let (replaced, f) := f.register b
    let (others, f) := f.registerAll bs
    (replaced :: others, f)

/-- The factory that knows connections, the in-process transport and the null transport. -/
def withDefaults : TransportFactory :=
  (registerAll .empty [.socket, .inProcess, .null]).2

/-- The schemes that are known, in order. -/
def schemes (f : TransportFactory) : List String :=
  f.keys.mergeSort fun s t => decide (s ≤ t)

end TransportFactory

/-- What a recording transport has been asked to do. -/
structure Recorder where
  /-- The requests since they were last collected. -/
  sent : List Frame
  /-- Whether closing is counted. -/
  countsClosing : Bool
  /-- How often the transport was closed. -/
  closings : Nat
  /-- The error that sending fails with, if it is set to fail. -/
  failure : Option CallError
  deriving Repr, DecidableEq

namespace Recorder

/-- A recorder that has not been asked anything. -/
def start (countsClosing : Bool) : Recorder :=
  { sent := [], countsClosing, closings := 0, failure := none }

/-- Records a request, or refuses it if set to fail. -/
def send (r : Recorder) (e : Envelope) (payload : Bytes) : SendOutcome × Recorder :=
  match r.failure with
  | some e => (.rejected e, r)
  | none => (.queued, { r with sent := r.sent ++ [⟨e, payload⟩] })

/-- Takes note of being closed. -/
def close (r : Recorder) : Recorder :=
  if r.countsClosing then { r with closings := r.closings + 1 } else r

end Recorder

/-- How far the opening of a connection has come. -/
inductive Dial where
  /-- It has not begun. -/
  | idle
  /-- It waits, until the given time at most, for a link of the given capacity. A gated attempt
  goes on when the gate is opened, and then succeeds or is refused. -/
  | waiting (deadline capacity : Nat) (gate : Option Bool) (opened : Bool)
  /-- It has ended, and the link has the given number if it succeeded. -/
  | done (link : Option Nat)
  deriving Repr, DecidableEq

/-- The state of a transport. -/
inductive Transport where
  /-- A connection, and how far its opening has come. -/
  | socket (c : Connection) (dial : Dial) (closing : Bool)
  /-- The transport to the handlers of the process. -/
  | inProcess
  /-- The transport that fails every call. -/
  | null
  /-- A recording transport. -/
  | recorder (r : Recorder)
  deriving Repr, DecidableEq

namespace Transport

/-- Tells the transport that its dispatcher is being dropped. -/
def close : Transport → Transport
  | socket c dial _ => socket c dial true
  | recorder r => recorder r.close
  | t => t

end Transport

end RemoteCall
