import RemoteCall.Text.Blank
import RemoteCall.Text.Numeral
import RemoteCall.Wire.Frame
/-!
# Configuration

The settings of dispatchers and of connections. Times are in milliseconds.
-/

namespace RemoteCall

/-- The settings of a dispatcher. -/
structure DispatcherConfig where
  /-- How many workers resolve the calls; none counts as one. -/
  completionWorkers : Nat
  /-- How many calls may wait for their answers, if there is a limit. -/
  maxOutstandingCalls : Option Nat
  deriving Repr, DecidableEq

namespace DispatcherConfig

/-- Two workers and no limit. -/
def default : DispatcherConfig :=
  { completionWorkers := 2, maxOutstandingCalls := none }

instance : Inhabited DispatcherConfig := ⟨default⟩

/-- The settings with another number of workers, of which there is at least one. -/
def withCompletionWorkers (c : DispatcherConfig) (workers : Nat) : DispatcherConfig :=
  { c with completionWorkers := max workers 1 }

/-- The settings with a limit on the calls that wait for their answers. -/
def withMaxOutstandingCalls (c : DispatcherConfig) (limit : Nat) : DispatcherConfig :=
  { c with maxOutstandingCalls := some limit }

/-- The variable that sets the number of workers. -/
def workersVariable : String := "LANTERN_COMPLETION_WORKERS"

/-- The variable that sets the limit on waiting calls. -/
def limitVariable : String := "LANTERN_MAX_OUTSTANDING_CALLS"

/-- A positive number of at most 64 bits, as the value of a variable may give it. Blanks around
it do not matter. -/
def positive? (value : String) : Option Nat :=
  (Text.natural? UInt64.size (Text.trimBlanks value.toList)).filter (0 < ·)

/-- The default settings, changed by those variables that hold positive numbers. -/
def ofEnvironment (lookup : String → Option String) : DispatcherConfig :=
  { completionWorkers :=
      ((lookup workersVariable).bind positive?).getD default.completionWorkers
    maxOutstandingCalls := (lookup limitVariable).bind positive? }

end DispatcherConfig

/-- The settings of a connection. -/
structure ConnectionConfig where
  /-- How long an attempt to connect may take. -/
  connectTimeout : Nat
  /-- How many octets are read at once. -/
  readBufferSize : Nat
  /-- The largest payload that is accepted in either direction. -/
  maxPayload : Nat
  deriving Repr, DecidableEq

namespace ConnectionConfig

/-- The default settings. -/
def default : ConnectionConfig :=
  { connectTimeout := 5000
    readBufferSize := 8 * 1024
    maxPayload := Frame.defaultMaxPayload }

instance : Inhabited ConnectionConfig := ⟨default⟩

/-- Settings for a local network. -/
def localNetwork : ConnectionConfig :=
  { connectTimeout := 500
    readBufferSize := 4 * 1024
    maxPayload := Frame.defaultMaxPayload }

/-- Settings for a wide network. -/
def wideNetwork : ConnectionConfig :=
  { connectTimeout := 30000
    readBufferSize := 64 * 1024
    maxPayload := Frame.defaultMaxPayload }

/-- The settings with another limit on the time to connect. -/
def withConnectTimeout (c : ConnectionConfig) (timeout : Nat) : ConnectionConfig :=
  { c with connectTimeout := timeout }

/-- The settings with another limit on payloads. -/
def withMaxPayload (c : ConnectionConfig) (size : Nat) : ConnectionConfig :=
  { c with maxPayload := size }

/-- How many octets one read takes: room for an envelope at least. -/
def readSize (c : ConnectionConfig) : Nat :=
  max c.readBufferSize Envelope.size

/-- A time in the largest unit of which it is at least one, with the fraction that is left. -/
def durationText (milliseconds : Nat) : String :=
  let seconds := milliseconds / 1000
  let rest := milliseconds % 1000
  if seconds = 0 then
    if rest = 0 then "0ns" else s!"{rest}ms"
  else if rest = 0 then s!"{seconds}s"
  else if rest % 100 = 0 then s!"{seconds}.{rest / 100}s"
  else if rest % 10 = 0 then
    s!"{seconds}.{rest / 100}{rest / 10 % 10}s"
  else s!"{seconds}.{rest / 100}{rest / 10 % 10}{rest % 10}s"

end ConnectionConfig

end RemoteCall
