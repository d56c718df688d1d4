import RemoteCall.Host.Calls
/-!
# Descriptions

Short texts that show what the parts of a host are, for people who look for a fault.
-/

namespace RemoteCall

namespace Description

/-- The text of a structure with named fields. -/
def record (name : String) (fields : List (String × String)) : String :=
  let shown := fields.map fun (field, value) => s!"{field}: {value}"
  name ++ " \x7b " ++ ", ".intercalate shown ++ " \x7d"

/-- The text of a list. -/
def list (items : List String) : String :=
  "[" ++ ", ".intercalate items ++ "]"

/-- The text of a value that may be missing. -/
def optional : Option String → String
  | none => "None"
  | some text => "Some(" ++ text ++ ")"

end Description

open Description

namespace Endpoint

/-- The description of an endpoint. -/
def describe (e : Endpoint) : String :=
  record "Endpoint"
    [("scheme", Text.quote e.scheme), ("host", Text.quote e.host),
      ("port", optional (e.port.map fun p => toString p.toNat)), ("path", Text.quote e.path)]

end Endpoint

namespace Dispatcher

/-- The description of a dispatcher. -/
def describe (d : Dispatcher) : String :=
  record "Dispatcher"
    [("system_id", toString d.systemId.toNat), ("endpoint", d.endpoint.describe),
      ("outstanding_calls", toString d.outstanding)]

/-- The description of the way back from a transport to its dispatcher. -/
def describeSink (d : Dispatcher) : String :=
  record "ResponseSink" [("system_id", toString d.systemId.toNat), ("connected", toString d.live)]

/-- The description of the calls of a service through a dispatcher. -/
def describeStub (d : Dispatcher) (service : String) : String :=
  record "ServiceStub"
    [("service_name", Text.quote service), ("codec", Text.quote Codec.json.name),
      ("dispatcher", d.describe)]

end Dispatcher

namespace DispatcherConfig

/-- The description of the settings of dispatchers. -/
def describe (c : DispatcherConfig) : String :=
  record "DispatcherConfig"
    [("completion_workers", toString c.completionWorkers),
      ("max_outstanding_calls", optional (c.maxOutstandingCalls.map toString))]

end DispatcherConfig

namespace TransportFactory

/-- The description of a factory. -/
def describe (f : TransportFactory) : String :=
  record "TransportFactory" [("schemes", list (f.schemes.map Text.quote))]

end TransportFactory

namespace Responder

/-- The description of a responder that has not been used. -/
def describe (r : Responder) : String :=
  record "Responder"
    [("endpoint", Text.quote r.endpoint), ("system_id", toString r.request.systemId.toNat),
      ("correlation_id", toString r.request.correlationId.toNat), ("answered", "false")]

end Responder

namespace Future

/-- The description of a future. -/
def describe (f : Future) : String :=
  record "CallFuture" [("correlation_id", toString f.id.toNat)]

end Future

namespace Host

/-- The description of the directory of dispatchers. -/
def describeDirectory (h : Host) : String :=
  record "DispatcherRegistry"
    [("factory", h.factory.describe), ("config", h.config.describe),
      ("dispatchers", toString h.cache.size)]

/-- The description of the switchboard. -/
def describeSwitchboard (h : Host) : String :=
  record "Router"
    [("endpoints", list (h.switchboard.keys.map fun e => Text.quote e.toText))]

end Host

end RemoteCall
