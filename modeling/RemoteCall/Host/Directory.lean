import RemoteCall.Host.Background
/-!
# The directory of dispatchers

Dispatchers are built for endpoints, and shared: those who ask for the same endpoint get the
same dispatcher, until it is evicted. A dispatcher is owned by the handles that were given out
and by the directory; when the last of them lets go of it, it is dropped.
-/

namespace RemoteCall

namespace TransportBuilder

/-- Builds a transport for an endpoint. A connection needs a port, and connections and the
in-process transport need background work. -/
def build (b : TransportBuilder) (running : Bool) (e : Endpoint) (config : ConnectionConfig) :
    Except CallError Transport :=
  match b with
  | socket =>
    match e.socketAddress? with
    | none => .error (.failure (.invalidEndpoint s!"{e.toText} has no port"))
    | some address =>
      if running then .ok (.socket (.start e.toText address config) .idle false)
      else .error (.failure .noRuntime)
  | inProcess => if running then .ok .inProcess else .error (.failure .noRuntime)
  | null => .ok .null
  | recording => .ok (.recorder (.start true))
  | plain => .ok (.recorder (.start false))
  | refusing => .error (.failure (.invalidEndpoint s!"{e.toText} refused"))

end TransportBuilder

namespace Host

/-! ## Building and sharing -/

/-- Builds a dispatcher, which gets the next number, given the transport that a builder makes for
its endpoint. The number is used up even if there is no transport, but not if there is no
background work. -/
def install (h : Host) (e : Endpoint) (made : Except CallError Transport) :
    Except CallError Nat × Host :=
  if !h.running then (.error (.failure .noRuntime), h)
  else
    -- The number is taken before the transport is built.
    let systemId := h.nextSystemId
    let h := { h with nextSystemId := systemId + 1 }
    match made with
    | .error e => (.error e, h)
    | .ok transport =>
      let node : Node := { dispatcher := .start systemId e h.config, transport }
      (.ok h.nodes.length,
        { h with nodes := h.nodes ++ [node], ready := h.ready ++ [h.nodes.length] })

/-- Builds a dispatcher with the transport of one of the builders. -/
def build (h : Host) (b : TransportBuilder) (e : Endpoint) : Except CallError Nat × Host :=
  h.install e (b.build h.running e h.connections)

/-- The builder for the scheme of an endpoint. -/
def builderFor (h : Host) (e : Endpoint) : Except CallError TransportBuilder :=
  match h.factory.find? e.scheme with
  | some b => .ok b
  | none => .error (.failure (.unknownScheme e.scheme))

/-- The shared dispatcher of an endpoint. If there is none, it is built with what the builder for
the scheme of the endpoint makes, if there is such a builder. Only a dispatcher that could be built
is shared. -/
def lookUpWith (h : Host) (e : Endpoint) (made? : Option (Except CallError Transport)) :
    Except CallError Nat × Host :=
  match h.cache.find? e with
  | some node => (.ok node, h)
  | none =>
    match made? with
    | none => (.error (.failure (.unknownScheme e.scheme)), h)
    | some made =>
      match h.install e made with
      | (.error e, h) => (.error e, h)
      | (.ok node, h) => (.ok node, { h with cache := h.cache.replace e node })

/-- The shared dispatcher of an endpoint, which is built if there is none. -/
def lookUp (h : Host) (e : Endpoint) : Except CallError Nat × Host :=
  h.lookUpWith e ((h.factory.find? e.scheme).map fun b => b.build h.running e h.connections)

/-- Whether somebody owns a dispatcher. -/
def isOwned (h : Host) (node : Nat) : Bool :=
  h.cache.values.contains node ||
    h.handles.any fun handle => (handle.map Handle.node) == some node

/-- Drops a dispatcher if nobody owns it any more. Its transport is told first. -/
def reclaim (h : Host) (node : Nat) : Host :=
  if h.isOwned node then h
  else h.modifyNode node fun n =>
    { dispatcher := n.dispatcher.close, transport := n.transport.close }

/-- Takes the shared dispatcher of an endpoint out of the directory. Whoever takes it out owns it
then. -/
def unshare (h : Host) (e : Endpoint) : Option Nat × Host :=
  match h.cache.remove? e with
  | none => (none, h)
  | some (node, cache) => (some node, { h with cache })

/-- Evicts the shared dispatcher of an endpoint; also tells whether there was one. -/
def evict (h : Host) (e : Endpoint) : Bool × Host :=
  match h.unshare e with
  | (none, h) => (false, h)
  | (some node, h) => (true, h.reclaim node)

/-! ## Handles -/

/-- Gives out a handle to a dispatcher. -/
def grant (h : Host) (node : Nat) (service : String) : Nat × Host :=
  (h.handles.length, { h with handles := h.handles ++ [some { node, service }] })

/-- Gives out a handle to the dispatcher that an operation found or built. -/
def grantFound (e : Endpoint) : Except CallError Nat × Host → Except CallError Nat × Host
  | (.error e, h) => (.error e, h)
  | (.ok node, h) =>
    let (handle, h) := h.grant node e.path
    (.ok handle, h)

/-- Gives out a handle to the shared dispatcher of an endpoint. -/
def get (h : Host) (e : Endpoint) : Except CallError Nat × Host :=
  grantFound e (h.lookUp e)

/-- Gives out a handle for the service that an endpoint names, on its shared dispatcher. -/
def stub (h : Host) (e : Endpoint) : Except CallError Nat × Host :=
  if e.path.isEmpty then
    (.error (.failure (.invalidEndpoint s!"{e.toText} names no service")), h)
  else h.get e

/-- Gives out a handle to a new dispatcher that is not shared. -/
def create (h : Host) (e : Endpoint) : Except CallError Nat × Host :=
  match h.builderFor e with
  | .error e => (.error e, h)
  | .ok b => grantFound e (h.build b e)

/-- Drops a handle; also tells whether it was there. -/
def drop (h : Host) (handle : Nat) : Bool × Host :=
  match h.handles[handle]?.join with
  | none => (false, h)
  | some { node, .. } => (true, { h with handles := h.handles.set handle none }.reclaim node)

/-- The first handle before a given one that stands for the same dispatcher. -/
def twinOf? (h : Host) (handle : Nat) : Option Nat :=
  let node := h.nodeOf? handle
  (List.range handle).find? fun other => (h.nodeOf? other).isSome && h.nodeOf? other == node

end Host

end RemoteCall
