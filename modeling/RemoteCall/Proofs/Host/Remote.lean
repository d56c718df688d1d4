import RemoteCall.Proofs.Host.Attached
/-!
# Sessions over a connection

Here a session goes through a dispatcher with a connection, and a peer answers every request. In
between are the queue of the connection, a pipe in each direction, and the requests and answers at
the peer. Connection, peer, callers and completion workers take turns in any order, and move any
number of octets in a turn. The requests that have not been answered are those in the pipeline
(`RemoteService.Holds`).
-/

namespace RemoteCall

/-- A host for which a dispatcher will be built that calls an endpoint over a connection. -/
structure RemoteService where
  /-- The host before the dispatcher is built. -/
  host : Host
  /-- The endpoint. -/
  endpoint : Endpoint
  /-- The address that is connected to. -/
  address : String
  /-- Background work goes on. -/
  running : host.running = true
  /-- New dispatchers accept any number of calls. -/
  unlimited : host.config.maxOutstandingCalls = none
  /-- The network lets connections be opened. -/
  accepting : host.network.mode = .accept
  /-- The endpoint has the address. -/
  addressed : endpoint.socketAddress? = some address
  /-- The length field of a frame holds every payload that is allowed. -/
  small : host.connections.maxPayload < 2 ^ 32

/-- A session, and the peer of its connection. -/
structure RemoteSession extends Session where
  /-- The peer. -/
  peer : Peer

/-- The dispatcher gets answers to requests in flight. -/
theorem Session.Serves.answers {F : Bytes → Bytes} {node : Nat} {c : Session} {d : Dispatcher}
    {log : CallLog} {taken left : List Posting} (h : c.Serves F node d log (taken ++ left)) :
    c.Serves F node ((taken.map (Posting.responseFrame F)).foldl
      (fun d f => (d.receive f.envelope f.payload).2) d) log left := by
  induction taken generalizing d with
  | nil => exact h
  | cons x taken ih =>
    have hreceive : (d.receive (x.responseFrame F).envelope (x.responseFrame F).payload).2 =
        d.handleResponse (x.admission.envelope.responseTo (F x.admission.payload).length)
          (F x.admission.payload) := by
      rw [Dispatcher.receive, h.exchange.live]
      rfl
    rw [List.map_cons, List.foldl_cons, hreceive]
    exact ih (h.answer c.host rfl)

/-- The payloads of the request for a call and of its answer are within the limit. -/
def CallRequest.Fits (F : Bytes → Bytes) (maxPayload : Nat) (r : CallRequest) : Prop :=
  ∀ payload, r.encode = .ok payload →
    payload.length ≤ maxPayload ∧ (F payload).length ≤ maxPayload

namespace RemoteService

/-- A turn in a session. -/
inductive Turn where
  /-- A caller makes a call. -/
  | call (request : CallRequest)
  /-- The connection is opened. -/
  | connect
  /-- The connection writes at most so many octets. -/
  | write (size : Nat)
  /-- The connection reads at most so many octets. -/
  | read (size : Nat)
  /-- The background work does for the connection all that can be done. -/
  | drive
  /-- The peer reads at most so many octets. -/
  | peerRead (size : Nat)
  /-- The peer answers one of the requests that wait. -/
  | peerAnswer (request : Nat)
  /-- The peer writes at most so many octets. -/
  | peerWrite (size : Nat)
  /-- A completion worker delivers its next result. -/
  | work (worker : Nat)

/-- The number of the dispatcher. -/
def node (s : RemoteService) : Nat :=
  s.host.nodes.length

/-- The session before the first call. -/
def opened (s : RemoteService) : RemoteSession :=
  { host := (s.host.build .socket s.endpoint).2
    returned := []
    peer := { waiting := [], outgoing := [] } }

/-- The session after one more turn. -/
def turn (s : RemoteService) (F : Bytes → Bytes) (c : RemoteSession) : Turn → RemoteSession
  | .call request => { c with toSession := c.toSession.call s.node request }
  | .connect => { c with host := c.host.connect s.node }
  | .write size => { c with host := c.host.withConversation s.node (·.writeSome size) }
  | .read size => { c with host := c.host.withConversation s.node (·.readSome size) }
  | .drive => { c with host := c.host.driveConnection s.node }
  | .peerRead size =>
    match (c.host.linkOf? s.node).bind fun link => c.host.peerRead link (some size) with
    | some (reading, host) =>
      { c with host, peer := { c.peer with waiting := c.peer.waiting ++ reading.frames } }
    | none => c
  | .peerAnswer request =>
    { c with peer := c.peer.answer F s.host.connections.maxPayload request }
  | .peerWrite size =>
    match (c.host.linkOf? s.node).map fun link =>
        c.host.writeOnce link (c.peer.outgoing.take size) with
    | some (.written count, host) =>
      { c with host, peer := { c.peer with outgoing := c.peer.outgoing.drop count } }
    | some (_, host) => { c with host }
    | none => c
  | .work worker =>
    { c with host := c.host.modifyDispatcher s.node fun d => d.runWorker worker }

/-- The session after some turns. -/
def run (s : RemoteService) (F : Bytes → Bytes) (turns : List Turn) : RemoteSession :=
  turns.foldl (s.turn F) s.opened

/-- What holds of a dispatcher with its connection and their link after the calls of a log, of
which the peer has taken all but some. -/
structure Talks (s : RemoteService) (F : Bytes → Bytes) (c : RemoteSession) (log : CallLog)
    (sent waiting : List Posting) (t : Conversation) : Prop where
  /-- The connection has the settings of the host. -/
  config_eq : t.connection.config = s.host.connections
  /-- The callers and the dispatcher are in order, and the requests in flight are those in the
  pipeline. -/
  exists_answered : ∃ answered,
    c.toSession.Serves F s.node t.dispatcher log (answered ++ (waiting ++ sent)) ∧
      Pipeline F t.connection t.link c.peer sent waiting answered

/-- What holds after the calls of a log, where `t` is the dispatcher with its connection and their
link. -/
structure Holds (s : RemoteService) (F : Bytes → Bytes) (c : RemoteSession) (t : Conversation)
    (log : CallLog) : Prop where
  /-- The connection belongs to the dispatcher, and the link to the connection. -/
  attached : c.host.Attached s.node t.dispatcher t.connection t.link
  /-- The network lets connections be opened. -/
  accepting : c.host.network.mode = .accept
  /-- The dispatcher, its connection and their link are in order. -/
  talks : ∃ sent waiting, s.Talks F c log sent waiting t

namespace Talks

variable {s : RemoteService} {F : Bytes → Bytes} {c : RemoteSession} {log : CallLog}
  {sent waiting : List Posting} {t : Conversation}

/-- A piece that is written moves octets only. -/
theorem writeSome (h : s.Talks F c log sent waiting t) (hphase : t.connection.phase = .established)
    (size : Nat) : (t.writeSome size).connection.phase = .established ∧
      s.Talks F c log sent waiting (t.writeSome size) := by
  obtain ⟨answered, hserves, hpipeline⟩ := h.exists_answered
  obtain ⟨writing, queue, outbound, hwrite, hpipeline⟩ := hpipeline.writeSome hphase size
  rw [hwrite]
  exact ⟨hphase, h.config_eq, answered, hserves, hpipeline⟩

/-- With a piece that is read the dispatcher gets answers to requests in flight. -/
theorem readSome (h : s.Talks F c log sent waiting t) (hphase : t.connection.phase = .established)
    (size : Nat) : (t.readSome size).connection.phase = .established ∧
      s.Talks F c log sent waiting (t.readSome size) := by
  obtain ⟨answered, hserves, hpipeline⟩ := h.exists_answered
  obtain ⟨inbox, inbound, taken, left, rfl, hread, hpipeline⟩ :=
    hpipeline.readSome hserves.exchange.live hphase size
  rw [hread]
  rw [List.append_assoc] at hserves
  exact ⟨hphase, h.config_eq, left, hserves.answers, hpipeline⟩

/-- All pieces that the background work writes and reads do only that. -/
theorem run (h : s.Talks F c log sent waiting t) (hphase : t.connection.phase = .established) :
    t.run.connection.phase = .established ∧ s.Talks F c log sent waiting t.run :=
  Conversation.run_of_pieces
    (P := fun t => t.connection.phase = .established ∧ s.Talks F c log sent waiting t)
    (fun _ size ht => ht.2.writeSome ht.1 size) (fun _ size ht => ht.2.readSome ht.1 size)
    ⟨hphase, h⟩

end Talks

namespace Holds

variable {s : RemoteService} {F : Bytes → Bytes} {c : RemoteSession} {t : Conversation}
  {log : CallLog}

/-- A call is refused, or one more request is sent. -/
theorem call (h : s.Holds F c t log) {request : CallRequest}
    (hfits : request.Fits F s.host.connections.maxPayload) :
    ∃ t' r, s.Holds F (s.turn F c (.call request)) t' (log ++ [(request, r)]) := by
  obtain ⟨sent, waiting, hconfig, answered, hserves, hpipeline⟩ := h.talks
  obtain ⟨transport, hnode⟩ := h.attached.node_eq
  cases haccept : t.dispatcher.accept request with
  | mk r d =>
    cases r with
    | error e =>
      refine ⟨{ t with dispatcher := d }, .error e, ?_⟩
      rw [turn, Session.call, Host.call_of_refused hnode haccept]
      exact ⟨h.attached.modifyDispatcher fun _ => d, h.accepting, sent, waiting, hconfig, answered,
        hserves.call_of_refused _ rfl (Dispatcher.refuses_of_accept haccept), hpipeline⟩
    | ok a =>
      have haccepts := Dispatcher.accepts_of_accept haccept
      have hx : Posting.Fits F t.connection.config.maxPayload ⟨request, a⟩ := by
        obtain ⟨hrequest, hresponse⟩ := hfits a.payload haccepts.payload_eq
        rw [hconfig]
        exact ⟨hrequest, hresponse⟩
      -- The request is queued whether the connection has been opened or not.
      obtain ⟨queue, hqueue, hpipeline⟩ := hpipeline.send h.attached.phase_ne hx
      obtain ⟨nodes, hsend, hattached⟩ := (h.attached.modifyDispatcher fun _ => d).send hqueue
      refine ⟨{ t with dispatcher := d, connection := { t.connection with queue } }, .ok a, ?_⟩
      rw [turn, Session.call, Host.call_of_queued hnode haccept hsend]
      refine ⟨hattached.of_eq rfl rfl, h.accepting, sent ++ [⟨request, a⟩], waiting, hconfig,
        answered, ?_, hpipeline⟩
      rw [← List.append_assoc, ← List.append_assoc, List.append_assoc answered]
      exact hserves.call_of_accepted _ rfl haccepts

/-- Opening the connection moves nothing. -/
theorem connect (h : s.Holds F c t log) : ∃ t', s.Holds F (s.turn F c .connect) t' log := by
  obtain ⟨sent, waiting, hconfig, answered, hserves, hpipeline⟩ := h.talks
  obtain ⟨nodes, links, dialed, hconnect, hattached⟩ := h.attached.connect h.accepting
  rw [turn]
  rw [hconnect] at hattached ⊢
  rcases hattached with ⟨hsame, -⟩ | ⟨hlink, hnew⟩
  · exact ⟨t, hsame, h.accepting, sent, waiting, hconfig, answered, hserves.mono_host rfl, hpipeline⟩
  · -- Both links are empty, so the same is on its way as before.
    rw [hlink] at hpipeline
    exact ⟨{ t with
      connection := { t.connection with phase := .established }
      link := .start t.connection.address c.host.network.capacity },
      hnew, h.accepting, sent, waiting, hconfig, answered, hserves.mono_host rfl,
      hpipeline.small, hpipeline.fits, hpipeline.outward, hpipeline.farCut, hpipeline.waiting_eq,
      hpipeline.inward, hpipeline.nearCut, rfl, rfl, rfl, rfl⟩

/-- Whatever the connection does with its link, a session stays in order if the dispatcher, the
connection and the link do. -/
theorem withConversation (h : s.Holds F c t log) (f : Conversation → Conversation)
    (hf : ∀ sent waiting, s.Talks F c log sent waiting t → t.connection.phase = .established →
      (f t).connection.phase = .established ∧ s.Talks F c log sent waiting (f t)) :
    ∃ t', s.Holds F { c with host := c.host.withConversation s.node f } t' log := by
  obtain ⟨sent, waiting, htalks⟩ := h.talks
  rcases h.attached.established_or with hphase | ⟨-, hidle⟩
  · obtain ⟨hafter, hconfig, answered, hserves, hpipeline⟩ := hf sent waiting htalks hphase
    obtain ⟨nodes, links, hhost, hattached⟩ := h.attached.withConversation hphase f rfl hafter
    rw [hhost]
    exact ⟨f t, hattached, h.accepting, sent, waiting, hconfig, answered, hserves.mono_host rfl,
      hpipeline⟩
  · rw [hidle]
    exact ⟨t, h⟩

/-- The background work keeps a session in order. -/
theorem drive (h : s.Holds F c t log) : ∃ t', s.Holds F (s.turn F c .drive) t' log := by
  obtain ⟨t', h'⟩ := h.connect
  rw [turn, h.attached.driveConnection_eq h.accepting]
  exact h'.withConversation _ fun sent waiting htalks => htalks.run

/-- The peer takes requests that were sent. -/
theorem peerRead (h : s.Holds F c t log) (size : Nat) :
    ∃ t', s.Holds F (s.turn F c (.peerRead size)) t' log := by
  cases hnumber : c.host.linkOf? s.node with
  | none =>
    refine ⟨t, ?_⟩
    simp only [turn, hnumber, Option.bind_none]
    exact h
  | some number =>
    obtain ⟨sent, waiting, hconfig, answered, hserves, hpipeline⟩ := h.talks
    obtain ⟨outbound, received, hread, hmoved⟩ := Link.farReadAll_eq hpipeline.nearOpen size
    obtain ⟨reading, hpeer, hframes⟩ := Host.peerRead_of_open
      (h.attached.getElem?_links hnumber) hpipeline.farOpen size
    have hattached := h.attached.modifyLink hnumber fun l =>
      { l.farReadAll size with
        received := [(Frame.decodeAll Peer.maxPayload
          (t.link.farReadAll size).received.reverse.flatten).rest] }
    rw [hread] at hpeer hframes hattached
    obtain ⟨taken, left, hsent, hpipeline'⟩ := hpipeline.peerRead hmoved
    rw [hsent, ← List.append_assoc waiting] at hserves
    simp only [turn, hnumber, Option.bind_some, hpeer, hframes]
    exact ⟨{ t with link := { t.link with
      outbound
      received := [(Frame.decodeAll Peer.maxPayload received.reverse.flatten).rest] } },
      hattached, h.accepting, left, waiting ++ taken, hconfig, answered, hserves.mono_host rfl,
      hpipeline'⟩

/-- The peer answers a request that waits. -/
theorem peerAnswer (h : s.Holds F c t log) (request : Nat) :
    s.Holds F (s.turn F c (.peerAnswer request)) t log := by
  obtain ⟨sent, waiting, hconfig, answered, hserves, hpipeline⟩ := h.talks
  obtain ⟨waiting', answered', hperm, hpipeline⟩ := hpipeline.peerAnswer request
  rw [hconfig] at hpipeline
  refine ⟨h.attached, h.accepting, sent, waiting', hconfig, answered', hserves.perm ?_, hpipeline⟩
  rw [← List.append_assoc, ← List.append_assoc]
  exact hperm.symm.append_right _

/-- The peer writes octets of its answers. -/
theorem peerWrite (h : s.Holds F c t log) (size : Nat) :
    ∃ t', s.Holds F (s.turn F c (.peerWrite size)) t' log := by
  cases hnumber : c.host.linkOf? s.node with
  | none =>
    refine ⟨t, ?_⟩
    simp only [turn, hnumber, Option.map_none]
    exact h
  | some number =>
    obtain ⟨sent, waiting, hconfig, answered, hserves, hpipeline⟩ := h.talks
    have hwrite := Link.farWrite_eq hpipeline.nearOpen (c.peer.outgoing.take size)
    have htaken : ((c.peer.outgoing.take size).take (t.link.capacity - t.link.inbound.length)) <+:
        c.peer.outgoing :=
      (List.take_prefix _ _).trans (List.take_prefix _ _)
    generalize (c.peer.outgoing.take size).take (t.link.capacity - t.link.inbound.length) = taken
      at hwrite htaken
    have hattached := h.attached.modifyLink hnumber fun _ =>
      { t.link with inbound := t.link.inbound ++ taken }
    have hpipeline := hpipeline.peerWrite (List.prefix_iff_eq_append.1 htaken).symm
    simp only [turn, hnumber, Option.map_some, Host.writeOnce, h.attached.getElem?_links hnumber,
      hwrite]
    exact ⟨{ t with link := { t.link with inbound := t.link.inbound ++ taken } }, hattached,
      h.accepting, sent, waiting, hconfig, answered, hserves.mono_host rfl, hpipeline⟩

/-- A completion worker takes no answer. -/
theorem work (h : s.Holds F c t log) (worker : Nat) :
    ∃ t', s.Holds F (s.turn F c (.work worker)) t' log := by
  obtain ⟨sent, waiting, hconfig, answered, hserves, hpipeline⟩ := h.talks
  exact ⟨{ t with dispatcher := t.dispatcher.runWorker worker },
    h.attached.modifyDispatcher (Dispatcher.runWorker · worker), h.accepting, sent, waiting,
    hconfig, answered, hserves.work worker _ rfl, hpipeline⟩

end Holds

end RemoteService

end RemoteCall
