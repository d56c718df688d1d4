import RemoteCall.Proofs.Host.Requests
import RemoteCall.Proofs.Host.Wiring
import RemoteCall.Proofs.Transport.Outgoing
import RemoteCall.Proofs.Wire.Header
import RemoteCall.Proofs.Wire.Sequence
/-!
# The requests on the stream

The calls that a dispatcher accepts in a run (`Host.posted`) and the octets that the stream of its
connection takes (`Host.written`) are tied to each other by the accounts of the dispatcher
(`Node.Accounts`): every call has the next id and the payload that its caller asked for, and what
was written begins the frames of those requests that are not too large. Every turn keeps the
accounts, whatever else happens in the host.

The main statement is `Host.requests_arrive_in_call_order`. It also says what the far end reads.
-/

namespace RemoteCall

/-! ## What dispatchers accept -/

namespace Dispatcher

variable {d d' : Dispatcher} {posted : List Posting} {count : Nat}

/-- What a dispatcher has accepted after it has handed out so many ids. -/
structure Posted (d : Dispatcher) (count : Nat) (posted : List Posting) : Prop where
  /-- The ids were handed out in the order of the calls. -/
  ascends : Ascends d.nextId count (posted.map fun x => x.admission.id)
  /-- The payload is the encoded request. -/
  payload_eq : ∀ x ∈ posted, x.request.encode = .ok x.admission.payload
  /-- The envelope carries the number of the dispatcher and the id of the call. -/
  envelope_eq : ∀ x ∈ posted, x.admission.envelope =
    .request d.systemId x.admission.id x.admission.payload.length

theorem posted_start (systemId : UInt64) (e : Endpoint) (config : DispatcherConfig) :
    (start systemId e config).Posted 0 [] where
  ascends := .zero
  payload_eq x hx := by cases hx
  envelope_eq x hx := by cases hx

/-- Calls may come to their end. -/
theorem Posted.narrow (h : d.Posted count posted) (hnarrows : d.Narrows d') :
    d'.Posted count posted where
  ascends := by
    rw [hnarrows.nextId_eq]
    exact h.ascends
  payload_eq := h.payload_eq
  envelope_eq := by
    rw [hnarrows.systemId_eq]
    exact h.envelope_eq

/-- An id is used up. -/
theorem Posted.skip (h : d.Posted count posted) : d.allocate.2.Posted (count + 1) posted :=
  ⟨h.ascends.skip, h.payload_eq, h.envelope_eq⟩

/-- A call is accepted. -/
theorem Posted.accept (h : d.Posted count posted) {x : Posting}
    (haccept : d.accept x.request = (.ok x.admission, d')) :
    d'.Posted (count + 1) (posted ++ [x]) := by
  have haccepts := accepts_of_accept haccept
  obtain ⟨calls, rfl, -⟩ := haccepts.state_eq
  refine ⟨?_, ?_, ?_⟩
  · rw [List.map_append, List.map_singleton, haccepts.id_eq]
    exact h.ascends.give
  · intro y hy
    rcases List.mem_append.1 hy with hold | hnew
    · exact h.payload_eq y hold
    · rw [List.mem_singleton.1 hnew]
      exact haccepts.payload_eq
  · intro y hy
    rcases List.mem_append.1 hy with hold | hnew
    · exact h.envelope_eq y hold
    · rw [List.mem_singleton.1 hnew]
      exact haccepts.envelope_eq

end Dispatcher

/-! ## Acts -/

namespace Node

variable {n n' : Node} {a : Host.Act} {x : Posting} {c c' : Connection}

/-- The call that a dispatcher accepts in an act, if it does. -/
def posting? (n : Node) : Host.Act → Option Posting
  | .call request =>
    if n.dispatcher.live then
      match (n.dispatcher.accept request).1 with
      | .ok a => some ⟨request, a⟩
      | .error _ => none
    else none
  | _ => none

/-- A call is accepted if somebody makes it and the dispatcher does not refuse it. -/
theorem posting?_eq_some_iff :
    n.posting? a = some x ↔ a = .call x.request ∧ n.dispatcher.live = true ∧
      ∃ d, n.dispatcher.accept x.request = (.ok x.admission, d) := by
  constructor
  · intro h
    rw [posting?.eq_def] at h
    split at h
    next request =>
      split at h
      next hlive =>
        split at h
        next a' ha =>
          cases h
          exact ⟨rfl, hlive, (n.dispatcher.accept request).2, Prod.ext ha rfl⟩
        next => cases h
      next => cases h
    next => cases h
  · rintro ⟨rfl, hlive, d, haccept⟩
    simp only [posting?, hlive, haccept, if_true]

/-- The accounts of a dispatcher that has handed out so many ids at most: what it has accepted, and
what its connection has written, if it has one. -/
structure Accounts (n : Node) (ids : Nat) (posted : List Posting) (written : Bytes) : Prop where
  recorded : ∃ count ≤ ids, n.dispatcher.Posted count posted
  emits : ∀ c, n.transport.connection? = some c → c.Emits posted written

/-- The output of a dispatcher is that of its connection. -/
theorem output_event (hconnection : n.transport.connection? = some c) (event : Connection.Event) :
    n.output (.event event) = c.output event := by
  obtain ⟨dial, closing, hsocket⟩ := Transport.eq_socket_of_connection? hconnection
  cases event <;> simp [output, Connection.output, hsocket]

/-- An event drains the connection. -/
theorem drains_happen {event : Connection.Event}
    (hconnection : (n.happen event).transport.connection? = some c') :
    ∃ c, n.transport.connection? = some c ∧ c.Drains (n.output (.event event)) c' := by
  cases htransport : n.transport with
  | socket c dial closing =>
    have hbefore : n.transport.connection? = some c := by rw [htransport]; rfl
    rw [happen, htransport] at hconnection
    cases hconnection
    rw [output_event hbefore]
    exact ⟨c, rfl, c.drains_step n.dispatcher.live event⟩
  | _ =>
    rw [happen, htransport] at hconnection
    simp only [htransport] at hconnection
    cases hconnection

/-- A connection that is told of the drop of its dispatcher does nothing yet. -/
theorem connection?_close (t : Transport) : t.close.connection? = t.connection? := by
  cases t <;> rfl

/-- A request is offered to the connection, if there is one. -/
theorem connection?_send {node : Nat} {s : Host.Surroundings} {a : Admission}
    (hconnection : (n.send node s a).2.1.connection? = some c') :
    ∃ c, n.transport.connection? = some c ∧ c' = c.offer a.envelope a.payload := by
  rw [send] at hconnection
  cases htransport : n.transport with
  | socket c dial closing =>
    refine ⟨c, rfl, ?_⟩
    rw [Connection.offer]
    cases hsend : c.send a.envelope a.payload <;>
      simp only [htransport, hsend] at hconnection <;> cases hconnection <;> rfl
  | null =>
    simp only [htransport] at hconnection
    cases hconnection
  | recorder r =>
    simp only [htransport] at hconnection
    cases hconnection
  | inProcess =>
    simp only [htransport] at hconnection
    split at hconnection
    · cases hconnection
    · split at hconnection <;> cases hconnection

end Node

namespace Host.Share

variable {x y : Share} {node : Nat} {s : Surroundings} {n n' : Node} {a : Act} {p : Posting}

/-- What becomes of a dispatcher and its transport when a call is accepted. -/
theorem act_of_posting (hnode : x.node = some n) (h : n.posting? a = some p) (node : Nat)
    (s : Surroundings) :
    ∃ d, n.dispatcher.accept p.request = (.ok p.admission, d) ∧
      (x.act node s a).node = some
        { dispatcher :=
            d.noteSend p.admission.id (Node.send { n with dispatcher := d } node s p.admission).1
          transport := (Node.send { n with dispatcher := d } node s p.admission).2.1 } := by
  obtain ⟨rfl, hlive, d, haccept⟩ := Node.posting?_eq_some_iff.1 h
  refine ⟨d, haccept, ?_⟩
  simp [act, hnode, Node.allows, hlive, call, haccept]

/-- In every other act calls may come to their end, an id may be used up, and the connection may
write. -/
theorem Changes.of_posting_eq_none (h : x.Changes node s n a y) (hnone : n.posting? a = none) :
    ∃ n', y.node = some n' ∧
      (n.dispatcher.Narrows n'.dispatcher ∨
        n'.dispatcher = n.dispatcher.allocate.2 ∧ a.ids = 1) ∧
      ∀ c', n'.transport.connection? = some c' →
        ∃ c, n.transport.connection? = some c ∧ c.Drains (n.output a) c' := by
  have hkept {a : Act} {t : Transport} (hsilent : n.output a = [])
      (hsame : t.connection? = n.transport.connection?) (c' : Connection)
      (hc' : t.connection? = some c') :
      ∃ c, n.transport.connection? = some c ∧ c.Drains (n.output a) c' := by
    rw [hsilent]
    exact ⟨c', hsame ▸ hc', .refl c'⟩
  cases h with
  | stay hquiet hnode _ _ =>
    exact ⟨n, hnode, .inl (.refl _), hkept (Node.fault?_eq_none hquiet).2 rfl⟩
  | take hquiet signal hnode _ _ =>
    have hsilent : n.output a = [] :=
      (Node.fault?_eq_none fun event hevent => absurd hevent (hquiet event)).2
    exact ⟨_, hnode, .inl (n.dispatcher.narrows_take signal), hkept hsilent rfl⟩
  | refuse haccept =>
    refine ⟨_, rfl, ?_, hkept rfl rfl⟩
    -- A call that is refused uses up an id at most.
    cases Dispatcher.refuses_of_accept haccept with
    | duplicate _ _ => exact .inr ⟨rfl, rfl⟩
    | _ => exact .inl (.refl _)
  | @accept request a' d hlive haccept =>
    have hsome : n.posting? (.call request) = some ⟨request, a'⟩ :=
      Node.posting?_eq_some_iff.2 ⟨rfl, hlive, d, haccept⟩
    rw [hnone] at hsome
    cases hsome
  | allocate => exact ⟨_, rfl, .inr ⟨rfl, rfl⟩, hkept rfl rfl⟩
  | drop =>
    exact ⟨_, rfl, .inl n.dispatcher.narrows_close,
      hkept rfl (Node.connection?_close n.transport)⟩
  | work worker => exact ⟨_, rfl, .inl (n.dispatcher.narrows_runWorker worker), hkept rfl rfl⟩
  | @event event _ =>
    refine ⟨_, rfl, .inl ?_, fun c' hc' => Node.drains_happen hc'⟩
    rw [Node.happen]
    split
    · exact n.dispatcher.narrows_absorb _
    · exact .refl _

end Host.Share

namespace Node

variable {n n' : Node} {ids : Nat} {posted : List Posting} {written : Bytes}

theorem Accounts.mono (h : n.Accounts ids posted written) {more : Nat} (hmore : ids ≤ more) :
    n.Accounts more posted written := by
  obtain ⟨count, hcount, hposted⟩ := h.recorded
  exact ⟨⟨count, Nat.le_trans hcount hmore, hposted⟩, h.emits⟩

/-- The accounts of a new dispatcher are empty. -/
theorem accounts_build {b : TransportBuilder} {e : Endpoint} {connections : ConnectionConfig}
    {transport : Transport} (hbuild : b.build true e connections = .ok transport) (ids : Nat)
    (systemId : UInt64) (config : DispatcherConfig) :
    Accounts { dispatcher := .start systemId e config, transport } ids [] [] where
  recorded := ⟨0, Nat.zero_le ids, Dispatcher.posted_start systemId e config⟩
  emits c hc := by
    -- Only one of the builders makes a connection, and nothing waits to be written on a new one.
    cases b with
    | socket =>
      rw [TransportBuilder.build] at hbuild
      split at hbuild
      · cases hbuild
      · cases hbuild
        cases hc
        exact ⟨[], rfl, fun _ => rfl⟩
    | refusing => cases hbuild
    | _ =>
      cases hbuild
      cases hc

/-- An act keeps the accounts. -/
theorem Accounts.act (h : n.Accounts ids posted written) {x : Host.Share} (hnode : x.node = some n)
    (node : Nat) (s : Host.Surroundings) (a : Host.Act) :
    ∃ n', (x.act node s a).node = some n' ∧
      n'.Accounts (ids + a.ids) (posted ++ (n.posting? a).toList) (written ++ n.output a) := by
  obtain ⟨count, hcount, hposted⟩ := h.recorded
  cases hposting : n.posting? a with
  | none =>
    obtain ⟨n', hnode', hdispatcher, htransport⟩ :=
      (Host.Share.changes_act hnode node s a).of_posting_eq_none hposting
    refine ⟨n', hnode', ?_, fun c' hc' => ?_⟩
    · rw [Option.toList_none, List.append_nil]
      rcases hdispatcher with hnarrows | ⟨hallocate, hids⟩
      · exact ⟨count, by omega, hposted.narrow hnarrows⟩
      · rw [hallocate, hids]
        exact ⟨count + 1, by omega, hposted.skip⟩
    · obtain ⟨c, hc, hdrains⟩ := htransport c' hc'
      rw [Option.toList_none, List.append_nil]
      exact (h.emits c hc).drain hdrains
  | some p =>
    obtain ⟨d, haccept, hnode'⟩ := Host.Share.act_of_posting hnode hposting node s
    obtain ⟨rfl, -, -⟩ := Node.posting?_eq_some_iff.1 hposting
    refine ⟨_, hnode', ⟨count + 1, Nat.succ_le_succ hcount, ?_⟩, fun c' hc' => ?_⟩
    · exact (hposted.accept haccept).narrow (d.narrows_noteSend p.admission.id _)
    · -- What is accepted is offered to the connection at once.
      obtain ⟨c, hc, rfl⟩ := Node.connection?_send hc'
      rw [show n.output (.call p.request) = [] from rfl, List.append_nil]
      exact (h.emits c hc).post p

/-- The end of background work keeps the accounts. -/
theorem Accounts.stop (h : n.Accounts ids posted written) {x : Host.Share}
    (hnode : x.node = some n) : ∃ n', x.stop.node = some n' ∧ n'.Accounts ids posted written := by
  obtain ⟨count, hcount, hposted⟩ := h.recorded
  have hstop : x.stop.node = some
      { dispatcher := (x.tasks.foldl (fun d t => t.responder.release d) n.dispatcher).stop
        transport := n.transport.stopped } := by
    rw [Host.Share.stop, hnode]
    rfl
  refine ⟨_, hstop, ⟨count, hcount, ?_⟩, fun c' hc' => ?_⟩
  · have hstep := Host.Share.step_stop hnode 0
    generalize hy : x.stop = y at hstep
    cases hstep with
    | narrow hnode' hnarrows _ _ =>
      rw [← hy, hstop] at hnode'
      cases hnode'
      exact hposted.narrow hnarrows
  · -- The connection is closed.
    cases htransport : n.transport with
    | socket c dial closing =>
      rw [htransport] at hc'
      cases hc'
      rw [← List.append_nil written]
      exact (h.emits c (by rw [htransport]; rfl)).drain c.drains_closed
    | _ =>
      rw [htransport] at hc'
      cases hc'

end Node

namespace Host

/-! ## Turns -/

/-- The call that a dispatcher accepts in a turn, if it does. -/
def postingIn (h : Host) (node : Nat) (t : Turn) : Option Posting :=
  match h.nodes[node]?, t.actOf? node with
  | some n, some a => n.posting? a
  | _, _ => none

/-- The calls that a dispatcher accepts in a run, in order. -/
def posted (h : Host) (node : Nat) : List Turn → List Posting
  | [] => []
  | t :: turns => (h.postingIn node t).toList ++ (h.turn t).posted node turns

theorem posted_append (h : Host) (node : Nat) (turns more : List Turn) :
    h.posted node (turns ++ more) = h.posted node turns ++ (h.run turns).posted node more :=
  collected_append (fun h => h.posted node) (fun h t => (h.postingIn node t).toList) (fun _ => rfl)
    (fun _ _ _ => rfl) h turns more

theorem written_append (h : Host) (node : Nat) (turns more : List Turn) :
    h.written node (turns ++ more) = h.written node turns ++ (h.run turns).written node more :=
  collected_append (fun h => h.written node) (fun h t => h.outputIn node t) (fun _ => rfl)
    (fun _ _ _ => rfl) h turns more

theorem posted_singleton (h : Host) (node : Nat) (t : Turn) :
    h.posted node [t] = (h.postingIn node t).toList :=
  List.append_nil _

theorem written_singleton (h : Host) (node : Nat) (t : Turn) :
    h.written node [t] = h.outputIn node t :=
  List.append_nil _

/-- The accounts of a dispatcher that may not have been built yet. -/
structure Accounts (h : Host) (node ids : Nat) (posted : List Posting) (written : Bytes) :
    Prop where
  before : h.nodes[node]? = none → posted = [] ∧ written = []
  after : ∀ n, h.nodes[node]? = some n → n.Accounts ids posted written

variable {h : Host} {node ids : Nat} {posted : List Posting} {written : Bytes}

theorem accounts_of_node {n : Node} (hnode : h.nodes[node]? = some n)
    (hn : n.Accounts ids posted written) : h.Accounts node ids posted written where
  before hnone := by
    rw [hnode] at hnone
    cases hnone
  after m hm := by
    rw [hnode] at hm
    cases hm
    exact hn

/-- In a turn that does not concern it, a dispatcher accepts nothing, and nothing is written. -/
theorem postingIn_eq_none {t : Turn} (hact : t.actOf? node = none) (h : Host) :
    h.postingIn node t = none ∧ h.outputIn node t = [] := by
  rw [postingIn, outputIn, hact]
  cases h.nodes[node]? <;> exact ⟨rfl, rfl⟩

/-- Every turn keeps the accounts of every dispatcher. -/
theorem Accounts.turn (haccounts : h.Accounts node ids posted written)
    (hown : ∀ node, h.isOwned node = false) (t : Turn) :
    (h.turn t).Accounts node (ids + t.ids node) (posted ++ (h.postingIn node t).toList)
      (written ++ h.outputIn node t) := by
  have hturn : (h.turn t).nodes[node]? = ((h.share node).turn node h.surroundings t).node :=
    congrArg Share.node (share_turn hown node t)
  have hshare : (h.share node).node = h.nodes[node]? := rfl
  cases hact : t.actOf? node with
  | none =>
    obtain ⟨hquiet, hsilent⟩ := postingIn_eq_none hact h
    rw [hquiet, hsilent, Option.toList_none, List.append_nil, List.append_nil]
    -- Most turns that do not concern the dispatcher leave it as it is.
    have hsame (hnodes : (h.turn t).nodes[node]? = h.nodes[node]?) :
        (h.turn t).Accounts node (ids + t.ids node) posted written := by
      refine ⟨fun hnone => haccounts.before (hnodes ▸ hnone), fun n hn => ?_⟩
      exact (haccounts.after n (hnodes ▸ hn)).mono (Nat.le_add_right _ _)
    cases t with
    | register _ _ | unregister _ => exact hsame hturn
    | act other a =>
      have hother : other ≠ node := by
        intro hother
        rw [Turn.actOf?, if_pos hother] at hact
        cases hact
      rw [Share.turn, if_neg hother] at hturn
      exact hsame hturn
    | build b e config connections =>
      rw [Share.turn] at hturn
      split at hturn
      next hbuilt =>
        cases hbuild : b.build true e connections with
        | error e => exact hsame (by rw [hturn, hbuild]; rfl)
        | ok transport =>
          -- The dispatcher that is built has not done anything before.
          obtain ⟨rfl, rfl⟩ := haccounts.before (List.getElem?_eq_none (Nat.le_of_eq hbuilt.2))
          rw [hbuild] at hturn
          exact accounts_of_node hturn (Node.accounts_build hbuild _ h.nextSystemId config)
      next => exact hsame hturn
    | stop =>
      cases hnode : h.nodes[node]? with
      | none =>
        refine hsame ?_
        rw [hturn, hnode, Share.turn, Share.stop, hshare, hnode]
        rfl
      | some n =>
        obtain ⟨n', hn', haccounts'⟩ := (haccounts.after n hnode).stop (hshare.trans hnode)
        rw [Share.turn, hn'] at hturn
        exact accounts_of_node hturn haccounts'
  | some a =>
    obtain rfl := Turn.eq_of_actOf?_eq_some hact
    rw [Share.turn, if_pos rfl] at hturn
    rw [postingIn, outputIn, hact, Turn.ids, if_pos rfl]
    cases hnode : h.nodes[node]? with
    | none =>
      -- Nothing happens to a dispatcher that is not there.
      have hstay : (h.turn (.act node a)).nodes[node]? = none := by
        rw [hturn, Share.act, hshare, hnode]
        exact hshare.trans hnode
      obtain ⟨rfl, rfl⟩ := haccounts.before hnode
      refine ⟨fun _ => ⟨rfl, rfl⟩, fun m hm => ?_⟩
      rw [hstay] at hm
      cases hm
    | some n =>
      obtain ⟨n', hn', haccounts'⟩ :=
        (haccounts.after n hnode).act (hshare.trans hnode) node h.surroundings a
      rw [hn'] at hturn
      exact accounts_of_node hturn haccounts'

/-- In every run the accounts of every dispatcher are in order. -/
theorem accounts_run (factory : TransportFactory) (config : DispatcherConfig)
    (connections : ConnectionConfig) (turns : List Turn) (node : Nat) :
    let first := start factory config connections
    (first.run turns).Accounts node (turns.map (Turn.ids node)).sum (first.posted node turns)
      (first.written node turns) := by
  intro first
  induction turns using List.reverseRecOn with
  | nil => exact ⟨fun _ => ⟨rfl, rfl⟩, fun n hn => by cases hn⟩
  | append_singleton turns t ih =>
    have hown := isOwned_run (isOwned_start factory config connections) turns
    rw [posted_append, written_append, List.map_append, List.sum_append, List.map_singleton,
      List.sum_singleton, posted_singleton, written_singleton, run_append]
    exact ih.turn hown t

end Host

/-! ## What the far end reads -/

/-- What a frame tells the far end about a call: who makes it, and what is called with what. -/
structure Frame.AsksFor (f : Frame) (systemId : UInt64) (x : Posting) : Prop where
  kind_eq : f.envelope.kind = .request
  systemId_eq : f.envelope.systemId = systemId
  correlationId_eq : f.envelope.correlationId = x.admission.id
  decode_eq : ∃ body, x.request.codec.encode x.request.argument = .ok body ∧
    RequestHeader.decode f.payload =
      .ok ({ service := x.request.service, method := x.request.method }, body)

theorem Dispatcher.Posted.asksFor {d : Dispatcher} {count : Nat} {posted : List Posting}
    (h : d.Posted count posted) {x : Posting} (hx : x ∈ posted) :
    x.requestFrame.AsksFor d.systemId x where
  kind_eq := by
    rw [Posting.requestFrame, Frame.sealed, h.envelope_eq x hx]
    rfl
  systemId_eq := by
    rw [Posting.requestFrame, Frame.sealed, h.envelope_eq x hx]
    rfl
  correlationId_eq := by
    rw [Posting.requestFrame, Frame.sealed, h.envelope_eq x hx]
    rfl
  decode_eq := decode_of_encodeRequest (h.payload_eq x hx)

namespace Host

/-- A call with a payload that is too large fails alone. The dispatcher registers it and fails it
with what is wrong, its connection stays as it is, and nothing is written. -/
theorem call_of_too_large {h : Host} {node : Nat} {n : Node} {c : Connection} {dial : Dial}
    {closing : Bool} (hown : ∀ node, h.isOwned node = false) (hnode : h.nodes[node]? = some n)
    (hsocket : n.transport = .socket c dial closing) (hlive : n.dispatcher.live = true)
    {request : CallRequest} {a : Admission} {d : Dispatcher}
    (haccept : n.dispatcher.accept request = (.ok a, d))
    (hlarge : c.config.maxPayload < a.payload.length) :
    h.outputIn node (.act node (.call request)) = [] ∧
      ∃ n', (h.turn (.act node (.call request))).nodes[node]? = some n' ∧
        n'.transport = n.transport ∧
        d.Concludes n'.dispatcher a.id (a.record request) (.error (.failure
          (.wire (.payloadTooLarge a.payload.length c.config.maxPayload)))) := by
  have hact : (Turn.act node (.call request)).actOf? node = some (.call request) := if_pos rfl
  have hposting : n.posting? (.call request) = some ⟨request, a⟩ :=
    Node.posting?_eq_some_iff.2 ⟨rfl, hlive, d, haccept⟩
  obtain ⟨d', haccept', hnode'⟩ :=
    Share.act_of_posting (x := h.share node) hnode hposting node h.surroundings
  obtain rfl : d = d' := (Prod.mk.inj (haccept.symm.trans haccept')).2
  have hsend : Node.send { n with dispatcher := d } node h.surroundings a =
      (.rejected (.failure (.wire (.payloadTooLarge a.payload.length c.config.maxPayload))),
        n.transport, []) := by
    simp only [Node.send, hsocket, Connection.send_of_lt hlarge]
  refine ⟨?_, _, (nodes_act hown node _).trans hnode', ?_, ?_⟩
  · rw [outputIn, hnode, hact]
    rfl
  · rw [hsend]
  · rw [hsend]
    exact Dispatcher.concludes_complete (Dispatcher.accepts_of_accept haccept).find?_eq _

/-- The stream carries the accepted requests in the order of the calls. In every run of a host, what
a connection has written begins the row of the frames of all calls that its dispatcher has accepted
and whose payload the limit allows; once nothing waits on the open connection, it is the whole row.
A call with a payload that is too large adds nothing, and fails alone. Whoever reads what was
written finds no defect, and the begin of that row of calls, each with the number of the dispatcher
and its own id, its service, its method and its argument; once nothing waits, all of them and
nothing else. The ids are ascending numbers modulo `2 ^ 64`, none of which is larger than the number
of ids that were asked for, so that they ascend as long as they have not wrapped around. -/
theorem requests_arrive_in_call_order (factory : TransportFactory) (config : DispatcherConfig)
    (connections : ConnectionConfig) (turns : List Turn) (node : Nat) {n : Node} {c : Connection}
    {dial : Dial} {closing : Bool}
    (hnode : ((start factory config connections).run turns).nodes[node]? = some n)
    (hsocket : n.transport = .socket c dial closing) (hsmall : c.config.maxPayload < 2 ^ 32) :
    let first := start factory config connections
    let limit := c.config.maxPayload
    let written := first.written node turns
    let fitting := (first.posted node turns).filter (Posting.isWithin limit)
    (∃ frames : List Bytes,
      fitting.map (fun x => Frame.encode x.admission.envelope x.admission.payload limit) =
        frames.map .ok ∧
      written <+: frames.flatten ∧
      (c.isOpen = true → c.unwritten = [] → written = frames.flatten)) ∧
    (∀ request a d, n.dispatcher.live = true → n.dispatcher.accept request = (.ok a, d) →
      limit < a.payload.length →
      (first.run turns).outputIn node (.act node (.call request)) = [] ∧
        ∃ n', ((first.run turns).turn (.act node (.call request))).nodes[node]? = some n' ∧
          n'.transport = n.transport ∧
          d.Concludes n'.dispatcher a.id (a.record request) (.error (.failure
            (.wire (.payloadTooLarge a.payload.length limit))))) ∧
    ∃ (sent left : List Posting) (frames : List Frame) (rest : Bytes),
      fitting = sent ++ left ∧
      Frame.decodeAll limit written = ⟨frames, rest, none⟩ ∧
      List.Forall₂ (fun f x => f.AsksFor n.dispatcher.systemId x) frames sent ∧
      (c.isOpen = true → c.unwritten = [] → left = [] ∧ rest = []) ∧
      (∃ numbers : List Nat, frames.map (fun f => f.envelope.correlationId) = numbers.map .ofNat ∧
        numbers.Pairwise (· < ·) ∧ ∀ m ∈ numbers, m ≤ (turns.map (Turn.ids node)).sum) ∧
      ((turns.map (Turn.ids node)).sum < 2 ^ 64 →
        (frames.map fun f => f.envelope.correlationId).Pairwise (· < ·)) := by
  intro first limit written fitting
  have hown := isOwned_run (isOwned_start factory config connections) turns
  have haccounts := (accounts_run factory config connections turns node).after n hnode
  have hemits := haccounts.emits c (by rw [hsocket]; rfl)
  obtain ⟨count, hcount, hposted⟩ := haccounts.recorded
  obtain ⟨sent, left, rest, hsplit, hread, hdrained⟩ := hemits.decodeAll_eq hsmall
  have hsent : sent.Sublist (first.posted node turns) := by
    have hfitting : sent.Sublist fitting := by
      rw [show fitting = sent ++ left from hsplit]
      exact List.sublist_append_left sent left
    exact hfitting.trans List.filter_sublist
  have hasks : ∀ x ∈ sent, x.requestFrame.AsksFor n.dispatcher.systemId x :=
    fun x hx => hposted.asksFor (hsent.subset hx)
  -- The ids that are read are those of the calls.
  have hids : (sent.map Posting.requestFrame).map (fun f => f.envelope.correlationId) =
      sent.map fun x => x.admission.id := by
    rw [List.map_map]
    exact List.map_congr_left fun x hx => (hasks x hx).correlationId_eq
  have hascends := hposted.ascends.sublist (hsent.map fun x => x.admission.id)
  refine ⟨⟨(fitting.map Posting.requestFrame).map Frame.octets, ?_, ?_, ?_⟩, ?_,
    sent, left, sent.map Posting.requestFrame, rest, hsplit, hread, ?_, hdrained, ?_, ?_⟩
  · rw [List.map_map, List.map_map]
    exact List.map_congr_left fun x hx => Posting.encode_of_isWithin (List.mem_filter.1 hx).2
  · obtain ⟨more, hstream, -⟩ := hemits
    exact ⟨more, hstream.symm⟩
  · exact hemits.eq_of_unwritten_eq_nil
  · intro request a d hlive haccept hlarge
    exact call_of_too_large hown hnode hsocket hlive haccept hlarge
  · rw [List.forall₂_map_left_iff, List.forall₂_same]
    exact hasks
  · rw [hids]
    obtain ⟨numbers, hnumbers, hlt, hle⟩ := hascends.exists_numbers
    exact ⟨numbers, hnumbers, hlt, fun m hm => Nat.le_trans (hle m hm) hcount⟩
  · intro hfew
    rw [hids]
    exact hascends.pairwise_lt (Nat.lt_of_le_of_lt hcount hfew)

/-- A call before the connection is open, one that is too large, and one while the first is being
written. The two others are written to the end, in four pieces. -/
theorem second_call_of_three_is_too_large :
    let endpoint : Endpoint := { scheme := "tcp", host := "local", port := some 4500, path := "Calc" }
    let request (argument : Json) : CallRequest :=
      { codec := .json, service := "Calc", method := "Count", argument := .json argument
        replyType := .any }
    let settings : DispatcherConfig := { completionWorkers := 2, maxOutstandingCalls := none }
    let limited : ConnectionConfig := ConnectionConfig.default.withMaxPayload 20
    let turns : List Turn :=
      [.build .socket endpoint settings limited, .act 0 (.call (request .null)),
        .act 0 (.call (request (.string "abcdefgh"))), .act 0 (.event .connected),
        .act 0 (.event (.wrote 0)), .act 0 (.event (.wrote 3)), .act 0 (.call (request (.bool true))),
        .act 0 (.event (.wrote 50)), .act 0 (.event (.wrote 36)), .act 0 (.event (.wrote 20))]
    let first := start .empty settings .default
    ∃ n c dial closing, (first.run turns).nodes[0]? = some n ∧
      n.transport = .socket c dial closing ∧ c.config.maxPayload = 20 ∧
      (first.posted 0 turns).map (fun x => x.admission.id) = [1, 2, 3] ∧
      ∃ frames, Frame.decodeAll 20 (first.written 0 turns) = ⟨frames, [], none⟩ ∧
        List.Forall₂ (fun f x => f.AsksFor 1 x) frames
          ((first.posted 0 turns).filter (Posting.isWithin 20)) ∧
        (frames.map fun f => f.envelope.correlationId).Pairwise (· < ·) := by
  intro endpoint request settings limited turns first
  have hstate : ((first.run turns).nodes[0]?.bind fun n => n.transport.connection?.map fun c =>
      (n.dispatcher.systemId, c.config.maxPayload, c.isOpen, c.unwritten)) =
        some (1, 20, true, []) := by decide +kernel
  have hposted : (first.posted 0 turns).map (fun x => x.admission.id) = [1, 2, 3] := by
    decide +kernel
  obtain ⟨n, hnode, hn⟩ := Option.bind_eq_some_iff.1 hstate
  obtain ⟨c, hc, htuple⟩ := Option.map_eq_some_iff.1 hn
  simp only [Prod.mk.injEq] at htuple
  obtain ⟨hsystem, hlimit, hopen, hdrained⟩ := htuple
  obtain ⟨dial, closing, hsocket⟩ := Transport.eq_socket_of_connection? hc
  obtain ⟨-, -, sent, left, frames, rest, hsplit, hread, hasks, hall, -, hlt⟩ :=
    requests_arrive_in_call_order .empty settings .default turns 0 hnode hsocket
      (by rw [hlimit]; decide)
  obtain ⟨rfl, rfl⟩ := hall hopen hdrained
  rw [hlimit] at hsplit hread
  refine ⟨n, c, dial, closing, hnode, hsocket, hlimit, hposted, frames, hread, ?_, hlt (by decide)⟩
  rw [hsplit, List.append_nil, ← hsystem]
  exact hasks

end Host

end RemoteCall
