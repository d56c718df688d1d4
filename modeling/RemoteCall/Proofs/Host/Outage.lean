import RemoteCall.Proofs.Host.Wiring
/-!
# Outages

A connection ends once, and for good. As long as its dispatcher is there it ends with a fault, and
the fault resolves every call that is outstanding then, be its request written, partly written or
still in the queue (`Host.no_call_hangs_on_an_ended_connection`). After that every call is refused
by the transport and resolved at once, so that no call is outstanding between turns.
-/

namespace RemoteCall

namespace Host

variable {h : Host} {node : Nat} {n : Node} {c : Connection}

/-! ## After the fault -/

/-- A call through a connection that has ended is resolved at once, and nothing is sent. -/
theorem Share.call_of_ended (x : Share) (hwired : n.Wired c) (hended : c.isOpen = false)
    (hlive : n.dispatcher.live = true) {request : CallRequest} {a : Admission} {d : Dispatcher}
    (haccept : n.dispatcher.accept request = (.ok a, d)) (node : Nat) (s : Surroundings) :
    ∃ n', (x.call node s n request).node = some n' ∧ n'.transport = n.transport ∧
      n'.dispatcher.calls.values = [] ∧
      n'.dispatcher.Resolved (a.record request) (.error (c.refusal a.payload)) := by
  have haccepts := Dispatcher.accepts_of_accept haccept
  have hkept := (Dispatcher.reaches_of_accepts hlive haccepts).kept hwired.kept
  obtain ⟨dial, closing, htransport, -⟩ := hwired.transport_eq
  have hrejected : Node.send { n with dispatcher := d } node s a =
      (.rejected (c.refusal a.payload), n.transport, []) := by
    simp only [Node.send, htransport, Connection.send_of_ended hended]
  rw [call, haccept]
  simp only [hrejected]
  refine ⟨_, rfl, rfl, haccepts.values_take_error hkept (hwired.ended hended) _, ?_⟩
  have hcall : a.record request ∈ d.calls.values := by
    rw [haccepts.values_eq]
    exact List.mem_append_right _ List.mem_cons_self
  refine hkept.resolved_take hcall (s := .error a.id (c.refusal a.payload)) ?_
  rw [Signal.verdict, c.normalize_refusal]
  exact if_pos rfl

theorem nodes_run_work (hown : ∀ node, h.isOwned node = false) (hnode : h.nodes[node]? = some n)
    (workers : List Nat) :
    (h.run (workers.map fun worker => .act node (.work worker))).nodes[node]?.map Node.dispatcher =
      some (workers.foldl Dispatcher.runWorker n.dispatcher) := by
  have hwork := nodes_run_acts hown hnode (a := Act.work)
    (f := fun n worker => { n with dispatcher := n.dispatcher.runWorker worker })
    fun worker (_ : worker ∈ workers) h n hown hnode => by
      have hshare : (h.share node).node = some n := hnode
      rw [nodes_act hown]
      simp [Share.act, Share.modifyDispatcher, hshare, Node.allows]
  rw [hwork, Option.map_some]
  exact congrArg some (List.foldl_hom Node.dispatcher fun _ _ => rfl).symm

end Host

/-- The connection of a dispatcher has ended with a fault, which found the dispatcher in the given
state. -/
structure Node.CutOff (n : Node) (c : Connection) (moment : Dispatcher) (e : CallError) : Prop where
  /-- The connection has ended, and nothing waits to be written. -/
  transport_eq : ∃ dial closing, n.transport = .socket c.closed dial closing
  /-- No call is outstanding. -/
  idle : n.dispatcher.calls.values = []
  /-- Every call that was outstanding is resolved with the fault. -/
  failed : ∀ call ∈ moment.calls.values, n.dispatcher.Resolved call (.error e)
  /-- Every call that was resolved is still resolved with its own outcome. -/
  spared : ∀ call outcome, moment.Resolved call outcome → n.dispatcher.Resolved call outcome
  /-- No call has two outcomes. -/
  unique : ∀ call outcome other, n.dispatcher.Resolved call outcome →
    n.dispatcher.Resolved call other → outcome = other

namespace Node

variable {n m : Node} {c : Connection} {moment : Dispatcher} {e : CallError}

theorem cutOff_absorb {d : Dispatcher} (hkept : d.Kept) (c : Connection) (frames : List Frame)
    (f : Failure) (dial : Dial) (closing : Bool) :
    CutOff
      { dispatcher := d.absorb { frames, fault := some (.failure f) }
        transport := .socket c.closed dial closing }
      c (d.absorb { frames }) (.failure f) := by
  have hmoment := (d.reaches_absorb { frames }).kept hkept
  have hafter := (d.reaches_absorb { frames, fault := some (.failure f) }).kept hkept
  refine ⟨⟨dial, closing, rfl⟩, hkept.values_absorb_fault, fun call hcall => ?_,
    fun call outcome hresolved => ?_, fun call outcome other h h' => h.unique h' hafter⟩
  · rw [Dispatcher.absorb_fault]
    split
    next => exact hmoment.resolved_take hcall rfl
    next hdead =>
      -- A dispatcher that was dropped has no outstanding calls.
      obtain ⟨hs, hledger⟩ := hmoment
      have hnone := hledger.orderly.closed (by simpa using hdead)
      rw [hnone] at hcall
      cases hcall
  · rw [Dispatcher.absorb_fault]
    exact hresolved.of_reaches hmoment (Dispatcher.reaches_notice _ (.allError (.failure f)))

theorem CutOff.of_reaches (h : n.CutOff c moment e) (hkept : n.dispatcher.Kept)
    (hwired : m.Wired c.closed) (hreaches : n.dispatcher.Reaches m.dispatcher) :
    m.CutOff c moment e where
  transport_eq := by
    obtain ⟨dial, closing, htransport, -⟩ := hwired.transport_eq
    exact ⟨dial, closing, htransport⟩
  idle := hwired.ended rfl
  failed call hcall := (h.failed call hcall).of_reaches hkept hreaches
  spared call outcome hresolved := (h.spared call outcome hresolved).of_reaches hkept hreaches
  unique call outcome other ho ho' := ho.unique ho' hwired.kept

end Node

namespace Host

variable {h : Host} {node : Nat} {n : Node} {c : Connection}

/-- An event that is a fault cuts off the dispatcher, for good. -/
theorem cutOff_of_fault (hown : ∀ node, h.isOwned node = false) (hnode : h.nodes[node]? = some n)
    (hwired : n.Wired c) {event : Connection.Event} {e : CallError}
    (hfault : (c.step n.dispatcher.live event).2.fault = some e) {after : List Turn}
    (hrunning : .stop ∉ after) :
    h.faultIn node (.act node (.event event)) = some e ∧
    ∃ m, ((h.act node (.event event)).run after).nodes[node]? = some m ∧ m.Wired c.closed ∧
      (h.act node (.event event)).faults node after = [] ∧
      (h.act node (.event event)).written node after = [] ∧
      m.CutOff c (n.dispatcher.absorb { frames := (c.step n.dispatcher.live event).2.frames }) e := by
  obtain ⟨dial, closing, htransport, -⟩ := hwired.transport_eq
  obtain ⟨hopen, hevent, frames, f, rfl, hstep⟩ := Connection.step_of_fault hfault
  have hallows := n.allows_event hevent
  have hhappen : n.happen event =
      { dispatcher := n.dispatcher.absorb { frames, fault := some (.failure f) }
        transport := .socket c.closed (.done none) closing } := by
    rw [Node.happen, htransport]
    simp only [hstep]
  have hnow : (h.turn (.act node (.event event))).nodes[node]? = some (n.happen event) :=
    nodes_event hown hnode hallows
  have hfaultIn : h.faultIn node (.act node (.event event)) = some (.failure f) := by
    simp only [faultIn, hnode, Turn.actOf?, if_true, Node.fault?, htransport, hallows, hfault]
  -- The connection that everything is in order with is the one that has ended.
  obtain ⟨c', hpasses⟩ := hwired.passes_event hallows
  have hwired' : (n.happen event).Wired c.closed := by
    obtain ⟨dial', closing', htransport', -⟩ := hpasses.wired.transport_eq
    rw [hhappen] at htransport'
    cases htransport'
    exact hpasses.wired
  obtain ⟨m, hm, hwiredm, hreaches, hfaults, hwritten⟩ :=
    run_of_ended (isOwned_turn hown _) hnow hwired' rfl hrunning
  refine ⟨hfaultIn, m, hm, hwiredm, hfaults, hwritten, ?_⟩
  rw [hstep]
  have hcut := Node.cutOff_absorb hwired.kept c frames f (.done none) closing
  rw [← hhappen] at hcut
  exact hcut.of_reaches hwired'.kept hwiredm hreaches

/-- In every run in which background work goes on, as long as the dispatcher is there its connection
ends only with a fault. The fault finds the dispatcher after the messages that were read before it.
Whatever happens after that, every call that was outstanding then is resolved with the fault and
every call that was resolved keeps its outcome, and the workers can deliver all of them. There is
no other fault in the whole run. No call is outstanding between turns, and nothing more is written:
a call that is accepted later is resolved at once, because its payload is too large or because the
dispatcher is disconnected. -/
theorem no_call_hangs_on_an_ended_connection (factory : TransportFactory) (config : DispatcherConfig)
    (connections : ConnectionConfig) (turns : List Turn) (node : Nat) (n : Node) (c : Connection)
    (dial : Dial) (closing : Bool) (hrunning : .stop ∉ turns)
    (hnode : ((start factory config connections).run turns).nodes[node]? = some n)
    (hsocket : n.transport = .socket c dial closing) :
    let first := start factory config connections
    let h := first.run turns
    let d := n.dispatcher
    (∀ t n' c' dial' closing', t ≠ .stop → (h.turn t).nodes[node]? = some n' →
      n'.transport = .socket c' dial' closing' → c.isOpen = true → c'.isOpen = false →
      d.live = true →
      ∃ event e, t = .act node (.event event) ∧ (c.step d.live event).2.fault = some e) ∧
    ∀ event e, (c.step d.live event).2.fault = some e → ∀ after, .stop ∉ after →
      let moment := d.absorb { frames := (c.step d.live event).2.frames }
      let ended := h.act node (.event event)
      let later := ended.run after
      (∀ call outcome, d.Resolved call outcome → moment.Resolved call outcome) ∧
      (∀ call ∈ d.calls.values,
        call ∈ moment.calls.values ∨ ∃ outcome, moment.Resolved call outcome) ∧
      first.faults node (turns ++ .act node (.event event) :: after) = [e] ∧
      ended.written node after = [] ∧
      ∃ m, later.nodes[node]? = some m ∧ m.CutOff c moment e ∧
        (∃ workers : List Nat, ∀ call outcome, m.dispatcher.Resolved call outcome →
          (later.run (workers.map fun worker => .act node (.work worker))).nodes[node]?.map
            (fun m' => m'.dispatcher.mail.state call.box) = some (.holding outcome)) ∧
        ∀ request a d', m.dispatcher.live = true →
          m.dispatcher.accept request = (.ok a, d') →
          ∃ m', (later.act node (.call request)).nodes[node]? = some m' ∧
            m'.transport = m.transport ∧ m'.dispatcher.calls.values = [] ∧
            m'.dispatcher.Resolved (a.record request) (.error (.failure
              (if c.config.maxPayload < a.payload.length then
                .wire (.payloadTooLarge a.payload.length c.config.maxPayload)
              else .disconnected d.endpoint.toText))) := by
  intro first h d
  have hown : ∀ i, h.isOwned i = false := isOwned_run (isOwned_start factory config connections) turns
  have hwired : n.Wired c := wired_run factory config connections hrunning hnode hsocket
  refine ⟨?_, fun event e hfault after hafter => ?_⟩
  · intro t n' c' dial' closing' ht hnode' hsocket' hopen hended hlive
    obtain ⟨n₁, c₁, hnode₁, hpasses⟩ := passes_turn hown hnode hwired ht
    obtain rfl : n' = n₁ := Option.some.inj (hnode'.symm.trans hnode₁)
    obtain ⟨dial₁, closing₁, hsocket₁, -⟩ := hpasses.wired.transport_eq
    rw [hsocket'] at hsocket₁
    cases hsocket₁
    obtain ⟨e, hfault⟩ := Option.isSome_iff_exists.1 (hpasses.faulted hopen hended hlive)
    obtain ⟨n₂, c₂, dial₂, closing₂, event, hnode₂, hsocket₂, rfl, hstep⟩ :=
      exists_event_of_faultIn hfault
    obtain rfl : n = n₂ := Option.some.inj (hnode.symm.trans hnode₂)
    rw [hsocket] at hsocket₂
    cases hsocket₂
    exact ⟨event, e, rfl, hstep⟩
  · intro moment ended later
    have hmoment : d.Reaches moment := d.reaches_absorb _
    obtain ⟨hopen, -⟩ := Connection.step_of_fault hfault
    obtain ⟨hfaultIn, m, hm, hwiredm, hfaults, hwritten, hcut⟩ :=
      cutOff_of_fault hown hnode hwired hfault hafter
    have hownLater : ∀ i, later.isOwned i = false :=
      isOwned_run (isOwned_turn hown (.act node (.event event))) after
    refine ⟨fun call outcome hresolved => hresolved.of_reaches hwired.kept hmoment,
      fun call hcall => hwired.kept.outstanding_or_resolved hcall hmoment, ?_, hwritten,
      m, hm, hcut, ?_, ?_⟩
    · -- A fault before this one would have ended the connection.
      have hbefore : first.faults node turns = [] := by
        rcases faults_eq_nil_or_ended factory config connections hrunning node with
          hnone | ⟨n', c', hnode', hwired', hended⟩
        · exact hnone
        · obtain rfl : n = n' := Option.some.inj (hnode.symm.trans hnode')
          obtain ⟨dial', closing', hsocket', -⟩ := hwired'.transport_eq
          rw [hsocket] at hsocket'
          cases hsocket'
          rw [hopen] at hended
          cases hended
      have hthen : (h.turn (.act node (.event event))).faults node after = [] := hfaults
      rw [faults_append, hbefore, faults, hfaultIn, hthen]
      rfl
    · obtain ⟨workers, hworkers⟩ := hwiredm.kept.exists_workers
      refine ⟨workers, fun call outcome hresolved => ?_⟩
      have hdelivered := congrArg (Option.map fun d' => d'.mail.state call.box)
        (nodes_run_work hownLater hm workers)
      rw [Option.map_map, Option.map_some, hworkers call outcome hresolved] at hdelivered
      exact hdelivered
    · intro request a d' hlive haccept
      have hshare : (later.share node).node = some m := hm
      have hcall : (later.act node (.call request)).nodes[node]? =
          ((later.share node).call node later.surroundings m request).node := by
        rw [nodes_act hownLater]
        simp [Share.act, hshare, Node.allows, hlive]
      obtain ⟨m', hm', htransport, hnone, hresolved⟩ :=
        (later.share node).call_of_ended hwiredm rfl hlive haccept node later.surroundings
      refine ⟨m', hcall.trans hm', htransport, hnone, ?_⟩
      have hrefusal : c.closed.refusal a.payload = .failure
          (if c.config.maxPayload < a.payload.length then
            .wire (.payloadTooLarge a.payload.length c.config.maxPayload)
          else .disconnected d.endpoint.toText) := by
        rw [Connection.refusal, ← hwired.endpoint_eq]
        exact (apply_ite CallError.failure _ _ _).symm
      rwa [hrefusal] at hresolved

/-- The first of two calls is partly written and the second still in the queue when reading fails.
Both are resolved with the fault, and the end of the stream and the drop that follow are no fault. -/
theorem calls_fail_when_reading_fails :
    let endpoint : Endpoint := { scheme := "tcp", host := "local", port := some 4500, path := "Calc" }
    let request : CallRequest :=
      { codec := .json, service := "Calc", method := "Count", argument := .json .null
        replyType := .any }
    let settings : DispatcherConfig := { completionWorkers := 2, maxOutstandingCalls := none }
    let turns : List Turn :=
      [.build .socket endpoint settings .default, .act 0 (.call request),
        .act 0 (.event .connected), .act 0 (.event (.wrote 0)), .act 0 (.event (.wrote 3)),
        .act 0 (.call request)]
    let after : List Turn :=
      [.act 0 (.work 0), .act 0 (.call request), .act 0 (.event .finished), .act 0 .drop]
    let event : Connection.Event := .readFailed "reset"
    let e : CallError := .failure (.networkFault endpoint.toText "read failed: reset")
    let first := start .empty settings .default
    let h := first.run turns
    ∃ n m, h.nodes[0]? = some n ∧ n.dispatcher.calls.values.map OutstandingCall.id = [1, 2] ∧
      ((h.act 0 (.event event)).run after).nodes[0]? = some m ∧
      (∀ call ∈ n.dispatcher.calls.values, m.dispatcher.Resolved call (.error e)) ∧
      first.faults 0 (turns ++ .act 0 (.event event) :: after) = [e] := by
  intro endpoint request settings turns after event e first h
  have hstate : (h.nodes[0]?.bind fun n => n.transport.connection?.map fun c =>
      (n.dispatcher.calls.values.map OutstandingCall.id, (c.step n.dispatcher.live event).2)) =
        some ([1, 2], { fault := some e }) := by decide +kernel
  obtain ⟨n, hnode, hn⟩ := Option.bind_eq_some_iff.1 hstate
  obtain ⟨c, hc, hpair⟩ := Option.map_eq_some_iff.1 hn
  obtain ⟨hids, heffect⟩ := Prod.mk.inj hpair
  obtain ⟨dial, closing, hsocket⟩ := Transport.eq_socket_of_connection? hc
  have hrunning : .stop ∉ turns := by simp [turns]
  have hafter : .stop ∉ after := by simp [after]
  have hfault : (c.step n.dispatcher.live event).2.fault = some e := by rw [heffect]
  obtain ⟨-, hcut⟩ := no_call_hangs_on_an_ended_connection .empty settings .default turns 0 n c dial
    closing hrunning hnode hsocket
  obtain ⟨-, -, hfaults, -, m, hm, hcutOff, -⟩ := hcut event e hfault after hafter
  refine ⟨n, m, hnode, hids, hm, fun call hcall => hcutOff.failed call ?_, hfaults⟩
  rw [heffect]
  exact hcall

end Host

end RemoteCall
