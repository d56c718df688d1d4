import RemoteCall.Proofs.Host.Requests
/-!
# Isolation

All dispatchers number their calls from one on, so that their ids collide. What keeps them apart is
that no two dispatchers of a host have the same number (`Host.nodup_systemIds`), that every message
carries the number of the dispatcher it is meant for, and that every way back leads to the dispatcher
that sent the request.

The main statement is `Host.dispatchers_are_isolated`. Its last part compares two runs: what belongs
to a dispatcher after a run is what belongs to it after those turns of the run that concern it.
-/

namespace RemoteCall

namespace Host

/-! ## The numbers of dispatchers -/

/-- Whether somebody asks for a new dispatcher. -/
def Turn.builds : Turn → Bool
  | .build _ _ _ _ => true
  | _ => false

/-- The numbers of the dispatchers, in order. -/
def systemIds (h : Host) : List UInt64 :=
  h.nodes.map fun n => n.dispatcher.systemId

namespace Share

variable {x y : Share} {node : Nat} {n : Node}

/-- The number of the dispatcher. -/
def systemId? (x : Share) : Option UInt64 :=
  x.node.map fun n => n.dispatcher.systemId

/-- No act changes the number of a dispatcher. -/
theorem Step.systemId?_eq {ids : Nat} (hstep : x.Step node n y ids) :
    y.systemId? = some n.dispatcher.systemId := by
  rw [systemId?]
  cases hstep with
  | narrow hnode hnarrows _ _ => rw [hnode, Option.map_some, hnarrows.systemId_eq]
  | skip hnode _ _ =>
    rw [hnode]
    rfl
  | accept haccepts hnode hnarrows _ _ =>
    obtain ⟨calls, rfl, -⟩ := haccepts.state_eq
    rw [hnode, Option.map_some, hnarrows.systemId_eq]

/-- No turn but one that builds a dispatcher changes a number. -/
theorem systemId?_turn (x : Share) (node : Nat) (s : Surroundings) {t : Turn}
    (ht : t.builds = false) : (x.turn node s t).systemId? = x.systemId? := by
  have hkeep : ∀ {ids : Nat} {y : Share}, (x.node = none → y.node = none) →
      (∀ n, x.node = some n → x.Step node n y ids) → y.systemId? = x.systemId? := by
    intro ids y hnone hstep
    cases hnode : x.node with
    | none => rw [systemId?, systemId?, hnone hnode, hnode]
    | some n =>
      rw [(hstep n hnode).systemId?_eq, systemId?, hnode]
      rfl
  cases t with
  | build b e config connections => cases ht
  | register e handler => rfl
  | unregister e => rfl
  | stop =>
    refine hkeep (fun hnone => ?_) fun n hnode => step_stop hnode node
    rw [turn, stop, hnone]
    rfl
  | act other a =>
    rw [turn]
    split
    next =>
      refine hkeep (fun hnone => ?_) fun n hnode => step_act hnode node s a
      rw [act, hnone]
      exact hnone
    next => rfl

end Share

variable {h h' : Host}

theorem getElem?_systemIds {node : Nat} {n : Node} (hnode : h.nodes[node]? = some n) :
    h.systemIds[node]? = some n.dispatcher.systemId := by
  rw [systemIds, List.getElem?_map, hnode]
  rfl

theorem systemIds_turn (hown : ∀ node, h.isOwned node = false) {t : Turn} (ht : t.builds = false) :
    (h.turn t).systemIds = h.systemIds := by
  refine List.ext_getElem? fun node => ?_
  have hshare := (h.share node).systemId?_turn node h.surroundings ht
  rw [← share_turn hown] at hshare
  rw [systemIds, systemIds, List.getElem?_map, List.getElem?_map]
  exact hshare

theorem nextSystemId_turn (hown : ∀ node, h.isOwned node = false) {t : Turn}
    (ht : t.builds = false) : (h.turn t).nextSystemId = h.nextSystemId := by
  have hnext : (h.surroundings.turn t).nextSystemId = h.nextSystemId := by
    cases t with
    | build b e config connections => cases ht
    | register e handler =>
      rw [Surroundings.turn]
      split <;> rfl
    | _ => rfl
  rw [← hnext, ← surroundings_turn hown]
  rfl

/-- Every dispatcher that is built gets a number of its own. A number is used up even if the
dispatcher cannot be built. -/
theorem handsOut_systemIds (factory : TransportFactory) (config : DispatcherConfig)
    (connections : ConnectionConfig) (turns : List Turn) :
    ∃ count ≤ turns.countP Turn.builds,
      HandsOut ((start factory config connections).run turns).nextSystemId count
        ((start factory config connections).run turns).systemIds := by
  induction turns using List.reverseRecOn with
  | nil => exact ⟨0, Nat.le_refl 0, .zero⟩
  | append_singleton turns t ih =>
    have hown := isOwned_run (isOwned_start factory config connections) turns
    rw [run_append, List.countP_append]
    generalize (start factory config connections).run turns = h at *
    rw [show h.run [t] = h.turn t from rfl]
    obtain ⟨count, hcount, hnumbers⟩ := ih
    cases ht : t.builds with
    | false =>
      rw [systemIds_turn hown ht, nextSystemId_turn hown ht]
      exact ⟨count, by omega, hnumbers⟩
    | true =>
      cases t with
      | build b e config connections =>
        rw [List.countP_singleton, if_pos ht, build_eq]
        split
        · split
          · -- The number of a dispatcher that cannot be built is given to nobody.
            exact ⟨count + 1, by omega, hnumbers.skip⟩
          · refine ⟨count + 1, by omega, ?_⟩
            rw [systemIds, List.map_append]
            exact hnumbers.give
        · exact ⟨count, by omega, hnumbers⟩
      | _ => cases ht

/-- No two dispatchers have the same number. -/
theorem nodup_systemIds (factory : TransportFactory) (config : DispatcherConfig)
    (connections : ConnectionConfig) {turns : List Turn}
    (hfew : turns.countP Turn.builds < 2 ^ 64) :
    ((start factory config connections).run turns).systemIds.Nodup := by
  obtain ⟨count, hcount, hnumbers⟩ := handsOut_systemIds factory config connections turns
  exact hnumbers.nodup (by omega)

theorem systemId_ne (hnodup : h.systemIds.Nodup) {node other : Nat} {n m : Node}
    (hnode : h.nodes[node]? = some n) (hother : h.nodes[other]? = some m) (hne : other ≠ node) :
    n.dispatcher.systemId ≠ m.dispatcher.systemId := by
  intro hsame
  have hn := getElem?_systemIds hnode
  have hm := getElem?_systemIds hother
  obtain ⟨hlt, -⟩ := List.getElem?_eq_some_iff.1 hm
  exact hne ((List.getElem?_inj hlt hnodup).1 (hm.trans (hsame ▸ hn.symm)))

theorem systemId_run (hown : ∀ node, h.isOwned node = false) (turns : List Turn) {node : Nat}
    {id : UInt64} (hid : h.systemIds[node]? = some id) :
    (h.run turns).systemIds[node]? = some id := by
  induction turns generalizing h with
  | nil => exact hid
  | cons t turns ih =>
    refine ih (isOwned_turn hown t) ?_
    cases ht : t.builds with
    | false => rwa [systemIds_turn hown ht]
    | true =>
      cases t with
      | build b e config connections =>
        rw [build_eq]
        split
        · split
          · exact hid
          · rw [systemIds, List.map_append]
            exact getElem?_append_of_eq_some hid _
        · exact hid
      | _ => cases ht

end Host

/-! ## Messages for others -/

namespace Dispatcher

variable {d : Dispatcher}

/-- A message with the number of another dispatcher does nothing. -/
theorem receive_eq_self {envelope : Envelope} (h : envelope.systemId ≠ d.systemId)
    (payload : Bytes) : (d.receive envelope payload).2 = d := by
  have hignored : d.take (.response envelope payload) = d :=
    handleResponse_eq_self (fun hsame => absurd hsame h) payload
  rw [receive_eq, hignored, ite_self]

/-- A connection that brings messages with the number of another dispatcher might as well not
bring them. -/
theorem absorb_filter {id : UInt64} (h : id ≠ d.systemId) (effect : Connection.Effect) :
    d.absorb effect =
      d.absorb { effect with frames := effect.frames.filter (·.envelope.systemId ≠ id) } := by
  have hframes : ∀ (frames : List Frame) (d : Dispatcher), id ≠ d.systemId →
      (frames.filter (·.envelope.systemId ≠ id)).foldl
          (fun d f => (d.receive f.envelope f.payload).2) d =
        frames.foldl (fun d f => (d.receive f.envelope f.payload).2) d := by
    intro frames
    induction frames with
    | nil => exact fun _ _ => rfl
    | cons f frames ih =>
      intro d hid
      by_cases hf : f.envelope.systemId = id
      · have hsame : (d.receive f.envelope f.payload).2 = d :=
          receive_eq_self (hf ▸ hid) f.payload
        rw [List.filter_cons_of_neg (by simp [hf]), List.foldl_cons, hsame]
        exact ih d hid
      · have hsystem : (d.receive f.envelope f.payload).2.systemId = d.systemId :=
          (d.narrows_notice (.response f.envelope f.payload)).systemId_eq
        rw [List.filter_cons_of_pos (by simpa using hf), List.foldl_cons, List.foldl_cons]
        exact ih _ (hsystem ▸ hid)
  rw [absorb, absorb, hframes effect.frames d h]

end Dispatcher

namespace Host

variable {h h' : Host} {node : Nat}

/-- A message that reaches a dispatcher with another number does nothing to it. -/
theorem Share.act_response_eq_self {x : Share} {envelope : Envelope}
    (hid : ∀ n, x.node = some n → envelope.systemId ≠ n.dispatcher.systemId) (node : Nat)
    (s : Surroundings) (payload : Bytes) :
    x.act node s (.signal (.response envelope payload)) = x := by
  rw [act]
  cases hnode : x.node with
  | none => rfl
  | some n =>
    have hignored : n.dispatcher.take (.response envelope payload) = n.dispatcher :=
      Dispatcher.handleResponse_eq_self (fun hsame => absurd hsame (hid n hnode)) payload
    have hsame : x.modifyDispatcher (fun d => d.take (.response envelope payload)) = x := by
      rw [modifyDispatcher, hnode, Option.map_some, hignored, ← hnode]
    simp only [hsame, ite_self]

/-! ## Results -/

/-- The results of the calls of a dispatcher that have arrived so far, in the order of the
calls. -/
def resultsOf (h : Host) (node : Nat) : List (Option Outcome) :=
  (h.futures.filter (Future.isOf node)).map h.outcomeOf?

theorem resultsOf_congr (hshare : h.share node = h'.share node) :
    h.resultsOf node = h'.resultsOf node := by
  have hnode : h.nodes[node]? = h'.nodes[node]? := congrArg Share.node hshare
  have hfutures : h.futures.filter (Future.isOf node) = h'.futures.filter (Future.isOf node) :=
    congrArg Share.futures hshare
  rw [resultsOf, resultsOf, ← hfutures]
  refine List.map_congr_left fun f hf => ?_
  have hof : f.node = node := by simpa [Future.isOf] using (List.mem_filter.1 hf).2
  rw [outcomeOf?, outcomeOf?, mailboxOf, mailboxOf, hof, hnode]

/-! ## Turns that do not matter -/

/-- Whether a turn may matter to a dispatcher with a number. No turn matters that concerns another
dispatcher, and no message does that carries another number. -/
def Turn.mattersTo (node : Nat) (id : UInt64) : Turn → Bool
  | .act other (.signal (.response envelope _)) => other == node && envelope.systemId == id
  | .act other _ => other == node
  | _ => true

/-- A turn that does not matter is an act of another dispatcher, or a message for one. -/
theorem Turn.eq_of_not_mattersTo {id : UInt64} {t : Turn} (ht : t.mattersTo node id = false) :
    ∃ other a, t = .act other a ∧ (other = node →
      ∃ envelope payload, a = .signal (.response envelope payload) ∧ envelope.systemId ≠ id) := by
  cases t with
  | act other a =>
    refine ⟨other, a, rfl, fun hother => ?_⟩
    rw [mattersTo.eq_def] at ht
    grind
  | _ => cases ht

/-- A turn that does not matter to a dispatcher leaves what belongs to it. -/
theorem share_turn_eq_self (hown : ∀ node, h.isOwned node = false) {id : UInt64}
    (hid : ∀ n, h.nodes[node]? = some n → n.dispatcher.systemId = id) {t : Turn}
    (ht : t.mattersTo node id = false) :
    (h.turn t).share node = h.share node ∧ (h.turn t).surroundings = h.surroundings := by
  obtain ⟨other, a, rfl, hmessage⟩ := Turn.eq_of_not_mattersTo ht
  refine ⟨?_, surroundings_turn hown _⟩
  rw [share_turn hown, Share.turn]
  split
  next hother =>
    obtain ⟨envelope, payload, rfl, hne⟩ := hmessage hother
    exact Share.act_response_eq_self (fun n hn => hid n hn ▸ hne) node _ payload
  next => rfl

/-- Two hosts in which the same belongs to a dispatcher go through a run, one of them without the
turns that do not matter to the dispatcher. Afterwards the same belongs to it in both. -/
theorem share_run_filter (hown : ∀ node, h.isOwned node = false)
    (hown' : ∀ node, h'.isOwned node = false) (hsurroundings : h.surroundings = h'.surroundings)
    (hshare : h.share node = h'.share node) {id : UInt64} {turns : List Turn}
    (hid : (h.run turns).systemIds[node]? = some id) :
    (h.run turns).share node = (h'.run (turns.filter (Turn.mattersTo node id))).share node := by
  -- The hosts differ in what belongs to others, but no turn depends on that.
  induction turns generalizing h h' with
  | nil => exact hshare
  | cons t turns ih =>
    by_cases ht : t.mattersTo node id = true
    · rw [List.filter_cons_of_pos ht]
      refine ih (isOwned_turn hown t) (isOwned_turn hown' t) ?_ ?_ hid
      · rw [surroundings_turn hown, surroundings_turn hown', hsurroundings]
      · rw [share_turn hown, share_turn hown', hsurroundings, hshare]
    · -- The number of the dispatcher is the same now as at the end of the run.
      have hnow : ∀ n, h.nodes[node]? = some n → n.dispatcher.systemId = id := by
        intro n hn
        have hend := systemId_run hown (t :: turns) (getElem?_systemIds hn)
        rw [hid] at hend
        exact (Option.some.inj hend).symm
      obtain ⟨hsame, hsurroundings'⟩ := share_turn_eq_self hown hnow (by simpa using ht)
      rw [List.filter_cons_of_neg ht]
      exact ih (isOwned_turn hown t) hown' (hsurroundings'.trans hsurroundings)
        (hsame.trans hshare) hid

/-! ## Isolation -/

/-- Nothing has happened to a dispatcher, to what belongs to it, and to the results of its calls. -/
structure Untouched (h h' : Host) (node : Nat) : Prop where
  share_eq : h'.share node = h.share node
  results_eq : h'.resultsOf node = h.resultsOf node

theorem untouched_of_share_eq (hshare : h'.share node = h.share node) : h.Untouched h' node :=
  ⟨hshare, resultsOf_congr hshare⟩

/-- An act of one dispatcher does nothing to another. -/
theorem untouched_act (hown : ∀ node, h.isOwned node = false) {other : Nat} (hother : other ≠ node)
    (a : Act) : h.Untouched (h.act node a) other :=
  untouched_of_share_eq ((confined_act hown node a).others other hother)

/-- No message with the number of a dispatcher does anything to another, wherever it arrives. -/
theorem untouched_response (hown : ∀ node, h.isOwned node = false) (hnodup : h.systemIds.Nodup)
    {n : Node} (hnode : h.nodes[node]? = some n) {other : Nat} (hother : other ≠ node)
    {envelope : Envelope} (henvelope : envelope.systemId = n.dispatcher.systemId) (sink : Nat)
    (payload : Bytes) :
    h.Untouched (h.act sink (.signal (.response envelope payload))) other := by
  by_cases hsink : other = sink
  · -- It arrives there, but is not meant for it.
    subst hsink
    refine untouched_of_share_eq ?_
    rw [(confined_act hown other _).share_eq]
    refine Share.act_response_eq_self (fun m hm => ?_) other _ payload
    rw [henvelope]
    exact systemId_ne hnodup hnode hm hother
  · exact untouched_act hown hsink _

/-- A request that ends does nothing to the results of calls with another mailbox than the call
that is concluded. -/
theorem outcomeOf?_eq_of_concludes {n : Node} (hnode : h.nodes[node]? = some n) {d' : Dispatcher}
    (hnodes : h'.nodes = h.nodes.set node { n with dispatcher := d' }) {id : UInt64}
    {call : OutstandingCall} {outcome : Outcome}
    (hconcludes : n.dispatcher.Concludes d' id call outcome) {f : Future} (hf : f.node = node)
    (hbox : call.box ≠ f.box) : h'.outcomeOf? f = h.outcomeOf? f := by
  obtain ⟨hlt, -⟩ := List.getElem?_eq_some_iff.1 hnode
  have hmailbox : h'.mailboxOf f = h.mailboxOf f := by
    rw [mailboxOf, mailboxOf, hnodes, hf, List.getElem?_set_self hlt, hnode]
    exact hconcludes.state_eq hbox
  rw [outcomeOf?, outcomeOf?, hmailbox]

/-- In every run, with fewer dispatchers than there are numbers, a message with the number of a
dispatcher does nothing to any other dispatcher, wherever it arrives and whatever id it carries. A
request of a dispatcher that ends does nothing to any other dispatcher either; it concludes the call
that is outstanding under its id and does nothing to any other call. As long as ids have not wrapped
around, the call with this id is the one that the request was sent for. So what belongs to a
dispatcher, and with it the results of its calls, is what it would be if the others had done nothing
after they were built, and if no message with another number had reached it. -/
theorem dispatchers_are_isolated (factory : TransportFactory) (config : DispatcherConfig)
    (connections : ConnectionConfig) (turns : List Turn) (node : Nat) (n : Node)
    (hfew : turns.countP Turn.builds < 2 ^ 64)
    (hnode : ((start factory config connections).run turns).nodes[node]? = some n) :
    let h := (start factory config connections).run turns
    let id := n.dispatcher.systemId
    let alone := (start factory config connections).run (turns.filter (Turn.mattersTo node id))
    (∀ other ≠ node, ∀ envelope payload, envelope.systemId = id →
      (∀ m, h.nodes[other]? = some m → (m.dispatcher.receive envelope payload).2 = m.dispatcher) ∧
      ∀ sink, h.Untouched (h.act sink (.signal (.response envelope payload))) other) ∧
    (∀ other ≠ node, ∀ m, h.nodes[other]? = some m → ∀ effect : Connection.Effect,
      m.dispatcher.absorb effect =
        m.dispatcher.absorb
          { effect with frames := effect.frames.filter (·.envelope.systemId ≠ id) }) ∧
    (∀ a r answer?, (h.share node).Ends a r answer? →
      (∀ other ≠ node, h.Untouched (h.act node a) other) ∧
      (∃ d', (h.act node a).nodes = h.nodes.set node { n with dispatcher := d' } ∧
        (d' = n.dispatcher ∨
          ∃ call outcome, n.dispatcher.Concludes d' r.request.correlationId call outcome ∧
            ∃ f ∈ (h.share node).futures, f.id = r.request.correlationId ∧ f.box = call.box ∧
              ∀ g ∈ (h.share node).futures, g ≠ f → (h.act node a).outcomeOf? g = h.outcomeOf? g)) ∧
      ((turns.map (Turn.ids node)).sum ≤ 2 ^ 64 →
        ∃ f ∈ (h.share node).futures, ∀ g ∈ (h.share node).futures,
          g.id = r.request.correlationId ↔ g = f)) ∧
    alone.share node = h.share node ∧ alone.resultsOf node = h.resultsOf node := by
  intro h id alone
  have hown := isOwned_run (isOwned_start factory config connections) turns
  have hnodup := nodup_systemIds factory config connections hfew
  refine ⟨fun other hother envelope payload henvelope => ⟨fun m hm => ?_, fun sink => ?_⟩,
    fun other hother m hm effect => ?_, fun a r answer? hends => ⟨?_, ?_, fun hids => ?_⟩, ?_⟩
  · refine Dispatcher.receive_eq_self ?_ payload
    rw [henvelope]
    exact systemId_ne hnodup hnode hm hother
  · exact untouched_response hown hnodup hnode hother henvelope sink payload
  · exact Dispatcher.absorb_filter (systemId_ne hnodup hnode hm hother) effect
  · exact fun other hother => untouched_act hown hother a
  · have hbooks := books_run factory config connections turns hnode
    obtain ⟨y, hact, hy, -, hrequests⟩ := hends.act_eq hnode node h.surroundings
    have hsystem := (hbooks.addressed r (hrequests.mem_iff.2 List.mem_cons_self)).1
    have hconfined := confined_act hown node a
    rw [hact] at hconfined
    have hnodes : (h.act node a).nodes =
        h.nodes.set node { n with dispatcher := r.finish answer? n.dispatcher } := by
      refine hconfined.nodes_eq ?_
      rw [Share.modifyDispatcher, hy]
      rfl
    refine ⟨_, hnodes, ?_⟩
    rcases Responder.finish_cases hsystem answer? with hsame | ⟨call, outcome, hconcludes⟩
    · exact .inl hsame
    · -- The outcome goes to the mailbox of the call, and no other future has it.
      obtain ⟨f, hf, hid, hbox⟩ := hbooks.registered _ call hconcludes.found
      refine .inr ⟨call, outcome, hconcludes, f, hf, hid, hbox, fun g hg hne => ?_⟩
      have hof : g.node = node := by simpa [Future.isOf] using (List.mem_filter.1 hg).2
      refine outcomeOf?_eq_of_concludes hnode hnodes hconcludes hof fun hsame => hne ?_
      exact hbooks.eq_of_box_eq hg hf (hsame.symm.trans hbox.symm)
  · have hbooks := books_run factory config connections turns hnode
    obtain ⟨y, -, -, -, hrequests⟩ := hends.act_eq hnode node h.surroundings
    obtain ⟨f, hf, hid, hunique, -⟩ :=
      hbooks.exists_unique_future hids (hrequests.mem_iff.2 List.mem_cons_self)
    exact ⟨f, hf, fun g hg => ⟨hunique g hg, fun hsame => hsame ▸ hid⟩⟩
  · have hstart := isOwned_start factory config connections
    have hshare : h.share node = alone.share node :=
      share_run_filter hstart hstart rfl rfl (getElem?_systemIds hnode)
    exact ⟨hshare.symm, resultsOf_congr hshare.symm⟩

/-- Two dispatchers make a call each, and both calls have the id one. The call of the first gets its
own answer, although the second gets a message for the first and another answer. -/
theorem calls_with_one_id_are_isolated :
    let endpoint : Endpoint := { scheme := "inproc", host := "local", port := none, path := "Calc" }
    let request : CallRequest :=
      { codec := .json, service := "Calc", method := "Count", argument := .json .null
        replyType := .any }
    let settings : DispatcherConfig := { completionWorkers := 2, maxOutstandingCalls := none }
    let stray : Signal := .response ((Envelope.request 1 1 0).responseTo 2) [0, 0x31]
    let turns : List Turn :=
      [.build .inProcess endpoint settings .default, .build .inProcess endpoint settings .default,
        .register endpoint fun _ _ => .hold, .act 0 (.call request), .act 1 (.call request),
        .act 1 (.signal stray), .act 1 (.react 0 (.answer (.raw [0, 0x38]))), .act 1 (.work 0),
        .act 0 (.react 0 (.answer (.raw [0, 0x37]))), .act 0 (.work 0)]
    let own : List Turn :=
      [.build .inProcess endpoint settings .default, .build .inProcess endpoint settings .default,
        .register endpoint fun _ _ => .hold, .act 0 (.call request),
        .act 0 (.react 0 (.answer (.raw [0, 0x37]))), .act 0 (.work 0)]
    let h := (start .empty settings .default).run turns
    turns.countP Turn.builds < 2 ^ 64 ∧ h.futures.map Future.id = [1, 1] ∧
      (h.resultsOf 0).map Option.isSome = [true] ∧
      ((start .empty settings .default).run own).resultsOf 0 = h.resultsOf 0 := by
  intro endpoint request settings stray turns own h
  have hfew : turns.countP Turn.builds < 2 ^ 64 := by decide
  have hids : h.futures.map Future.id = [1, 1] := by decide +kernel
  have harrived : (h.resultsOf 0).map Option.isSome = [true] := by decide +kernel
  have hnumber : (h.nodes[0]?.map fun n => n.dispatcher.systemId) = some 1 := by decide +kernel
  obtain ⟨n, hnode, hid⟩ := Option.map_eq_some_iff.1 hnumber
  have hown : turns.filter (Turn.mattersTo 0 n.dispatcher.systemId) = own := by
    rw [hid]
    rfl
  have hisolated := dispatchers_are_isolated .empty settings .default turns 0 n hfew hnode
  refine ⟨hfew, hids, harrived, ?_⟩
  rw [← hown]
  exact hisolated.2.2.2.2

end Host

end RemoteCall
