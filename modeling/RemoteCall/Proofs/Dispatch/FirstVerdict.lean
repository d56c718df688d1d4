import RemoteCall.Proofs.Dispatch.Conservation
/-!
# The first verdict decides

The calls of a dispatcher share one table, one counter of ids and the queues of the workers.
Seen by its caller, a call is nevertheless a small automaton of its own (`CallPhase`): it is
outstanding until the first signal that concerns it, which settles it, and then waits for a
worker to deliver the outcome. The automaton reads the happenings that come after the call was
accepted and knows nothing of the other calls. This module shows that a dispatcher follows the
automata of all its calls, move by move (`Dispatcher.Ledger.shows_move`), so that the future of a
call yields what the first signal that concerns it means, and nothing else.
-/

namespace RemoteCall

/-! ## The automaton of one call -/

/-- How far a call has come. -/
inductive CallPhase where
  /-- No signal has concerned the call yet. -/
  | outstanding
  /-- The outcome of the call is known and waits for a worker. -/
  | settled (outcome : Outcome)
  /-- The outcome has been sent to the caller. -/
  | delivered (outcome : Outcome)

namespace CallPhase

/-- The outcome of a call, once there is one. -/
def outcome? : CallPhase → Option Outcome
  | outstanding => none
  | settled outcome | delivered outcome => some outcome

/-- The outcome of a call, once the caller has it. -/
def delivered? : CallPhase → Option Outcome
  | delivered outcome => some outcome
  | _ => none

/-- What a happening means for a call. Signals count only as long as the call is outstanding. -/
def step (systemId : UInt64) (c : OutstandingCall) : CallPhase → Happening → CallPhase
  | outstanding, .reached s =>
    match s.verdict systemId c with
    | some outcome => settled outcome
    | none => outstanding
  | settled outcome, .delivered job =>
    if job.call.box = c.box then delivered outcome else settled outcome
  | phase, _ => phase

variable {systemId : UInt64} {c : OutstandingCall}

/-- A call gets its outcome from a verdict, unless it has one. -/
theorem outcome?_step (phase : CallPhase) (h : Happening) :
    (phase.step systemId c h).outcome? = phase.outcome?.or (h.verdict systemId c) := by
  cases phase with
  | outstanding =>
    cases h with
    | reached s =>
      rw [step, Happening.verdict]
      cases s.verdict systemId c <;> rfl
    | _ => rfl
  | settled outcome =>
    cases h with
    | delivered job =>
      rw [step]
      split <;> rfl
    | _ => rfl
  | delivered outcome => cases h <;> rfl

/-- A call gets its outcome from the first verdict, unless it has one. -/
theorem outcome?_foldl_step (phase : CallPhase) (hs : List Happening) :
    (hs.foldl (step systemId c) phase).outcome? =
      phase.outcome?.or (hs.findSome? (Happening.verdict systemId c)) := by
  induction hs generalizing phase with
  | nil => rw [List.foldl_nil, List.findSome?_nil, Option.or_none]
  | cons h hs ih =>
    rw [List.foldl_cons, ih, outcome?_step, List.findSome?_cons]
    cases phase.outcome? with
    | some outcome => rfl
    | none => cases h.verdict systemId c <;> rfl

/-- An outstanding call gets its outcome from the first verdict. -/
theorem outcome?_of_outstanding (hs : List Happening) :
    (hs.foldl (step systemId c) .outstanding).outcome? =
      hs.findSome? (Happening.verdict systemId c) := by
  rw [outcome?_foldl_step, outcome?, Option.none_or]

/-- What has been delivered stays delivered. -/
theorem foldl_step_delivered (outcome : Outcome) (hs : List Happening) :
    hs.foldl (step systemId c) (delivered outcome) = delivered outcome := by
  induction hs with
  | nil => rfl
  | cons h hs ih => exact ih

/-- A call without an outcome is outstanding. -/
theorem eq_outstanding_of_outcome? {phase : CallPhase} (h : phase.outcome? = none) :
    phase = outstanding := by
  cases phase with
  | outstanding => rfl
  | _ => cases h

/-- A call whose outcome has been delivered is in the last phase. -/
theorem eq_delivered_of_delivered? {phase : CallPhase} {outcome : Outcome}
    (h : phase.delivered? = some outcome) : phase = delivered outcome := by
  cases phase with
  | delivered _ =>
    cases h
    rfl
  | _ => cases h

end CallPhase

/-! ## What the caller sees -/

/-- What the future of a call yields for an outcome: an error as it is, and a value if it has
the type that the caller expects. -/
def OutstandingCall.yield (c : OutstandingCall) : Outcome → Except CallError c.replyType.Carrier
  | .error e => .error e
  | .ok reply =>
    match reply.as? c.replyType with
    | some x => .ok x
    | none => .error (.failure (.decode s!"result is not a {c.replyType.name}"))

namespace Dispatcher

/-- What the future of a call yields, if it is ready. -/
def futureResult (d : Dispatcher) (c : OutstandingCall) :
    Option (Except CallError c.replyType.Carrier) :=
  ((d.mail.state c.box).arrival c.replyType).outcome

/-- The phase of a call, as the state of the dispatcher shows it. -/
def Shows (d : Dispatcher) (c : OutstandingCall) : CallPhase → Prop
  | .outstanding => c ∈ d.calls.values
  | .settled outcome => ⟨c, outcome⟩ ∈ d.pool.pending
  | .delivered outcome => d.mail.state c.box = .holding outcome

/-- A future is not ready as long as nothing has been sent to the mailbox. -/
theorem futureResult_of_waiting {d : Dispatcher} {c : OutstandingCall}
    (h : d.mail.state c.box = .waiting) : d.futureResult c = none := by
  rw [futureResult, h]
  rfl

/-- A future yields the outcome that has been sent. -/
theorem futureResult_of_holding {d : Dispatcher} {c : OutstandingCall} {outcome : Outcome}
    (h : d.mail.state c.box = .holding outcome) :
    d.futureResult c = some (c.yield outcome) := by
  rw [futureResult, h]
  cases outcome with
  | error e => rfl
  | ok reply =>
    rw [Mailbox.arrival, OutstandingCall.yield]
    cases reply.as? c.replyType <;> rfl

/-! ## The dispatcher follows the automaton -/

namespace Ledger

variable {d d' : Dispatcher} {hs hs' : List Happening} {c : OutstandingCall}

/-- Nothing has been sent to a call whose outcome waits for a worker. -/
theorem waiting_of_pending (h : d.Ledger hs) {job : Completion} (hjob : job ∈ d.pool.pending) :
    d.mail.state job.call.box = .waiting :=
  h.waiting _ (List.mem_append_right _ (List.mem_map_of_mem hjob))

/-- One call has one job. -/
theorem eq_of_pending (h : d.Ledger hs) {job job' : Completion} (hjob : job ∈ d.pool.pending)
    (hjob' : job' ∈ d.pool.pending) (hbox : job.call.box = job'.call.box) : job = job' := by
  have hnodup := h.nodup_boxes
  rw [List.map_append, List.map_append, List.map_append] at hnodup
  have hpending := (List.nodup_append.1 (List.nodup_append.1 hnodup).2.1).1
  rw [List.map_map] at hpending
  exact List.inj_on_of_nodup_map hpending hjob hjob' hbox

/-- A move does to an accepted call what its automaton does. -/
theorem shows_move (h : d.Ledger hs) (hc : c ∈ acceptedCalls hs) {phase : CallPhase}
    (hshows : d.Shows c phase) (hmove : Move d hs' d') :
    d'.Shows c (hs'.foldl (CallPhase.step d.systemId c) phase) := by
  cases hmove with
  | accept _ haccepts =>
    have hvalues := haccepts.values_eq
    obtain ⟨calls, rfl, -⟩ := haccepts.state_eq
    cases phase with
    | outstanding =>
      have hstay : c ∈ calls.values := by
        rw [hvalues]
        exact List.mem_append_left _ hshows
      exact hstay
    | settled outcome => exact hshows
    | delivered outcome => exact (MailRoom.state_opened (h.box_lt hc)).trans hshows
  | reach s =>
    have hsettles := settles_take h.orderly.running h.orderly.keyed s
    -- A signal settles the call if it concerns it, and only while it is outstanding.
    cases phase with
    | outstanding =>
      rw [List.foldl_cons, List.foldl_nil, CallPhase.step]
      split
      next outcome hverdict =>
        refine hsettles.pending_perm.mem_iff.2 (List.mem_append_right _ ?_)
        exact List.mem_filterMap.2 ⟨c, hshows, by rw [hverdict]; rfl⟩
      next hverdict =>
        have hstay : c ∈ (d.take s).calls.values := by
          rw [hsettles.values_eq]
          exact List.mem_filter.2 ⟨hshows, by rw [hverdict]; rfl⟩
        exact hstay
    | settled outcome => exact hsettles.pending_perm.mem_iff.2 (List.mem_append_left _ hshows)
    | delivered outcome =>
      obtain ⟨calls, pool, htake⟩ := hsettles.frame
      rw [htake]
      exact hshows
  | @deliver worker job hnext =>
    have hpending := CompletionPool.pending_perm_of_next? hnext
    have hjob : job ∈ d.pool.pending := hpending.mem_iff.2 List.mem_cons_self
    rw [runWorker_of_next? hnext, List.foldl_cons, List.foldl_nil]
    cases phase with
    | outstanding => exact hshows
    | settled outcome =>
      by_cases hbox : job.call.box = c.box
      · -- The job of the worker is the job of the call.
        obtain rfl : job = ⟨c, outcome⟩ := h.eq_of_pending hjob hshows hbox
        rw [CallPhase.step, if_pos rfl]
        exact MailRoom.state_send_self (h.waiting_of_pending hjob) outcome
      · rw [CallPhase.step, if_neg hbox]
        rcases List.mem_cons.1 (hpending.mem_iff.1 hshows) with rfl | hrest
        · exact absurd rfl hbox
        · exact hrest
    | delivered outcome =>
      -- The job waits while the call has its outcome, so it is the job of another call.
      have hbox : job.call.box ≠ c.box := by
        intro hsame
        have hwaiting := h.waiting_of_pending hjob
        rw [hsame, show d.mail.state c.box = _ from hshows] at hwaiting
        cases hwaiting
      exact (MailRoom.state_send_of_ne hbox job.outcome).trans hshows
  | skip nextId => cases phase <;> exact hshows
  | leave _ => cases phase <;> exact hshows

/-- Moves do to an accepted call what its automaton does. -/
theorem shows_moves (h : d.Ledger hs) (hc : c ∈ acceptedCalls hs) {phase : CallPhase}
    (hshows : d.Shows c phase) (hmoves : Moves d hs' d') :
    d'.Shows c (hs'.foldl (CallPhase.step d.systemId c) phase) := by
  induction hmoves with
  | refl => exact hshows
  | @tail _ _ earlier _ hbefore hmove ih =>
    have hmem : c ∈ acceptedCalls (hs ++ earlier) := by
      rw [acceptedCalls_append]
      exact List.mem_append_left _ hc
    have hmore := (h.moves hbefore).shows_move hmem ih hmove
    rwa [hbefore.systemId_eq h.orderly, ← List.foldl_append] at hmore

/-- The future of a call yields what has been delivered. -/
theorem futureResult_eq (h : d.Ledger hs) {phase : CallPhase} (hshows : d.Shows c phase) :
    d.futureResult c = phase.delivered?.map c.yield := by
  cases phase with
  | outstanding => exact futureResult_of_waiting (h.waiting c (List.mem_append_left _ hshows))
  | settled outcome =>
    have hjob : ⟨c, outcome⟩ ∈ d.pool.pending := hshows
    exact futureResult_of_waiting (h.waiting_of_pending hjob)
  | delivered outcome => exact futureResult_of_holding hshows

end Ledger

/-! ## Futures -/

/-- The workers settle nothing. -/
theorem findSome?_verdict_run_work (d : Dispatcher) (systemId : UInt64) (c : OutstandingCall)
    (workers : List Nat) :
    (d.run (workers.map .work)).2.findSome? (Happening.verdict systemId c) = none := by
  induction workers generalizing d with
  | nil => rfl
  | cons worker workers ih =>
    have hfirst : (d.step (.work worker)).2.findSome? (Happening.verdict systemId c) = none := by
      rw [step]
      cases d.pool.next? worker <;> rfl
    rw [List.map_cons, run, List.findSome?_append, hfirst, Option.none_or]
    exact ih (d.runWorker worker)

/-- After a run, a call that was accepted in it is in the phase of its automaton. -/
theorem shows_run {systemId : UInt64} {endpoint : Endpoint} {config : DispatcherConfig}
    {ops : List Operation} {before after : List Happening} {c : OutstandingCall}
    (hrun : ((start systemId endpoint config).run ops).2 = before ++ .accepted c :: after) :
    ((start systemId endpoint config).run ops).1.Shows c
      (after.foldl (CallPhase.step systemId c) .outstanding) := by
  have hstart := ledger_start systemId endpoint config
  have hmoves := moves_run hstart.orderly ops
  rw [hrun] at hmoves
  obtain ⟨m, m', hbefore, haccept, hafter⟩ := hmoves.exists_move
  have hledger := (hstart.moves hbefore).move haccept
  have hsystem : m'.systemId = systemId :=
    (hbefore.trans haccept.moves).systemId_eq hstart.orderly
  have hc : c ∈ acceptedCalls ([] ++ before ++ [.accepted c]) := by
    rw [acceptedCalls_append]
    exact List.mem_append_right _ List.mem_cons_self
  have houtstanding : m'.Shows c .outstanding := by
    cases haccept with
    | accept _ haccepts =>
      rw [Shows, haccepts.values_eq]
      exact List.mem_append_right _ List.mem_cons_self
  have hshows := hledger.shows_moves hc houtstanding hafter
  rwa [hsystem] at hshows

/-- What is delivered to the future of a call is the outcome that its automaton has reached, and
when no job waits, this outcome has been delivered. -/
theorem futureResult_run {systemId : UInt64} {endpoint : Endpoint} {config : DispatcherConfig}
    {ops : List Operation} {before after : List Happening} {c : OutstandingCall}
    (hrun : ((start systemId endpoint config).run ops).2 = before ++ .accepted c :: after) :
    let d := ((start systemId endpoint config).run ops).1
    let first := after.findSome? (Happening.verdict systemId c)
    (∀ x, d.futureResult c = some x → first.map c.yield = some x) ∧
      (d.pool.pending = [] → d.futureResult c = first.map c.yield) := by
  intro d first
  have hshows := shows_run hrun
  have houtcome : (after.foldl (CallPhase.step systemId c) .outstanding).outcome? = first :=
    CallPhase.outcome?_of_outstanding after
  have hresult := (ledger_run systemId endpoint config ops).futureResult_eq hshows
  generalize after.foldl (CallPhase.step systemId c) .outstanding = phase at *
  constructor
  · intro x hx
    rw [hresult, Option.map_eq_some_iff] at hx
    obtain ⟨outcome, hdelivered, rfl⟩ := hx
    rw [← houtcome, CallPhase.eq_delivered_of_delivered? hdelivered]
    rfl
  · intro hidle
    rw [hresult, ← houtcome]
    cases phase with
    | settled outcome =>
      have hjob : ⟨c, outcome⟩ ∈ d.pool.pending := hshows
      rw [hidle] at hjob
      cases hjob
    | _ => rfl

/-- The future of a call yields what the first signal that concerns the call means, if it yields
anything, and nothing that happens later changes that. Before this signal the call is outstanding;
after it the result is there when the workers have got through their jobs, which they can. In
between the dispatcher follows the automaton of the call, which sees nothing of other calls. -/
theorem future_yields_first_verdict (systemId : UInt64) (endpoint : Endpoint)
    (config : DispatcherConfig) (ops : List Operation) (before after : List Happening)
    (c : OutstandingCall)
    (hrun : ((start systemId endpoint config).run ops).2 = before ++ .accepted c :: after) :
    let d := ((start systemId endpoint config).run ops).1
    let first := after.findSome? (Happening.verdict systemId c)
    d.Shows c (after.foldl (CallPhase.step systemId c) .outstanding) ∧
    (first = none → d.calls.find? c.id = some c ∧ d.futureResult c = none) ∧
    (∀ x, d.futureResult c = some x → first.map c.yield = some x) ∧
    (d.pool.pending = [] → d.futureResult c = first.map c.yield) ∧
    (∃ workers : List Nat,
      (d.run (workers.map .work)).1.futureResult c = first.map c.yield) ∧
    (∀ more : List Operation,
      (∀ x, d.futureResult c = some x → (d.run more).1.futureResult c = some x) ∧
      (first.isSome → ∀ x, (d.run more).1.futureResult c = some x → first.map c.yield = some x)) := by
  intro d first
  have hledger : d.Ledger _ := ledger_run systemId endpoint config ops
  have hshows : d.Shows c _ := shows_run hrun
  have houtcome : (after.foldl (CallPhase.step systemId c) .outstanding).outcome? = first :=
    CallPhase.outcome?_of_outstanding after
  obtain ⟨honly, hidle⟩ := futureResult_run hrun
  have hlater : ∀ more, ((start systemId endpoint config).run (ops ++ more)).2 =
      before ++ .accepted c :: (after ++ (d.run more).2) := by
    intro more
    rw [run_append, hrun, List.append_assoc, List.cons_append]
  have hstate : ∀ more, ((start systemId endpoint config).run (ops ++ more)).1 = (d.run more).1 :=
    fun more => by rw [run_append]
  refine ⟨hshows, fun hnone => ?_, honly, hidle, ?_, fun more => ⟨fun x hx => ?_, ?_⟩⟩
  · rw [CallPhase.eq_outstanding_of_outcome? (houtcome.trans hnone)] at hshows
    exact ⟨hledger.orderly.keyed.find?_eq_some_iff.2 ⟨hshows, rfl⟩, hledger.futureResult_eq hshows⟩
  · obtain ⟨workers, hdrained⟩ := exists_drained d
    refine ⟨workers, ?_⟩
    have hresult := (futureResult_run (hlater (workers.map .work))).2
    rw [hstate, List.findSome?_append, findSome?_verdict_run_work, Option.or_none] at hresult
    exact hresult hdrained
  · rw [hledger.futureResult_eq hshows, Option.map_eq_some_iff] at hx
    obtain ⟨outcome, hdelivered, rfl⟩ := hx
    have hmore := shows_run (hlater more)
    rw [hstate, List.foldl_append, CallPhase.eq_delivered_of_delivered? hdelivered,
      CallPhase.foldl_step_delivered] at hmore
    exact futureResult_of_holding hmore
  · intro hfirst x hx
    obtain ⟨outcome, houtcome⟩ := Option.isSome_iff_exists.1 hfirst
    have hmore := (futureResult_run (hlater more)).1 x
    rw [hstate, List.findSome?_append, show after.findSome? _ = _ from houtcome] at hmore
    rw [houtcome]
    exact hmore hx

/-- Of a response to somebody else, a response to the call and the drop of the dispatcher, the
response to the call decides. -/
theorem response_decides :
    let endpoint : Endpoint := { scheme := "test", host := "local", port := none, path := "Calc" }
    let request : CallRequest :=
      { codec := .json, service := "Calc", method := "Count", argument := .json .null
        replyType := .any }
    let c : OutstandingCall :=
      { id := 1, method := "Count", codec := .json, replyType := .any, box := 0 }
    let foreign : Signal := .response ((Envelope.request 9 1 0).responseTo 2) [0, 0x31]
    let own : Signal := .response ((Envelope.request 7 1 0).responseTo 2) [0, 0x37]
    let ops : List Operation :=
      [.call request fun _ _ => ⟨[], none⟩, .signal foreign, .signal own, .drop, .work 0]
    let after : List Happening := [.reached foreign, .reached own,
      .reached (.allError (.failure .dispatcherClosed)), .delivered ⟨c, c.judge [0, 0x37]⟩]
    let r := (start 7 endpoint { completionWorkers := 3, maxOutstandingCalls := none }).run ops
    r.2 = [] ++ .accepted c :: after ∧ r.1.futureResult c = some (c.yield (c.judge [0, 0x37])) := by
  intro endpoint request c foreign own ops after r
  have hrun : r.2 = [] ++ .accepted c :: after := rfl
  have hfuture := future_yields_first_verdict 7 endpoint _ ops [] after c hrun
  exact ⟨hrun, hfuture.2.2.2.1 rfl⟩

end Dispatcher

end RemoteCall
