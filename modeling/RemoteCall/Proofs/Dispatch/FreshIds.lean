import Mathlib.Algebra.Ring.Nat
import RemoteCall.Proofs.Dispatch.Conservation
import RemoteCall.Proofs.Dispatch.Journal
/-!
# Ids are used once

The counter of a dispatcher begins with one. Every id that it hands out, be it to a call or to
whoever asks for one, is the next number (`Dispatcher.issuedIds_journal`), and the calls that are
accepted get some of these ids, in order (`Dispatcher.accepted_sublist_journal`). Whatever happens
to the calls afterwards, those in the table and in the queues are among them.

As long as the counter has not come to its end, the numbers ascend. Then the next id is not in the
table, so that there always is a place for the next call (`Dispatcher.every_call_gets_a_fresh_id`).
-/

namespace RemoteCall.Dispatcher

variable {d d' : Dispatcher}

/-! ## The counter in one turn -/

/-- The next id is handed out, or none is. Only a call that gets this id is accepted. -/
structure Issues (d d' : Dispatcher) (ids : List UInt64) (accepted : List OutstandingCall) :
    Prop where
  /-- The counter goes on if an id is handed out. -/
  counted : ids = [] ∧ d'.nextId = d.nextId ∨ ids = [d.nextId] ∧ d'.nextId = d.nextId + 1
  /-- The ids of the calls have been handed out. -/
  accepted_sublist : (accepted.map OutstandingCall.id).Sublist ids

/-- Nothing is handed out. -/
theorem issues_nothing (h : d'.nextId = d.nextId) : d.Issues d' [] [] where
  counted := .inl ⟨rfl, h⟩
  accepted_sublist := .slnil

/-- Signals accept no further calls. -/
theorem acceptedCalls_cons_map_reached (call : OutstandingCall) (signals : List Signal) :
    acceptedCalls (.accepted call :: signals.map .reached) = [call] := by
  have hnone : acceptedCalls (signals.map .reached) = [] := by
    rw [acceptedCalls, List.filterMap_eq_nil_iff]
    intro h hmem
    obtain ⟨s, -, rfl⟩ := List.mem_map.1 hmem
    rfl
  exact congrArg (call :: ·) hnone

/-- The ids that a call uses up. -/
theorem issues_call (d : Dispatcher) (request : CallRequest)
    (transport : Envelope → Bytes → Transmission) :
    d.Issues (d.makeCall request transport).1
      (issuedIds [.answered request (d.accept request).1])
      (acceptedCalls (d.makeCall request transport).2) := by
  rw [makeCall]
  split
  next e d' haccept =>
    rw [haccept]
    cases refuses_of_accept haccept with
    | encoding hencode =>
      -- The reason is not the id, so the id has not been handed out.
      have hnone : issuedIds [.answered request (.error e)] = [] := by
        refine List.filterMap_cons_none ?_
        rw [Note.id?.eq_def]
        split
        next heq => cases heq
        next id heq =>
          cases heq
          exact absurd hencode (request.encode_ne_duplicate id)
        next => rfl
        next heq => cases heq
      rw [hnone]
      exact issues_nothing rfl
    | limit _ _ _ => exact issues_nothing rfl
    | duplicate _ _ =>
      exact { counted := .inr ⟨rfl, rfl⟩, accepted_sublist := List.nil_sublist _ }
  next a d' haccept =>
    rw [haccept]
    have haccepts := accepts_of_accept haccept
    -- What the transport reports does not concern the counter.
    have hnarrows := (d'.narrows_foldl_take (transport a.envelope a.payload).signals).trans
      (narrows_noteSend _ a.id (transport a.envelope a.payload).outcome)
    have hnext : d'.nextId = d.nextId + 1 := by
      obtain ⟨calls, rfl, -⟩ := haccepts.state_eq
      rfl
    refine ⟨.inr ⟨?_, hnarrows.nextId_eq.trans hnext⟩, ?_⟩
    · rw [← haccepts.id_eq]
      rfl
    · dsimp only
      rw [acceptedCalls_cons_map_reached]
      exact List.Sublist.refl [a.id]

/-- The ids that a turn uses up. -/
theorem issues_step (d : Dispatcher) (op : Operation) :
    d.Issues (d.step op).1 (issuedIds (d.notes op)) (acceptedCalls (d.step op).2) := by
  cases op with
  | call request transport =>
    rw [step, notes]
    split
    next => exact d.issues_call request transport
    next => exact issues_nothing rfl
  | signal s =>
    rw [step]
    split
    next => exact issues_nothing (d.narrows_take s).nextId_eq
    next => exact issues_nothing rfl
  | allocate =>
    rw [step, notes]
    split
    next => exact { counted := .inr ⟨rfl, rfl⟩, accepted_sublist := List.nil_sublist _ }
    next => exact issues_nothing rfl
  | drop =>
    rw [step]
    split
    next => exact issues_nothing d.narrows_close.nextId_eq
    next => exact issues_nothing rfl
  | work worker =>
    have hnone : acceptedCalls ((d.pool.next? worker).map Happening.delivered).toList = [] := by
      cases d.pool.next? worker <;> rfl
    rw [step, hnone]
    exact issues_nothing (d.narrows_runWorker worker).nextId_eq

/-! ## The counter in a run -/

/-- The ids that a run uses up are the next numbers, without a gap. -/
theorem issuedIds_journal {first : Nat} (h : d.nextId = .ofNat first) (ops : List Operation) :
    issuedIds (d.journal ops) = (List.range' first (issuedIds (d.journal ops)).length).map .ofNat ∧
      (d.run ops).1.nextId = .ofNat (first + (issuedIds (d.journal ops)).length) := by
  induction ops generalizing d first with
  | nil => exact ⟨rfl, h⟩
  | cons op ops ih =>
    rw [journal, run, issuedIds_append]
    rcases (d.issues_step op).counted with ⟨hnone, hnext⟩ | ⟨hone, hnext⟩
    · rw [hnone, List.nil_append]
      exact ih (hnext.trans h)
    · have hsucc : (d.step op).1.nextId = .ofNat (first + 1) := by
        rw [hnext, h, UInt64.ofNat_add]
        rfl
      obtain ⟨hids, hlast⟩ := ih hsucc
      rw [hone, h, List.singleton_append, List.length_cons, List.range'_succ, List.map_cons, ← hids,
        ← Nat.add_assoc, Nat.add_right_comm]
      exact ⟨rfl, hlast⟩

/-- The ids that a new dispatcher hands out begin with one. -/
theorem issuedIds_journal_start (systemId : UInt64) (endpoint : Endpoint)
    (config : DispatcherConfig) (ops : List Operation) :
    let new := start systemId endpoint config
    let count := (issuedIds (new.journal ops)).length
    issuedIds (new.journal ops) = (List.range' 1 count).map .ofNat ∧
      (new.run ops).1.nextId = .ofNat (1 + count) :=
  issuedIds_journal rfl ops

/-- The calls that are accepted in a run get some of these ids, in order. -/
theorem accepted_sublist_journal (d : Dispatcher) (ops : List Operation) :
    ((acceptedCalls (d.run ops).2).map OutstandingCall.id).Sublist (issuedIds (d.journal ops)) := by
  induction ops generalizing d with
  | nil => exact .slnil
  | cons op ops ih =>
    rw [journal, run, issuedIds_append, acceptedCalls_append, List.map_append]
    exact (d.issues_step op).accepted_sublist.append (ih (d.step op).1)

/-- Calls in the table and in the queues were accepted. -/
theorem Ledger.mem_accepted {hs : List Happening} (h : d.Ledger hs) {call : OutstandingCall}
    (hcall : call ∈ d.calls.values ++ d.pool.pending.map Completion.call) :
    call ∈ acceptedCalls hs := by
  rw [h.conserved.mem_iff, List.map_append, ← List.append_assoc]
  exact List.mem_append_left _ hcall

/-! ## Fresh ids -/

section Fresh

variable {systemId : UInt64} {endpoint : Endpoint} {config : DispatcherConfig}
variable {ops : List Operation}

/-- The ids that are used up ascend, as long as the counter has not come to its end. -/
theorem issuedIds_pairwise_lt
    (hfew : (issuedIds ((start systemId endpoint config).journal ops)).length < 2 ^ 64 - 1) :
    (issuedIds ((start systemId endpoint config).journal ops)).Pairwise (· < ·) := by
  obtain ⟨hids, -⟩ := issuedIds_journal_start systemId endpoint config ops
  generalize (issuedIds ((start systemId endpoint config).journal ops)).length = count at hids hfew
  rw [hids, List.pairwise_map]
  refine (List.pairwise_lt_range' 1).imp_of_mem fun {m m'} hm hm' hlt => ?_
  rw [List.mem_range'_1] at hm hm'
  rw [UInt64.lt_iff_toNat_lt, UInt64.toNat_ofNat', UInt64.toNat_ofNat']
  omega

/-- The ids that are used up lie between one and the next id. -/
theorem le_and_lt_of_mem_issuedIds
    (hfew : (issuedIds ((start systemId endpoint config).journal ops)).length < 2 ^ 64 - 1)
    {id : UInt64} (hid : id ∈ issuedIds ((start systemId endpoint config).journal ops)) :
    1 ≤ id ∧ id < ((start systemId endpoint config).run ops).1.nextId := by
  obtain ⟨hids, hnext⟩ := issuedIds_journal_start systemId endpoint config ops
  generalize (issuedIds ((start systemId endpoint config).journal ops)).length = count at *
  rw [hids] at hid
  obtain ⟨m, hm, rfl⟩ := List.mem_map.1 hid
  rw [List.mem_range'_1] at hm
  rw [hnext, UInt64.le_iff_toNat_le, UInt64.lt_iff_toNat_lt, UInt64.toNat_ofNat',
    UInt64.toNat_ofNat', UInt64.toNat_one]
  omega

/-- The calls in the table and in the queues have such ids. -/
theorem le_and_lt_of_mem_calls
    (hfew : (issuedIds ((start systemId endpoint config).journal ops)).length < 2 ^ 64 - 1) :
    let d := ((start systemId endpoint config).run ops).1
    ∀ call ∈ d.calls.values ++ d.pool.pending.map Completion.call,
      1 ≤ call.id ∧ call.id < d.nextId := by
  intro d call hcall
  have hledger : d.Ledger _ := ledger_run systemId endpoint config ops
  have hissued := (accepted_sublist_journal _ ops).subset
    (List.mem_map_of_mem (hledger.mem_accepted hcall))
  exact le_and_lt_of_mem_issuedIds hfew hissued

/-- The keys of the table are such ids. -/
theorem le_and_lt_of_mem_keys
    (hfew : (issuedIds ((start systemId endpoint config).journal ops)).length < 2 ^ 64 - 1) :
    let d := ((start systemId endpoint config).run ops).1
    ∀ id ∈ d.calls.keys, 1 ≤ id ∧ id < d.nextId := by
  intro d id hid
  have hledger : d.Ledger _ := ledger_run systemId endpoint config ops
  rw [← hledger.orderly.keyed.map_id_values] at hid
  obtain ⟨call, hcall, rfl⟩ := List.mem_map.1 hid
  exact le_and_lt_of_mem_calls hfew call (List.mem_append_left _ hcall)

/-- There is a place in the table for a call with the next id. -/
theorem exists_insert_of_id_eq
    (hfew : (issuedIds ((start systemId endpoint config).journal ops)).length < 2 ^ 64 - 1) :
    let d := ((start systemId endpoint config).run ops).1
    ∀ call : OutstandingCall, call.id = d.nextId → ∃ calls, d.calls.insert call = .ok calls := by
  intro d call hid
  have hfree : d.nextId ∉ d.calls.keys := fun hused =>
    UInt64.lt_irrefl _ (le_and_lt_of_mem_keys hfew _ hused).2
  rw [CallTable.insert]
  split
  next calls _ => exact ⟨calls, rfl⟩
  next hnone =>
    rw [Table.insert?_eq_none_iff, hid] at hnone
    exact absurd hnone hfree

/-- No call is refused because of its id. -/
theorem duplicate_not_mem_journal
    (hfew : (issuedIds ((start systemId endpoint config).journal ops)).length < 2 ^ 64 - 1)
    (request : CallRequest) (id : UInt64) :
    .answered request (.error (.failure (.duplicateCorrelationId id))) ∉
      (start systemId endpoint config).journal ops := by
  intro hnote
  obtain ⟨before, transport, after, rfl, hresult⟩ := exists_turn_of_answered hnote
  -- The calls before this one have not used up more ids than all calls.
  have hbefore : (issuedIds ((start systemId endpoint config).journal before)).length <
      2 ^ 64 - 1 := by
    rw [journal_append, issuedIds_append, List.length_append] at hfew
    exact Nat.lt_of_le_of_lt (Nat.le_add_right _ _) hfew
  cases haccept : ((start systemId endpoint config).run before).1.accept request with
  | mk result m' =>
    rw [haccept] at hresult
    subst hresult
    cases hrefuses : refuses_of_accept haccept with
    | encoding hencode => exact request.encode_ne_duplicate id hencode
    | duplicate _ hused => exact UInt64.lt_irrefl _ (le_and_lt_of_mem_keys hbefore _ hused).2

end Fresh

/-- A request that is handed to the transport carries the id of a call that has just been entered
into the table, where it was not before. -/
theorem registered_of_sent {request : CallRequest} {transport : Envelope → Bytes → Transmission}
    {f : Frame} (h : f ∈ sentFrames (d.notes (.call request transport))) :
    d.calls.find? f.envelope.correlationId = none ∧
      ∃ call, call.id = f.envelope.correlationId ∧
        (d.accept request).2.calls.find? f.envelope.correlationId = some call := by
  obtain ⟨a, d', haccept, rfl⟩ := exists_accept_of_sent h
  have haccepts := accepts_of_accept haccept
  have hid : a.envelope.correlationId = a.id := by
    rw [haccepts.envelope_eq]
    rfl
  rw [haccept, hid, Table.find?_eq_none_iff]
  exact ⟨haccepts.fresh, a.record request, rfl, haccepts.find?_eq⟩

/-- As long as fewer than `2 ^ 64 - 1` ids have been handed out, to calls or to whoever asks,

* no id is handed out twice, and the calls that are accepted get ids that ascend;
* the ids of all calls in the table and in the queues lie between one and the next id;
* there is a place for a call with the next id, and no call is refused because of its id;
* a request that is handed to the transport carries the id of a call that has just been entered into
  the table, where it was not before, and the turn depends on what the transport does with such
  requests only. -/
theorem every_call_gets_a_fresh_id (systemId : UInt64) (endpoint : Endpoint)
    (config : DispatcherConfig) (ops : List Operation)
    (hfew : (issuedIds ((start systemId endpoint config).journal ops)).length < 2 ^ 64 - 1) :
    let new := start systemId endpoint config
    let d := (new.run ops).1
    (issuedIds (new.journal ops)).Nodup ∧
    ((acceptedCalls (new.run ops).2).map OutstandingCall.id).Pairwise (· < ·) ∧
    (∀ id ∈ d.calls.keys, 1 ≤ id ∧ id < d.nextId) ∧
    (∀ queue ∈ d.pool.queues, ∀ job ∈ queue, 1 ≤ job.call.id ∧ job.call.id < d.nextId) ∧
    (∀ call : OutstandingCall, call.id = d.nextId → ∃ calls, d.calls.insert call = .ok calls) ∧
    (∀ request id,
      .answered request (.error (.failure (.duplicateCorrelationId id))) ∉ new.journal ops) ∧
    ∀ before request transport after, ops = before ++ .call request transport :: after →
      let m := (new.run before).1
      let sent := sentFrames (m.notes (.call request transport))
      (∀ f ∈ sent, m.calls.find? f.envelope.correlationId = none ∧
        ∃ call, call.id = f.envelope.correlationId ∧
          (m.accept request).2.calls.find? f.envelope.correlationId = some call) ∧
      ∀ other : Envelope → Bytes → Transmission,
        (∀ f ∈ sent, other f.envelope f.payload = transport f.envelope f.payload) →
        m.step (.call request other) = m.step (.call request transport) := by
  intro new d
  have hascend := issuedIds_pairwise_lt hfew
  refine ⟨hascend.imp UInt64.ne_of_lt, hascend.sublist (new.accepted_sublist_journal ops),
    le_and_lt_of_mem_keys hfew, fun queue hqueue job hjob => ?_, exists_insert_of_id_eq hfew,
    duplicate_not_mem_journal hfew, ?_⟩
  · refine le_and_lt_of_mem_calls hfew job.call (List.mem_append_right _ ?_)
    exact List.mem_map_of_mem (List.mem_flatten.2 ⟨queue, hqueue, hjob⟩)
  · intro before request transport after _ m sent
    exact ⟨fun f hf => registered_of_sent hf, fun other => step_call_congr⟩

/-- Somebody asks for an id before the first of two calls is made and after it. The first call is
completed while its request is given to the transport, and the transport refuses the second. The
calls have the ids 2 and 4. -/
theorem ids_of_two_calls_and_two_others :
    let endpoint : Endpoint := { scheme := "test", host := "local", port := none, path := "Calc" }
    let request : CallRequest :=
      { codec := .json, service := "Calc", method := "Count", argument := .json .null
        replyType := .any }
    let ops : List Operation :=
      [.allocate,
        .call request fun envelope _ => ⟨[.success envelope.correlationId ⟨.any, .null⟩], none⟩,
        .allocate, .call request fun _ _ => ⟨[], some (.failure .noRuntime)⟩, .work 0]
    let new := start 7 endpoint { completionWorkers := 2, maxOutstandingCalls := some 1 }
    issuedIds (new.journal ops) = [1, 2, 3, 4] ∧ (issuedIds (new.journal ops)).Nodup ∧
      (acceptedCalls (new.run ops).2).map OutstandingCall.id = [2, 4] ∧
      (new.run ops).1.pool.pending.map (fun job => job.call.id) = [4] ∧
      (new.run ops).1.nextId = 5 := by
  intro endpoint request ops new
  have hissued : issuedIds (new.journal ops) = [1, 2, 3, 4] := rfl
  have hfew : (issuedIds (new.journal ops)).length < 2 ^ 64 - 1 := by
    rw [hissued]
    decide
  exact ⟨hissued, (every_call_gets_a_fresh_id 7 endpoint _ ops hfew).1, rfl, rfl, rfl⟩

end RemoteCall.Dispatcher
