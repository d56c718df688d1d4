import Mathlib.Data.List.Nodup
import RemoteCall.Proofs.Dispatch.Rota
/-!
# Deliveries

A call that has been made is held by somebody, or is a job in a queue, or has been resolved
(`Workroom.Whereabouts`). As every call has a mailbox of its own, and only a worker that does the
job of a call sends anything to its mailbox, a caller finds nothing before its call is resolved and
the result of the job ever after (`Workroom.Delivery`).

Callers who give up get nothing, and nobody else is concerned. Whatever is done to a mailbox leaves
it given up, so giving up commutes with all acts (`Workroom.step_withdraw`): what happens after it
would have happened without it (`Workroom.run_hangUp`).
-/

namespace RemoteCall

/-! ## Mailboxes that are given up -/

namespace MailRoom

variable {α : Type}

/-- What leaves a mailbox given up can be done before or after it is given up. -/
theorem modify_abandon (m : MailRoom α) (box other : Nat) {f : Mailbox α → Mailbox α}
    (hf : f .abandoned = .abandoned) :
    (m.abandon box).modify other f = (m.modify other f).abandon box := by
  by_cases hother : box = other
  · subst hother
    have hsame : f ∘ Mailbox.abandon = Mailbox.abandon ∘ f := funext fun _ => hf
    simp only [abandon, modify, List.modify_modify_eq, hsame]
  · simp only [abandon, modify, List.modify_modify_ne _ _ _ hother]

/-- A result that is sent does not get to a mailbox that has been given up. -/
theorem send_abandon (m : MailRoom α) (box other : Nat) (result : α) :
    (m.abandon box).send other result = (m.send other result).abandon box :=
  m.modify_abandon box other rfl

theorem abandon_abandon (m : MailRoom α) (box other : Nat) :
    (m.abandon box).abandon other = (m.abandon other).abandon box :=
  m.modify_abandon box other rfl

/-- A new mailbox is another one. -/
theorem opened_abandon {m : MailRoom α} {box : Nat} (h : box < m.next) :
    (m.abandon box).opened = m.opened.abandon box := by
  have hbox : m.boxes[box]? = some m.boxes[box] := List.getElem?_eq_getElem h
  have happend : (m.boxes ++ [.waiting])[box]? = some m.boxes[box] := by
    rw [List.getElem?_append_left h, hbox]
  rw [opened, opened, abandon, abandon, modify, modify, List.modify_eq_set_getElem?,
    List.modify_eq_set_getElem?, hbox, happend]
  exact congrArg MailRoom.mk (List.set_append_left _ _ h).symm

end MailRoom

namespace Dispatcher

/-- Handing in a call does not get in the way of a caller who gives up. -/
theorem resolve_abandon (d : Dispatcher) (call : OutstandingCall) (outcome : Outcome) (box : Nat) :
    { d with mail := d.mail.abandon box }.resolve call outcome =
      { d.resolve call outcome with mail := (d.resolve call outcome).mail.abandon box } := by
  cases hrunning : d.running <;> simp [resolve, deliver, hrunning, MailRoom.send_abandon]

/-- A worker does its next job whether or not a caller has given up. -/
theorem runWorker_abandon (d : Dispatcher) (worker box : Nat) :
    { d with mail := d.mail.abandon box }.runWorker worker =
      { d.runWorker worker with mail := (d.runWorker worker).mail.abandon box } := by
  cases hnext : d.pool.next? worker <;> simp [runWorker, deliver, hnext, MailRoom.send_abandon]

end Dispatcher

namespace Workroom

variable {w w' : Workroom} {es es' : List Event} {workers : Nat}

/-- A move takes jobs out of the queues and puts others in. -/
theorem Move.pending_perm (h : Move w es' w') (hrunning : w.dispatcher.running = true) :
    (w.dispatcher.pool.pending ++ (assigned es').map Prod.snd).Perm
      ((resolved es').map Prod.snd ++ w'.dispatcher.pool.pending) := by
  cases h with
  | submit _ _ outcome =>
    rw [Dispatcher.resolve_of_running hrunning]
    exact (w.dispatcher.pool.pending_submit _).symm
  | resolve hnext =>
    rw [Dispatcher.runWorker_of_next? hnext]
    show (w.dispatcher.pool.pending ++ []).Perm _
    rw [List.append_nil]
    exact CompletionPool.pending_perm_of_next? hnext
  | _ => exact .of_eq (List.append_nil _)

/-- A call that is handed in is held no longer. -/
theorem Move.held_perm (h : Move w es' w') :
    (w.held ++ prepared es').Perm
      (w'.held ++ ((assigned es').map Prod.snd).map Completion.call) := by
  cases h with
  | prepare => exact .of_eq (List.append_nil _).symm
  | submit _ hheld outcome =>
    show (w.held ++ []).Perm ((_ ++ _) ++ [_])
    rw [hheld, List.append_nil]
    exact List.perm_middle.trans (List.perm_append_singleton _ _).symm
  | _ => exact .refl _

/-- The mailboxes that a move opens are those of the calls that are made. -/
theorem Move.range_next (h : Move w es' w') (hrunning : w.dispatcher.running = true) :
    List.range w'.dispatcher.mail.next =
      List.range w.dispatcher.mail.next ++ (prepared es').map OutstandingCall.box := by
  cases h with
  | prepare hbox =>
    show List.range w.dispatcher.mail.opened.next = _ ++ [_]
    rw [MailRoom.next_opened, List.range_succ, hbox]
  | submit _ _ outcome =>
    rw [Dispatcher.resolve_of_running hrunning]
    exact (List.append_nil _).symm
  | hangUp =>
    show List.range (w.dispatcher.mail.abandon _).next = _ ++ []
    rw [MailRoom.abandon, MailRoom.next_modify, List.append_nil]
  | resolve hnext =>
    rw [Dispatcher.runWorker_of_next? hnext]
    show List.range (w.dispatcher.mail.send _ _).next = _ ++ []
    rw [MailRoom.next_send, List.append_nil]
  | _ => exact (List.append_nil _).symm

/-- No mailbox is removed. -/
theorem Move.next_le (h : Move w es' w') (hrunning : w.dispatcher.running = true) :
    w.dispatcher.mail.next ≤ w'.dispatcher.mail.next := by
  have hlength := congrArg List.length (h.range_next hrunning)
  rw [List.length_range, List.length_append, List.length_range] at hlength
  omega

/-- Only mailboxes that were opened are given up. -/
theorem Move.hungUp_lt (h : Move w es' w') {box : Nat} (hbox : box ∈ hungUp es') :
    box < w.dispatcher.mail.next := by
  cases h with
  | hangUp hlt =>
    cases List.mem_singleton.1 hbox
    exact hlt
  | _ => cases hbox

/-- A call that is made finds a new mailbox. -/
theorem Move.of_mem_prepared (h : Move w es' w') {call : OutstandingCall}
    (hcall : call ∈ prepared es') :
    call.box = w.dispatcher.mail.next ∧ w'.dispatcher.mail = w.dispatcher.mail.opened ∧
      hungUp es' = [] := by
  cases h with
  | prepare hbox =>
    cases List.mem_singleton.1 hcall
    exact ⟨hbox, rfl, rfl⟩
  | _ => cases hcall

/-- A job that is done has been in a queue, and its result is sent. -/
theorem Move.of_mem_resolved (h : Move w es' w') {e : Nat × Completion} (he : e ∈ resolved es') :
    e.2 ∈ w.dispatcher.pool.pending ∧
      w'.dispatcher.mail = w.dispatcher.mail.send e.2.call.box e.2.outcome ∧
      hungUp es' = [] := by
  cases h with
  | resolve hnext =>
    cases List.mem_singleton.1 he
    have hpending := CompletionPool.pending_perm_of_next? hnext
    rw [Dispatcher.runWorker_of_next? hnext]
    exact ⟨hpending.mem_iff.2 List.mem_cons_self, rfl, rfl⟩
  | _ => cases he

/-- A move touches a mailbox only if it is given up or gets a result. -/
theorem Move.state_eq (h : Move w es' w') (hrunning : w.dispatcher.running = true) {box : Nat}
    (hbox : box < w.dispatcher.mail.next) (hother : ∀ e ∈ resolved es', e.2.call.box ≠ box) :
    w'.dispatcher.mail.state box =
      if box ∈ hungUp es' then .abandoned else w.dispatcher.mail.state box := by
  cases h with
  | prepare => exact MailRoom.state_opened hbox
  | submit _ _ outcome =>
    rw [Dispatcher.resolve_of_running hrunning]
    rfl
  | @hangUp given =>
    show (w.dispatcher.mail.modify given .abandon).state box = if box ∈ [given] then _ else _
    by_cases hgiven : given = box
    · rw [hgiven, MailRoom.state_modify_self hbox, if_pos List.mem_cons_self]
      rfl
    · rw [MailRoom.state_modify_of_ne hgiven, if_neg (by simpa using Ne.symm hgiven)]
  | resolve hnext =>
    rw [Dispatcher.runWorker_of_next? hnext]
    exact MailRoom.state_send_of_ne (hother _ List.mem_cons_self) _
  | _ => rfl

/-- Where the calls are after the given events. -/
structure Whereabouts (w : Workroom) (es : List Event) : Prop where
  /-- Every call that was made is held, or has been handed in. -/
  prepared_perm :
    (prepared es).Perm (w.held ++ ((assigned es).map Prod.snd).map Completion.call)
  /-- Every job that was handed in has been done, or is in a queue. -/
  assigned_perm :
    ((assigned es).map Prod.snd).Perm
      ((resolved es).map Prod.snd ++ w.dispatcher.pool.pending)
  /-- The calls have got the mailboxes in the order in which they were opened. -/
  boxes_eq : (prepared es).map OutstandingCall.box = List.range w.dispatcher.mail.next

namespace Whereabouts

/-- Every call is held, in a queue, or resolved. -/
theorem calls_perm (h : w.Whereabouts es) :
    (prepared es).Perm ((w.held ++ w.dispatcher.pool.pending.map Completion.call) ++
      (resolved es).map fun e => e.2.call) := by
  refine h.prepared_perm.trans ?_
  rw [List.append_assoc]
  refine ((h.assigned_perm.map Completion.call).trans ?_).append_left w.held
  rw [List.map_append, List.map_map]
  exact List.perm_append_comm

/-- Every call that is made gets a mailbox of its own. -/
theorem nodup_prepared (h : w.Whereabouts es) :
    ((prepared es).map OutstandingCall.box).Nodup := by
  rw [h.boxes_eq]
  exact List.nodup_range

/-- No mailbox belongs to two calls, wherever they are. -/
theorem nodup_boxes (h : w.Whereabouts es) :
    (((w.held ++ w.dispatcher.pool.pending.map Completion.call) ++
      (resolved es).map fun e => e.2.call).map OutstandingCall.box).Nodup :=
  (h.calls_perm.map OutstandingCall.box).nodup_iff.1 h.nodup_prepared

/-- No call is handed in twice. -/
theorem nodup_assigned (h : w.Whereabouts es) :
    ((assigned es).map fun e => e.2.call.box).Nodup := by
  have hnodup := (h.prepared_perm.map OutstandingCall.box).nodup_iff.1 h.nodup_prepared
  rw [List.map_append, List.nodup_append, List.map_map, List.map_map] at hnodup
  exact hnodup.2.1

/-- No call is resolved twice. -/
theorem nodup_resolved (h : w.Whereabouts es) :
    ((resolved es).map fun e => e.2.call.box).Nodup := by
  have hnodup := h.nodup_boxes
  rw [List.map_append, List.nodup_append, List.map_map] at hnodup
  exact hnodup.2.1

/-- The mailbox of every call has been opened. -/
theorem box_lt (h : w.Whereabouts es) {call : OutstandingCall} (hcall : call ∈ prepared es) :
    call.box < w.dispatcher.mail.next := by
  rw [← List.mem_range, ← h.boxes_eq]
  exact List.mem_map_of_mem hcall

/-- A call that is held or in a queue does not share its mailbox with one that was resolved. -/
theorem box_ne (h : w.Whereabouts es) {call : OutstandingCall}
    (hcall : call ∈ w.held ++ w.dispatcher.pool.pending.map Completion.call)
    {e : Nat × Completion} (he : e ∈ resolved es) : e.2.call.box ≠ call.box := by
  have hnodup := h.nodup_boxes
  rw [List.map_append, List.nodup_append] at hnodup
  refine Ne.symm (hnodup.2.2 _ (List.mem_map_of_mem hcall) _ ?_)
  exact List.mem_map_of_mem (List.mem_map_of_mem (f := fun e => e.2.call) he)

/-- Two jobs that were done one after the other do not share a mailbox. -/
theorem box_ne_of_resolved (h : w.Whereabouts (es ++ es')) {e e' : Nat × Completion}
    (he : e ∈ resolved es) (he' : e' ∈ resolved es') : e'.2.call.box ≠ e.2.call.box := by
  have hnodup := h.nodup_resolved
  rw [resolved_append, List.map_append, List.nodup_append] at hnodup
  exact Ne.symm (hnodup.2.2 _ (List.mem_map_of_mem he) _ (List.mem_map_of_mem he'))

/-- A move takes a call from one place to the next. -/
theorem move (h : w.Whereabouts es) (hrunning : w.dispatcher.running = true)
    (hmove : Move w es' w') : w'.Whereabouts (es ++ es') where
  prepared_perm := by
    -- Calls that were handed in before stay so; the move is about those held before, and new ones.
    rw [prepared_append, assigned_append, List.map_append, List.map_append]
    have hbefore := h.prepared_perm
    generalize ((assigned es).map Prod.snd).map Completion.call = old at hbefore ⊢
    have hnow := hmove.held_perm
    generalize ((assigned es').map Prod.snd).map Completion.call = new at hnow ⊢
    calc (prepared es ++ prepared es').Perm (w.held ++ old ++ prepared es') :=
          hbefore.append_right _
      _ |>.Perm (w.held ++ prepared es' ++ old) := by
          rw [List.append_assoc, List.append_assoc]
          exact List.perm_append_comm.append_left _
      _ |>.Perm (w'.held ++ new ++ old) := hnow.append_right _
      _ |>.Perm (w'.held ++ (old ++ new)) := by
          rw [List.append_assoc]
          exact List.perm_append_comm.append_left _
  assigned_perm := by
    rw [assigned_append, resolved_append, List.map_append, List.map_append]
    refine (h.assigned_perm.append_right _).trans ?_
    rw [List.append_assoc, List.append_assoc]
    exact (hmove.pending_perm hrunning).append_left _
  boxes_eq := by
    rw [prepared_append, List.map_append, h.boxes_eq, hmove.range_next hrunning]

end Whereabouts

/-- What the callers find after the given events. -/
structure Delivery (w : Workroom) (es : List Event) : Prop extends w.Whereabouts es where
  /-- Only mailboxes that were opened have been given up. -/
  hungUp_lt : ∀ box ∈ hungUp es, box < w.dispatcher.mail.next
  /-- Nothing has been sent to a call that is held or in a queue. -/
  state_of_waiting : ∀ call ∈ w.held ++ w.dispatcher.pool.pending.map Completion.call,
    w.dispatcher.mail.state call.box = if call.box ∈ hungUp es then .abandoned else .waiting
  /-- A job that was done has left its result in the mailbox, unless the caller gave that up. -/
  state_of_resolved : ∀ e ∈ resolved es,
    w.dispatcher.mail.state e.2.call.box =
      if e.2.call.box ∈ hungUp es then .abandoned else .holding e.2.outcome

/-- The callers of a new workroom have not been told anything, as there are none. -/
theorem delivery_start (systemId : UInt64) (endpoint : Endpoint) (config : DispatcherConfig) :
    (start systemId endpoint config).Delivery [] where
  prepared_perm := .refl _
  assigned_perm := by
    simp [assigned, resolved, start, Dispatcher.start, CompletionPool.pending,
      CompletionPool.start]
  boxes_eq := rfl
  hungUp_lt box h := by cases h
  state_of_waiting := by
    simp [start, Dispatcher.start, CompletionPool.pending, CompletionPool.start]
  state_of_resolved e h := by cases h

namespace Delivery

/-- A mailbox that was given up before is given up. -/
theorem ite_mem_hungUp_append (es es' : List Event) (box : Nat) (b : Mailbox Outcome) :
    (if box ∈ hungUp es' then .abandoned else if box ∈ hungUp es then .abandoned else b) =
      if box ∈ hungUp (es ++ es') then .abandoned else b := by
  rw [hungUp_append]
  by_cases hold : box ∈ hungUp es <;> by_cases hnew : box ∈ hungUp es' <;> simp [hold, hnew]

/-- A move sends nothing to a call that is held or in a queue after it. -/
theorem state_of_waiting_move (h : w.Delivery es) (hrunning : w.dispatcher.running = true)
    (hmove : Move w es' w') {call : OutstandingCall}
    (hcall : call ∈ w'.held ++ w'.dispatcher.pool.pending.map Completion.call) :
    w'.dispatcher.mail.state call.box =
      if call.box ∈ hungUp (es ++ es') then .abandoned else .waiting := by
  have hwhere := h.toWhereabouts.move hrunning hmove
  have hmade := hwhere.calls_perm.mem_iff.2 (List.mem_append_left _ hcall)
  rw [prepared_append, List.mem_append] at hmade
  rcases hmade with hold | hnew
  · -- The call has not been resolved, so it was held or in a queue before.
    have hbefore : call ∈ w.held ++ w.dispatcher.pool.pending.map Completion.call := by
      refine (List.mem_append.1 (h.calls_perm.mem_iff.1 hold)).resolve_right fun hdone => ?_
      obtain ⟨e, he, rfl⟩ := List.mem_map.1 hdone
      refine hwhere.box_ne hcall ?_ rfl
      rw [resolved_append]
      exact List.mem_append_left _ he
    have hother : ∀ e ∈ resolved es', e.2.call.box ≠ call.box := fun e he =>
      hwhere.box_ne hcall (by rw [resolved_append]; exact List.mem_append_right _ he)
    rw [hmove.state_eq hrunning (h.box_lt hold) hother, h.state_of_waiting call hbefore,
      ite_mem_hungUp_append]
  · -- The mailbox is new, so nobody can have given it up.
    obtain ⟨hbox, hmail, hnone⟩ := hmove.of_mem_prepared hnew
    have hgiven : call.box ∉ hungUp es := fun hmem => by
      have hlt := h.hungUp_lt _ hmem
      omega
    rw [hungUp_append, hnone, List.append_nil, if_neg hgiven, hmail, hbox,
      MailRoom.state_opened_next]

/-- A move sends the result of the job that is done in it, and leaves those that were sent
before. -/
theorem state_of_resolved_move (h : w.Delivery es) (hrunning : w.dispatcher.running = true)
    (hmove : Move w es' w') {e : Nat × Completion} (he : e ∈ resolved (es ++ es')) :
    w'.dispatcher.mail.state e.2.call.box =
      if e.2.call.box ∈ hungUp (es ++ es') then .abandoned else .holding e.2.outcome := by
  have hwhere := h.toWhereabouts.move hrunning hmove
  rw [resolved_append, List.mem_append] at he
  rcases he with hold | hnew
  · have hmade : e.2.call ∈ prepared es :=
      h.calls_perm.mem_iff.2 (List.mem_append_right _ (List.mem_map.2 ⟨e, hold, rfl⟩))
    have hother : ∀ e' ∈ resolved es', e'.2.call.box ≠ e.2.call.box := fun _ he' =>
      hwhere.box_ne_of_resolved hold he'
    rw [hmove.state_eq hrunning (h.box_lt hmade) hother, h.state_of_resolved e hold,
      ite_mem_hungUp_append]
  · -- The job has been in a queue, so its caller still waited or had given up.
    obtain ⟨hpending, hmail, hnone⟩ := hmove.of_mem_resolved hnew
    have hwaits : e.2.call ∈ w.held ++ w.dispatcher.pool.pending.map Completion.call :=
      List.mem_append_right _ (List.mem_map_of_mem hpending)
    have hbox := h.box_lt (h.calls_perm.mem_iff.2 (List.mem_append_left _ hwaits))
    rw [hungUp_append, hnone, List.append_nil, hmail, MailRoom.send,
      MailRoom.state_modify_self hbox, h.state_of_waiting _ hwaits]
    split <;> rfl

/-- Every move keeps the mailboxes as they have to be. -/
theorem move (h : w.Delivery es) (hrunning : w.dispatcher.running = true)
    (hmove : Move w es' w') : w'.Delivery (es ++ es') where
  toWhereabouts := h.toWhereabouts.move hrunning hmove
  hungUp_lt box hbox := by
    rw [hungUp_append, List.mem_append] at hbox
    rcases hbox with hold | hnew
    · exact Nat.lt_of_lt_of_le (h.hungUp_lt box hold) (hmove.next_le hrunning)
    · exact Nat.lt_of_lt_of_le (hmove.hungUp_lt hnew) (hmove.next_le hrunning)
  state_of_waiting _ hcall := h.state_of_waiting_move hrunning hmove hcall
  state_of_resolved _ he := h.state_of_resolved_move hrunning hmove he

end Delivery

/-- After every run the rota and the mailboxes are as they have to be. -/
theorem rota_delivery_run (systemId : UInt64) (endpoint : Endpoint) (config : DispatcherConfig)
    (acts : List Act) :
    let r := (start systemId endpoint config).run acts
    Rota (max config.completionWorkers 1) r.1 r.2 ∧ r.1.Delivery r.2 := by
  let P (w : Workroom) (es : List Event) : Prop :=
    Rota (max config.completionWorkers 1) w es ∧ w.Delivery es
  have hstart : P (start systemId endpoint config) [] :=
    ⟨rota_start systemId endpoint config, delivery_start systemId endpoint config⟩
  exact run_induction (P := P) (fun h hmove => ⟨h.1.move hmove, h.2.move h.1.running hmove⟩)
    hstart acts

/-! ## Dropped futures -/

/-- Nothing becomes of a mailbox that has been given up, so it can be given up later as well. -/
theorem step_withdraw {box : Nat} (hbox : box < w.dispatcher.mail.next) (act : Act) :
    (w.withdraw box).step act = ((w.step act).1.withdraw box, (w.step act).2) := by
  have hnext : (w.dispatcher.mail.abandon box).next = w.dispatcher.mail.next :=
    MailRoom.next_modify ..
  cases act with
  | prepare id method codec type =>
    simp only [step, prepare, withdraw, hnext, MailRoom.opened_abandon hbox]
  | submit other outcome =>
    cases hfind : w.held.find? fun call => call.box == other with
    | none => simp only [step, submit, withdraw, hfind]
    | some call =>
      cases hopen : w.isOpen <;>
        simp [step, submit, withdraw, hfind, hopen, Dispatcher.resolve_abandon]
  | hangUp other =>
    by_cases hother : other < w.dispatcher.mail.next <;>
      simp [step, hangUp, withdraw, hnext, hother, MailRoom.abandon_abandon]
  | close => rfl
  | work worker =>
    cases hjob : w.dispatcher.pool.next? worker with
    | none =>
      by_cases hstays : w.isOpen ∨ worker ∈ w.gone ∨ w.dispatcher.pool.queues.length ≤ worker <;>
        simp [step, work, withdraw, hjob, hstays]
    | some job => simp only [step, work, withdraw, hjob, Dispatcher.runWorker_abandon]

/-- A future that is dropped might as well be dropped in the end. -/
theorem run_withdraw {box : Nat} (hrunning : w.dispatcher.running = true)
    (hbox : box < w.dispatcher.mail.next) (acts : List Act) :
    (w.withdraw box).run acts = ((w.run acts).1.withdraw box, (w.run acts).2) := by
  induction acts generalizing w with
  | nil => rfl
  | cons act acts ih =>
    have hmove := w.move_step act
    have hlater := ih (hmove.running_eq.trans hrunning)
      (Nat.lt_of_lt_of_le hbox (hmove.next_le hrunning))
    simp only [run, step_withdraw hbox, hlater]

/-- Without the caller who gives up the same would have happened, and all would be the same but for
its mailbox. -/
theorem run_hangUp {before : List Act} {box : Nat}
    (hrunning : (w.run before).1.dispatcher.running = true)
    (hbox : box < (w.run before).1.dispatcher.mail.next) (after : List Act) :
    (w.run (before ++ .hangUp box :: after)).1 = (w.run (before ++ after)).1.withdraw box ∧
      ∃ es₁ es₂, (w.run (before ++ .hangUp box :: after)).2 = es₁ ++ .hungUp box :: es₂ ∧
        (w.run (before ++ after)).2 = es₁ ++ es₂ := by
  have hstep : (w.run before).1.step (.hangUp box) =
      ((w.run before).1.withdraw box, [.hungUp box]) := by
    rw [step, hangUp, if_pos hbox]
  have hrun : (w.run before).1.run (.hangUp box :: after) =
      (((w.run before).1.run after).1.withdraw box,
        .hungUp box :: ((w.run before).1.run after).2) := by
    rw [run, hstep]
    simp only [run_withdraw hrunning hbox, List.singleton_append]
  rw [run_append, run_append, hrun]
  exact ⟨rfl, _, _, rfl, rfl⟩

end Workroom

end RemoteCall
