import RemoteCall.Proofs.Dispatch.Run
import RemoteCall.Transport.Connection
import RemoteCall.Transport.InProcess
/-!
# Conclusions

A call is concluded when it leaves the table with its outcome. `Dispatcher.Concludes` says that this
has happened to one call and that nothing has happened to any other. Unlike `Dispatcher.Settles` it
also covers a dispatcher whose workers are gone, which delivers the outcome by itself.

The way back from a handler is used once (`Responder.finish`), and that concludes the call which
is outstanding under the id of the request, if there is one (`Responder.concludes_finish`). A
dispatcher that was dropped does not notice.

All that happens to a dispatcher, except for new calls, only takes calls out of the table
(`Dispatcher.Narrows`).
-/

namespace RemoteCall

namespace Dispatcher

variable {d d' d'' : Dispatcher}

/-! ## One call is concluded -/

/-- From one state to the other, the call that is outstanding under an id has left the table with
an outcome. A worker has the outcome to deliver, or the caller has it if there are no workers. -/
structure Concludes (d d' : Dispatcher) (id : UInt64) (call : OutstandingCall) (outcome : Outcome) :
    Prop where
  /-- The call was there. -/
  found : d.calls.find? id = some call
  /-- It has left the table. -/
  gone : d'.calls.find? id = none
  /-- The other calls have not. -/
  others : ∀ other ≠ id, d'.calls.find? other = d.calls.find? other
  /-- There is one more job for the workers, and nothing has been sent. -/
  submitted : d.running = true →
    d'.pool.pending.Perm (d.pool.pending ++ [⟨call, outcome⟩]) ∧ d'.mail = d.mail
  /-- Without workers the outcome has been sent. -/
  sent : d.running = false → d'.pool = d.pool ∧ d'.mail = d.mail.send call.box outcome
  /-- Nothing else has changed. -/
  frame : ∃ calls pool mail, d' = { d with calls, pool, mail }

/-- The mailboxes of other calls stay as they are. -/
theorem Concludes.state_eq {id : UInt64} {call : OutstandingCall} {outcome : Outcome}
    (h : d.Concludes d' id call outcome) {box : Nat} (hbox : call.box ≠ box) :
    d'.mail.state box = d.mail.state box := by
  cases hrunning : d.running with
  | true => rw [(h.submitted hrunning).2]
  | false => rw [(h.sent hrunning).2, MailRoom.state_send_of_ne hbox]

/-- An id under which no call is outstanding is not completed. -/
theorem complete_eq_self {id : UInt64} (hfind : d.calls.find? id = none) (outcome : Outcome) :
    d.complete id outcome = d := by
  rw [complete, Table.remove?, hfind]
  rfl

/-- The call that is outstanding under an id is taken out of the table and resolved. -/
theorem complete_of_find? {id : UInt64} {call : OutstandingCall}
    (hfind : d.calls.find? id = some call) (outcome : Outcome) :
    d.complete id outcome = resolve { d with calls := d.calls.erase id } call outcome := by
  rw [complete, Table.remove?, hfind]
  rfl

/-- Only its entry leaves the table. -/
theorem calls_complete_of_find? {id : UInt64} {call : OutstandingCall}
    (hfind : d.calls.find? id = some call) (outcome : Outcome) :
    (d.complete id outcome).calls = d.calls.erase id := by
  rw [complete_of_find? hfind, resolve]
  split <;> rfl

/-- Completing an id concludes the call that is outstanding under it. -/
theorem concludes_complete {id : UInt64} {call : OutstandingCall}
    (hfind : d.calls.find? id = some call) (outcome : Outcome) :
    d.Concludes (d.complete id outcome) id call outcome := by
  have hcalls := calls_complete_of_find? hfind outcome
  -- Two fields are about the table, two about the outcome, with and without workers.
  refine ⟨hfind, ?_, fun other hother => ?_, fun hrunning => ?_, fun hstopped => ?_,
    d.frame_complete id outcome⟩
  · rw [hcalls, Table.find?_erase, if_pos rfl]
  · rw [hcalls, Table.find?_erase, if_neg hother]
  · rw [complete_of_find? hfind, resolve, if_pos hrunning]
    exact ⟨d.pool.pending_submit _, rfl⟩
  · rw [complete_of_find? hfind, resolve, if_neg (by simp [hstopped])]
    exact ⟨rfl, rfl⟩

theorem handleResponse_eq_self {envelope : Envelope}
    (h : envelope.systemId = d.systemId → d.calls.find? envelope.correlationId = none)
    (payload : Bytes) : d.handleResponse envelope payload = d := by
  rw [handleResponse]
  by_cases hsystem : envelope.systemId = d.systemId
  · simp only [h hsystem]
    split <;> rfl
  · exact if_pos (.inr hsystem)

/-! ## Calls only leave the table -/

/-- From one state to the other, calls may have left the table, but none has entered it, and the
dispatcher is the same. No mailbox has been opened. -/
structure Narrows (d d' : Dispatcher) : Prop where
  systemId_eq : d'.systemId = d.systemId
  endpoint_eq : d'.endpoint = d.endpoint
  nextId_eq : d'.nextId = d.nextId
  nextBox_eq : d'.mail.next = d.mail.next
  entries_subset : d'.calls.entries ⊆ d.calls.entries

namespace Narrows

theorem refl (d : Dispatcher) : d.Narrows d :=
  ⟨rfl, rfl, rfl, rfl, List.Subset.refl _⟩

theorem trans (h : d.Narrows d') (h' : d'.Narrows d'') : d.Narrows d'' where
  systemId_eq := h'.systemId_eq.trans h.systemId_eq
  endpoint_eq := h'.endpoint_eq.trans h.endpoint_eq
  nextId_eq := h'.nextId_eq.trans h.nextId_eq
  nextBox_eq := h'.nextBox_eq.trans h.nextBox_eq
  entries_subset := List.Subset.trans h'.entries_subset h.entries_subset

theorem find?_eq_some (h : d.Narrows d') {id : UInt64} {call : OutstandingCall}
    (hfind : d'.calls.find? id = some call) : d.calls.find? id = some call := by
  rw [Table.find?_eq_some_iff] at hfind ⊢
  exact h.entries_subset hfind

theorem values_eq_nil (h : d.Narrows d') (hnone : d.calls.values = []) : d'.calls.values = [] := by
  have hentries : d.calls.entries = [] := List.map_eq_nil_iff.1 hnone
  rw [Table.values, List.map_eq_nil_iff]
  exact List.eq_nil_of_subset_nil (hentries ▸ h.entries_subset)

end Narrows

theorem narrows_resolve (d : Dispatcher) (call : OutstandingCall) (outcome : Outcome) :
    d.Narrows (d.resolve call outcome) := by
  rw [resolve]
  split
  · exact ⟨rfl, rfl, rfl, rfl, List.Subset.refl _⟩
  · exact ⟨rfl, rfl, rfl, MailRoom.next_send _ _ _, List.Subset.refl _⟩

theorem narrows_complete (d : Dispatcher) (id : UInt64) (outcome : Outcome) :
    d.Narrows (d.complete id outcome) := by
  rw [complete, Table.remove?]
  cases d.calls.find? id with
  | none => exact .refl d
  | some call =>
    have herase : d.Narrows { d with calls := d.calls.erase id } :=
      ⟨rfl, rfl, rfl, rfl, List.filter_sublist.subset⟩
    exact herase.trans (narrows_resolve _ call outcome)

theorem narrows_completeAllError (d : Dispatcher) (e : CallError) :
    d.Narrows (d.completeAllError e) := by
  have hdrain : d.Narrows { d with calls := .empty } :=
    ⟨rfl, rfl, rfl, rfl, List.nil_subset _⟩
  exact List.foldlRecOn (motive := d.Narrows) d.calls.values _ hdrain
    fun d' hd' call _ => hd'.trans (d'.narrows_resolve call _)

theorem narrows_take (d : Dispatcher) (s : Signal) : d.Narrows (d.take s) := by
  cases s with
  | response envelope payload =>
    rw [take, handleResponse]
    split
    · exact .refl d
    · simp only
      split
      · exact .refl d
      · split <;> exact d.narrows_complete _ _
  | success id reply => exact d.narrows_complete id _
  | error id e => exact d.narrows_complete id _
  | allError e => exact d.narrows_completeAllError e

theorem narrows_runWorker (d : Dispatcher) (worker : Nat) : d.Narrows (d.runWorker worker) := by
  rw [runWorker]
  split
  · exact .refl d
  · exact ⟨rfl, rfl, rfl, MailRoom.next_send _ _ _, List.Subset.refl _⟩

theorem narrows_close (d : Dispatcher) : d.Narrows d.close :=
  (d.narrows_completeAllError _).trans ⟨rfl, rfl, rfl, rfl, List.Subset.refl _⟩

theorem narrows_stop (d : Dispatcher) : d.Narrows d.stop := by
  -- Mailboxes are closed, but none is opened.
  refine ⟨rfl, rfl, rfl, ?_, List.Subset.refl _⟩
  exact List.foldlRecOn (motive := fun m : MailRoom Outcome => m.next = d.mail.next) d.pool.pending
    _ rfl fun m hm job _ => (List.length_modify _ _ _).trans hm

theorem narrows_noteSend (d : Dispatcher) (id : UInt64) (outcome : SendOutcome) :
    d.Narrows (d.noteSend id outcome) := by
  cases outcome with
  | queued => exact .refl d
  | resolved e => exact d.narrows_complete id _
  | rejected e => exact d.narrows_complete id _

/-! ## What reaches a dispatcher from outside -/

/-- What a message does to a dispatcher that is there. One that was dropped does not notice. -/
theorem receive_eq (d : Dispatcher) (envelope : Envelope) (payload : Bytes) :
    (d.receive envelope payload).2 = if d.live then d.take (.response envelope payload) else d :=
  rfl

theorem narrows_notice (d : Dispatcher) (s : Signal) :
    d.Narrows (if d.live then d.take s else d) := by
  split
  · exact d.narrows_take s
  · exact .refl d

theorem narrows_absorb (d : Dispatcher) (effect : Connection.Effect) :
    d.Narrows (d.absorb effect) := by
  have hframes : d.Narrows (effect.frames.foldl (fun d f => (d.receive f.envelope f.payload).2) d) :=
    List.foldlRecOn (motive := d.Narrows) effect.frames _ (.refl d)
      fun d' hd' f _ => hd'.trans (d'.narrows_notice (.response f.envelope f.payload))
  rw [absorb]
  cases effect.fault with
  | none => exact hframes
  | some e => exact hframes.trans (narrows_notice _ (.allError e))

end Dispatcher

/-! ## The way back from a handler -/

namespace Responder

/-- The way back is used up: the request is answered, or let go of. -/
def finish (r : Responder) (answer? : Option Answer) (d : Dispatcher) : Dispatcher :=
  match answer? with
  | some a => (r.respond a d).2
  | none => r.release d

/-- The signal that reaches the dispatcher then. -/
def lastSignal (r : Responder) (answer? : Option Answer) : Signal :=
  match answer?.map Answer.payload with
  | some (.ok payload) => .response (r.request.responseTo payload.length) payload
  | _ => .error r.request.correlationId (.failure (.noResponse r.endpoint))

/-- The outcome that it means for the call which is outstanding under the id of the request. -/
def lastVerdict (r : Responder) (answer? : Option Answer) (call : OutstandingCall) : Outcome :=
  match answer?.map Answer.payload with
  | some (.ok payload) => call.judge payload
  | _ => .error (.failure (.noResponse r.endpoint))

theorem finish_eq (r : Responder) (answer? : Option Answer) (d : Dispatcher) :
    r.finish answer? d = if d.live then d.take (r.lastSignal answer?) else d := by
  cases answer? with
  | none => rfl
  | some a =>
    rw [finish, respond, lastSignal, Option.map_some]
    cases a.payload <;> rfl

/-- What the one who answers is told: whether the dispatcher was still there, or why the answer
could not be encoded. -/
theorem respond_fst (r : Responder) (a : Answer) (d : Dispatcher) :
    (r.respond a d).1 = a.payload.map fun _ => d.live := by
  rw [respond]
  cases a.payload <;> rfl

/-- A request that ends concludes the call which is outstanding under its id. -/
theorem concludes_finish {r : Responder} {d : Dispatcher} (hlive : d.live = true)
    (hsystem : r.request.systemId = d.systemId) {call : OutstandingCall}
    (hfind : d.calls.find? r.request.correlationId = some call) (answer? : Option Answer) :
    d.Concludes (r.finish answer? d) r.request.correlationId call (r.lastVerdict answer? call) := by
  rw [finish_eq, if_pos hlive, lastSignal, lastVerdict]
  split
  next payload _ =>
    -- The response carries both numbers of the request, so that it is not ignored.
    have hcomplete : d.handleResponse (r.request.responseTo payload.length) payload =
        d.complete r.request.correlationId (call.judge payload) := by
      have hkind : (r.request.responseTo payload.length).kind = .response := rfl
      exact Dispatcher.handleResponse_eq_complete hkind hsystem hfind
    rw [Dispatcher.take, hcomplete]
    exact Dispatcher.concludes_complete hfind _
  next => exact Dispatcher.concludes_complete hfind _

/-- A request that ends does nothing if no call is outstanding under its id. -/
theorem finish_eq_self {r : Responder} {d : Dispatcher}
    (hfind : d.calls.find? r.request.correlationId = none) (answer? : Option Answer) :
    r.finish answer? d = d := by
  rw [finish_eq]
  split
  next =>
    rw [lastSignal]
    split
    next payload _ =>
      have hnone : d.calls.find? (r.request.responseTo payload.length).correlationId = none := hfind
      exact Dispatcher.handleResponse_eq_self (fun _ => hnone) payload
    next => exact Dispatcher.complete_eq_self hfind _
  next => rfl

theorem finish_cases {r : Responder} {d : Dispatcher} (hsystem : r.request.systemId = d.systemId)
    (answer? : Option Answer) :
    r.finish answer? d = d ∨
      ∃ call outcome, d.Concludes (r.finish answer? d) r.request.correlationId call outcome := by
  cases hlive : d.live with
  | false =>
    refine .inl ?_
    rw [finish_eq, hlive]
    rfl
  | true =>
    cases hfind : d.calls.find? r.request.correlationId with
    | none => exact .inl (finish_eq_self hfind answer?)
    | some call => exact .inr ⟨call, _, concludes_finish hlive hsystem hfind answer?⟩

end Responder

end RemoteCall
