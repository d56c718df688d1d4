import Mathlib.Data.List.Nodup
import RemoteCall.Proofs.Dispatch.Conclusion
/-!
# Responses

A message from the far end answers at most one outstanding call (`Dispatcher.answered?`): it has to
be a response, and to carry the number of the dispatcher and the id of the call. It concludes the
call that it answers, whatever its payload is, and does nothing if it answers none
(`Dispatcher.handleResponse_eq`). The length and the checksum that the envelope tells do not matter.

Two messages with different ids do not get in each other's way. It depends on their order in which
order the workers get their jobs, and nothing else does, because every call has a mailbox of its
own (`Dispatcher.Reachable.ownBoxes`).
-/

namespace RemoteCall

/-- Two entries can be erased in any order. -/
theorem Table.erase_comm {κ α : Type} [DecidableEq κ] (t : Table κ α) (k k' : κ) :
    (t.erase k).erase k' = (t.erase k').erase k := by
  simp only [erase, List.filter_filter, Bool.and_comm]

/-- Two results can be sent to different mailboxes in any order. -/
theorem MailRoom.send_comm {α : Type} (m : MailRoom α) {box other : Nat} (h : box ≠ other)
    (x y : α) : (m.send box x).send other y = (m.send other y).send box x := by
  simp only [send, modify, List.modify_modify_ne _ _ _ h]

namespace Dispatcher

variable {d d' d₁ d₂ d₁₂ d₂₁ : Dispatcher} {envelope other : Envelope}
variable {call call' : OutstandingCall}

/-! ## The call that is answered -/

/-- The outstanding call that a message answers. -/
def answered? (d : Dispatcher) (envelope : Envelope) : Option OutstandingCall :=
  if envelope.kind = .response ∧ envelope.systemId = d.systemId then
    d.calls.find? envelope.correlationId
  else none

theorem answered?_eq_some_iff :
    d.answered? envelope = some call ↔
      (envelope.kind = .response ∧ envelope.systemId = d.systemId) ∧
        d.calls.find? envelope.correlationId = some call := by
  rw [answered?]
  split <;> simp [*]

/-- A message answers a call if its kind, its system id and its correlation id are right. -/
theorem isSome_answered?_iff :
    (d.answered? envelope).isSome ↔ envelope.kind = .response ∧ envelope.systemId = d.systemId ∧
      envelope.correlationId ∈ d.calls.keys := by
  simp only [Option.isSome_iff_exists, answered?_eq_some_iff, exists_and_left, Table.mem_keys_iff,
    and_assoc]

/-- A message completes the call that it answers, and is ignored if it answers none. -/
theorem handleResponse_eq (d : Dispatcher) (envelope : Envelope) (payload : Bytes) :
    d.handleResponse envelope payload =
      match d.answered? envelope with
      | some call => d.complete envelope.correlationId (call.judge payload)
      | none => d := by
  by_cases haddressed : envelope.kind = .response ∧ envelope.systemId = d.systemId
  · rw [answered?, if_pos haddressed]
    cases hfind : d.calls.find? envelope.correlationId with
    | none => exact handleResponse_eq_self (fun _ => hfind) payload
    | some call => exact handleResponse_eq_complete haddressed.1 haddressed.2 hfind
  · rw [answered?, if_neg haddressed, handleResponse, if_pos]
    rwa [← Decidable.not_and_iff_not_or_not]

theorem handleResponse_of_answered?_eq_none (h : d.answered? envelope = none) (payload : Bytes) :
    d.handleResponse envelope payload = d := by
  rw [handleResponse_eq, h]

theorem handleResponse_of_answered?_eq_some (h : d.answered? envelope = some call)
    (payload : Bytes) :
    d.handleResponse envelope payload = d.complete envelope.correlationId (call.judge payload) := by
  rw [handleResponse_eq, h]

/-- A message that answers a call concludes it. -/
theorem concludes_handleResponse (h : d.answered? envelope = some call) (payload : Bytes) :
    d.Concludes (d.handleResponse envelope payload) envelope.correlationId call
      (call.judge payload) := by
  rw [handleResponse_of_answered?_eq_some h]
  exact concludes_complete (answered?_eq_some_iff.1 h).2 _

/-- Only the entry of the call leaves the table. -/
theorem calls_handleResponse (h : d.answered? envelope = some call) (payload : Bytes) :
    (d.handleResponse envelope payload).calls = d.calls.erase envelope.correlationId := by
  rw [handleResponse_of_answered?_eq_some h]
  exact calls_complete_of_find? (answered?_eq_some_iff.1 h).2 _

/-- With workers there is one job more, and it is dealt out to the one whose turn it is. -/
theorem pool_handleResponse (h : d.answered? envelope = some call) (hrunning : d.running = true)
    (payload : Bytes) :
    (d.handleResponse envelope payload).pool = d.pool.submit ⟨call, call.judge payload⟩ := by
  rw [handleResponse_of_answered?_eq_some h, complete_of_find? (answered?_eq_some_iff.1 h).2,
    resolve, if_pos hrunning]

/-- What an envelope tells about its payload does not matter. -/
theorem handleResponse_congr (d : Dispatcher) (envelope : Envelope) (payload : Bytes)
    (payloadLength checksum : UInt32) :
    d.handleResponse { envelope with payloadLength, checksum } payload =
      d.handleResponse envelope payload :=
  rfl

/-! ## Two messages -/

/-- A message answers the same call after a message with another id. -/
theorem answered?_handleResponse (hne : other.correlationId ≠ envelope.correlationId)
    (payload : Bytes) :
    (d.handleResponse envelope payload).answered? other = d.answered? other := by
  cases hanswered : d.answered? envelope with
  | none => rw [handleResponse_of_answered?_eq_none hanswered]
  | some call =>
    have hconcludes := concludes_handleResponse hanswered payload
    obtain ⟨calls, pool, mail, hframe⟩ := hconcludes.frame
    rw [answered?, answered?, hconcludes.others _ hne, hframe]

/-- A message that is ignored is ignored before a message with another id and after it. -/
theorem handleResponse_comm_of_ignored (hignored : d.answered? envelope = none)
    (hne : other.correlationId ≠ envelope.correlationId) (payload payload' : Bytes) :
    (d.handleResponse envelope payload).handleResponse other payload' =
      (d.handleResponse other payload').handleResponse envelope payload := by
  have hlater := (answered?_handleResponse hne.symm payload').trans hignored
  rw [handleResponse_of_answered?_eq_none hignored, handleResponse_of_answered?_eq_none hlater]

theorem Concludes.running_eq {id : UInt64} {outcome : Outcome}
    (h : d.Concludes d' id call outcome) : d'.running = d.running := by
  obtain ⟨calls, pool, mail, rfl⟩ := h.frame
  rfl

section Orders

variable {id id' : UInt64} {outcome outcome' : Outcome}
variable (h₁ : d.Concludes d₁ id call outcome) (h₁₂ : d₁.Concludes d₁₂ id' call' outcome')
variable (h₂ : d.Concludes d₂ id' call' outcome') (h₂₁ : d₂.Concludes d₂₁ id call outcome)
include h₁ h₁₂ h₂ h₂₁

/-- In whichever order two calls are concluded, the same jobs wait for the workers. -/
theorem pending_perm_of_concludes : d₁₂.pool.pending.Perm d₂₁.pool.pending := by
  cases hrunning : d.running with
  | false =>
    -- Without workers no job is submitted.
    rw [(h₁₂.sent (h₁.running_eq.trans hrunning)).1, (h₁.sent hrunning).1,
      (h₂₁.sent (h₂.running_eq.trans hrunning)).1, (h₂.sent hrunning).1]
  | true =>
    have hfirst : d₁₂.pool.pending.Perm
        ((d.pool.pending ++ [⟨call, outcome⟩]) ++ [⟨call', outcome'⟩]) :=
      (h₁₂.submitted (h₁.running_eq.trans hrunning)).1.trans
        ((h₁.submitted hrunning).1.append_right _)
    have hsecond : d₂₁.pool.pending.Perm
        ((d.pool.pending ++ [⟨call', outcome'⟩]) ++ [⟨call, outcome⟩]) :=
      (h₂₁.submitted (h₂.running_eq.trans hrunning)).1.trans
        ((h₂.submitted hrunning).1.append_right _)
    rw [List.append_assoc] at hfirst hsecond
    exact (hfirst.trans (List.perm_append_comm.append_left _)).trans hsecond.symm

/-- In whichever order two calls with mailboxes of their own are concluded, the same has been
sent. -/
theorem mail_eq_of_concludes (hbox : call.box ≠ call'.box) : d₁₂.mail = d₂₁.mail := by
  cases hrunning : d.running with
  | false =>
    rw [(h₁₂.sent (h₁.running_eq.trans hrunning)).2, (h₁.sent hrunning).2,
      (h₂₁.sent (h₂.running_eq.trans hrunning)).2, (h₂.sent hrunning).2,
      MailRoom.send_comm _ hbox]
  | true =>
    -- The workers have not sent anything yet.
    rw [(h₁₂.submitted (h₁.running_eq.trans hrunning)).2, (h₁.submitted hrunning).2,
      (h₂₁.submitted (h₂.running_eq.trans hrunning)).2, (h₂.submitted hrunning).2]

end Orders

/-! ## States that are reached -/

/-- The states that a dispatcher comes into. Callers may give up their calls, and background work
may stop. -/
inductive Reachable : Dispatcher → Prop
  /-- A new dispatcher. -/
  | start (systemId : UInt64) (endpoint : Endpoint) (config : DispatcherConfig) :
      Reachable (start systemId endpoint config)
  /-- One more turn. -/
  | step {d : Dispatcher} (h : Reachable d) (op : Operation) : Reachable (d.step op).1
  /-- A caller gives up its mailbox. -/
  | abandon {d : Dispatcher} (h : Reachable d) (box : Nat) :
      Reachable { d with mail := d.mail.abandon box }
  /-- Background work stops. -/
  | stop {d : Dispatcher} (h : Reachable d) : Reachable d.stop

/-- Whatever turns are taken from a state that is reached lead to such a state. -/
theorem Reachable.run (h : d.Reachable) (ops : List Operation) : (d.run ops).1.Reachable := by
  induction ops generalizing d with
  | nil => exact h
  | cons op ops ih => exact ih (h.step op)

/-- No two outstanding calls have one mailbox, and the mailbox that is opened next is new. -/
structure OwnBoxes (d : Dispatcher) : Prop where
  box_lt : ∀ e ∈ d.calls.entries, e.2.box < d.mail.next
  eq_of_box_eq : ∀ e ∈ d.calls.entries, ∀ e' ∈ d.calls.entries, e.2.box = e'.2.box → e = e'

/-- Calls that stay in the table keep their mailboxes. -/
theorem Narrows.ownBoxes (h : d.Narrows d') (hd : d.OwnBoxes) : d'.OwnBoxes where
  box_lt e he := by
    rw [h.nextBox_eq]
    exact hd.box_lt e (h.entries_subset he)
  eq_of_box_eq e he e' he' :=
    hd.eq_of_box_eq e (h.entries_subset he) e' (h.entries_subset he')

/-- A call that is accepted gets a new mailbox. -/
theorem Accepts.ownBoxes {request : CallRequest} {a : Admission} (h : d.Accepts request a d')
    (hd : d.OwnBoxes) : d'.OwnBoxes := by
  have hbox : (a.record request).box = d.mail.next := h.box_eq
  obtain ⟨calls, rfl, hentries⟩ := h.state_eq
  constructor
  · intro e he
    rw [MailRoom.next_opened]
    rw [hentries, List.mem_append, List.mem_singleton] at he
    rcases he with hold | rfl
    · exact Nat.lt_succ_of_lt (hd.box_lt e hold)
    · exact Nat.lt_succ_of_le (Nat.le_of_eq hbox)
  · intro e he e' he' hsame
    rw [hentries, List.mem_append, List.mem_singleton] at he he'
    -- One of the two may be the new call, whose mailbox no other call has.
    rcases he with hold | rfl
    · rcases he' with hold' | rfl
      · exact hd.eq_of_box_eq e hold e' hold' hsame
      · exact absurd (hsame.trans hbox) (Nat.ne_of_lt (hd.box_lt e hold))
    · rcases he' with hold' | rfl
      · exact absurd (hsame.symm.trans hbox) (Nat.ne_of_lt (hd.box_lt e' hold'))
      · rfl

/-- A move leaves every call its mailbox. -/
theorem Move.ownBoxes {hs : List Happening} (h : Move d hs d') (hd : d.OwnBoxes) :
    d'.OwnBoxes := by
  cases h with
  | accept _ haccepts => exact haccepts.ownBoxes hd
  | reach s => exact (narrows_take _ s).ownBoxes hd
  | deliver _ => exact (narrows_runWorker _ _).ownBoxes hd
  | skip nextId => exact ⟨hd.box_lt, hd.eq_of_box_eq⟩
  | leave _ => exact ⟨hd.box_lt, hd.eq_of_box_eq⟩

/-- In every state that is reached, outstanding calls have mailboxes of their own. -/
theorem Reachable.ownBoxes (h : d.Reachable) : d.OwnBoxes := by
  induction h with
  | start systemId endpoint config => exact ⟨nofun, nofun⟩
  | step _ op ih => exact (moves_step _ op).preserves Move.ownBoxes ih
  | @abandon d _ box ih =>
    have hnarrows : d.Narrows { d with mail := d.mail.abandon box } :=
      ⟨rfl, rfl, rfl, List.length_modify _ _ _, List.Subset.refl _⟩
    exact hnarrows.ownBoxes ih
  | @stop d _ ih => exact d.narrows_stop.ownBoxes ih

/-- Two outstanding calls with different ids have different mailboxes. -/
theorem OwnBoxes.box_ne (hd : d.OwnBoxes) {id id' : UInt64} (hfind : d.calls.find? id = some call)
    (hfind' : d.calls.find? id' = some call') (hne : id ≠ id') : call.box ≠ call'.box := by
  intro hbox
  rw [Table.find?_eq_some_iff] at hfind hfind'
  exact hne (congrArg Prod.fst (hd.eq_of_box_eq _ hfind _ hfind' hbox))

/-- Two messages with different ids can be taken in in any order. -/
theorem handleResponse_comm (hd : d.OwnBoxes)
    (hne : other.correlationId ≠ envelope.correlationId) (payload payload' : Bytes) :
    let d₁₂ := (d.handleResponse envelope payload).handleResponse other payload'
    let d₂₁ := (d.handleResponse other payload').handleResponse envelope payload
    d₁₂.calls = d₂₁.calls ∧ d₁₂.pool.pending.Perm d₂₁.pool.pending ∧ d₁₂.mail = d₂₁.mail := by
  intro d₁₂ d₂₁
  cases hanswered : d.answered? envelope with
  | none =>
    have hsame : d₁₂ = d₂₁ := handleResponse_comm_of_ignored hanswered hne payload payload'
    rw [hsame]
    exact ⟨rfl, .refl _, rfl⟩
  | some call =>
    cases hanswered' : d.answered? other with
    | none =>
      have hsame : d₂₁ = d₁₂ := handleResponse_comm_of_ignored hanswered' hne.symm payload' payload
      rw [hsame]
      exact ⟨rfl, .refl _, rfl⟩
    | some call' =>
      -- Both messages answer a call, and they answer the same calls in the other order.
      have hother := (answered?_handleResponse hne payload).trans hanswered'
      have hthis := (answered?_handleResponse hne.symm payload').trans hanswered
      have h₁ := concludes_handleResponse hanswered payload
      have h₁₂ := concludes_handleResponse hother payload'
      have h₂ := concludes_handleResponse hanswered' payload'
      have h₂₁ := concludes_handleResponse hthis payload
      have hbox : call.box ≠ call'.box := hd.box_ne h₁.found h₂.found hne.symm
      refine ⟨?_, pending_perm_of_concludes h₁ h₁₂ h₂ h₂₁, mail_eq_of_concludes h₁ h₁₂ h₂ h₂₁ hbox⟩
      rw [calls_handleResponse hother, calls_handleResponse hanswered,
        calls_handleResponse hthis, calls_handleResponse hanswered', Table.erase_comm]

/-! ## Every response frees the call that it answers -/

/-- In every state that a dispatcher comes into,

* a message takes a call out of the table exactly if it is a response with the number of the
  dispatcher and the id of an outstanding call;
* then only this call leaves the table, concluded with what it makes of the payload, be the payload
  as it may, and with workers exactly one job is submitted;
* any other message is ignored;
* the other calls stay as they are;
* the length and the checksum that the envelope tells do not matter;
* two messages with different ids can be taken in in any order. -/
theorem response_frees_the_call_it_answers (hd : d.Reachable) (envelope : Envelope)
    (payload : Bytes) :
    let id := envelope.correlationId
    let after := d.handleResponse envelope payload
    let answers :=
      envelope.kind = .response ∧ envelope.systemId = d.systemId ∧ id ∈ d.calls.keys
    ((∃ key ∈ d.calls.keys, key ∉ after.calls.keys) ↔ answers) ∧
    (answers → ∃ call,
      after.calls = d.calls.erase id ∧ d.Concludes after id call (call.judge payload) ∧
      (d.running = true → after.pool = d.pool.submit ⟨call, call.judge payload⟩)) ∧
    (¬answers → after = d) ∧
    (∀ key ≠ id, after.calls.find? key = d.calls.find? key) ∧
    (∀ payloadLength checksum,
      d.handleResponse { envelope with payloadLength, checksum } payload = after) ∧
    ∀ (other : Envelope) (payload' : Bytes), other.correlationId ≠ id →
      let otherAfterThis := after.handleResponse other payload'
      let thisAfterOther := (d.handleResponse other payload').handleResponse envelope payload
      otherAfterThis.calls = thisAfterOther.calls ∧
      otherAfterThis.pool.pending.Perm thisAfterOther.pool.pending ∧
      otherAfterThis.mail = thisAfterOther.mail := by
  intro id after answers
  have hanswers : (d.answered? envelope).isSome ↔ answers := isSome_answered?_iff
  have hcomm := fun (other : Envelope) (payload' : Bytes) (hne : other.correlationId ≠ id) =>
    handleResponse_comm hd.ownBoxes hne payload payload'
  have hcongr := handleResponse_congr d envelope payload
  cases hanswered : d.answered? envelope with
  | none =>
    have hsame : after = d := handleResponse_of_answered?_eq_none hanswered payload
    have hnot : ¬answers := by simp [← hanswers, hanswered]
    refine ⟨⟨?_, fun h => absurd h hnot⟩, fun h => absurd h hnot, fun _ => hsame, ?_, hcongr, hcomm⟩
    · rintro ⟨key, hkey, hgone⟩
      rw [hsame] at hgone
      exact absurd hkey hgone
    · intro key _
      rw [hsame]
  | some call =>
    have hyes : answers := by simp [← hanswers, hanswered]
    have hconcludes : d.Concludes after id call (call.judge payload) :=
      concludes_handleResponse hanswered payload
    refine ⟨⟨fun _ => hyes, fun _ => ⟨id, hyes.2.2, ?_⟩⟩, fun _ => ⟨call, ?_, hconcludes, ?_⟩,
      fun h => absurd hyes h, hconcludes.others, hcongr, hcomm⟩
    · exact (Table.find?_eq_none_iff _ _).1 hconcludes.gone
    · exact calls_handleResponse hanswered payload
    · intro hrunning
      exact pool_handleResponse hanswered hrunning payload

/-- The first of two callers has given up when the second call is answered with an empty payload.
The second call fails, and the first stays outstanding. -/
theorem empty_response_frees_its_call :
    let endpoint : Endpoint := { scheme := "test", host := "local", port := none, path := "Calc" }
    let request : CallRequest :=
      { codec := .json, service := "Calc", method := "Count", argument := .json .null
        replyType := .any }
    let call : Operation := .call request fun _ _ => ⟨[], none⟩
    let called := ((start 7 endpoint default).run [call, call]).1
    let d := { called with mail := called.mail.abandon 0 }
    let envelope := (Envelope.request 7 2 0).responseTo 0
    let after := d.handleResponse envelope []
    d.Reachable ∧ d.calls.keys = [1, 2] ∧ after.calls.keys = [1] ∧
      after.pool.pending.map Completion.outcome =
        [.error (.failure (.decode "insufficient data: need 1 bytes, have 0"))] ∧
      ∃ call, d.Concludes after 2 call (call.judge []) := by
  intro endpoint request call called d envelope after
  have hd : d.Reachable := .abandon ((Reachable.start 7 endpoint default).run [call, call]) 0
  obtain ⟨-, hanswers, -⟩ := response_frees_the_call_it_answers hd envelope []
  obtain ⟨answered, -, hconcludes, -⟩ := hanswers ⟨rfl, rfl, List.mem_cons_of_mem _ List.mem_cons_self⟩
  exact ⟨hd, rfl, rfl, rfl, answered, hconcludes⟩

end Dispatcher

end RemoteCall
