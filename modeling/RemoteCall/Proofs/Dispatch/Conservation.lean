import Mathlib.Algebra.Ring.Nat
import Mathlib.Data.List.Nodup
import RemoteCall.Proofs.Dispatch.Run
/-!
# Conservation of calls

A call that a dispatcher has accepted is outstanding, or waits with its result for a worker, or
has been delivered. The ledger of a run (`Dispatcher.Ledger`) says that the accepted calls are
these three groups of calls taken together, that each call has a mailbox of its own, and that
its mailbox holds a result exactly if the result has been delivered. Every move keeps the ledger
(`Dispatcher.Ledger.move`), whatever the transport does and in whatever order the workers run.
-/

namespace RemoteCall

/-- The calls that were accepted, in order. -/
def acceptedCalls (hs : List Happening) : List OutstandingCall :=
  hs.filterMap Happening.accepted?

/-- The results that were delivered, in order. -/
def deliveries (hs : List Happening) : List Completion :=
  hs.filterMap Happening.delivered?

/-- The calls accepted in two runs, one after the other. -/
@[simp]
theorem acceptedCalls_append (hs hs' : List Happening) :
    acceptedCalls (hs ++ hs') = acceptedCalls hs ++ acceptedCalls hs' :=
  List.filterMap_append

/-- The results delivered in two runs, one after the other. -/
@[simp]
theorem deliveries_append (hs hs' : List Happening) :
    deliveries (hs ++ hs') = deliveries hs ++ deliveries hs' :=
  List.filterMap_append

namespace Dispatcher

/-! ## The ledger -/

/-- The books of a dispatcher after a run with the given happenings. -/
structure Ledger (d : Dispatcher) (hs : List Happening) : Prop where
  /-- The dispatcher is in order. -/
  orderly : d.Orderly
  /-- Every accepted call is outstanding, in a queue, or delivered, and no other call is. -/
  conserved : (acceptedCalls hs).Perm
    (d.calls.values ++ (d.pool.pending ++ deliveries hs).map Completion.call)
  /-- The accepted calls have the mailboxes in the order in which they were opened. -/
  boxes : (acceptedCalls hs).map OutstandingCall.box = List.range d.mail.next
  /-- Nothing has been sent to a call that is outstanding or in a queue. -/
  waiting : ∀ c ∈ d.calls.values ++ d.pool.pending.map Completion.call,
    d.mail.state c.box = .waiting
  /-- A call that was delivered has its result. -/
  holding : ∀ job ∈ deliveries hs, d.mail.state job.call.box = .holding job.outcome

/-- The books of a new dispatcher are empty. -/
theorem ledger_start (systemId : UInt64) (endpoint : Endpoint) (config : DispatcherConfig) :
    (start systemId endpoint config).Ledger [] where
  orderly := orderly_start systemId endpoint config
  conserved := by simp [acceptedCalls, deliveries, start, Table.values, Table.empty,
    CompletionPool.pending, CompletionPool.start]
  boxes := by simp [acceptedCalls, start, MailRoom.next, MailRoom.empty]
  waiting := by simp [start, Table.values, Table.empty, CompletionPool.pending,
    CompletionPool.start]
  holding := by simp [deliveries]

namespace Ledger

variable {d d' : Dispatcher} {hs hs' : List Happening}

/-- The mailbox of an accepted call has been opened. -/
theorem box_lt (h : d.Ledger hs) {c : OutstandingCall} (hc : c ∈ acceptedCalls hs) :
    c.box < d.mail.next := by
  rw [← List.mem_range, ← h.boxes]
  exact List.mem_map_of_mem hc

/-- Every accepted call has a mailbox of its own. -/
theorem nodup_accepted_boxes (h : d.Ledger hs) :
    ((acceptedCalls hs).map OutstandingCall.box).Nodup := by
  rw [h.boxes]
  exact List.nodup_range

/-- No mailbox belongs to calls in two places. -/
theorem nodup_boxes (h : d.Ledger hs) :
    ((d.calls.values ++ (d.pool.pending ++ deliveries hs).map Completion.call).map
      OutstandingCall.box).Nodup := by
  rw [← (h.conserved.map OutstandingCall.box).nodup_iff]
  exact h.nodup_accepted_boxes

/-- Accepted calls with one mailbox are one call. -/
theorem eq_of_box_eq (h : d.Ledger hs) {c c' : OutstandingCall} (hc : c ∈ acceptedCalls hs)
    (hc' : c' ∈ acceptedCalls hs) (hbox : c.box = c'.box) : c = c' :=
  List.inj_on_of_nodup_map h.nodup_accepted_boxes hc hc' hbox

/-- The accepted calls after a new one. -/
theorem accept {request : CallRequest} {a : Admission} (h : d.Ledger hs)
    (haccepts : d.Accepts request a d') (horderly : d'.Orderly) :
    d'.Ledger (hs ++ [.accepted (a.record request)]) := by
  have hvalues := haccepts.values_eq
  have hbox : (a.record request).box = d.mail.next := haccepts.box_eq
  have hold : ∀ c ∈ acceptedCalls hs, d.mail.opened.state c.box = d.mail.state c.box :=
    fun c hc => MailRoom.state_opened (h.box_lt hc)
  obtain ⟨calls, rfl, -⟩ := haccepts.state_eq
  have haccepted : acceptedCalls [.accepted (a.record request)] = [a.record request] := rfl
  have hdelivered : deliveries [.accepted (a.record request)] = [] := rfl
  refine ⟨horderly, ?_, ?_, ?_, ?_⟩
  · rw [acceptedCalls_append, deliveries_append, haccepted, hdelivered, List.append_nil, hvalues,
      List.append_assoc]
    refine (h.conserved.append_right _).trans ?_
    rw [List.append_assoc]
    exact List.perm_append_comm.append_left _
  · rw [acceptedCalls_append, haccepted, List.map_append, h.boxes, List.map_singleton, hbox,
      MailRoom.next_opened, List.range_succ]
  · intro c hc
    have hcases : c = a.record request ∨ c ∈ d.calls.values ++ d.pool.pending.map Completion.call := by
      rw [hvalues] at hc
      grind
    rcases hcases with rfl | hc
    · rw [hbox]
      exact MailRoom.state_opened_next _
    · have hmem : c ∈ acceptedCalls hs := by
        rw [h.conserved.mem_iff]
        grind
      rw [hold c hmem]
      exact h.waiting c hc
  · intro job hjob
    rw [deliveries_append, hdelivered, List.append_nil] at hjob
    have hmem : job.call ∈ acceptedCalls hs := by
      rw [h.conserved.mem_iff]
      grind
    rw [hold _ hmem]
    exact h.holding job hjob

/-- Calls that a signal settles go from the table to the queues. -/
theorem settle (h : d.Ledger hs) {verdict : OutstandingCall → Option Outcome} (s : Signal)
    (hsettles : d.Settles d' verdict) (horderly : d'.Orderly) :
    d'.Ledger (hs ++ [.reached s]) := by
  have hvalues := hsettles.values_eq
  have hpending := hsettles.pending_perm
  obtain ⟨calls, pool, rfl⟩ := hsettles.frame
  -- The calls that enter the queues are those that leave the table.
  have hmoved : (d.calls.values.filterMap fun c => (verdict c).map (Completion.mk c)).map
      Completion.call = d.calls.values.filter fun c => !(verdict c).isNone := by
    rw [List.map_filterMap, ← List.filterMap_eq_filter]
    refine List.filterMap_congr fun c _ => ?_
    cases hverdict : verdict c <;> simp [Option.guard, hverdict]
  have hcalls : (d.calls.values ++ d.pool.pending.map Completion.call).Perm
      (calls.values ++ pool.pending.map Completion.call) := by
    refine List.Perm.trans ?_ ((hpending.map Completion.call).symm.append_left _)
    rw [hvalues, List.map_append, hmoved]
    have hsplit := List.filter_append_perm (fun c => (verdict c).isNone) d.calls.values
    refine (hsplit.symm.append_right _).trans ?_
    rw [List.append_assoc]
    exact List.perm_append_comm.append_left _
  have haccepted : acceptedCalls [.reached s] = [] := rfl
  have hdelivered : deliveries [.reached s] = [] := rfl
  refine ⟨horderly, ?_, ?_, ?_, ?_⟩
  · rw [acceptedCalls_append, deliveries_append, haccepted, hdelivered, List.append_nil,
      List.append_nil, List.map_append, ← List.append_assoc]
    refine h.conserved.trans ?_
    rw [List.map_append, ← List.append_assoc]
    exact hcalls.append_right _
  · rw [acceptedCalls_append, haccepted, List.append_nil]
    exact h.boxes
  · intro c hc
    exact h.waiting c (hcalls.mem_iff.2 hc)
  · intro job hjob
    rw [deliveries_append, hdelivered, List.append_nil] at hjob
    exact h.holding job hjob

/-- A result that is delivered goes from its queue to its mailbox. -/
theorem deliver (h : d.Ledger hs) {worker : Nat} {job : Completion}
    (hnext : d.pool.next? worker = some job) (horderly : (d.runWorker worker).Orderly) :
    (d.runWorker worker).Ledger (hs ++ [.delivered job]) := by
  have hpending := CompletionPool.pending_perm_of_next? hnext
  have hwaiting : d.mail.state job.call.box = .waiting := by
    refine h.waiting _ (List.mem_append_right _ (List.mem_map_of_mem ?_))
    rw [hpending.mem_iff]
    exact List.mem_cons_self
  have hnodup := h.nodup_boxes
  rw [List.map_append, ((((hpending.append_right _).map Completion.call).map
    OutstandingCall.box).append_left _).nodup_iff] at hnodup
  rw [runWorker_of_next? hnext] at horderly ⊢
  have haccepted : acceptedCalls [.delivered job] = [] := rfl
  have hdelivered : deliveries [.delivered job] = [job] := rfl
  refine ⟨horderly, ?_, ?_, ?_, ?_⟩
  · rw [acceptedCalls_append, deliveries_append, haccepted, hdelivered, List.append_nil]
    refine h.conserved.trans (List.Perm.append_left _ (List.Perm.map _ ?_))
    rw [← List.append_assoc]
    exact (hpending.append_right _).trans (List.perm_append_singleton _ _).symm
  · rw [acceptedCalls_append, haccepted, List.append_nil, MailRoom.next_send]
    exact h.boxes
  · intro c hc
    -- No mailbox belongs to calls in two places, so this one is not written.
    have hne : job.call.box ≠ c.box := by grind
    rw [MailRoom.state_send_of_ne hne]
    refine h.waiting c ?_
    grind
  · intro job' hjob'
    rw [deliveries_append, hdelivered, List.mem_append, List.mem_singleton] at hjob'
    rcases hjob' with hold | rfl
    · have hne : job.call.box ≠ job'.call.box := by grind
      rw [MailRoom.state_send_of_ne hne]
      exact h.holding job' hold
    · exact MailRoom.state_send_self hwaiting _

/-- Every move keeps the books. -/
theorem move (h : d.Ledger hs) (hmove : Move d hs' d') : d'.Ledger (hs ++ hs') := by
  have horderly := hmove.orderly h.orderly
  cases hmove with
  | accept _ haccepts => exact h.accept haccepts horderly
  | reach s => exact h.settle s (settles_take h.orderly.running h.orderly.keyed s) horderly
  | deliver hnext => exact h.deliver hnext horderly
  | skip nextId =>
    rw [List.append_nil]
    exact ⟨horderly, h.conserved, h.boxes, h.waiting, h.holding⟩
  | leave _ =>
    rw [List.append_nil]
    exact ⟨horderly, h.conserved, h.boxes, h.waiting, h.holding⟩

/-- Moves keep the books. -/
theorem moves (h : d.Ledger hs) (hmoves : Moves d hs' d') : d'.Ledger (hs ++ hs') := by
  induction hmoves with
  | refl =>
    rw [List.append_nil]
    exact h
  | tail _ hmove ih =>
    rw [← List.append_assoc]
    exact ih.move hmove

end Ledger

/-- The books of a run. -/
theorem ledger_run (systemId : UInt64) (endpoint : Endpoint) (config : DispatcherConfig)
    (ops : List Operation) :
    ((start systemId endpoint config).run ops).1.Ledger
      ((start systemId endpoint config).run ops).2 := by
  have hstart := ledger_start systemId endpoint config
  exact hstart.moves (moves_run hstart.orderly ops)

/-! ## One place for every call -/

end Dispatcher

/-- How often a call stands in a list. Calls are told apart by their mailboxes. -/
def OutstandingCall.copies (c : OutstandingCall) (calls : List OutstandingCall) : Nat :=
  calls.countP fun c' => c'.box == c.box

namespace Dispatcher

/-- A call stands once in the table, or once in the queue of one worker, or has been delivered
once. -/
structure InOnePlace (d : Dispatcher) (hs : List Happening) (c : OutstandingCall) : Prop where
  /-- Table, queues and deliveries have the call once in all. -/
  once : c.copies d.calls.values +
      (d.pool.queues.map fun queue => c.copies (queue.map Completion.call)).sum +
      c.copies ((deliveries hs).map Completion.call) = 1
  /-- In the table it stands under its own id, and nothing has been sent to it. -/
  registered : c.copies d.calls.values = 1 →
    d.calls.find? c.id = some c ∧ d.mail.state c.box = .waiting
  /-- In a queue it stands with its result, which has not been sent yet. -/
  queued : ∀ queue ∈ d.pool.queues, c.copies (queue.map Completion.call) = 1 →
    (∃ outcome, ⟨c, outcome⟩ ∈ queue) ∧ d.mail.state c.box = .waiting
  /-- If it was delivered, its result has been sent. -/
  delivered : c.copies ((deliveries hs).map Completion.call) = 1 →
    ∃ outcome, ⟨c, outcome⟩ ∈ deliveries hs ∧ d.mail.state c.box = .holding outcome

namespace Ledger

variable {d d' : Dispatcher} {hs hs' : List Happening}

/-- A call stands in a list of accepted calls if there is a copy of it. -/
theorem mem_of_copies (h : d.Ledger hs) {c : OutstandingCall} (hc : c ∈ acceptedCalls hs)
    {calls : List OutstandingCall} (hcalls : calls ⊆ acceptedCalls hs)
    (hcopies : 0 < c.copies calls) : c ∈ calls := by
  obtain ⟨c', hc', hbox⟩ := List.countP_pos_iff.1 hcopies
  have hsame := h.eq_of_box_eq (hcalls hc') hc (by simpa using hbox)
  rwa [hsame] at hc'

/-- There is one copy of every accepted call. -/
theorem copies_acceptedCalls (h : d.Ledger hs) {c : OutstandingCall}
    (hc : c ∈ acceptedCalls hs) : c.copies (acceptedCalls hs) = 1 := by
  have hcount := List.count_eq_one_of_mem h.nodup_accepted_boxes (List.mem_map_of_mem hc)
  rw [List.count, List.countP_map] at hcount
  exact hcount

/-- Every accepted call is in one place. -/
theorem inOnePlace (h : d.Ledger hs) {c : OutstandingCall} (hc : c ∈ acceptedCalls hs) :
    d.InOnePlace hs c := by
  have htable : d.calls.values ⊆ acceptedCalls hs := fun c hc => by
    rw [h.conserved.mem_iff]
    exact List.mem_append_left _ hc
  have hqueue : ∀ queue ∈ d.pool.queues, queue.map Completion.call ⊆ acceptedCalls hs := by
    intro queue hqueue c hc
    have hpending : c ∈ d.pool.pending.map Completion.call := by
      obtain ⟨job, hjob, rfl⟩ := List.mem_map.1 hc
      exact List.mem_map_of_mem (List.mem_flatten.2 ⟨queue, hqueue, hjob⟩)
    rw [h.conserved.mem_iff]
    grind
  have hdelivered : (deliveries hs).map Completion.call ⊆ acceptedCalls hs := fun c hc => by
    rw [h.conserved.mem_iff]
    grind
  refine ⟨?_, ?_, ?_, ?_⟩
  · have hsum := h.copies_acceptedCalls hc
    rw [OutstandingCall.copies, h.conserved.countP_eq, List.countP_append, List.map_append,
      List.countP_append, CompletionPool.pending, List.map_flatten, List.countP_flatten,
      List.map_map, ← Nat.add_assoc] at hsum
    exact hsum
  · intro hone
    have hmem := h.mem_of_copies hc htable (by omega)
    exact ⟨h.orderly.keyed.find?_eq_some_iff.2 ⟨hmem, rfl⟩,
      h.waiting c (List.mem_append_left _ hmem)⟩
  · intro queue hmemq hone
    have hmem := h.mem_of_copies hc (hqueue queue hmemq) (by omega)
    obtain ⟨⟨_, outcome⟩, hjob, rfl⟩ := List.mem_map.1 hmem
    refine ⟨⟨outcome, hjob⟩, h.waiting _ (List.mem_append_right _ ?_)⟩
    exact List.mem_map_of_mem (f := Completion.call) (List.mem_flatten.2 ⟨queue, hmemq, hjob⟩)
  · intro hone
    have hmem := h.mem_of_copies hc hdelivered (by omega)
    obtain ⟨⟨_, outcome⟩, hjob, rfl⟩ := List.mem_map.1 hmem
    exact ⟨outcome, hjob, h.holding _ hjob⟩

/-- An accepted call does not come back into the table. -/
theorem copies_values_move (h : d.Ledger hs) (hmove : Move d hs' d') {c : OutstandingCall}
    (hc : c ∈ acceptedCalls hs) : c.copies d'.calls.values ≤ c.copies d.calls.values := by
  cases hmove with
  | @accept _ request a _ haccepts =>
    -- The new call has a new mailbox, so it is no copy of the other.
    have hne : a.box ≠ c.box := by
      have hlt := h.box_lt hc
      rw [haccepts.box_eq]
      omega
    rw [haccepts.values_eq, OutstandingCall.copies, List.countP_append]
    simp [OutstandingCall.copies, Admission.record, hne]
  | reach s =>
    rw [(settles_take h.orderly.running h.orderly.keyed s).values_eq]
    exact List.filter_sublist.countP_le
  | deliver hnext =>
    have hcalls := congrArg calls (runWorker_of_next? hnext)
    exact Nat.le_of_eq (congrArg (c.copies ·.values) hcalls)
  | skip nextId => exact Nat.le_refl _
  | leave _ => exact Nat.le_refl _

/-- An accepted call does not come back into the table. -/
theorem copies_values_moves (h : d.Ledger hs) (hmoves : Moves d hs' d') {c : OutstandingCall}
    (hc : c ∈ acceptedCalls hs) : c.copies d'.calls.values ≤ c.copies d.calls.values := by
  induction hmoves with
  | refl => exact Nat.le_refl _
  | @tail _ _ earlier _ hbefore hmove ih =>
    have hmem : c ∈ acceptedCalls (hs ++ earlier) := by
      rw [acceptedCalls_append]
      exact List.mem_append_left _ hc
    exact Nat.le_trans ((h.moves hbefore).copies_values_move hmove hmem) ih

/-- If no call is outstanding and no job waits, every accepted call has been delivered. -/
theorem delivered_of_idle (h : d.Ledger hs) (htable : d.calls.values = [])
    (hpool : d.pool.pending = []) {c : OutstandingCall} (hc : c ∈ acceptedCalls hs) :
    c.copies ((deliveries hs).map Completion.call) = 1 := by
  have hall := h.conserved
  rw [htable, hpool, List.nil_append, List.nil_append] at hall
  have hone := h.copies_acceptedCalls hc
  rwa [OutstandingCall.copies, hall.countP_eq] at hone

end Ledger

/-- Failing every call, or dropping the dispatcher, leaves no call in the table. -/
theorem values_step_eq_nil {d : Dispatcher} (hd : d.Orderly) {last : Operation}
    (hlast : last = .drop ∨ ∃ e, last = .signal (.allError e)) :
    (d.step last).1.calls.values = [] := by
  have hall : ∀ e, (d.completeAllError e).calls.values = [] := by
    intro e
    rw [(settles_completeAllError hd.running e).values_eq]
    simp
  rcases hlast with rfl | ⟨e, rfl⟩
  · rw [step]
    split
    next => exact hall (.failure .dispatcherClosed)
    next hdead => exact hd.closed (by simpa using hdead)
  · rw [step]
    split
    next => exact hall e
    next hdead => exact hd.closed (by simpa using hdead)

/-- Workers do not touch the table. -/
theorem calls_run_work (d : Dispatcher) (workers : List Nat) :
    (d.run (workers.map .work)).1.calls = d.calls := by
  induction workers generalizing d with
  | nil => rfl
  | cons worker workers ih =>
    have hstep : (d.runWorker worker).calls = d.calls := by
      rw [runWorker]
      split <;> rfl
    rw [List.map_cons]
    exact (ih (d.runWorker worker)).trans hstep

/-- The workers can always get through all their jobs. -/
theorem exists_drained (d : Dispatcher) :
    ∃ workers : List Nat, (d.run (workers.map .work)).1.pool.pending = [] := by
  -- Every turn of a worker that has a job leaves one job less.
  induction hlength : d.pool.pending.length generalizing d with
  | zero => exact ⟨[], List.length_eq_zero_iff.1 hlength⟩
  | succ n ih =>
    have hne : d.pool.pending ≠ [] := by
      rintro hnil
      simp [hnil] at hlength
    obtain ⟨worker, job, hnext⟩ := CompletionPool.exists_next? hne
    have hpool : (d.runWorker worker).pool = d.pool.advance worker := by
      rw [runWorker_of_next? hnext]
    obtain ⟨workers, hdrained⟩ := ih (d.runWorker worker) (by
      have hperm := (CompletionPool.pending_perm_of_next? hnext).length_eq
      rw [List.length_cons, hlength] at hperm
      rw [hpool]
      omega)
    exact ⟨worker :: workers, hdrained⟩

/-- Whatever has happened to a dispatcher, every call that it has accepted is in exactly one of
three places: in the table under its own id, with its result in the queue of one worker, or
delivered with one result. It never moves back. If nothing is outstanding and nothing waits,
it has been delivered; that is so after a fault of all calls, or after the drop, once the
workers have got through their jobs, which they can. -/
theorem call_in_exactly_one_place (systemId : UInt64) (endpoint : Endpoint)
    (config : DispatcherConfig) (ops : List Operation) (c : OutstandingCall)
    (hc : c ∈ acceptedCalls ((start systemId endpoint config).run ops).2) :
    let after := (start systemId endpoint config).run
    let deliveredCopies := fun ops => c.copies ((deliveries (after ops).2).map Completion.call)
    (after ops).1.InOnePlace (after ops).2 c ∧
    (∀ more : List Operation,
      (after (ops ++ more)).1.InOnePlace (after (ops ++ more)).2 c ∧
      c.copies (after (ops ++ more)).1.calls.values ≤ c.copies (after ops).1.calls.values ∧
      deliveredCopies ops ≤ deliveredCopies (ops ++ more)) ∧
    ((after ops).1.calls.isEmpty = true → (after ops).1.pool.pending = [] →
      deliveredCopies ops = 1) ∧
    (∀ last : Operation, (last = .drop ∨ ∃ e, last = .signal (.allError e)) →
      (∀ workers : List Nat,
        (after (ops ++ last :: workers.map .work)).1.calls.isEmpty = true ∧
        ((after (ops ++ last :: workers.map .work)).1.pool.pending = [] →
          deliveredCopies (ops ++ last :: workers.map .work) = 1)) ∧
      ∃ workers : List Nat,
        (after (ops ++ last :: workers.map .work)).1.pool.pending = []) := by
  intro after deliveredCopies
  have hledger : ∀ ops, (after ops).1.Ledger (after ops).2 := ledger_run systemId endpoint config
  have hlater : ∀ more, c ∈ acceptedCalls (after (ops ++ more)).2 := by
    intro more
    rw [show after (ops ++ more) = _ from run_append _ ops more, acceptedCalls_append]
    exact List.mem_append_left _ hc
  have hvalues : ∀ t : CallTable, t.isEmpty = true ↔ t.values = [] := by
    intro t
    rw [Table.isEmpty, List.isEmpty_iff, Table.values, List.map_eq_nil_iff]
  refine ⟨(hledger ops).inOnePlace hc, fun more => ⟨(hledger _).inOnePlace (hlater more), ?_, ?_⟩,
    fun htable hpool => (hledger ops).delivered_of_idle ((hvalues _).1 htable) hpool hc,
    fun last hlast => ⟨fun workers => ?_, ?_⟩⟩
  · rw [show after (ops ++ more) = _ from run_append _ ops more]
    exact (hledger ops).copies_values_moves (moves_run (hledger ops).orderly more) hc
  · obtain ⟨new, hmore⟩ : ∃ new, deliveries (after (ops ++ more)).2 = deliveries (after ops).2 ++ new :=
      ⟨_, by rw [show after (ops ++ more) = _ from run_append _ ops more, deliveries_append]⟩
    simp only [deliveredCopies, hmore, List.map_append, OutstandingCall.copies, List.countP_append]
    omega
  · have htable : (after (ops ++ last :: workers.map .work)).1.calls.values = [] := by
      rw [show after (ops ++ last :: workers.map .work) = _ from run_append _ ops _]
      have hwork := calls_run_work ((after ops).1.step last).1 workers
      exact (congrArg Table.values hwork).trans (values_step_eq_nil (hledger ops).orderly hlast)
    exact ⟨(hvalues _).2 htable,
      fun hpool => (hledger _).delivered_of_idle htable hpool (hlater _)⟩
  · obtain ⟨workers, hdrained⟩ := exists_drained ((after ops).1.step last).1
    refine ⟨workers, ?_⟩
    rw [show after (ops ++ last :: workers.map .work) = _ from run_append _ ops _]
    exact hdrained

/-- The first of two calls, which a response answers after the second was refused by the
transport, is in one place, whoever of the workers has had a turn. -/
theorem answered_call_in_one_place :
    let endpoint : Endpoint := { scheme := "test", host := "local", port := none, path := "Calc" }
    let request : CallRequest :=
      { codec := .json, service := "Calc", method := "Count", argument := .json .null
        replyType := .any }
    let c : OutstandingCall :=
      { id := 1, method := "Count", codec := .json, replyType := .any, box := 0 }
    let ops : List Operation :=
      [.call request fun _ _ => ⟨[], none⟩,
        .call request fun envelope _ => ⟨[.error envelope.correlationId (.failure .noRuntime)],
          some (.failure .noRuntime)⟩,
        .signal (.response ((Envelope.request 7 1 0).responseTo 2) [0, 0x37]), .work 1]
    let r := (start 7 endpoint { completionWorkers := 3, maxOutstandingCalls := none }).run ops
    c ∈ acceptedCalls r.2 ∧ r.1.InOnePlace r.2 c := by
  intro endpoint request c ops r
  have hc : c ∈ acceptedCalls r.2 := List.mem_cons_self
  exact ⟨hc, (call_in_exactly_one_place 7 endpoint _ ops c hc).1⟩

end Dispatcher

end RemoteCall
