import RemoteCall.Dispatch.Dispatcher
/-!
# Signals

A signal is a message to a dispatcher about its calls. It comes from the transport, be it while
the transport takes a request or later, or from whoever holds the dispatcher. This module says
which outstanding calls a signal concerns, and with which outcome, without looking at the
dispatcher (`Signal.verdict`), and shows that the dispatcher does just that
(`Dispatcher.settles_take`): the calls that a signal concerns leave the table for the queues of
the workers, each with its own verdict, and nothing else changes.
-/

namespace RemoteCall

/-! ## Tables of calls -/

namespace CallTable

/-- Every call is registered under its own id. -/
def Keyed (t : CallTable) : Prop :=
  ∀ entry ∈ t.entries, entry.1 = entry.2.id

/-- No calls are registered in a keyed way. -/
theorem keyed_empty : Keyed .empty := by
  intro entry h
  cases h

/-- The ids of registered calls are the keys of the table. -/
theorem Keyed.map_id_values {t : CallTable} (h : t.Keyed) :
    t.values.map OutstandingCall.id = t.keys := by
  rw [Table.values, Table.keys, List.map_map]
  exact List.map_congr_left fun entry hentry => (h entry hentry).symm

/-- No two registered calls have one id. -/
theorem Keyed.nodup_ids {t : CallTable} (h : t.Keyed) :
    (t.values.map OutstandingCall.id).Nodup := by
  rw [h.map_id_values]
  exact t.nodup

/-- What is found under an id is the registered call with this id. -/
theorem Keyed.find?_eq_some_iff {t : CallTable} (h : t.Keyed) {id : UInt64}
    {call : OutstandingCall} : t.find? id = some call ↔ call ∈ t.values ∧ call.id = id := by
  rw [Table.find?_eq_some_iff, Table.values, List.mem_map]
  constructor
  · intro hmem
    exact ⟨⟨_, hmem, rfl⟩, (h _ hmem).symm⟩
  · rintro ⟨⟨⟨key, call'⟩, hmem, rfl⟩, rfl⟩
    have hkey : key = call'.id := h _ hmem
    rwa [hkey] at hmem

/-- Nothing is found under an id that no registered call has. -/
theorem Keyed.find?_eq_none_iff {t : CallTable} (h : t.Keyed) {id : UInt64} :
    t.find? id = none ↔ ∀ call ∈ t.values, call.id ≠ id := by
  rw [Table.find?_eq_none_iff, ← h.map_id_values, List.mem_map]
  constructor
  · rintro hnone call hcall rfl
    exact hnone ⟨call, hcall, rfl⟩
  · rintro hnone ⟨call, hcall, hid⟩
    exact hnone call hcall hid

/-- Erasing an id leaves the calls with other ids. -/
theorem Keyed.values_erase {t : CallTable} (h : t.Keyed) (id : UInt64) :
    (t.erase id).values = t.values.filter fun call => call.id ≠ id := by
  rw [Table.values, Table.values, Table.erase, List.filter_map]
  refine congrArg (List.map Prod.snd) (List.filter_congr fun entry hentry => ?_)
  simp [h entry hentry]

/-- Erasing keeps a table keyed. -/
theorem Keyed.erase {t : CallTable} (h : t.Keyed) (id : UInt64) : Keyed (t.erase id) := by
  intro entry hentry
  exact h entry (List.mem_filter.1 hentry).1

end CallTable

/-! ## Verdicts -/

namespace OutstandingCall

/-- What a response payload means for a call. A header that cannot be read and a fault that
cannot be read are decoding errors; a fault stands for its causes; a result is read by the codec
of the caller. -/
def judge (c : OutstandingCall) (payload : Bytes) : Outcome :=
  match ResponseHeader.decode payload with
  | .error defect => .error (.failure (.decode defect.message))
  | .ok ({ faulted := true }, body) =>
    match Codec.json.decode .fault body with
    | .ok fault => .error (CallError.ofFault fault).normalize
    | .error defect => .error (.failure (.decode defect.message))
  | .ok ({ faulted := false }, body) =>
    match c.codec.decode c.replyType body with
    | .ok x => .ok ⟨c.replyType, x⟩
    | .error defect => .error (.ofCodec defect)

end OutstandingCall

/-- A message to a dispatcher about its calls. -/
inductive Signal where
  /-- A message from the far end. -/
  | response (envelope : Envelope) (payload : Bytes)
  /-- A value for one call. -/
  | success (id : UInt64) (reply : Reply)
  /-- An error for one call. -/
  | error (id : UInt64) (e : CallError)
  /-- An error for every outstanding call. -/
  | allError (e : CallError)

namespace Signal

/-- The outcome that a signal to the dispatcher with the given number means for a call, if the
signal concerns the call at all. -/
def verdict (systemId : UInt64) (c : OutstandingCall) : Signal → Option Outcome
  | response envelope payload =>
    if envelope.kind = .response ∧ envelope.systemId = systemId ∧ envelope.correlationId = c.id then
      some (c.judge payload)
    else none
  | success id reply => if id = c.id then some (.ok reply) else none
  | error id e => if id = c.id then some (.error e.normalize) else none
  | allError e => some (.error e.normalize)

end Signal

/-! ## What a dispatcher does with a signal -/

/-- Among calls with different ids, those with the given id are the one that is found. -/
theorem filterMap_eq_singleton {calls : List OutstandingCall} {call : OutstandingCall}
    (hnodup : (calls.map OutstandingCall.id).Nodup) (hcall : call ∈ calls)
    {f : OutstandingCall → Option Completion} (hf : ∀ c ∈ calls, c.id ≠ call.id → f c = none) :
    calls.filterMap f = (f call).toList := by
  induction calls with
  | nil => cases hcall
  | cons c cs ih =>
    rw [List.map_cons, List.nodup_cons] at hnodup
    obtain ⟨hc, hcs⟩ := hnodup
    rcases List.mem_cons.1 hcall with rfl | hmem
    · -- The call is in front, and nobody behind it has its id.
      have hothers : cs.filterMap f = [] := by
        rw [List.filterMap_eq_nil_iff]
        intro c hmem
        refine hf c (List.mem_cons_of_mem _ hmem) ?_
        rintro hid
        exact hc (List.mem_map.2 ⟨c, hmem, hid⟩)
      cases hfcall : f call <;> simp [hfcall, hothers]
    · have hne : c.id ≠ call.id := by
        rintro hid
        exact hc (List.mem_map.2 ⟨call, hmem, hid.symm⟩)
      rw [List.filterMap_cons_none (hf c List.mem_cons_self hne)]
      exact ih hcs hmem fun c' hc' => hf c' (List.mem_cons_of_mem _ hc')

namespace Dispatcher

/-- Takes in a signal. -/
def take (d : Dispatcher) : Signal → Dispatcher
  | .response envelope payload => d.handleResponse envelope payload
  | .success id reply => d.completeSuccess id reply
  | .error id e => d.completeError id e
  | .allError e => d.completeAllError e

/-- From one state to the other, a dispatcher has moved the calls for which there is a verdict
from the table to the queues, and has done nothing else. -/
structure Settles (d d' : Dispatcher) (verdict : OutstandingCall → Option Outcome) : Prop where
  /-- The other calls stay in the table. -/
  values_eq : d'.calls.values = d.calls.values.filter fun c => (verdict c).isNone
  /-- Registered calls keep their ids. -/
  keyed : CallTable.Keyed d'.calls
  /-- The calls wait for a worker, with their verdicts. -/
  pending_perm : d'.pool.pending.Perm
    (d.pool.pending ++ d.calls.values.filterMap fun c => (verdict c).map (Completion.mk c))
  /-- Nothing else changes. -/
  frame : ∃ calls pool, d' = { d with calls, pool }

/-- Calls that no verdict concerns stay where they are. -/
theorem Settles.refl {d : Dispatcher} {verdict : OutstandingCall → Option Outcome}
    (hkeyed : CallTable.Keyed d.calls) (hnone : ∀ c ∈ d.calls.values, verdict c = none) :
    d.Settles d verdict where
  values_eq := by
    rw [List.filter_eq_self.2]
    intro c hc
    rw [hnone c hc]
    rfl
  keyed := hkeyed
  pending_perm := by
    rw [List.filterMap_eq_nil_iff.2, List.append_nil]
    intro c hc
    rw [hnone c hc]
    rfl
  frame := ⟨d.calls, d.pool, rfl⟩

/-- Completing an id settles the call with that id. The outcome may depend on the call. -/
theorem settles_complete {d : Dispatcher} (hrunning : d.running = true)
    (hkeyed : CallTable.Keyed d.calls) {id : UInt64} {outcome : Outcome}
    {verdict : OutstandingCall → Option Outcome}
    (hsome : ∀ c, d.calls.find? id = some c → verdict c = some outcome)
    (hnone : ∀ c ∈ d.calls.values, c.id ≠ id → verdict c = none) :
    d.Settles (d.complete id outcome) verdict := by
  cases hfind : d.calls.find? id with
  | none =>
    have hcomplete : d.complete id outcome = d := by
      rw [complete, Table.remove?, hfind]
      rfl
    rw [hcomplete]
    have hids := hkeyed.find?_eq_none_iff.1 hfind
    exact .refl hkeyed fun c hc => hnone c hc (hids c hc)
  | some call =>
    obtain ⟨hcall, rfl⟩ := hkeyed.find?_eq_some_iff.1 hfind
    have hcomplete : d.complete call.id outcome =
        { d with calls := d.calls.erase call.id, pool := d.pool.submit ⟨call, outcome⟩ } := by
      rw [complete, Table.remove?, hfind]
      simp only [Option.map_some, resolve, hrunning, if_true]
    rw [hcomplete]
    have hverdict := hsome call hfind
    refine ⟨?_, hkeyed.erase call.id, ?_, _, _, rfl⟩
    · rw [hkeyed.values_erase]
      refine List.filter_congr fun c hc => ?_
      by_cases hid : c.id = call.id
      · -- The ids are different, so this is the call itself.
        have hsame : d.calls.find? call.id = some c := hkeyed.find?_eq_some_iff.2 ⟨hc, hid⟩
        simp [hid, hsome c hsame]
      · simp [hid, hnone c hc hid]
    · rw [filterMap_eq_singleton hkeyed.nodup_ids hcall fun c hc hid => by rw [hnone c hc hid]; rfl,
        hverdict]
      exact d.pool.pending_submit _

/-- Resolving calls one after the other puts all of them into the queues. -/
theorem foldl_resolve {d : Dispatcher} (hrunning : d.running = true) (outcome : Outcome)
    (calls : List OutstandingCall) :
    ∃ pool, calls.foldl (fun d call => d.resolve call outcome) d = { d with pool } ∧
      pool.pending.Perm (d.pool.pending ++ calls.map (Completion.mk · outcome)) := by
  induction calls generalizing d with
  | nil => exact ⟨d.pool, rfl, by simp⟩
  | cons call calls ih =>
    have hresolve : d.resolve call outcome = { d with pool := d.pool.submit ⟨call, outcome⟩ } := by
      rw [resolve, if_pos hrunning]
    obtain ⟨pool, hfold, hpending⟩ := ih (d := d.resolve call outcome) (by rw [hresolve]; exact hrunning)
    refine ⟨pool, by rw [List.foldl_cons, hfold, hresolve], hpending.trans ?_⟩
    rw [hresolve, List.map_cons, ← List.singleton_append, ← List.append_assoc]
    exact (d.pool.pending_submit _).append_right _

/-- Failing all calls settles every call with the same error. -/
theorem settles_completeAllError {d : Dispatcher} (hrunning : d.running = true) (e : CallError) :
    d.Settles (d.completeAllError e) fun _ => some (.error e.normalize) := by
  obtain ⟨pool, hfold, hpending⟩ := foldl_resolve (d := { d with calls := .empty }) hrunning
    (.error e.normalize) d.calls.values
  have hall : d.completeAllError e = { d with calls := .empty, pool } := hfold
  rw [hall]
  refine ⟨?_, CallTable.keyed_empty, ?_, _, _, rfl⟩
  · simp [Table.values, Table.empty]
  · refine hpending.trans (List.Perm.of_eq ?_)
    simp

/-- The verdict on a response is the outcome that is read from it, in canonical form. -/
theorem judge_eq (c : OutstandingCall) (payload : Bytes) :
    c.judge payload = match readResponse c payload with
      | .ok reply => .ok reply
      | .error e => .error e.normalize := by
  rw [OutstandingCall.judge, readResponse]
  cases ResponseHeader.decode payload with
  | error defect => rfl
  | ok parsed =>
    obtain ⟨⟨faulted⟩, body⟩ := parsed
    cases faulted with
    | true =>
      -- A codec that reads JSON fails only with decoding errors.
      cases hread : Json.readWhole ReplyType.fault.read body <;>
        simp [Codec.json, hread, decodeFault, CallError.ofCodec, CallError.normalize]
    | false =>
      simp only [Bool.false_eq_true, if_false, OutstandingCall.decode, Codec.decodeReply]
      cases c.codec.decode c.replyType body with
      | ok x => rfl
      | error defect => cases defect <;> rfl

/-- A response that is addressed to an outstanding call completes it. -/
theorem handleResponse_eq_complete {d : Dispatcher} {envelope : Envelope} {payload : Bytes}
    {call : OutstandingCall} (hkind : envelope.kind = .response)
    (hsystem : envelope.systemId = d.systemId)
    (hfind : d.calls.find? envelope.correlationId = some call) :
    d.handleResponse envelope payload = d.complete envelope.correlationId (call.judge payload) := by
  rw [handleResponse, if_neg (by simp [hkind, hsystem])]
  simp only [hfind, judge_eq]
  cases readResponse call payload <;> rfl

/-- A signal settles the calls that it concerns. -/
theorem settles_take {d : Dispatcher} (hrunning : d.running = true)
    (hkeyed : CallTable.Keyed d.calls) (s : Signal) :
    d.Settles (d.take s) (s.verdict d.systemId) := by
  cases s with
  | response envelope payload =>
    by_cases haddressed : envelope.kind = .response ∧ envelope.systemId = d.systemId
    · obtain ⟨hkind, hsystem⟩ := haddressed
      cases hfind : d.calls.find? envelope.correlationId with
      | none =>
        have hids := hkeyed.find?_eq_none_iff.1 hfind
        have hsame : d.take (.response envelope payload) = d := by
          rw [take, handleResponse, if_neg (by simp [hkind, hsystem])]
          simp only [hfind]
        rw [hsame]
        -- The response is addressed to the dispatcher, but to none of its calls.
        refine .refl hkeyed fun c hc => if_neg ?_
        rintro ⟨-, -, hid⟩
        exact hids c hc hid.symm
      | some call =>
        rw [take, handleResponse_eq_complete hkind hsystem hfind]
        refine settles_complete hrunning hkeyed (fun c hc => ?_) fun c _ hid => if_neg ?_
        · obtain rfl : call = c := Option.some.inj (hfind.symm.trans hc)
          have hid := (hkeyed.find?_eq_some_iff.1 hfind).2
          exact if_pos ⟨hkind, hsystem, hid.symm⟩
        · rintro ⟨-, -, h⟩
          exact hid h.symm
    · have hsame : d.take (.response envelope payload) = d :=
        if_pos (by by_cases hkind : envelope.kind = .response <;> simp_all)
      rw [hsame]
      refine .refl hkeyed fun c _ => if_neg ?_
      rintro ⟨hkind, hsystem, -⟩
      exact haddressed ⟨hkind, hsystem⟩
  | success id reply =>
    exact settles_complete hrunning hkeyed
      (fun c hc => if_pos (hkeyed.find?_eq_some_iff.1 hc).2.symm) fun c _ hid => if_neg (Ne.symm hid)
  | error id e =>
    exact settles_complete hrunning hkeyed
      (fun c hc => if_pos (hkeyed.find?_eq_some_iff.1 hc).2.symm) fun c _ hid => if_neg (Ne.symm hid)
  | allError e => exact settles_completeAllError hrunning e

end Dispatcher

end RemoteCall
