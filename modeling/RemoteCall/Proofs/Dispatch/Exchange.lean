import Mathlib.Algebra.Ring.Nat
import Mathlib.Data.List.InsertIdx
import Mathlib.Data.List.Perm.Basic
import RemoteCall.Proofs.Dispatch.FirstVerdict
/-!
# Exchanges

In an exchange every request that a dispatcher sends is answered with what one function makes of
its payload. What lies between the dispatcher and whoever answers is left open: of the requests
that were sent it matters only which have not been answered yet (`Dispatcher.Exchange`). As
long as an answer goes to one of these, they are the outstanding calls, and every outcome is
what the answer to its own request means (`Dispatcher.Exchange.answer`), in whatever order the
answers come and the workers run.
-/

namespace RemoteCall

/-! ## Calls with their requests -/

/-- A call that a dispatcher has accepted, with what the caller asked for. -/
structure Posting where
  /-- What the caller asked for. -/
  request : CallRequest
  /-- What the dispatcher made of it. -/
  admission : Admission

namespace Posting

/-- The record of the call. -/
def call (x : Posting) : OutstandingCall :=
  x.admission.record x.request

/-- The outcome of the call, if requests are answered with what the given function makes of
them. -/
def outcome (F : Bytes → Bytes) (x : Posting) : Outcome :=
  x.call.judge (F x.admission.payload)

end Posting

/-- What callers have asked for, and what became of it. -/
abbrev CallLog := List (CallRequest × Except CallError Admission)

/-- The calls of a log that were accepted. -/
def postings (log : CallLog) : List Posting :=
  log.filterMap fun
    | (request, .ok a) => some ⟨request, a⟩
    | (_, .error _) => none

/-- The accepted calls of two logs, one after the other. -/
@[simp]
theorem postings_append (log log' : CallLog) :
    postings (log ++ log') = postings log ++ postings log' :=
  List.filterMap_append

/-- What stands in a list stands there when entries are added behind it. -/
theorem getElem?_append_of_eq_some {α : Type} {xs : List α} {x : α} {i : Nat}
    (h : xs[i]? = some x) (ys : List α) : (xs ++ ys)[i]? = some x := by
  obtain ⟨hi, -⟩ := List.getElem?_eq_some_iff.1 h
  rw [List.getElem?_append_left hi, h]

/-- What stands in a list with one more entry is that entry or stood there before. -/
theorem getElem?_concat_eq_some {α : Type} {xs : List α} {x y : α} {i : Nat}
    (h : (xs ++ [x])[i]? = some y) : xs[i]? = some y ∨ i = xs.length ∧ x = y := by
  rw [List.getElem?_append] at h
  split at h
  · exact .inl h
  · rw [List.getElem?_singleton] at h
    split at h
    next hi => exact .inr ⟨by omega, Option.some.inj h⟩
    next => cases h

/-- An entry of a list can be put in front. -/
theorem perm_cons_eraseIdx {α : Type} {xs : List α} {x : α} {i : Nat} (h : xs[i]? = some x) :
    xs.Perm (x :: xs.eraseIdx i) := by
  obtain ⟨hi, rfl⟩ := List.getElem?_eq_some_iff.1 h
  exact (List.getElem_cons_eraseIdx_perm hi).symm

namespace Dispatcher

/-! ## Requests and answers -/

/-- The state of an exchange between a dispatcher and whoever answers its requests with what a
function makes of them: all calls that were accepted, and those whose requests have not been
answered. -/
structure Exchange (F : Bytes → Bytes) (d : Dispatcher) (posted inFlight : List Posting) : Prop where
  /-- The dispatcher has not been dropped. -/
  live : d.live = true
  /-- It accepts any number of calls. -/
  unlimited : d.limit = none
  /-- The books have the same accepted calls, and every job has the outcome that belongs to its
  call. -/
  books : ∃ hs, d.Ledger hs ∧ acceptedCalls hs = posted.map Posting.call ∧
    ∀ job ∈ d.pool.pending ++ deliveries hs, ∃ x ∈ posted, job = ⟨x.call, x.outcome F⟩
  /-- Requests carry what the callers asked for. -/
  encoded : ∀ x ∈ posted, x.request.encode = .ok x.admission.payload
  /-- Requests tell the number of the dispatcher and the id of the call. -/
  addressed : ∀ x ∈ posted,
    x.admission.envelope = .request d.systemId x.admission.id x.admission.payload.length
  /-- The requests that have not been answered are those of the outstanding calls. -/
  outstanding : (inFlight.map Posting.call).Perm d.calls.values
  /-- They are among the requests that were sent. -/
  subset : inFlight ⊆ posted

namespace Exchange

variable {F : Bytes → Bytes} {d d' : Dispatcher} {posted inFlight inFlight' : List Posting}

/-- The order of the requests that have not been answered does not matter. -/
theorem perm (h : d.Exchange F posted inFlight) (hperm : inFlight.Perm inFlight') :
    d.Exchange F posted inFlight' where
  live := h.live
  unlimited := h.unlimited
  books := h.books
  encoded := h.encoded
  addressed := h.addressed
  outstanding := (hperm.symm.map Posting.call).trans h.outstanding
  subset := fun _ hx => h.subset (hperm.mem_iff.2 hx)

/-- A call that is accepted waits for the answer to its request. -/
theorem accept (h : d.Exchange F posted inFlight) {request : CallRequest} {a : Admission}
    (haccepts : d.Accepts request a d') :
    d'.Exchange F (posted ++ [⟨request, a⟩]) (inFlight ++ [⟨request, a⟩]) := by
  obtain ⟨hs, hledger, haccepted, hjobs⟩ := h.books
  have hledger' := hledger.move (.accept h.live haccepts)
  have hvalues := haccepts.values_eq
  have henvelope := haccepts.envelope_eq
  obtain ⟨calls, rfl, -⟩ := haccepts.state_eq
  refine ⟨h.live, h.unlimited, ⟨_, hledger', ?_, ?_⟩, ?_, ?_, ?_, ?_⟩
  · rw [acceptedCalls_append, haccepted, List.map_append]
    rfl
  · rw [deliveries_append, show deliveries [.accepted (a.record request)] = [] from rfl,
      List.append_nil]
    intro job hjob
    obtain ⟨x, hx, hjob⟩ := hjobs job hjob
    exact ⟨x, List.mem_append_left _ hx, hjob⟩
  · simp only [List.mem_append, List.mem_singleton]
    rintro x (hx | rfl)
    · exact h.encoded x hx
    · exact haccepts.payload_eq
  · simp only [List.mem_append, List.mem_singleton]
    rintro x (hx | rfl)
    · exact h.addressed x hx
    · exact henvelope
  · rw [hvalues, List.map_append]
    exact h.outstanding.append_right _
  · exact List.append_subset.2
      ⟨fun x hx => List.mem_append_left _ (h.subset hx), List.subset_append_right _ _⟩

/-- A call that is refused changes nothing, except that an id may be used up. -/
theorem refuse (h : d.Exchange F posted inFlight) {request : CallRequest} {e : CallError}
    (hrefuses : d.Refuses request e d') : d'.Exchange F posted inFlight := by
  obtain ⟨hs, hledger, haccepted, hjobs⟩ := h.books
  have hledger' := hledger.moves (moves_of_refuses hrefuses)
  rw [List.append_nil] at hledger'
  cases hrefuses <;>
    exact ⟨h.live, h.unlimited, ⟨hs, hledger', haccepted, hjobs⟩, h.encoded, h.addressed,
      h.outstanding, h.subset⟩

/-- An answer to a request that has not been answered settles its call. -/
theorem answer {x : Posting} {rest : List Posting} (h : d.Exchange F posted (x :: rest)) :
    (d.handleResponse (x.admission.envelope.responseTo (F x.admission.payload).length)
      (F x.admission.payload)).Exchange F posted rest := by
  obtain ⟨hs, hledger, haccepted, hjobs⟩ := h.books
  have hkeyed := hledger.orderly.keyed
  have hx : x.call ∈ d.calls.values := h.outstanding.mem_iff.1 List.mem_cons_self
  generalize hs' : Signal.response
    (x.admission.envelope.responseTo (F x.admission.payload).length) (F x.admission.payload) = s
  -- The answer concerns the call whose request it answers, and no other call in flight.
  have hverdict : ∀ c, s.verdict d.systemId c =
      if x.call.id = c.id then some (c.judge (F x.admission.payload)) else none := by
    intro c
    rw [← hs', h.addressed x (h.subset List.mem_cons_self)]
    exact if_congr ⟨fun hall => hall.2.2, fun hid => ⟨rfl, rfl, hid⟩⟩ rfl rfl
  have hothers : ∀ y ∈ rest, x.call.id ≠ y.call.id := by
    have hnodup := hkeyed.nodup_ids
    rw [← (h.outstanding.map OutstandingCall.id).nodup_iff, List.map_cons, List.map_cons,
      List.nodup_cons, List.map_map] at hnodup
    intro y hy hid
    exact hnodup.1 (List.mem_map.2 ⟨y, hy, hid.symm⟩)
  have htake : d.handleResponse (x.admission.envelope.responseTo (F x.admission.payload).length)
      (F x.admission.payload) = d.take s := by
    rw [← hs', take]
  have hsettles := settles_take hledger.orderly.running hkeyed s
  have hledger' := hledger.move (.reach d s)
  rw [htake]
  have hpending := hsettles.pending_perm
  have hvalues := hsettles.values_eq
  obtain ⟨calls, pool, hframe⟩ := hsettles.frame
  rw [hframe] at hledger' hpending hvalues ⊢
  -- So one call leaves the table, and its job is the only new one.
  refine ⟨h.live, h.unlimited, ⟨_, hledger', ?_, ?_⟩, h.encoded, h.addressed, ?_, ?_⟩
  · rw [acceptedCalls_append, haccepted]
    exact List.append_nil _
  · intro job hjob
    rw [deliveries_append, show deliveries [.reached s] = [] from rfl, List.append_nil,
      List.mem_append, hpending.mem_iff, List.mem_append, List.mem_filterMap] at hjob
    rcases hjob with (hold | ⟨c, hc, hnew⟩) | hdelivered
    · exact hjobs job (List.mem_append_left _ hold)
    · rw [hverdict] at hnew
      split at hnew
      next hid =>
        obtain rfl : x.call = c := List.inj_on_of_nodup_map hkeyed.nodup_ids hx hc hid
        cases hnew
        exact ⟨x, h.subset List.mem_cons_self, rfl⟩
      next => cases hnew
    · exact hjobs job (List.mem_append_right _ hdelivered)
  · have hfilter := h.outstanding.filter fun c => (s.verdict d.systemId c).isNone
    rw [← hvalues, List.map_cons, List.filter_cons_of_neg (by simp [hverdict]),
      List.filter_eq_self.2] at hfilter
    · exact hfilter
    · intro c hc
      obtain ⟨y, hy, rfl⟩ := List.mem_map.1 hc
      simp [hverdict, hothers y hy]
  · exact fun y hy => h.subset (List.mem_cons_of_mem _ hy)

/-- A worker that delivers an outcome changes nothing else. -/
theorem work (h : d.Exchange F posted inFlight) (worker : Nat) :
    (d.runWorker worker).Exchange F posted inFlight := by
  obtain ⟨hs, hledger, haccepted, hjobs⟩ := h.books
  cases hnext : d.pool.next? worker with
  | none =>
    have hsame : d.runWorker worker = d := by rw [runWorker, hnext]
    rw [hsame]
    exact h
  | some job =>
    have hledger' := hledger.move (.deliver hnext)
    have hpending := CompletionPool.pending_perm_of_next? hnext
    rw [runWorker_of_next? hnext] at hledger' ⊢
    refine ⟨h.live, h.unlimited, ⟨_, hledger', ?_, ?_⟩, h.encoded, h.addressed, h.outstanding,
      h.subset⟩
    · rw [acceptedCalls_append, haccepted]
      exact List.append_nil _
    · intro job' hjob'
      refine hjobs job' ?_
      rw [deliveries_append, show deliveries [.delivered job] = [job] from rfl] at hjob'
      grind

end Exchange

/-! ## Ids of calls -/

/-- The ids of a dispatcher without a limit that has dealt with the calls of a log. -/
structure Numbers (d : Dispatcher) (log : CallLog) : Prop where
  /-- Ids are handed out in turn, at most one for a call. -/
  ids : ∃ count ≤ log.length, d.nextId = UInt64.ofNat (count + 1) ∧
    ∀ c ∈ d.calls.values, ∃ m < count, c.id = UInt64.ofNat (m + 1)
  /-- A call was refused because its request cannot be encoded, or because its id was still in
  use when all ids had been handed out. -/
  refused : ∀ i request e, log[i]? = some (request, .error e) →
    request.encode = .error e ∨ 2 ^ 64 ≤ i ∧ ∃ id, e = .failure (.duplicateCorrelationId id)

namespace Numbers

variable {d d' : Dispatcher} {log : CallLog}

/-- Calls that leave the table do not matter. -/
theorem mono (h : d.Numbers log) (hnext : d'.nextId = d.nextId)
    (hvalues : d'.calls.values ⊆ d.calls.values) : d'.Numbers log where
  ids := by
    obtain ⟨count, hcount, hid, hids⟩ := h.ids
    exact ⟨count, hcount, hnext.trans hid, fun c hc => hids c (hvalues hc)⟩
  refused := h.refused

/-- The refusals of a log with one more entry. -/
theorem refused_append (h : d.Numbers log) {request : CallRequest} {r : Except CallError Admission}
    (hlast : ∀ e, r = .error e → request.encode = .error e ∨ 2 ^ 64 ≤ log.length ∧
      ∃ id, e = .failure (.duplicateCorrelationId id))
    (i : Nat) (request' : CallRequest) (e : CallError)
    (hentry : (log ++ [(request, r)])[i]? = some (request', .error e)) :
    request'.encode = .error e ∨ 2 ^ 64 ≤ i ∧ ∃ id, e = .failure (.duplicateCorrelationId id) := by
  rcases getElem?_concat_eq_some hentry with hold | ⟨rfl, hnew⟩
  · exact h.refused i request' e hold
  · cases hnew
    exact hlast e rfl

/-- The id after the next. -/
theorem nextId_succ {count : Nat} (h : d.nextId = UInt64.ofNat (count + 1)) :
    d.nextId + 1 = UInt64.ofNat (count + 1 + 1) := by
  rw [h, UInt64.ofNat_add (count + 1) 1]
  rfl

/-- A call that is accepted gets the next id. -/
theorem accept (h : d.Numbers log) {request : CallRequest} {a : Admission}
    (haccepts : d.Accepts request a d') : d'.Numbers (log ++ [(request, .ok a)]) := by
  have hvalues := haccepts.values_eq
  have hid := haccepts.id_eq
  obtain ⟨calls, rfl, -⟩ := haccepts.state_eq
  obtain ⟨count, hcount, hnext, hids⟩ := h.ids
  refine ⟨⟨count + 1, ?_, nextId_succ hnext, ?_⟩, h.refused_append nofun⟩
  · rw [List.length_append, List.length_singleton]
    omega
  · intro c hc
    rw [hvalues, List.mem_append, List.mem_singleton] at hc
    rcases hc with hold | rfl
    · obtain ⟨m, hm, hcid⟩ := hids c hold
      exact ⟨m, by omega, hcid⟩
    · exact ⟨count, by omega, hid.trans hnext⟩

/-- An id that is in use is handed out again only after all other ids. -/
theorem le_of_used (h : d.Numbers log) (hkeyed : CallTable.Keyed d.calls)
    (hused : d.nextId ∈ d.calls.keys) : 2 ^ 64 ≤ log.length := by
  obtain ⟨count, hcount, hnext, hids⟩ := h.ids
  rw [← hkeyed.map_id_values, List.mem_map] at hused
  obtain ⟨c, hc, hcid⟩ := hused
  obtain ⟨m, hm, hid⟩ := hids c hc
  -- Both numbers are the same modulo `2 ^ 64`, and the second is the smaller one.
  have hsame := congrArg UInt64.toNat (hid.symm.trans (hcid.trans hnext))
  rw [UInt64.toNat_ofNat', UInt64.toNat_ofNat'] at hsame
  omega

/-- A call that is refused uses up an id only if the id is in use. -/
theorem refuse (h : d.Numbers log) (hkeyed : CallTable.Keyed d.calls) (hlimit : d.limit = none)
    {request : CallRequest} {e : CallError} (hrefuses : d.Refuses request e d') :
    d'.Numbers (log ++ [(request, .error e)]) := by
  have hlength : (log ++ [(request, Except.error e)]).length = log.length + 1 := by
    rw [List.length_append, List.length_singleton]
  obtain ⟨count, hcount, hnext, hids⟩ := h.ids
  cases hrefuses with
  | encoding hencode =>
    refine ⟨⟨count, by omega, hnext, hids⟩, h.refused_append fun e' he => ?_⟩
    cases he
    exact .inl hencode
  | limit _ hsome _ =>
    rw [hlimit] at hsome
    cases hsome
  | duplicate hencode hused =>
    refine ⟨⟨count + 1, by omega, nextId_succ hnext, fun c hc => ?_⟩,
      h.refused_append fun e' he => ?_⟩
    · obtain ⟨m, hm, hid⟩ := hids c hc
      exact ⟨m, by omega, hid⟩
    · cases he
      exact .inr ⟨h.le_of_used hkeyed hused, _, rfl⟩

end Numbers

end Dispatcher

end RemoteCall
