import RemoteCall.Proofs.Dispatch.Conclusion
/-!
# Journals

The happenings of a run tell what becomes of the calls that a dispatcher has accepted. The journal
of a run tells the rest that can be seen from outside: what callers were told at once, among them
those whose calls were refused, which ids were given to whoever asked for one, and, with the calls
that were accepted, which requests were handed to the transport.

A transport that makes calls itself, or asks for ids, while it is given a request is part of this:
such a run is one in which the first call is a turn with a transport that does nothing, and all that
happens before the transport returns are the next turns.
-/

namespace RemoteCall

/-- What somebody is told in a turn. -/
inductive Note where
  /-- A caller is told what became of its call. -/
  | answered (request : CallRequest) (result : Except CallError Admission)
  /-- Somebody is given a correlation id. -/
  | allocated (id : UInt64)

namespace Note

/-- The id that has been handed out. A call whose id was in use has used it up as well. -/
def id? : Note → Option UInt64
  | answered _ (.ok a) => some a.id
  | answered _ (.error (.failure (.duplicateCorrelationId id))) => some id
  | answered _ (.error _) => none
  | allocated id => some id

/-- The request that has been handed to the transport. -/
def sent? : Note → Option Frame
  | answered _ (.ok a) => some ⟨a.envelope, a.payload⟩
  | _ => none

end Note

/-- The ids that were handed out, in order. -/
def issuedIds (notes : List Note) : List UInt64 :=
  notes.filterMap Note.id?

/-- The requests that were handed to the transport, in order. -/
def sentFrames (notes : List Note) : List Frame :=
  notes.filterMap Note.sent?

@[simp]
theorem issuedIds_append (notes more : List Note) :
    issuedIds (notes ++ more) = issuedIds notes ++ issuedIds more :=
  List.filterMap_append

@[simp]
theorem sentFrames_append (notes more : List Note) :
    sentFrames (notes ++ more) = sentFrames notes ++ sentFrames more :=
  List.filterMap_append

/-- Encoding a request does not fail because of its id. -/
theorem CallRequest.encode_ne_duplicate (request : CallRequest) (id : UInt64) :
    request.encode ≠ .error (.failure (.duplicateCorrelationId id)) := by
  rw [encode, encodeRequest]
  split
  · nofun
  · split
    next defect _ => cases defect <;> nofun
    · nofun

namespace Dispatcher

variable {d d' : Dispatcher}

/-- What somebody is told in a turn. -/
def notes (d : Dispatcher) : Operation → List Note
  | .call request _ => if d.live then [.answered request (d.accept request).1] else []
  | .allocate => if d.live then [.allocated d.allocate.1] else []
  | _ => []

/-- All that was told in several turns. -/
def journal (d : Dispatcher) : List Operation → List Note
  | [] => []
  | op :: ops => d.notes op ++ (d.step op).1.journal ops

/-- The journal of turns one after the other. -/
theorem journal_append (d : Dispatcher) (ops more : List Operation) :
    d.journal (ops ++ more) = d.journal ops ++ (d.run ops).1.journal more := by
  induction ops generalizing d with
  | nil => rfl
  | cons op ops ih => rw [List.cons_append, journal, journal, run, ih, List.append_assoc]

/-- What a caller is told is what the dispatcher says to its call when its turn has come. -/
theorem exists_turn_of_answered {request : CallRequest} {result : Except CallError Admission}
    {ops : List Operation} (h : .answered request result ∈ d.journal ops) :
    ∃ before transport after, ops = before ++ .call request transport :: after ∧
      result = ((d.run before).1.accept request).1 := by
  induction ops generalizing d with
  | nil => cases h
  | cons op ops ih =>
    rw [journal, List.mem_append] at h
    rcases h with hnow | hlater
    · -- Only calls are answered.
      cases op with
      | call request' transport =>
        rw [notes] at hnow
        split at hnow
        · cases List.mem_singleton.1 hnow
          exact ⟨[], transport, ops, rfl, rfl⟩
        · cases hnow
      | allocate =>
        rw [notes] at hnow
        split at hnow
        · cases List.mem_singleton.1 hnow
        · cases hnow
      | _ => cases hnow
    · obtain ⟨before, transport, after, rfl, hresult⟩ := ih hlater
      exact ⟨op :: before, transport, after, rfl, hresult⟩

/-! ## Refusals -/

/-- A request that cannot be encoded changes nothing. -/
theorem accept_of_encode_error {request : CallRequest} {e : CallError}
    (h : request.encode = .error e) : d.accept request = (.error e, d) := by
  rw [CallRequest.encode] at h
  rw [accept, h]

/-- A call that there is no room for changes nothing. -/
theorem accept_of_full {request : CallRequest} {payload : Bytes} (hencode : request.encode = .ok payload)
    {limit : Nat} (hlimit : d.limit = some limit) (hfull : limit ≤ d.outstanding) :
    d.accept request = (.error (.failure (.tooManyOutstandingCalls limit)), d) := by
  rw [CallRequest.encode] at hencode
  rw [accept, hencode, hlimit]
  simp [Option.filter_some, hfull]

/-- A call that is refused without using up an id is no turn at all. -/
theorem step_of_refused {request : CallRequest} {e : CallError} (h : d.accept request = (.error e, d))
    (transport : Envelope → Bytes → Transmission) : d.step (.call request transport) = (d, []) := by
  rw [step, makeCall, h]
  split <;> rfl

/-! ## Requests -/

/-- A request that is handed to the transport is that of a call which has been accepted. -/
theorem exists_accept_of_sent {request : CallRequest} {transport : Envelope → Bytes → Transmission}
    {f : Frame} (h : f ∈ sentFrames (d.notes (.call request transport))) :
    ∃ a d', d.accept request = (.ok a, d') ∧ f = ⟨a.envelope, a.payload⟩ := by
  rw [notes] at h
  split at h
  next =>
    cases haccept : d.accept request with
    | mk result d' =>
      rw [haccept] at h
      cases result with
      | error e => cases h
      | ok a => exact ⟨a, d', rfl, List.mem_singleton.1 h⟩
  next => cases h

/-- The transport is given the requests that the journal tells, and nothing else: how it would treat
other requests does not matter. -/
theorem step_call_congr {request : CallRequest} {transport other : Envelope → Bytes → Transmission}
    (h : ∀ f ∈ sentFrames (d.notes (.call request transport)),
      other f.envelope f.payload = transport f.envelope f.payload) :
    d.step (.call request other) = d.step (.call request transport) := by
  rw [step, step, makeCall, makeCall]
  by_cases hlive : d.live = true
  · rw [notes, if_pos hlive] at h
    cases haccept : d.accept request with
    | mk result d' =>
      rw [haccept] at h
      cases result with
      | error e => rfl
      | ok a =>
        have hsame : other a.envelope a.payload = transport a.envelope a.payload :=
          h ⟨a.envelope, a.payload⟩ List.mem_cons_self
        simp only [hsame]
  · rw [if_neg hlive, if_neg hlive]

/-! ## Signals -/

/-- A signal touches the table, the queues and the mailboxes only. -/
theorem frame_take (d : Dispatcher) (s : Signal) :
    ∃ calls pool mail, d.take s = { d with calls, pool, mail } := by
  cases s with
  | response envelope payload => exact d.frame_handleResponse envelope payload
  | success id reply => exact d.frame_complete id _
  | error id e => exact d.frame_complete id _
  | allError e => exact d.frame_completeAllError e

/-- What the transport reports about a request takes calls out of the table at most. -/
theorem narrows_foldl_take (d : Dispatcher) (signals : List Signal) :
    d.Narrows (signals.foldl take d) :=
  List.foldlRecOn (motive := d.Narrows) signals _ (.refl d)
    fun d' hd' s _ => hd'.trans (d'.narrows_take s)

end Dispatcher

end RemoteCall
