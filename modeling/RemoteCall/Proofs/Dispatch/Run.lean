import RemoteCall.Proofs.Dispatch.Signal
/-!
# Runs of a dispatcher

Callers, the transport, the holders of a dispatcher and its workers take turns in any order. An
operation is one turn, and a run is a sequence of turns together with the record of what has
happened in it: which calls were accepted, which signals have reached the dispatcher, and which
results were delivered.

A call is a turn of its own, in which the transport may report anything before it takes the
request or refuses it. `Dispatcher.Move` lists the few changes that turns consist of; what every
move preserves is preserved by every run (`Dispatcher.moves_run`).
-/

namespace RemoteCall

/-- What a transport does while it is given a request. -/
structure Transmission where
  /-- What it reports before it returns. -/
  signals : List Signal
  /-- The error with which it refuses the request, if it does. -/
  refusal : Option CallError

namespace Transmission

/-- What the dispatcher is told about the request in the end. -/
def outcome (t : Transmission) : SendOutcome :=
  match t.refusal with
  | none => .queued
  | some e => .rejected e

/-- All signals that come of giving the request with the given id to the transport. -/
def reports (t : Transmission) (id : UInt64) : List Signal :=
  t.signals ++ (t.refusal.map (Signal.error id)).toList

end Transmission

/-- A turn of whoever uses a dispatcher, or of one of its workers. -/
inductive Operation where
  /-- A caller makes a call, and the transport does what it does with the request. -/
  | call (request : CallRequest) (transport : Envelope → Bytes → Transmission)
  /-- A signal reaches the dispatcher. -/
  | signal (s : Signal)
  /-- Somebody asks for a correlation id. -/
  | allocate
  /-- The dispatcher is dropped. -/
  | drop
  /-- A worker delivers its next result. -/
  | work (worker : Nat)

/-- What has happened to the calls of a dispatcher. -/
inductive Happening where
  /-- A call has been accepted. -/
  | accepted (call : OutstandingCall)
  /-- A signal has reached the dispatcher. -/
  | reached (s : Signal)
  /-- A worker has delivered a result. -/
  | delivered (job : Completion)

namespace Happening

/-- The call that was accepted. -/
def accepted? : Happening → Option OutstandingCall
  | accepted call => some call
  | _ => none

/-- The result that was delivered. -/
def delivered? : Happening → Option Completion
  | delivered job => some job
  | _ => none

/-- The outcome that a happening means for a call, if it is a signal that concerns the call. -/
def verdict (systemId : UInt64) (c : OutstandingCall) : Happening → Option Outcome
  | reached s => s.verdict systemId c
  | _ => none

end Happening

/-- The payload of the request that a caller asks for. -/
def CallRequest.encode (r : CallRequest) : Except CallError Bytes :=
  encodeRequest r.codec r.service r.method r.argument

/-- The record that a dispatcher keeps of a call that it has accepted. -/
def Admission.record (a : Admission) (request : CallRequest) : OutstandingCall :=
  { id := a.id
    method := request.method
    codec := request.codec
    replyType := request.replyType
    box := a.box }

namespace Dispatcher

/-- A caller makes a call. -/
def makeCall (d : Dispatcher) (request : CallRequest)
    (transport : Envelope → Bytes → Transmission) : Dispatcher × List Happening :=
  match d.accept request with
  | (.error _, d) => (d, [])
  | (.ok a, d) =>
    let t := transport a.envelope a.payload
    ((t.signals.foldl take d).noteSend a.id t.outcome,
      .accepted (a.record request) :: (t.reports a.id).map .reached)

/-- One turn, with what happens in it. Nobody but the workers can do anything with a dispatcher
that has been dropped. -/
def step (d : Dispatcher) : Operation → Dispatcher × List Happening
  | .call request transport => if d.live then d.makeCall request transport else (d, [])
  | .signal s => if d.live then (d.take s, [.reached s]) else (d, [])
  | .allocate => if d.live then (d.allocate.2, []) else (d, [])
  | .drop =>
    if d.live then (d.close, [.reached (.allError (.failure .dispatcherClosed))]) else (d, [])
  | .work worker => (d.runWorker worker, ((d.pool.next? worker).map .delivered).toList)

/-- Several turns, with what happens in them. -/
def run (d : Dispatcher) : List Operation → Dispatcher × List Happening
  | [] => (d, [])
  | op :: ops =>
    let (d, happenings) := d.step op
    let (d, later) := d.run ops
    (d, happenings ++ later)

/-- Turns one after the other are one run. -/
theorem run_append (d : Dispatcher) (ops more : List Operation) :
    d.run (ops ++ more) =
      (((d.run ops).1.run more).1, (d.run ops).2 ++ ((d.run ops).1.run more).2) := by
  induction ops generalizing d with
  | nil => rfl
  | cons op ops ih => simp [run, ih, List.append_assoc]

/-! ## Accepting calls -/

/-- What it means that a call is accepted. -/
structure Accepts (d : Dispatcher) (request : CallRequest) (a : Admission) (d' : Dispatcher) :
    Prop where
  /-- The payload is the encoded request. -/
  payload_eq : request.encode = .ok a.payload
  /-- There was room for one more call. -/
  lt_limit : ∀ limit, d.limit = some limit → d.outstanding < limit
  /-- The id is the one that was handed out next. -/
  id_eq : a.id = d.nextId
  /-- The mailbox is new. -/
  box_eq : a.box = d.mail.next
  /-- The envelope carries both ids and the length of the payload. -/
  envelope_eq : a.envelope = .request d.systemId a.id a.payload.length
  /-- The id is not in use. -/
  fresh : a.id ∉ d.calls.keys
  /-- The call is registered, and nothing else changes. -/
  state_eq : ∃ calls : CallTable,
    d' = { d with nextId := d.nextId + 1, calls, mail := d.mail.opened } ∧
      calls.entries = d.calls.entries ++ [(a.id, a.record request)]

/-- A call is accepted only in this way. -/
theorem accepts_of_accept {d d' : Dispatcher} {request : CallRequest} {a : Admission}
    (h : d.accept request = (.ok a, d')) : d.Accepts request a d' := by
  rw [accept] at h
  split at h
  · cases h
  next payload hencode =>
    split at h
    · cases h
    next hlimit =>
      -- From here on the call can only be refused because of its id.
      simp only [allocate, CallTable.insert] at h
      split at h
      · cases h
      next calls hinsert =>
        split at hinsert
        next table htable =>
          cases hinsert
          cases h
          obtain ⟨hfresh, hentries⟩ := (Table.insert?_eq_some_iff _ _ _ _).1 htable
          refine ⟨hencode, ?_, rfl, rfl, rfl, hfresh, calls, rfl, hentries⟩
          intro limit hsome
          simpa [hsome, Option.filter_some] using hlimit
        · cases hinsert

/-- What it means that a call is refused: its request cannot be encoded, or there is no room for
one more call, or the id that was handed out is in use. -/
inductive Refuses (d : Dispatcher) (request : CallRequest) : CallError → Dispatcher → Prop
  /-- The request cannot be encoded. -/
  | encoding {e : CallError} (h : request.encode = .error e) : Refuses d request e d
  /-- There is no room for one more call. -/
  | limit {payload : Bytes} {limit : Nat} (hencode : request.encode = .ok payload)
      (hlimit : d.limit = some limit) (hfull : limit ≤ d.outstanding) :
      Refuses d request (.failure (.tooManyOutstandingCalls limit)) d
  /-- The id is in use, and is used up. -/
  | duplicate {payload : Bytes} (hencode : request.encode = .ok payload)
      (hused : d.nextId ∈ d.calls.keys) :
      Refuses d request (.failure (.duplicateCorrelationId d.nextId))
        { d with nextId := d.nextId + 1 }

/-- A call is refused only in these ways. -/
theorem refuses_of_accept {d d' : Dispatcher} {request : CallRequest} {e : CallError}
    (h : d.accept request = (.error e, d')) : d.Refuses request e d' := by
  rw [accept] at h
  split at h
  next e' hencode =>
    cases h
    exact .encoding hencode
  next payload hencode =>
    split at h
    next limit hlimit =>
      cases h
      obtain ⟨hsome, hfull⟩ := Option.filter_eq_some_iff.1 hlimit
      exact .limit hencode hsome (by simpa using hfull)
    next hlimit =>
      simp only [allocate, CallTable.insert] at h
      split at h
      next e' hinsert =>
        split at hinsert
        · cases hinsert
        next hnone =>
          cases hinsert
          cases h
          exact .duplicate hencode ((Table.insert?_eq_none_iff _ _ _).1 hnone)
      · cases h

/-! ## Moves -/

/-- A worker that has a job takes it from its queue and sends the outcome. -/
theorem runWorker_of_next? {d : Dispatcher} {worker : Nat} {job : Completion}
    (h : d.pool.next? worker = some job) :
    d.runWorker worker =
      { d with pool := d.pool.advance worker, mail := d.mail.send job.call.box job.outcome } := by
  rw [runWorker, h]
  rfl

/-- The changes that turns consist of, with what happens in them. -/
inductive Move : Dispatcher → List Happening → Dispatcher → Prop
  /-- A call is accepted. -/
  | accept {d d' : Dispatcher} {request : CallRequest} {a : Admission} (hlive : d.live = true)
      (h : d.Accepts request a d') : Move d [.accepted (a.record request)] d'
  /-- A signal reaches the dispatcher. -/
  | reach (d : Dispatcher) (s : Signal) : Move d [.reached s] (d.take s)
  /-- A worker delivers a result. -/
  | deliver {d : Dispatcher} {worker : Nat} {job : Completion}
      (h : d.pool.next? worker = some job) : Move d [.delivered job] (d.runWorker worker)
  /-- Ids are used up. -/
  | skip (d : Dispatcher) (nextId : UInt64) : Move d [] { d with nextId }
  /-- A dispatcher without outstanding calls is gone. -/
  | leave {d : Dispatcher} (h : d.calls.values = []) : Move d [] { d with live := false }

/-- Several moves. -/
inductive Moves : Dispatcher → List Happening → Dispatcher → Prop
  /-- No move. -/
  | refl (d : Dispatcher) : Moves d [] d
  /-- Moves and one more. -/
  | tail {d d' d'' : Dispatcher} {hs hs' : List Happening} (h : Moves d hs d')
      (h' : Move d' hs' d'') : Moves d (hs ++ hs') d''

/-- One move. -/
theorem Move.moves {d d' : Dispatcher} {hs : List Happening} (h : Move d hs d') : Moves d hs d' :=
  .tail (.refl d) h

/-- Moves one after the other. -/
theorem Moves.trans {d d' d'' : Dispatcher} {hs hs' : List Happening} (h : Moves d hs d')
    (h' : Moves d' hs' d'') : Moves d (hs ++ hs') d'' := by
  induction h' with
  | refl => rwa [List.append_nil]
  | tail _ hmove ih =>
    rw [← List.append_assoc]
    exact ih.tail hmove

/-- Signals one after the other. -/
theorem moves_foldl_take (d : Dispatcher) (signals : List Signal) :
    Moves d (signals.map .reached) (signals.foldl take d) := by
  induction signals generalizing d with
  | nil => exact .refl d
  | cons s signals ih => exact (Move.reach d s).moves.trans (ih (d.take s))

/-- What the transport reports about a request reaches the dispatcher as signals. -/
theorem noteSend_foldl_take (d : Dispatcher) (t : Transmission) (id : UInt64) :
    (t.signals.foldl take d).noteSend id t.outcome = (t.reports id).foldl take d := by
  rw [Transmission.reports, Transmission.outcome, List.foldl_append]
  cases t.refusal <;> rfl

/-- A call that is refused uses up an id at most. -/
theorem moves_of_refuses {d d' : Dispatcher} {request : CallRequest} {e : CallError}
    (h : d.Refuses request e d') : Moves d [] d' := by
  cases h with
  | duplicate _ _ => exact (Move.skip d (d.nextId + 1)).moves
  | _ => exact .refl d

/-- A call consists of moves. -/
theorem moves_makeCall {d : Dispatcher} (hlive : d.live = true) (request : CallRequest)
    (transport : Envelope → Bytes → Transmission) :
    Moves d (d.makeCall request transport).2 (d.makeCall request transport).1 := by
  rw [makeCall]
  split
  next d' haccept => exact moves_of_refuses (refuses_of_accept haccept)
  next a d' haccept =>
    simp only [noteSend_foldl_take]
    exact (Move.accept hlive (accepts_of_accept haccept)).moves.trans (moves_foldl_take d' _)

/-- Failing every call leaves none in the table. -/
theorem calls_completeAllError (d : Dispatcher) (e : CallError) :
    (d.completeAllError e).calls = .empty := by
  -- The table is emptied before the calls are resolved, and resolving them leaves it alone.
  refine List.foldlRecOn (motive := fun d' : Dispatcher => d'.calls = .empty) d.calls.values _ rfl
    fun d' hd' call _ => ?_
  obtain ⟨pool, mail, hresolve⟩ := d'.frame_resolve call (.error e.normalize)
  rw [hresolve]
  exact hd'

/-- Every turn consists of moves. -/
theorem moves_step (d : Dispatcher) (op : Operation) : Moves d (d.step op).2 (d.step op).1 := by
  cases op with
  | call request transport =>
    rw [step]
    split
    next hlive => exact moves_makeCall hlive request transport
    next => exact .refl d
  | signal s =>
    rw [step]
    split
    next => exact (Move.reach d s).moves
    next => exact .refl d
  | allocate =>
    rw [step]
    split
    next => exact (Move.skip d (d.nextId + 1)).moves
    next => exact .refl d
  | drop =>
    rw [step]
    split
    next =>
      -- Closing is failing all calls and then leaving, with nothing left in the table.
      have hempty : (d.take (.allError (.failure .dispatcherClosed))).calls.values = [] := by
        rw [take, calls_completeAllError]
        rfl
      exact (Move.reach d _).moves.tail (.leave hempty)
    next => exact .refl d
  | work worker =>
    rw [step]
    cases hnext : d.pool.next? worker with
    | none =>
      have hsame : d.runWorker worker = d := by rw [runWorker, hnext]
      rw [hsame]
      exact .refl d
    | some job => exact (Move.deliver hnext).moves

/-! ## What every move preserves -/

/-- A dispatcher is in order if its workers are there, its calls are registered under their own
ids, and it has no outstanding calls once it has been dropped. -/
structure Orderly (d : Dispatcher) : Prop where
  /-- There are workers. -/
  running : d.running = true
  /-- Calls are registered under their own ids. -/
  keyed : CallTable.Keyed d.calls
  /-- A dispatcher that was dropped has no outstanding calls. -/
  closed : d.live = false → d.calls.values = []

/-- A new dispatcher is in order. -/
theorem orderly_start (systemId : UInt64) (endpoint : Endpoint) (config : DispatcherConfig) :
    (start systemId endpoint config).Orderly where
  running := rfl
  keyed := CallTable.keyed_empty
  closed _ := rfl

/-- A call that is registered under its own id keeps the table in order. -/
theorem Accepts.keyed {d d' : Dispatcher} {request : CallRequest} {a : Admission}
    (h : d.Accepts request a d') (hkeyed : CallTable.Keyed d.calls) :
    CallTable.Keyed d'.calls := by
  obtain ⟨calls, rfl, hentries⟩ := h.state_eq
  intro entry hentry
  rw [hentries, List.mem_append, List.mem_singleton] at hentry
  rcases hentry with hold | rfl
  · exact hkeyed entry hold
  · rfl

/-- A call that is accepted is registered behind the others. -/
theorem Accepts.values_eq {d d' : Dispatcher} {request : CallRequest} {a : Admission}
    (h : d.Accepts request a d') : d'.calls.values = d.calls.values ++ [a.record request] := by
  obtain ⟨calls, rfl, hentries⟩ := h.state_eq
  simp [Table.values, hentries]

/-- A call that is accepted is found under its id. -/
theorem Accepts.find?_eq {d d' : Dispatcher} {request : CallRequest} {a : Admission}
    (h : d.Accepts request a d') : d'.calls.find? a.id = some (a.record request) := by
  obtain ⟨calls, rfl, hentries⟩ := h.state_eq
  rw [Table.find?_eq_some_iff, hentries]
  exact List.mem_append_right _ List.mem_cons_self

/-- Accepting a call does not change the endpoint. -/
theorem Accepts.endpoint_eq {d d' : Dispatcher} {request : CallRequest} {a : Admission}
    (h : d.Accepts request a d') : d'.endpoint = d.endpoint := by
  obtain ⟨calls, rfl, -⟩ := h.state_eq
  rfl

/-- Moves keep a dispatcher in order. -/
theorem Move.orderly {d d' : Dispatcher} {hs : List Happening} (h : Move d hs d')
    (hd : d.Orderly) : d'.Orderly := by
  cases h with
  | accept hlive haccepts =>
    have hkeyed := haccepts.keyed hd.keyed
    obtain ⟨calls, rfl, -⟩ := haccepts.state_eq
    exact ⟨hd.running, hkeyed, fun hdead => by simp [hlive] at hdead⟩
  | reach s =>
    have hsettles := settles_take hd.running hd.keyed s
    have hvalues := hsettles.values_eq
    have hkeyed := hsettles.keyed
    obtain ⟨calls, pool, htake⟩ := hsettles.frame
    rw [htake] at hvalues hkeyed ⊢
    refine ⟨hd.running, hkeyed, fun hdead => ?_⟩
    rw [hvalues, hd.closed hdead, List.filter_nil]
  | deliver hnext =>
    rw [runWorker_of_next? hnext]
    exact ⟨hd.running, hd.keyed, hd.closed⟩
  | skip nextId => exact ⟨hd.running, hd.keyed, hd.closed⟩
  | leave hempty => exact ⟨hd.running, hd.keyed, fun _ => hempty⟩

/-- What every move preserves is preserved by several moves. -/
theorem Moves.preserves {P : Dispatcher → Prop}
    (hP : ∀ {d d' : Dispatcher} {hs : List Happening}, Move d hs d' → P d → P d')
    {d d' : Dispatcher} {hs : List Happening} (h : Moves d hs d') (hd : P d) : P d' := by
  induction h with
  | refl => exact hd
  | tail _ hmove ih => exact hP hmove ih

/-- Moves keep a dispatcher in order. -/
theorem Moves.orderly {d d' : Dispatcher} {hs : List Happening} (h : Moves d hs d')
    (hd : d.Orderly) : d'.Orderly :=
  h.preserves Move.orderly hd

/-- Every run consists of moves. -/
theorem moves_run {d : Dispatcher} (hd : d.Orderly) (ops : List Operation) :
    Moves d (d.run ops).2 (d.run ops).1 := by
  induction ops generalizing d with
  | nil => exact .refl d
  | cons op ops ih =>
    have hstep := d.moves_step op
    exact hstep.trans (ih (hstep.orderly hd))

/-- Moves do not change the number of a dispatcher. -/
theorem Move.systemId_eq {d d' : Dispatcher} {hs : List Happening} (h : Move d hs d')
    (hd : d.Orderly) : d'.systemId = d.systemId := by
  cases h with
  | accept _ haccepts =>
    obtain ⟨calls, rfl, -⟩ := haccepts.state_eq
    rfl
  | reach s =>
    obtain ⟨calls, pool, htake⟩ := (settles_take hd.running hd.keyed s).frame
    rw [htake]
  | deliver hnext => rw [runWorker_of_next? hnext]
  | skip nextId => rfl
  | leave _ => rfl

/-- Moves do not change the number of a dispatcher. -/
theorem Moves.systemId_eq {d d' : Dispatcher} {hs : List Happening} (h : Moves d hs d')
    (hd : d.Orderly) : d'.systemId = d.systemId := by
  induction h with
  | refl => rfl
  | tail hbefore hmove ih => exact (hmove.systemId_eq (hbefore.orderly hd)).trans ih

/-- Not more than one thing happens in a move. -/
theorem Move.length_le {d d' : Dispatcher} {hs : List Happening} (h : Move d hs d') :
    hs.length ≤ 1 := by
  cases h <;> simp

/-- Whatever happens, happens in one of the moves. -/
theorem Moves.exists_move {d d' : Dispatcher} {before after : List Happening} {h : Happening}
    (hmoves : Moves d (before ++ h :: after) d') :
    ∃ m m', Moves d before m ∧ Move m [h] m' ∧ Moves m' after d' := by
  generalize hall : before ++ h :: after = hs at hmoves
  induction hmoves generalizing after with
  | refl => simp at hall
  | @tail m d' hs hs' hmoves hmove ih =>
    have hlength := hmove.length_le
    -- It happens in the last move or in one of those before, as no move is cut in two.
    rcases List.append_eq_append_iff.1 hall with ⟨more, rfl, hlast⟩ | ⟨more, rfl, rfl⟩
    · cases more with
      | nil =>
        rw [List.nil_append] at hlast
        subst hlast
        obtain rfl : after = [] := List.length_eq_zero_iff.1 (by simpa using hlength)
        rw [List.append_nil] at hmoves
        exact ⟨m, d', hmoves, hmove, .refl d'⟩
      | cons x more =>
        rw [List.cons_append, List.cons.injEq] at hlast
        obtain ⟨rfl, rfl⟩ := hlast
        obtain ⟨m₁, m₂, hbefore, hthis, hafter⟩ := ih rfl
        exact ⟨m₁, m₂, hbefore, hthis, hafter.tail hmove⟩
    · obtain ⟨rfl, rfl⟩ : more = [] ∧ after = [] := by
        rw [← List.length_eq_zero_iff, ← List.length_eq_zero_iff]
        simp only [List.length_append, List.length_cons] at hlength
        omega
      rw [List.append_nil]
      exact ⟨m, d', hmoves, hmove, .refl d'⟩

end Dispatcher

end RemoteCall
