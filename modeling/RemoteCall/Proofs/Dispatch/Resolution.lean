import RemoteCall.Proofs.Dispatch.Conclusion
import RemoteCall.Proofs.Dispatch.FirstVerdict
/-!
# Resolved calls

A call is resolved when its outcome waits for a worker or has been sent. Whatever happens to a
dispatcher after that, the call stays resolved with the same outcome
(`Dispatcher.Resolved.of_reaches`), and an outstanding call stays outstanding or gets resolved.

All of this holds of dispatchers whose books are in order (`Dispatcher.Kept`), and everything that
happens to a dispatcher while background work goes on consists of moves (`Dispatcher.Reaches`).
-/

namespace RemoteCall.Dispatcher

variable {d d' d'' : Dispatcher} {c : OutstandingCall} {outcome : Outcome}

/-- The books of the dispatcher are in order. -/
def Kept (d : Dispatcher) : Prop :=
  ∃ hs, d.Ledger hs

/-- Moves lead from one state to the other. -/
def Reaches (d d' : Dispatcher) : Prop :=
  ∃ hs, Moves d hs d'

namespace Reaches

theorem refl (d : Dispatcher) : d.Reaches d :=
  ⟨[], .refl d⟩

theorem trans (h : d.Reaches d') (h' : d'.Reaches d'') : d.Reaches d'' := by
  obtain ⟨hs, hmoves⟩ := h
  obtain ⟨hs', hmoves'⟩ := h'
  exact ⟨hs ++ hs', hmoves.trans hmoves'⟩

theorem kept (h : d.Reaches d') (hd : d.Kept) : d'.Kept := by
  obtain ⟨hs, hledger⟩ := hd
  obtain ⟨hs', hmoves⟩ := h
  exact ⟨hs ++ hs', hledger.moves hmoves⟩

/-- A dispatcher that was dropped does not come back. -/
theorem live_eq_false (h : d.Reaches d') (hd : d.Kept) (hdead : d.live = false) :
    d'.live = false := by
  obtain ⟨hs, hledger⟩ := hd
  obtain ⟨hs', hmoves⟩ := h
  induction hmoves with
  | refl => exact hdead
  | tail hbefore hmove ih =>
    have horderly := hbefore.orderly hledger.orderly
    cases hmove with
    | accept hlive _ =>
      -- No call is accepted after the drop.
      rw [ih] at hlive
      cases hlive
    | reach s =>
      obtain ⟨calls, pool, htake⟩ := (settles_take horderly.running horderly.keyed s).frame
      rw [htake]
      exact ih
    | deliver hnext =>
      rw [runWorker_of_next? hnext]
      exact ih
    | skip nextId => exact ih
    | leave _ => rfl

theorem endpoint_eq (h : d.Reaches d') (hd : d.Kept) : d'.endpoint = d.endpoint := by
  obtain ⟨hs, hledger⟩ := hd
  obtain ⟨hs', hmoves⟩ := h
  induction hmoves with
  | refl => rfl
  | tail hbefore hmove ih =>
    have horderly := hbefore.orderly hledger.orderly
    rw [← ih]
    cases hmove with
    | accept _ haccepts =>
      obtain ⟨calls, rfl, -⟩ := haccepts.state_eq
      rfl
    | reach s =>
      obtain ⟨calls, pool, htake⟩ := (settles_take horderly.running horderly.keyed s).frame
      rw [htake]
    | deliver hnext => rw [runWorker_of_next? hnext]
    | skip nextId => rfl
    | leave _ => rfl

end Reaches

theorem kept_start (systemId : UInt64) (endpoint : Endpoint) (config : DispatcherConfig) :
    (start systemId endpoint config).Kept :=
  ⟨[], ledger_start systemId endpoint config⟩

/-! ## What consists of moves -/

theorem reaches_take (d : Dispatcher) (s : Signal) : d.Reaches (d.take s) :=
  ⟨_, (Move.reach d s).moves⟩

theorem reaches_notice (d : Dispatcher) (s : Signal) :
    d.Reaches (if d.live then d.take s else d) := by
  split
  · exact d.reaches_take s
  · exact .refl d

theorem reaches_noteSend (d : Dispatcher) (id : UInt64) (outcome : SendOutcome) :
    d.Reaches (d.noteSend id outcome) := by
  cases outcome with
  | queued => exact .refl d
  | resolved e => exact d.reaches_take (.error id e)
  | rejected e => exact d.reaches_take (.error id e)

theorem reaches_of_accepts {request : CallRequest} {a : Admission} (hlive : d.live = true)
    (h : d.Accepts request a d') : d.Reaches d' :=
  ⟨_, (Move.accept hlive h).moves⟩

theorem reaches_of_refuses {request : CallRequest} {e : CallError} (h : d.Refuses request e d') :
    d.Reaches d' :=
  ⟨[], moves_of_refuses h⟩

theorem reaches_allocate (d : Dispatcher) : d.Reaches d.allocate.2 :=
  ⟨[], (Move.skip d (d.nextId + 1)).moves⟩

theorem reaches_close (d : Dispatcher) : d.Reaches d.close := by
  -- Dropping is failing all calls and then leaving, with nothing left in the table.
  have hempty : (d.take (.allError (.failure .dispatcherClosed))).calls.values = [] := by
    rw [take, calls_completeAllError]
    rfl
  exact (d.reaches_take _).trans ⟨_, (Move.leave hempty).moves⟩

theorem reaches_runWorker (d : Dispatcher) (worker : Nat) : d.Reaches (d.runWorker worker) := by
  cases hnext : d.pool.next? worker with
  | none =>
    have hsame : d.runWorker worker = d := by rw [runWorker, hnext]
    rw [hsame]
    exact .refl d
  | some job => exact ⟨_, (Move.deliver hnext).moves⟩

theorem reaches_absorb (d : Dispatcher) (effect : Connection.Effect) :
    d.Reaches (d.absorb effect) := by
  have hframes : d.Reaches (effect.frames.foldl (fun d f => (d.receive f.envelope f.payload).2) d) :=
    List.foldlRecOn (motive := d.Reaches) effect.frames _ (.refl d)
      fun d' hd' f _ => hd'.trans (d'.reaches_notice (.response f.envelope f.payload))
  rw [absorb]
  cases effect.fault with
  | none => exact hframes
  | some e => exact hframes.trans (reaches_notice _ (.allError e))

/-! ## Resolved calls stay resolved -/

/-- The outcome of a call is known: it waits for a worker, or has been sent. -/
def Resolved (d : Dispatcher) (c : OutstandingCall) (outcome : Outcome) : Prop :=
  ⟨c, outcome⟩ ∈ d.pool.pending ∨ d.mail.state c.box = .holding outcome

/-- A call whose automaton has got an outcome is resolved with it. -/
theorem resolved_of_shows {phase : CallPhase} (h : d.Shows c phase)
    (houtcome : phase.outcome? = some outcome) : d.Resolved c outcome := by
  cases phase with
  | outstanding => cases houtcome
  | settled outcome =>
    cases houtcome
    exact .inl h
  | delivered outcome =>
    cases houtcome
    exact .inr h

/-- The box that holds an outcome was opened for some call. -/
theorem Ledger.exists_accepted_of_holding {hs : List Happening} (hd : d.Ledger hs) {box : Nat}
    (h : d.mail.state box = .holding outcome) : ∃ c' ∈ acceptedCalls hs, c'.box = box := by
  have hbox : box < d.mail.next := by
    by_contra hlarge
    have hnone : d.mail.boxes[box]? = none := List.getElem?_eq_none_iff.2 (Nat.le_of_not_lt hlarge)
    rw [MailRoom.state, hnone] at h
    cases h
  rw [← List.mem_range, ← hd.boxes] at hbox
  exact List.mem_map.1 hbox

/-- Whatever happens, a resolved call keeps its outcome. -/
theorem Resolved.of_reaches (h : d.Resolved c outcome) (hd : d.Kept) (hreaches : d.Reaches d') :
    d'.Resolved c outcome := by
  obtain ⟨hs, hledger⟩ := hd
  obtain ⟨hs', hmoves⟩ := hreaches
  rcases h with hpending | hholding
  · -- The automaton of the call has got its outcome, and keeps it.
    have hc : c ∈ acceptedCalls hs := by
      rw [hledger.conserved.mem_iff, List.map_append]
      exact List.mem_append_right _ (List.mem_append_left _ (List.mem_map_of_mem hpending))
    have hsettled : d.Shows c (.settled outcome) := hpending
    refine resolved_of_shows (hledger.shows_moves hc hsettled hmoves) ?_
    rw [CallPhase.outcome?_foldl_step]
    rfl
  · -- The box is that of an accepted call, whose automaton has come to its end.
    obtain ⟨c', hc', hbox⟩ := hledger.exists_accepted_of_holding hholding
    have hdelivered : d.Shows c' (.delivered outcome) := by
      rw [Shows, hbox]
      exact hholding
    have hshows := hledger.shows_moves hc' hdelivered hmoves
    rw [CallPhase.foldl_step_delivered, Shows, hbox] at hshows
    exact .inr hshows

/-- A call has one outcome. -/
theorem Resolved.unique (h : d.Resolved c outcome) {other : Outcome} (h' : d.Resolved c other)
    (hd : d.Kept) : outcome = other := by
  obtain ⟨hs, hledger⟩ := hd
  -- Nothing has been sent to a call whose outcome waits for a worker.
  have hwaiting : ∀ {o : Outcome}, ⟨c, o⟩ ∈ d.pool.pending → d.mail.state c.box = .waiting :=
    fun hpending => hledger.waiting_of_pending hpending
  rcases h with hpending | hholding <;> rcases h' with hpending' | hholding'
  · exact congrArg Completion.outcome (hledger.eq_of_pending hpending hpending' rfl)
  · rw [hwaiting hpending] at hholding'
    cases hholding'
  · rw [hwaiting hpending'] at hholding
    cases hholding
  · rw [hholding] at hholding'
    exact Mailbox.holding.inj hholding'

/-- An outstanding call stays outstanding until it is resolved. -/
theorem Kept.outstanding_or_resolved (hd : d.Kept) (hc : c ∈ d.calls.values)
    (hreaches : d.Reaches d') : c ∈ d'.calls.values ∨ ∃ outcome, d'.Resolved c outcome := by
  obtain ⟨hs, hledger⟩ := hd
  obtain ⟨hs', hmoves⟩ := hreaches
  have haccepted : c ∈ acceptedCalls hs := by
    rw [hledger.conserved.mem_iff]
    exact List.mem_append_left _ hc
  -- The automaton of the call is started in the state in which the call is now.
  have houtstanding : d.Shows c .outstanding := hc
  have hshows := hledger.shows_moves haccepted houtstanding hmoves
  generalize hs'.foldl (CallPhase.step d.systemId c) .outstanding = phase at hshows
  cases hphase : phase.outcome? with
  | none =>
    rw [CallPhase.eq_outstanding_of_outcome? hphase] at hshows
    exact .inl hshows
  | some outcome => exact .inr ⟨outcome, resolved_of_shows hshows hphase⟩

/-- A signal resolves the outstanding calls that it concerns. -/
theorem Kept.resolved_take (hd : d.Kept) (hc : c ∈ d.calls.values) {s : Signal}
    (hverdict : s.verdict d.systemId c = some outcome) : (d.take s).Resolved c outcome := by
  obtain ⟨hs, hledger⟩ := hd
  have hsettles := settles_take hledger.orderly.running hledger.orderly.keyed s
  refine .inl (hsettles.pending_perm.mem_iff.2 (List.mem_append_right _ ?_))
  exact List.mem_filterMap.2 ⟨c, hc, by rw [hverdict]; rfl⟩

/-- The workers can deliver all outcomes. -/
theorem Kept.exists_workers (hd : d.Kept) :
    ∃ workers : List Nat, ∀ c outcome, d.Resolved c outcome →
      (workers.foldl runWorker d).mail.state c.box = .holding outcome := by
  obtain ⟨workers, hidle⟩ := exists_drained d
  have hwork : ∀ (workers : List Nat) (d : Dispatcher),
      (d.run (workers.map .work)).1 = workers.foldl runWorker d := by
    intro workers
    induction workers with
    | nil => exact fun _ => rfl
    | cons worker workers ih => exact fun d => ih (d.runWorker worker)
  rw [hwork] at hidle
  have hreaches : d.Reaches (workers.foldl runWorker d) :=
    List.foldlRecOn (motive := d.Reaches) workers _ (.refl d)
      fun d' hd' worker _ => hd'.trans (d'.reaches_runWorker worker)
  refine ⟨workers, fun c outcome h => ?_⟩
  rcases h.of_reaches hd hreaches with hpending | hholding
  · rw [hidle] at hpending
    cases hpending
  · exact hholding

end RemoteCall.Dispatcher
