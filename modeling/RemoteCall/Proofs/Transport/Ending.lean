import RemoteCall.Proofs.Dispatch.Resolution
/-!
# The end of a connection

A connection ends once, and for good: with a fault, or quietly when its dispatcher is gone
(`Connection.becomes_step`). A fault leaves no call outstanding, and after its end a connection
refuses every request.
-/

namespace RemoteCall

/-! ## How a connection ends -/

namespace Connection

variable {c : Connection} {live : Bool} {event : Event}

/-- What becomes of a connection in an event. -/
inductive Becomes (c : Connection) (live : Bool) (event : Event) : Connection → Effect → Prop
  /-- It has ended before. -/
  | stay (h : c.isOpen = false) : Becomes c live event c {}
  /-- It goes on. -/
  | goOn {c' : Connection} {frames : List Frame} (h : c.isOpen = true) (h' : c'.isOpen = true)
      (hendpoint : c'.endpoint = c.endpoint) : Becomes c live event c' { frames }
  /-- It ends with a fault. -/
  | fault {frames : List Frame} {f : Failure} (h : c.isOpen = true) :
      Becomes c live event c.closed { frames, fault := some (.failure f) }
  /-- It ends quietly, as the dispatcher is gone. -/
  | quiet (h : c.isOpen = true) (hgone : event = .shutDown ∨ live = false) :
      Becomes c live event c.closed {}

theorem isOpen_advance (c : Connection) : c.advance.isOpen = c.isOpen := by
  rw [advance]
  split <;> rfl

theorem endpoint_advance (c : Connection) : c.advance.endpoint = c.endpoint := by
  rw [advance]
  split <;> rfl

/-- Octets that are read end a connection only because of a malformed frame, or because the
dispatcher is gone. -/
theorem becomes_receive (hphase : c.phase = .established) (live : Bool) (chunk : Bytes) :
    c.Becomes live event (c.receive live chunk).1 (c.receive live chunk).2 := by
  have hopen : c.isOpen = true := by simp [isOpen, hphase]
  rw [receive]
  split
  next hgone =>
    obtain ⟨hdead, -⟩ : live = false ∧ _ := by simpa using hgone
    exact .quiet hopen (.inr hdead)
  next =>
    split
    next => exact .goOn hopen hopen rfl
    next => exact .fault hopen

/-- A connection becomes nothing else. -/
theorem becomes_step (c : Connection) (live : Bool) (event : Event) :
    c.Becomes live event (c.step live event).1 (c.step live event).2 := by
  -- In each phase, the events that do not belong to it leave the connection open.
  cases hphase : c.phase with
  | ended =>
    have hstay : c.step live event = (c, {}) := by simp only [step, hphase]
    rw [hstay]
    exact .stay (by simp [isOpen, hphase])
  | connecting =>
    have hopen : c.isOpen = true := by simp [isOpen, hphase]
    cases event with
    | connected =>
      simp only [step, hphase]
      exact .goOn hopen rfl rfl
    | connectFailed reason =>
      simp only [step, hphase]
      exact .fault hopen
    | connectTimedOut =>
      simp only [step, hphase]
      exact .fault hopen
    | shutDown =>
      simp only [step, hphase]
      exact .quiet hopen (.inl rfl)
    | _ =>
      simp only [step, hphase]
      exact .goOn hopen hopen rfl
  | established =>
    have hopen : c.isOpen = true := by simp [isOpen, hphase]
    cases event with
    | wrote count =>
      simp only [step, hphase]
      refine .goOn hopen ?_ ?_
      · rw [isOpen_advance]
        rfl
      · rw [endpoint_advance]
    | writeFailed reason =>
      simp only [step, hphase]
      exact .fault hopen
    | received chunk =>
      simp only [step, hphase]
      exact becomes_receive hphase live chunk
    | readFailed reason =>
      simp only [step, hphase]
      exact .fault hopen
    | finished =>
      simp only [step, hphase]
      exact .fault hopen
    | shutDown =>
      simp only [step, hphase]
      exact .quiet hopen (.inl rfl)
    | _ =>
      simp only [step, hphase]
      exact .goOn hopen hopen rfl

/-- With a fault an open connection ends. -/
theorem step_of_fault {e : CallError} (h : (c.step live event).2.fault = some e) :
    c.isOpen = true ∧ event ≠ .shutDown ∧ ∃ frames f, e = .failure f ∧
      c.step live event = (c.closed, { frames, fault := some (.failure f) }) := by
  have hbecomes := c.becomes_step live event
  have hevent : event ≠ .shutDown := by
    -- A shutdown is quiet in every phase.
    rintro rfl
    cases hphase : c.phase <;> simp [step, hphase] at h
  generalize hstep : c.step live event = result at h hbecomes
  obtain ⟨c', effect⟩ := result
  cases hbecomes with
  | @fault frames f hopen =>
    cases h
    exact ⟨hopen, hevent, frames, f, rfl, rfl⟩
  | _ => cases h

end Connection

/-! ## Requests -/

namespace Connection

variable {c c' : Connection} {envelope : Envelope} {payload : Bytes}

/-- A request that is taken goes into the queue of an open connection. -/
theorem isOpen_of_send (h : c.send envelope payload = .ok c') :
    c.isOpen = true ∧ c'.isOpen = true ∧ c'.endpoint = c.endpoint := by
  rw [send] at h
  split at h
  · cases h
  · split at h
    next hopen =>
      cases h
      exact ⟨hopen, hopen, rfl⟩
    next => cases h

/-- The error with which a connection that has ended refuses a payload. -/
def refusal (c : Connection) (payload : Bytes) : CallError :=
  if c.config.maxPayload < payload.length then
    .failure (.wire (.payloadTooLarge payload.length c.config.maxPayload))
  else .failure (.disconnected c.endpoint)

theorem normalize_refusal (c : Connection) (payload : Bytes) :
    (c.refusal payload).normalize = c.refusal payload := by
  rw [refusal]
  split <;> rfl

/-- A connection that has ended refuses every request. -/
theorem send_of_ended (hended : c.isOpen = false) (envelope : Envelope) (payload : Bytes) :
    c.send envelope payload = .error (c.refusal payload) := by
  rw [send, refusal, Frame.encode]
  -- The frame is encoded before anybody looks whether the connection is open.
  split
  next e he =>
    split at he
    next hlarge =>
      cases he
      rw [if_pos hlarge]
    next => cases he
  next frame hframe =>
    split at hframe
    next => cases hframe
    next hsmall => rw [if_neg hsmall, hended, if_neg (by simp)]

end Connection

/-! ## What it means for the dispatcher -/

/-- What a faulty effect means for a dispatcher: after the messages that come with the fault, all
calls fail, unless the dispatcher is gone. -/
theorem Dispatcher.absorb_fault (d : Dispatcher) {frames : List Frame} {e : CallError} :
    d.absorb { frames, fault := some e } =
      if (d.absorb { frames }).live then (d.absorb { frames }).take (.allError e)
      else d.absorb { frames } :=
  rfl

/-- After a fault no call is outstanding. -/
theorem Dispatcher.Kept.values_absorb_fault {d : Dispatcher} (hd : d.Kept) {frames : List Frame}
    {e : CallError} : (d.absorb { frames, fault := some e }).calls.values = [] := by
  rw [absorb_fault]
  split
  next =>
    rw [take, calls_completeAllError]
    rfl
  next hdead =>
    obtain ⟨hs, hledger⟩ := (d.reaches_absorb { frames }).kept hd
    exact hledger.orderly.closed (by simpa using hdead)

/-- A call that is failed at once is not outstanding. -/
theorem Dispatcher.Accepts.values_take_error {d d' : Dispatcher} (hd : d'.Kept)
    {request : CallRequest} {a : Admission} (h : d.Accepts request a d')
    (hnone : d.calls.values = []) (e : CallError) :
    (d'.take (.error a.id e)).calls.values = [] := by
  obtain ⟨hs, hledger⟩ := hd
  have hsettles := settles_take hledger.orderly.running hledger.orderly.keyed (.error a.id e)
  rw [hsettles.values_eq, h.values_eq, hnone]
  simp [Signal.verdict, Admission.record]

end RemoteCall
