import RemoteCall.Host.Background
import RemoteCall.Proofs.Wire.Stream
/-!
# Reading a connection

A connection reads a stream in chunks whose borders mean nothing. Whatever the chunks are, the
frames that it hands to its dispatcher, and the fault that ends it, are those of the whole stream
(`Conversation.reading_ignores_chunks`). Between two chunks the connection remembers what
`Frame.Reads` leaves over (`Connection.receive_eq`), which is all that the next chunk has to be
put behind.
-/

namespace RemoteCall

namespace Connection

/-- A message of a connection to its dispatcher. -/
inductive Report where
  /-- A frame has come. -/
  | frame (f : Frame)
  /-- The connection has ended. -/
  | fault (e : CallError)

/-- The messages that an effect stands for, in order. -/
def Effect.reports (e : Effect) : List Report :=
  e.frames.map .frame ++ (e.fault.map .fault).toList

/-- Several events one after the other, with the messages that they lead to. -/
def steps (c : Connection) (live : Bool) : List Event → Connection × List Report
  | [] => (c, [])
  | event :: events =>
    let (c, effect) := c.step live event
    let (c, reports) := c.steps live events
    (c, effect.reports ++ reports)

/-- What the end of a stream means for the dispatcher. A stream that is not malformed ends
because the far end has closed it. -/
def endFault (c : Connection) (defect : Option WireError) : CallError :=
  match defect with
  | none => .failure (.disconnected c.endpoint)
  | some e => .failure (.networkFault c.endpoint ("malformed frame: " ++ e.message))

/-- A connection that has ended says nothing any more. -/
theorem steps_of_ended {c : Connection} (h : c.phase = .ended) (live : Bool)
    (events : List Event) : c.steps live events = (c, []) := by
  induction events with
  | nil => rfl
  | cons event events ih =>
    have hstep : c.step live event = (c, {}) := by
      simp only [step, h]
    simp only [steps, hstep, ih]
    rfl

/-- A chunk is read as if it came together with what is left over from those before it. -/
theorem receive_eq (c : Connection) {chunk : Bytes} {s : Frame.Stream}
    (h : Frame.Reads c.config.maxPayload (c.inbox.octets ++ chunk) s) :
    ∃ inbox, inbox.octets = s.rest ∧
      c.receive true chunk =
        match s.error? with
        | none => ({ c with inbox }, { frames := s.frames })
        | some e => (c.closed, { frames := s.frames, fault := some (c.endFault (some e)) }) := by
  have hintake := (c.inbox.receive_eq chunk).trans (Frame.reads_iff.1 h).symm
  refine ⟨(c.inbox.receive chunk).inbox, congrArg Frame.Stream.rest hintake, ?_⟩
  have hframes : (c.inbox.receive chunk).frames = s.frames :=
    congrArg Frame.Stream.frames hintake
  have herror : (c.inbox.receive chunk).error? = s.error? :=
    congrArg Frame.Stream.error? hintake
  rw [receive]
  simp only [Bool.not_true, Bool.false_and, Bool.false_eq_true, if_false, hframes, herror]
  cases s.error? <;> rfl

/-- The chunks of a stream and its end are read like the whole stream, if what was left over
before them is the begin of a frame. -/
theorem steps_received {c : Connection} (hphase : c.phase = .established)
    (hcut : Frame.decode c.config.maxPayload c.inbox.octets = .ok none) {chunks : List Bytes}
    {s : Frame.Stream}
    (h : Frame.Reads c.config.maxPayload (c.inbox.octets ++ chunks.flatten) s) :
    c.steps true (chunks.map .received ++ [.finished]) =
      (c.closed, s.frames.map .frame ++ [.fault (c.endFault s.error?)]) := by
  induction chunks generalizing c s with
  | nil =>
    rw [List.flatten_nil, List.append_nil] at h
    obtain rfl := h.eq (.cut hcut)
    simp only [List.map_nil, List.nil_append, steps, step, hphase]
    rfl
  | cons chunk chunks ih =>
    have hread := Frame.reads_decodeAll c.config.maxPayload (c.inbox.octets ++ chunk)
    generalize Frame.decodeAll c.config.maxPayload (c.inbox.octets ++ chunk) = s₁ at hread
    obtain ⟨inbox, hrest, hreceive⟩ := c.receive_eq hread
    have hstep : c.step true (.received chunk) = c.receive true chunk := by
      simp only [step, hphase]
    rw [List.flatten_cons, ← List.append_assoc] at h
    rw [List.map_cons, List.cons_append, steps, hstep, hreceive]
    cases herror : s₁.error? with
    | some e =>
      -- The connection ends here, and so does what can be read of the stream.
      obtain rfl := h.eq (hread.append_of_error herror _)
      simp only [steps_of_ended (c := c.closed) rfl, Effect.reports, herror, List.append_nil]
      rfl
    | none =>
      have hmore := Frame.reads_decodeAll c.config.maxPayload (s₁.rest ++ chunks.flatten)
      generalize Frame.decodeAll c.config.maxPayload (s₁.rest ++ chunks.flatten) = s₂ at hmore
      obtain rfl := h.eq (hread.append herror hmore)
      have hlater := ih (c := { c with inbox }) hphase (by rw [hrest]; exact hread.rest_eq.2.1 herror)
        (by rw [hrest]; exact hmore)
      simp only [hlater, Effect.reports, List.map_append, Option.map_none, Option.toList_none,
        List.append_nil, List.append_assoc]
      rfl

end Connection

/-! ## Conversations -/

/-- A dispatcher that is live gets a message of a connection. -/
def Dispatcher.note (d : Dispatcher) : Connection.Report → Dispatcher
  | .frame f => d.handleResponse f.envelope f.payload
  | .fault e => d.completeAllError e

/-- A message does not drop a dispatcher. -/
theorem Dispatcher.live_note (d : Dispatcher) (r : Connection.Report) :
    (d.note r).live = d.live := by
  cases r with
  | frame f =>
    obtain ⟨calls, pool, mail, hframe⟩ := d.frame_handleResponse f.envelope f.payload
    rw [note, hframe]
  | fault e =>
    obtain ⟨calls, pool, mail, hframe⟩ := d.frame_completeAllError e
    rw [note, hframe]

/-- Messages do not drop a dispatcher. -/
theorem Dispatcher.live_foldl_note (d : Dispatcher) (reports : List Connection.Report) :
    (reports.foldl note d).live = d.live := by
  induction reports generalizing d with
  | nil => rfl
  | cons r reports ih => exact (ih (d.note r)).trans (d.live_note r)

/-- A dispatcher that is live handles every frame that reaches it. -/
theorem Dispatcher.foldl_receive {d : Dispatcher} (hlive : d.live = true) (frames : List Frame) :
    frames.foldl (fun d f => (d.receive f.envelope f.payload).2) d =
      (frames.map .frame).foldl note d := by
  induction frames generalizing d with
  | nil => rfl
  | cons f frames ih =>
    have hframe : (d.receive f.envelope f.payload).2 = d.note (.frame f) := if_pos hlive
    rw [List.foldl_cons, hframe, ih ((d.live_note _).trans hlive), List.map_cons, List.foldl_cons]

/-- A dispatcher that is live takes in an effect by getting its messages. -/
theorem Dispatcher.absorb_eq {d : Dispatcher} (hlive : d.live = true) (effect : Connection.Effect) :
    d.absorb effect = effect.reports.foldl note d := by
  have hlater := (d.live_foldl_note (effect.frames.map .frame)).trans hlive
  rw [absorb, foldl_receive hlive, Connection.Effect.reports, List.foldl_append]
  cases effect.fault with
  | none => rfl
  | some e => exact if_pos hlater

namespace Conversation

/-- Events happen to the connection, and the dispatcher gets its messages. -/
theorem foldl_step {t : Conversation} (hlive : t.dispatcher.live = true)
    (events : List Connection.Event) :
    (events.foldl step t).connection = (t.connection.steps true events).1 ∧
      (events.foldl step t).dispatcher =
        (t.connection.steps true events).2.foldl Dispatcher.note t.dispatcher := by
  induction events generalizing t with
  | nil => exact ⟨rfl, rfl⟩
  | cons event events ih =>
    have hconnection : (t.step event).connection = (t.connection.step true event).1 := by
      rw [step, hlive]
    have hdispatcher : (t.step event).dispatcher =
        (t.connection.step true event).2.reports.foldl Dispatcher.note t.dispatcher := by
      rw [step, hlive]
      exact Dispatcher.absorb_eq hlive _
    have hlater : (t.step event).dispatcher.live = true := by
      rw [hdispatcher, Dispatcher.live_foldl_note, hlive]
    rw [List.foldl_cons, (ih hlater).1, (ih hlater).2, hconnection, hdispatcher, Connection.steps,
      List.foldl_append]
    exact ⟨rfl, rfl⟩

/-- However the stream of a connection is cut into chunks before its end, the dispatcher gets the
same messages: the frames that reading the whole stream finds one after the other, each once and
in their order, and then one fault. If reading the stream, which always ends with one result,
comes upon a defect, the fault names the defect, and nothing behind the last sound frame is handed
over; otherwise the fault is that of a connection closed by the far end, and what is left over is
less than a frame. -/
theorem reading_ignores_chunks (t : Conversation) (hlive : t.dispatcher.live = true)
    (hphase : t.connection.phase = .established) (hinbox : t.connection.inbox.octets = [])
    (data : Bytes) :
    ∃ s : Frame.Stream,
      (∀ s', Frame.Reads t.connection.config.maxPayload data s' ↔ s' = s) ∧
      s.rest = data.drop (s.frames.map Frame.length).sum ∧
      (s.error? = none → Frame.decode t.connection.config.maxPayload s.rest = .ok none) ∧
      (∀ e, s.error? = some e →
        Frame.decode t.connection.config.maxPayload s.rest = .error e) ∧
      ∀ chunks : List Bytes, chunks.flatten = data →
        let events := chunks.map .received ++ [.finished]
        let reports := s.frames.map .frame ++ [.fault (t.connection.endFault s.error?)]
        t.connection.steps true events = (t.connection.closed, reports) ∧
        (events.foldl step t).connection = t.connection.closed ∧
        (events.foldl step t).dispatcher = reports.foldl Dispatcher.note t.dispatcher := by
  have hread := Frame.reads_decodeAll t.connection.config.maxPayload data
  obtain ⟨hrest, hnone, herror⟩ := hread.rest_eq
  refine ⟨_, fun s' => Frame.reads_iff, hrest, hnone, herror, ?_⟩
  rintro chunks rfl events reports
  have hcut : Frame.decode t.connection.config.maxPayload t.connection.inbox.octets = .ok none := by
    rw [hinbox]
    rfl
  have hsteps : t.connection.steps true events = (t.connection.closed, reports) := by
    refine Connection.steps_received hphase hcut ?_
    rw [hinbox]
    exact hread
  have hfold := foldl_step hlive events
  rw [hsteps] at hfold
  exact ⟨hsteps, hfold⟩

/-- A stream of zeros ends with the fault of a wrong marker, also if the marker comes in two
chunks. -/
theorem zeros_in_two_chunks :
    let endpoint : Endpoint := { scheme := "tcp", host := "h", port := some 1, path := "" }
    let config : ConnectionConfig :=
      { readBufferSize := 64, maxPayload := 8, connectTimeout := 1 }
    let t : Conversation :=
      { dispatcher := .start 1 endpoint { completionWorkers := 1, maxOutstandingCalls := none }
        connection := { Connection.start "tcp://h:1/" "h:1" config with phase := .established }
        link := .start "h:1" 64 }
    t.dispatcher.live = true ∧ t.connection.phase = .established ∧
      t.connection.inbox.octets = [] ∧
      t.connection.steps true
          [.received (.replicate 2 0), .received (.replicate 38 0), .finished] =
        (t.connection.closed, [.fault (t.connection.endFault (some (.badMagic 0x59415250 0)))]) := by
  intro endpoint config t
  obtain ⟨s, hs, -, -, -, hchunks⟩ := reading_ignores_chunks t rfl rfl rfl (.replicate 40 0)
  obtain rfl := (hs _).1 (.malformed (e := .badMagic 0x59415250 0) rfl)
  exact ⟨rfl, rfl, rfl, (hchunks [.replicate 2 0, .replicate 38 0] rfl).1⟩

end Conversation

end RemoteCall
