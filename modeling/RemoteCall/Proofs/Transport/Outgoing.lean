import RemoteCall.Proofs.Transport.Ending
import RemoteCall.Proofs.Transport.Pipeline
/-!
# What a connection writes

A connection writes the frames of its requests in the order in which it was given them, in pieces
of any size. What waits to be written (`Connection.unwritten`) loses at its begin what the stream
takes (`Connection.drains_step`), and gains at its end the frames of requests that are not too large
(`Connection.offer_of_isWithin`). So what was written and what waits are together the frames of all
such requests, as long as the connection is open. After its end nothing is written any more, and
what was written remains a prefix (`Connection.Emits`).
-/

namespace RemoteCall

/-! ## The frames of requests -/

/-- Whether the limit allows the payload of a request. -/
def Posting.isWithin (maxPayload : Nat) (x : Posting) : Bool :=
  x.admission.payload.length ≤ maxPayload

/-- The frames of those requests that the limit allows, one after the other. -/
def requestStream (maxPayload : Nat) (posted : List Posting) : Bytes :=
  (((posted.filter (Posting.isWithin maxPayload)).map Posting.requestFrame).map
    Frame.octets).flatten

theorem requestStream_concat (maxPayload : Nat) (posted : List Posting) (x : Posting) :
    requestStream maxPayload (posted ++ [x]) = requestStream maxPayload posted ++
      if x.isWithin maxPayload then x.requestFrame.octets else [] := by
  by_cases hx : x.isWithin maxPayload = true
  · simp [requestStream, hx]
  · simp [requestStream, hx]

/-- A request that the limit allows is written as its frame. -/
theorem Posting.encode_of_isWithin {maxPayload : Nat} {x : Posting}
    (hx : x.isWithin maxPayload = true) :
    Frame.encode x.admission.envelope x.admission.payload maxPayload =
      .ok x.requestFrame.octets :=
  Frame.encode_eq _ (of_decide_eq_true hx)

namespace Connection

variable {c c' : Connection} {posted : List Posting} {written octets : Bytes}

/-! ## Writing -/

/-- What waits to be written: the rest of a frame, and the frames behind it. -/
def unwritten (c : Connection) : Bytes :=
  c.writing ++ c.queue.flatten

/-- What the stream takes in an event. -/
def output (c : Connection) : Event → Bytes
  | .wrote count => if c.phase = .established then c.writing.take count else []
  | _ => []

/-- A connection has become another while the stream took some octets. -/
structure Drains (c : Connection) (octets : Bytes) (c' : Connection) : Prop where
  /-- The settings stay. -/
  config_eq : c'.config = c.config
  /-- A connection that has ended is not opened again, and writes nothing. -/
  stays : c.isOpen = false → c'.isOpen = false ∧ octets = []
  /-- The octets are those that waited longest, and the others still wait, unless the connection
  has ended. -/
  exists_rest : ∃ rest, c.unwritten = octets ++ rest ∧ (c'.isOpen = true → c'.unwritten = rest)

theorem Drains.refl (c : Connection) : c.Drains [] c :=
  ⟨rfl, fun hended => ⟨hended, rfl⟩, c.unwritten, rfl, fun _ => rfl⟩

/-- Whatever waits to be written is lost when the connection ends. -/
theorem drains_closed (c : Connection) : c.Drains [] c.closed :=
  ⟨rfl, fun _ => ⟨rfl, rfl⟩, c.unwritten, rfl, nofun⟩

/-- An open connection that stays open and keeps what waits to be written. -/
theorem drains_of_open (hopen : c.isOpen = true) (hconfig : c'.config = c.config)
    (hsame : c'.unwritten = c.unwritten) : c.Drains [] c' :=
  ⟨hconfig, fun hended => by simp [hopen] at hended, c.unwritten, rfl, fun _ => hsame⟩

theorem unwritten_advance (c : Connection) :
    c.advance.config = c.config ∧ c.advance.unwritten = c.unwritten := by
  obtain ⟨writing, queue, hadvance, hsame⟩ := Pipeline.advance_eq c
  rw [hadvance]
  exact ⟨rfl, hsame⟩

/-- Octets that are read do not matter to what is written. -/
theorem drains_receive (hopen : c.isOpen = true) (live : Bool) (chunk : Bytes) :
    c.Drains [] (c.receive live chunk).1 := by
  rw [receive]
  split
  · exact c.drains_closed
  · split
    · exact drains_of_open hopen rfl rfl
    · exact c.drains_closed

/-- What an event does to what waits to be written. -/
theorem drains_step (c : Connection) (live : Bool) (event : Event) :
    c.Drains (c.output event) (c.step live event).1 := by
  cases hphase : c.phase with
  | ended =>
    have hstay : c.step live event = (c, {}) := by simp only [step, hphase]
    have hsilent : c.output event = [] := by cases event <;> simp [Connection.output, hphase]
    rw [hstay, hsilent]
    exact .refl c
  | connecting =>
    have hopen : c.isOpen = true := by simp [isOpen, hphase]
    have hsilent : c.output event = [] := by cases event <;> simp [Connection.output, hphase]
    rw [hsilent]
    -- The connection is opened, fails, or does not care.
    cases event with
    | connected =>
      simp only [step, hphase]
      exact drains_of_open hopen rfl rfl
    | connectFailed _ | connectTimedOut | shutDown =>
      simp only [step, hphase]
      exact c.drains_closed
    | _ =>
      simp only [step, hphase]
      exact .refl c
  | established =>
    have hopen : c.isOpen = true := by simp [isOpen, hphase]
    cases event with
    | wrote count =>
      have houtput : c.output (.wrote count) = c.writing.take count := if_pos hphase
      obtain ⟨hconfig, hunwritten⟩ :=
        unwritten_advance { c with phase := .established, writing := c.writing.drop count }
      simp only [step, hphase, houtput]
      -- The begin of the frame that is being written goes out, and the rest of it still waits.
      refine ⟨hconfig, fun hended => by simp [hopen] at hended,
        c.writing.drop count ++ c.queue.flatten, ?_, fun _ => hunwritten⟩
      rw [← List.append_assoc, List.take_append_drop]
      rfl
    | received chunk =>
      simp only [step, hphase]
      exact drains_receive hopen live chunk
    | writeFailed _ | readFailed _ | finished | shutDown =>
      simp only [step, hphase]
      exact c.drains_closed
    | _ =>
      simp only [step, hphase]
      exact .refl c

/-! ## Sending -/

/-- A connection after it was given a request, which it may have refused. -/
def offer (c : Connection) (e : Envelope) (payload : Bytes) : Connection :=
  match c.send e payload with
  | .ok c' => c'
  | .error _ => c

/-- A request that is too large is refused before anything else is looked at. -/
theorem send_of_lt {payload : Bytes} (h : c.config.maxPayload < payload.length) (e : Envelope) :
    c.send e payload =
      .error (.failure (.wire (.payloadTooLarge payload.length c.config.maxPayload))) := by
  rw [send, Frame.encode, if_pos h]

/-- A request that is too large changes nothing. -/
theorem offer_of_not_isWithin {x : Posting} (hx : x.isWithin c.config.maxPayload = false) :
    c.offer x.admission.envelope x.admission.payload = c := by
  have hlarge : c.config.maxPayload < x.admission.payload.length := by
    simpa [Posting.isWithin] using hx
  rw [offer, send_of_lt hlarge]

/-- Every other request is queued behind those before it, if the connection is open. -/
theorem offer_of_isWithin {x : Posting} (hx : x.isWithin c.config.maxPayload = true) :
    c.offer x.admission.envelope x.admission.payload =
      if c.isOpen then { c with queue := c.queue ++ [x.requestFrame.octets] } else c := by
  rw [offer, send, Posting.encode_of_isWithin hx]
  by_cases hopen : c.isOpen = true
  · simp only [hopen, if_true]
  · simp [hopen]

/-! ## From the first call on -/

/-- What a connection has written begins the frames of the requests that were posted. While it is
open, the others are just what waits to be written. -/
def Emits (c : Connection) (posted : List Posting) (written : Bytes) : Prop :=
  ∃ rest, requestStream c.config.maxPayload posted = written ++ rest ∧
    (c.isOpen = true → c.unwritten = rest)

theorem Emits.drain (h : c.Emits posted written) (hdrains : c.Drains octets c') :
    c'.Emits posted (written ++ octets) := by
  obtain ⟨rest, hstream, hrest⟩ := h
  cases hopen : c.isOpen with
  | true =>
    obtain ⟨left, hleft, hleft'⟩ := hdrains.exists_rest
    refine ⟨left, ?_, hleft'⟩
    rw [hdrains.config_eq, hstream, ← hrest hopen, hleft, List.append_assoc]
  | false =>
    -- Nothing is written any more, and what was missing remains missing.
    obtain ⟨hended, hsilent⟩ := hdrains.stays hopen
    refine ⟨rest, ?_, fun hopen' => ?_⟩
    · rw [hdrains.config_eq, hstream, hsilent, List.append_nil]
    · rw [hended] at hopen'
      cases hopen'

theorem Emits.post (h : c.Emits posted written) (x : Posting) :
    (c.offer x.admission.envelope x.admission.payload).Emits (posted ++ [x]) written := by
  obtain ⟨rest, hstream, hrest⟩ := h
  by_cases hx : x.isWithin c.config.maxPayload = true
  · rw [offer_of_isWithin hx]
    have hlonger : requestStream c.config.maxPayload (posted ++ [x]) =
        written ++ (rest ++ x.requestFrame.octets) := by
      rw [requestStream_concat, if_pos hx, hstream, List.append_assoc]
    by_cases hopen : c.isOpen = true
    · rw [if_pos hopen]
      refine ⟨_, hlonger, fun _ => ?_⟩
      rw [← hrest hopen]
      simp [unwritten]
    · -- The frame is among those that are never written.
      rw [if_neg hopen]
      exact ⟨_, hlonger, fun hopen' => absurd hopen' hopen⟩
  · have hlarge : x.isWithin c.config.maxPayload = false := by simpa using hx
    rw [offer_of_not_isWithin hlarge]
    refine ⟨rest, ?_, hrest⟩
    rw [requestStream_concat, if_neg hx, List.append_nil, hstream]

/-- Once nothing waits, everything has been written. -/
theorem Emits.eq_of_unwritten_eq_nil (h : c.Emits posted written) (hopen : c.isOpen = true)
    (hdrained : c.unwritten = []) : written = requestStream c.config.maxPayload posted := by
  obtain ⟨rest, hstream, hrest⟩ := h
  rw [hstream, ← hrest hopen, hdrained, List.append_nil]

/-- Whoever reads what was written finds the begin of the row of requests, each as it was framed, and
the begin of one more at most. Once nothing waits, all requests are found. -/
theorem Emits.decodeAll_eq (h : c.Emits posted written) (hsmall : c.config.maxPayload < 2 ^ 32) :
    ∃ (sent left : List Posting) (rest : Bytes),
      posted.filter (Posting.isWithin c.config.maxPayload) = sent ++ left ∧
      Frame.decodeAll c.config.maxPayload written = ⟨sent.map Posting.requestFrame, rest, none⟩ ∧
      (c.isOpen = true → c.unwritten = [] → left = [] ∧ rest = []) := by
  obtain ⟨more, hstream, hmore⟩ := h
  have hsound : ∀ f ∈ (posted.filter (Posting.isWithin c.config.maxPayload)).map
      Posting.requestFrame, f.Sound c.config.maxPayload := by
    intro f hf
    obtain ⟨x, hx, rfl⟩ := List.mem_map.1 hf
    have hle : x.admission.payload.length ≤ c.config.maxPayload :=
      of_decide_eq_true (List.mem_filter.1 hx).2
    exact Frame.sound_sealed _ hle (Nat.lt_of_le_of_lt hle hsmall)
  have hreads := Frame.reads_decodeAll c.config.maxPayload written
  generalize Frame.decodeAll c.config.maxPayload written = s at hreads
  obtain ⟨hnone, frames, hframes, hrest⟩ := hreads.take_of_octets hsound hstream.symm
  obtain ⟨sent, left, hsplit, hsent, hleft⟩ := List.map_eq_append_iff.1 hframes
  refine ⟨sent, left, s.rest, hsplit, ?_, fun hopen hdrained => ?_⟩
  · rw [hsent, ← hnone]
  · -- No octets are missing, so that a frame that is left over would have been read.
    rw [← hmore hopen, hdrained, List.append_nil] at hrest
    have hcut := hreads.rest_eq.2.1 hnone
    rw [hrest] at hcut
    have hnil : frames = [] := by
      refine Frame.eq_nil_of_decode (fun f hf => hsound f ?_) hcut
      rw [hframes]
      exact List.mem_append_right _ hf
    rw [hnil] at hleft hrest
    exact ⟨List.map_eq_nil_iff.1 hleft, hrest⟩

end Connection

end RemoteCall
