import RemoteCall.Proofs.Dispatch.Exchange
import RemoteCall.Proofs.Transport.Pieces
import RemoteCall.Proofs.Transport.Reading
import RemoteCall.Proofs.Wire.RoundTrip
/-!
# Requests and answers on their way

Between a connection and its peer, octets move in pieces of any size: from the queue into the pipe,
through the pipe to the peer, and the same way back. What is on its way is nevertheless always a
row of whole frames, cut in arbitrary places (`Pipeline`): the requests that the peer has not taken
yet, and the answers that the connection has not taken yet. No move of octets changes it, and
whoever takes a frame takes the first of its row.
-/

namespace RemoteCall

/-- The frame of the request of a call. -/
def Posting.requestFrame (x : Posting) : Frame :=
  ⟨Frame.sealed x.admission.envelope x.admission.payload, x.admission.payload⟩

/-- The frame that answers the request of a call with what a function makes of its payload. -/
def Posting.responseFrame (F : Bytes → Bytes) (x : Posting) : Frame :=
  let payload := F x.admission.payload
  ⟨Frame.sealed (x.admission.envelope.responseTo payload.length) payload, payload⟩

/-- The payloads of the request of a call and of its answer are within the limit. -/
structure Posting.Fits (F : Bytes → Bytes) (maxPayload : Nat) (x : Posting) : Prop where
  /-- The request is not too large. -/
  request_le : x.admission.payload.length ≤ maxPayload
  /-- The answer is not too large. -/
  response_le : (F x.admission.payload).length ≤ maxPayload

/-- A peer that answers requests. -/
structure Peer where
  /-- The requests that it has read and not answered. -/
  waiting : List Frame
  /-- The octets of answers that it has not written. -/
  outgoing : Bytes

/-- The peer answers a request with what a function makes of its payload. -/
def Peer.answer (F : Bytes → Bytes) (maxPayload : Nat) (p : Peer) (request : Nat) : Peer :=
  match p.waiting[request]? with
  | none => p
  | some f =>
    let payload := F f.payload
    match Frame.encode (f.envelope.responseTo payload.length) payload maxPayload with
    | .error _ => p
    | .ok octets =>
      { waiting := p.waiting.eraseIdx request
        outgoing := p.outgoing ++ octets }

/-- The limit with which peers read. -/
def Peer.maxPayload : Nat := UInt64.size - 1

/-- What is on its way between a connection and its peer: the requests that were sent and not yet
taken by the peer, those that wait there, and those whose answers the connection has not taken. -/
structure Pipeline (F : Bytes → Bytes) (c : Connection) (l : Link) (p : Peer)
    (sent waiting answered : List Posting) : Prop where
  /-- The length field holds every payload that is allowed. -/
  small : c.config.maxPayload < 2 ^ 32
  /-- All payloads are within the limit. -/
  fits : ∀ x ∈ answered ++ (waiting ++ sent), x.Fits F c.config.maxPayload
  /-- The octets on their way to the peer are the frames of the requests. -/
  outward : l.received.reverse.flatten ++ (l.outbound ++ (c.writing ++ c.queue.flatten)) =
    ((sent.map Posting.requestFrame).map Frame.octets).flatten
  /-- The peer has taken all frames that it has read. -/
  farCut : Frame.decode Peer.maxPayload l.received.reverse.flatten = .ok none
  /-- The requests that wait at the peer. -/
  waiting_eq : p.waiting = waiting.map Posting.requestFrame
  /-- The octets on their way back are the frames of the answers. -/
  inward : c.inbox.octets ++ (l.inbound ++ p.outgoing) =
    ((answered.map (Posting.responseFrame F)).map Frame.octets).flatten
  /-- The connection has taken all frames that it has read. -/
  nearCut : Frame.decode c.config.maxPayload c.inbox.octets = .ok none
  /-- The connection has not given up the link. -/
  nearOpen : l.nearOpen = true
  /-- The peer has not given up the link. -/
  farOpen : l.farOpen = true
  /-- Reading does not fail. -/
  readError : l.readError = none
  /-- Writing does not fail. -/
  writeError : l.writeError = none

namespace Pipeline

variable {F : Bytes → Bytes} {c : Connection} {l : Link} {p : Peer}
  {sent waiting answered : List Posting}

/-- Peers read frames that connections write. -/
theorem requestFrame_sound {maxPayload : Nat} (hsmall : maxPayload < 2 ^ 32) {x : Posting}
    (hx : x.Fits F maxPayload) : x.requestFrame.Sound Peer.maxPayload := by
  have hle := hx.request_le
  refine Frame.sound_sealed _ ?_ (by omega)
  rw [Peer.maxPayload, UInt64.size]
  omega

/-- Connections read frames that peers write. -/
theorem responseFrame_sound {maxPayload : Nat} (hsmall : maxPayload < 2 ^ 32) {x : Posting}
    (hx : x.Fits F maxPayload) : (x.responseFrame F).Sound maxPayload := by
  have hle := hx.response_le
  exact Frame.sound_sealed _ hle (by omega)

/-- A request that is sent is queued behind the others. -/
theorem send (h : Pipeline F c l p sent waiting answered) (hopen : c.phase ≠ .ended) {x : Posting}
    (hx : x.Fits F c.config.maxPayload) :
    ∃ queue, c.send x.admission.envelope x.admission.payload = .ok { c with queue } ∧
      Pipeline F { c with queue } l p (sent ++ [x]) waiting answered := by
  refine ⟨c.queue ++ [x.requestFrame.octets], ?_, ?_⟩
  · rw [Connection.send, Frame.encode_eq _ hx.request_le]
    simp only [Connection.isOpen, hopen, ne_eq, not_false_eq_true, decide_true, if_true]
    rfl
  · refine ⟨h.small, ?_, ?_, h.farCut, h.waiting_eq, h.inward, h.nearCut, h.nearOpen, h.farOpen,
      h.readError, h.writeError⟩
    · intro y hy
      rw [← List.append_assoc, ← List.append_assoc, List.mem_append, List.mem_singleton] at hy
      rcases hy with hold | rfl
      · rw [List.append_assoc] at hold
        exact h.fits y hold
      · exact hx
    · have houtward := h.outward
      simp only [List.flatten_append, List.flatten_singleton, List.map_append, List.map_singleton,
        ← houtward, List.append_assoc]

/-- Moving octets on towards the peer changes nothing else. -/
theorem moveOut (h : Pipeline F c l p sent waiting answered) {writing outbound : Bytes}
    {queue : List Bytes}
    (hmoved : outbound ++ (writing ++ queue.flatten) =
      l.outbound ++ (c.writing ++ c.queue.flatten)) :
    Pipeline F { c with writing, queue } { l with outbound } p sent waiting answered := by
  refine ⟨h.small, h.fits, ?_, h.farCut, h.waiting_eq, h.inward, h.nearCut, h.nearOpen, h.farOpen,
    h.readError, h.writeError⟩
  simp only [hmoved]
  exact h.outward

/-- Going on to the next frame loses no octets. -/
theorem advance_eq (c : Connection) : ∃ writing queue, c.advance = { c with writing, queue } ∧
    writing ++ queue.flatten = c.writing ++ c.queue.flatten := by
  rw [Connection.advance]
  split
  next frame queue hwriting hqueue =>
    refine ⟨frame, queue, rfl, ?_⟩
    rw [hwriting, hqueue]
    rfl
  next => exact ⟨c.writing, c.queue, rfl, rfl⟩

/-- What the stream has taken is no longer to be written. -/
theorem step_wrote (t : Conversation) (hphase : t.connection.phase = .established) (count : Nat) :
    ∃ writing queue, t.step (.wrote count) =
        { t with connection := { t.connection with writing, queue } } ∧
      writing ++ queue.flatten = t.connection.writing.drop count ++ t.connection.queue.flatten := by
  obtain ⟨dispatcher, ⟨endpoint, address, config, phase, writing, queue, inbox⟩, link⟩ := t
  obtain rfl : phase = .established := hphase
  obtain ⟨writing', queue', hadvance, hsame⟩ := advance_eq
    { endpoint, address, config, phase := .established, writing := writing.drop count, queue, inbox }
  refine ⟨writing', queue', ?_, hsame⟩
  rw [Conversation.step]
  simp only [Connection.step, hadvance]
  rfl

/-- Writing moves octets from the connection into the pipe. -/
theorem writeSome {t : Conversation}
    (h : Pipeline F t.connection t.link p sent waiting answered)
    (hphase : t.connection.phase = .established) (size : Nat) :
    ∃ writing queue outbound, t.writeSome size =
        { t with
          connection := { t.connection with writing, queue }
          link := { t.link with outbound } } ∧
      Pipeline F { t.connection with writing, queue } { t.link with outbound } p sent waiting
        answered := by
  rw [Conversation.writeSome]
  split
  next hempty =>
    obtain ⟨writing, queue, hstep, hsame⟩ := step_wrote t hphase 0
    refine ⟨writing, queue, t.link.outbound, hstep, h.moveOut ?_⟩
    rw [hsame, List.drop_zero]
  next =>
    -- The pipe takes the first octets of the frame, however many they are.
    have htaken : ((t.connection.writing.take size).take
        (t.link.capacity - t.link.outbound.length)) <+: t.connection.writing :=
      (List.take_prefix _ _).trans (List.take_prefix _ _)
    rw [Link.nearWrite_eq h.writeError h.farOpen]
    simp only
    generalize (t.connection.writing.take size).take
      (t.link.capacity - t.link.outbound.length) = taken at htaken
    obtain ⟨writing, queue, hstep, hsame⟩ := step_wrote
      { t with link := { t.link with outbound := t.link.outbound ++ taken } } hphase taken.length
    refine ⟨writing, queue, t.link.outbound ++ taken, hstep, h.moveOut ?_⟩
    rw [hsame, List.append_assoc, ← List.append_assoc taken, List.prefix_iff_eq_append.1 htaken]

/-- The connection takes octets off the way back, and the frames that they complete. -/
theorem step_received {t : Conversation}
    (h : Pipeline F t.connection t.link p sent waiting answered) (hlive : t.dispatcher.live = true)
    (hphase : t.connection.phase = .established) {chunk inbound : Bytes}
    (hinbound : t.link.inbound = chunk ++ inbound) :
    ∃ inbox taken left, answered = taken ++ left ∧
      { t with link := { t.link with inbound } }.step (.received chunk) =
        { dispatcher := (taken.map (Posting.responseFrame F)).foldl
            (fun d f => (d.receive f.envelope f.payload).2) t.dispatcher
          connection := { t.connection with inbox }
          link := { t.link with inbound } } ∧
      Pipeline F { t.connection with inbox } { t.link with inbound } p sent waiting left := by
  have hread := Frame.reads_decodeAll t.connection.config.maxPayload
    (t.connection.inbox.octets ++ chunk)
  generalize Frame.decodeAll t.connection.config.maxPayload
    (t.connection.inbox.octets ++ chunk) = s at hread
  -- What has been read and the chunk begin a row of whole answers, so that there is no defect.
  have hinward := h.inward
  rw [hinbound, List.append_assoc, ← List.append_assoc] at hinward
  obtain ⟨hnone, left, hframes, hrest⟩ := hread.take_of_octets (by
    intro f hf
    obtain ⟨x, hx, rfl⟩ := List.mem_map.1 hf
    exact responseFrame_sound h.small (h.fits x (List.mem_append_left _ hx))) hinward
  obtain ⟨taken, left, rfl, htaken, rfl⟩ := List.map_eq_append_iff.1 hframes
  obtain ⟨inbox, hinbox, hreceive⟩ := t.connection.receive_eq hread
  rw [hnone] at hreceive
  have hstep : t.connection.step t.dispatcher.live (.received chunk) =
      ({ t.connection with inbox }, { frames := taken.map (Posting.responseFrame F) }) := by
    rw [hlive, htaken]
    refine Eq.trans ?_ hreceive
    simp only [Connection.step, hphase]
  have hopen : ({ t.connection with inbox } : Connection).isOpen = true := by
    simp [Connection.isOpen, hphase]
  refine ⟨inbox, taken, left, rfl, ?_, ?_⟩
  · simp only [Conversation.step, hstep, hopen, if_true]
    rfl
  · refine ⟨h.small, ?_, h.outward, h.farCut, h.waiting_eq, ?_, ?_, h.nearOpen, h.farOpen,
      h.readError, h.writeError⟩
    · intro x hx
      refine h.fits x ?_
      rw [List.append_assoc]
      exact List.mem_append_right _ hx
    · rw [hinbox]
      exact hrest
    · rw [hinbox]
      exact hread.rest_eq.2.1 hnone

/-- Reading takes the first answers off the way back, as many as have become complete. -/
theorem readSome {t : Conversation}
    (h : Pipeline F t.connection t.link p sent waiting answered) (hlive : t.dispatcher.live = true)
    (hphase : t.connection.phase = .established) (size : Nat) :
    ∃ inbox inbound taken left, answered = taken ++ left ∧
      t.readSome size =
        { dispatcher := (taken.map (Posting.responseFrame F)).foldl
            (fun d f => (d.receive f.envelope f.payload).2) t.dispatcher
          connection := { t.connection with inbox }
          link := { t.link with inbound } } ∧
      Pipeline F { t.connection with inbox } { t.link with inbound } p sent waiting left := by
  rw [Conversation.readSome, Link.nearRead_eq h.readError h.farOpen]
  by_cases hempty : t.link.inbound.isEmpty
  · rw [if_pos hempty]
    exact ⟨t.connection.inbox, t.link.inbound, [], answered, rfl, rfl, h⟩
  · rw [if_neg hempty]
    obtain ⟨inbox, hread⟩ := h.step_received hlive hphase (List.take_append_drop size _).symm
    exact ⟨inbox, _, hread⟩

/-- The peer takes requests off the way: the first ones, as many as have become complete. -/
theorem peerRead (h : Pipeline F c l p sent waiting answered) {outbound : Bytes}
    {received : List Bytes}
    (hmoved : received.reverse.flatten ++ outbound = l.received.reverse.flatten ++ l.outbound) :
    let stream := Frame.decodeAll Peer.maxPayload received.reverse.flatten
    ∃ taken left, sent = taken ++ left ∧
      Pipeline F c { l with outbound, received := [stream.rest] }
        { p with waiting := p.waiting ++ stream.frames } left (waiting ++ taken) answered := by
  intro stream
  have hread : Frame.Reads Peer.maxPayload received.reverse.flatten stream :=
    Frame.reads_decodeAll _ _
  -- What has been read begins a row of whole requests, so that there is no defect.
  have houtward := h.outward
  rw [← List.append_assoc, ← hmoved, List.append_assoc] at houtward
  obtain ⟨hnone, left, hframes, hrest⟩ := hread.take_of_octets (by
    intro f hf
    obtain ⟨x, hx, rfl⟩ := List.mem_map.1 hf
    exact requestFrame_sound h.small
      (h.fits x (List.mem_append_right _ (List.mem_append_right _ hx)))) houtward
  obtain ⟨taken, left, rfl, htaken, rfl⟩ := List.map_eq_append_iff.1 hframes
  refine ⟨taken, left, rfl, h.small, ?_, ?_, ?_, ?_, h.inward, h.nearCut, h.nearOpen, h.farOpen,
    h.readError, h.writeError⟩
  · rw [List.append_assoc]
    exact h.fits
  · rw [← hrest]
    simp
  · simpa using hread.rest_eq.2.1 hnone
  · rw [h.waiting_eq, ← htaken, List.map_append]

/-- An answer of the peer goes on its way behind the others. -/
theorem peerAnswer (h : Pipeline F c l p sent waiting answered) (request : Nat) :
    ∃ waiting' answered', (answered' ++ waiting').Perm (answered ++ waiting) ∧
      Pipeline F c l (p.answer F c.config.maxPayload request) sent waiting' answered' := by
  rw [Peer.answer]
  split
  next => exact ⟨waiting, answered, .refl _, h⟩
  next f hf =>
    rw [h.waiting_eq, List.getElem?_map, Option.map_eq_some_iff] at hf
    obtain ⟨x, hx, rfl⟩ := hf
    have hfits : x.Fits F c.config.maxPayload :=
      h.fits x (List.mem_append_right _ (List.mem_append_left _ (List.mem_of_getElem? hx)))
    have hencode : Frame.encode (x.requestFrame.envelope.responseTo
        (F x.requestFrame.payload).length) (F x.requestFrame.payload) c.config.maxPayload =
        .ok (x.responseFrame F).octets :=
      Frame.encode_eq _ hfits.response_le
    have hperm : ((answered ++ [x]) ++ waiting.eraseIdx request).Perm (answered ++ waiting) := by
      rw [List.append_assoc]
      exact (perm_cons_eraseIdx hx).symm.append_left _
    simp only [hencode]
    refine ⟨waiting.eraseIdx request, answered ++ [x], hperm, h.small, ?_, h.outward, h.farCut, ?_,
      ?_, h.nearCut, h.nearOpen, h.farOpen, h.readError, h.writeError⟩
    · intro y hy
      refine h.fits y ?_
      rw [← List.append_assoc] at hy ⊢
      exact (hperm.append_right _).mem_iff.1 hy
    · rw [h.waiting_eq, ← List.eraseIdx_map]
    · simp only [List.map_append, List.flatten_append, ← h.inward, List.append_assoc]
      simp

/-- The peer writes some octets of its answers. -/
theorem peerWrite (h : Pipeline F c l p sent waiting answered) {taken outgoing : Bytes}
    (houtgoing : p.outgoing = taken ++ outgoing) :
    Pipeline F c { l with inbound := l.inbound ++ taken } { p with outgoing } sent waiting
      answered := by
  refine ⟨h.small, h.fits, h.outward, h.farCut, h.waiting_eq, ?_, h.nearCut, h.nearOpen, h.farOpen,
    h.readError, h.writeError⟩
  rw [← h.inward, houtgoing]
  simp

end Pipeline

end RemoteCall
