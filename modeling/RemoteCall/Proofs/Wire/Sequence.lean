import Mathlib.Algebra.Ring.Nat
import Mathlib.Data.List.Forall2
import RemoteCall.Proofs.Wire.RoundTrip
/-!
# Sequences of frames

Messages that are written one after the other are read one after the other. The reader does not
know where a message ends but from the message itself, and the stream may be cut off anywhere
behind the last complete message; what is left over then is the begin of a frame, in which the
reader sees neither a frame nor a defect (`Frame.decode_cut`).

The main statement is `Frame.reading_undoes_writing`. It follows the reader through the stream:
at each position that it comes to, by dropping the frames that it has found so far, it finds the
next message.
-/

namespace RemoteCall

namespace Frame

variable {maxPayload : Nat}

/-- A message may be sent: the limit allows its payload, and the length field holds its length. -/
def Fits (maxPayload : Nat) (m : Frame) : Prop :=
  m.payload.length ≤ maxPayload ∧ m.payload.length < 2 ^ 32

/-- A frame carries a message. Length and checksum are those of the payload, whatever the envelope
of the message says about them, and all else is as it was. -/
structure Carries (f m : Frame) : Prop where
  payload_eq : f.payload = m.payload
  kind_eq : f.envelope.kind = m.envelope.kind
  systemId_eq : f.envelope.systemId = m.envelope.systemId
  correlationId_eq : f.envelope.correlationId = m.envelope.correlationId
  payloadLength_eq : f.envelope.payloadLength.toNat = m.payload.length
  checksum_eq : f.envelope.checksum = Checksum.crc32c m.payload

/-- The frame that is written for a message. -/
def framed (m : Frame) : Frame :=
  ⟨sealed m.envelope m.payload, m.payload⟩

theorem carries_framed {m : Frame} (h : m.Fits maxPayload) : m.framed.Carries m where
  payload_eq := rfl
  kind_eq := rfl
  systemId_eq := rfl
  correlationId_eq := rfl
  payloadLength_eq := (sound_sealed m.envelope h.1 h.2).length_eq
  checksum_eq := rfl

theorem encode_of_fits {m : Frame} (h : m.Fits maxPayload) :
    encode m.envelope m.payload maxPayload = .ok m.framed.octets :=
  encode_eq m.envelope h.1

@[simp]
theorem length_octets (f : Frame) : f.octets.length = f.length := by
  simp [octets, length]

/-- A frame that is cut off shows neither a frame nor a defect, wherever it is cut. -/
theorem decode_cut {f : Frame} (hf : f.Sound maxPayload) {cut more : Bytes} (hmore : more ≠ [])
    (hcut : f.octets = cut ++ more) : decode maxPayload cut = .ok none := by
  by_contra hfound
  -- Whatever is found in the cut frame is found in the whole frame as well.
  have hwhole := decode_append hfound more
  have hframe : decode maxPayload (cut ++ more) = .ok (some (f, [])) := by
    rw [← hcut]
    simpa using decode_octets hf []
  rw [hframe] at hwhole
  cases hdecode : decode maxPayload cut with
  | error e =>
    rw [hdecode] at hwhole
    cases hwhole
  | ok found =>
    cases found with
    | none => exact hfound hdecode
    | some found =>
      -- The whole frame is used up, so that nothing was missing.
      rw [hdecode] at hwhole
      have hrest : found.2 ++ more = [] := by
        simpa [Except.map] using congrArg (Except.map (Option.map Prod.snd)) hwhole.symm
      exact hmore (List.append_eq_nil_iff.1 hrest).2

/-- The positions in a row of frames that a reader comes to are those where frames begin. -/
theorem drop_octets (frames : List Frame) (tail : Bytes) (count : Nat) :
    ((frames.map octets).flatten ++ tail).drop ((frames.take count).map length).sum =
      ((frames.drop count).map octets).flatten ++ tail := by
  induction frames generalizing count with
  | nil => simp
  | cons f frames ih =>
    cases count with
    | zero => rfl
    | succ count =>
      rw [List.take_succ_cons, List.map_cons, List.sum_cons, ← List.drop_drop, List.map_cons,
        List.flatten_cons, List.append_assoc, ← length_octets, List.drop_left, ih]
      rfl

/-- At each of these positions the reader finds the frame that begins there, and it finds nothing
more behind the last. -/
theorem decode_drop_octets {frames : List Frame} (hsound : ∀ f ∈ frames, f.Sound maxPayload)
    {tail : Bytes} (htail : decode maxPayload tail = .ok none) (count : Nat) :
    let stream := (frames.map octets).flatten ++ tail
    let position := fun count => ((frames.take count).map length).sum
    decode maxPayload (stream.drop (position count)) =
      .ok (frames[count]?.map fun f => (f, stream.drop (position (count + 1)))) := by
  intro stream position
  simp only [stream, position, drop_octets]
  cases hnext : frames[count]? with
  | none =>
    rw [List.drop_eq_nil_of_le (List.getElem?_eq_none_iff.1 hnext)]
    exact htail
  | some f =>
    obtain ⟨hlt, rfl⟩ := List.getElem?_eq_some_iff.1 hnext
    rw [List.drop_eq_getElem_cons hlt, List.map_cons, List.flatten_cons, List.append_assoc,
      decode_octets (hsound _ (List.getElem_mem hlt))]
    rfl

theorem reads_octets {frames : List Frame} (hsound : ∀ f ∈ frames, f.Sound maxPayload)
    {tail : Bytes} (htail : decode maxPayload tail = .ok none) :
    Reads maxPayload ((frames.map octets).flatten ++ tail) ⟨frames, tail, none⟩ := by
  induction frames with
  | nil => exact .cut htail
  | cons f frames ih =>
    have hframe := decode_octets (hsound f List.mem_cons_self) ((frames.map octets).flatten ++ tail)
    rw [List.map_cons, List.flatten_cons, List.append_assoc]
    exact .frame hframe (ih fun f hf => hsound f (List.mem_cons_of_mem _ hf))

/-- Messages that fit are written, and reading undoes writing. Suppose that they are written one
after the other, and that the begin of one more message follows, cut off before its end. Then
each position that is reached by dropping complete frames shows the next message, with its length
and its checksum filled in; behind the last of them octets are missing, and what is left over is
just what was cut off. No message that fits shows a defect, wherever it is cut. -/
theorem reading_undoes_writing (messages : List Frame) (last : Frame)
    (hmessages : ∀ m ∈ messages, m.Fits maxPayload) (hlast : last.Fits maxPayload)
    (tail missing : Bytes) (hmissing : missing ≠ [])
    (htail : encode last.envelope last.payload maxPayload = .ok (tail ++ missing)) :
    ∃ (written : List Bytes) (frames : List Frame),
      messages.map (fun m => encode m.envelope m.payload maxPayload) = written.map .ok ∧
      List.Forall₂ Carries frames messages ∧
      decodeAll maxPayload (written.flatten ++ tail) = ⟨frames, tail, none⟩ ∧
      (let stream := written.flatten ++ tail
       let position := fun count => ((frames.take count).map length).sum
       (∀ count, decode maxPayload (stream.drop (position count)) =
          .ok (frames[count]?.map fun f => (f, stream.drop (position (count + 1))))) ∧
       stream.drop (position frames.length) = tail) ∧
      decode maxPayload tail = .ok none ∧
      ∀ m : Frame, m.Fits maxPayload → ∀ cut more : Bytes, more ≠ [] →
        encode m.envelope m.payload maxPayload = .ok (cut ++ more) →
          decode maxPayload cut = .ok none := by
  have hcut : ∀ m : Frame, m.Fits maxPayload → ∀ cut more : Bytes, more ≠ [] →
      encode m.envelope m.payload maxPayload = .ok (cut ++ more) →
        decode maxPayload cut = .ok none := by
    intro m hm cut more hmore hwritten
    rw [encode_of_fits hm] at hwritten
    exact decode_cut (sound_sealed m.envelope hm.1 hm.2) hmore (Except.ok.inj hwritten)
  have hnone : decode maxPayload tail = .ok none := hcut last hlast tail missing hmissing htail
  have hsound : ∀ f ∈ messages.map framed, f.Sound maxPayload := by
    intro f hf
    obtain ⟨m, hm, rfl⟩ := List.mem_map.1 hf
    exact sound_sealed m.envelope (hmessages m hm).1 (hmessages m hm).2
  refine ⟨(messages.map framed).map octets, messages.map framed, ?_, ?_, ?_, ⟨?_, ?_⟩, hnone, hcut⟩
  · rw [List.map_map, List.map_map]
    exact List.map_congr_left fun m hm => encode_of_fits (hmessages m hm)
  · rw [List.forall₂_map_left_iff, List.forall₂_same]
    exact fun m hm => carries_framed (hmessages m hm)
  · exact (reads_iff.1 (reads_octets hsound hnone)).symm
  · exact decode_drop_octets hsound hnone
  · simp only [drop_octets, List.drop_length, List.map_nil, List.flatten_nil, List.nil_append]

/-- Two messages, of which one has no payload, and the envelope of a third. -/
theorem two_messages_and_an_envelope :
    let first : Frame := ⟨.request 7 1 0, [1, 2, 3]⟩
    let second : Frame := ⟨(Envelope.request 7 2 0).responseTo 5, []⟩
    let third : Frame := ⟨.request 7 (.ofNat (2 ^ 64 - 1)) 0, [9]⟩
    (∀ m ∈ [first, second], m.Fits 3) ∧ third.Fits 3 ∧ ([9] : Bytes) ≠ [] ∧
      encode third.envelope third.payload 3 = .ok (third.framed.envelope.encode ++ [9]) ∧
      ∃ frames : List Frame, List.Forall₂ Carries frames [first, second] ∧
        decodeAll 3 (first.framed.octets ++ (second.framed.octets ++ third.framed.envelope.encode)) =
          ⟨frames, third.framed.envelope.encode, none⟩ := by
  intro first second third
  have hmessages : ∀ m ∈ [first, second], m.Fits 3 := by
    intro m hm
    rcases List.mem_cons.1 hm with rfl | hm
    · exact ⟨by decide, by decide⟩
    · obtain rfl := List.mem_singleton.1 hm
      exact ⟨by decide, by decide⟩
  have hthird : third.Fits 3 := ⟨by decide, by decide⟩
  have hencode : encode third.envelope third.payload 3 =
      .ok (third.framed.envelope.encode ++ [9]) := rfl
  obtain ⟨written, frames, hwritten, hcarries, hall, -⟩ :=
    reading_undoes_writing [first, second] third hmessages hthird _ [9] (by decide) hencode
  -- What was written is known, as there is only one way to write a message.
  have hoctets : written = [first.framed.octets, second.framed.octets] := by
    have hsame : [first.framed.octets, second.framed.octets].map Except.ok = written.map
        (Except.ok (ε := WireError)) := hwritten
    exact (List.map_inj_right (fun _ _ => Except.ok.inj)).1 hsame.symm
  rw [hoctets] at hall
  refine ⟨hmessages, hthird, by decide, hencode, frames, hcarries, ?_⟩
  simpa using hall

end Frame

end RemoteCall
