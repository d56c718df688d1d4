import RemoteCall.Proofs.Wire.Sequence
/-!
# Canonical frames

A frame that is read determines the octets it was read from. `RoundTrip` says that reading undoes
writing; this module says that writing undoes reading, for octets of any origin. No octet of an
envelope is passed over (`Envelope.encode_of_decode`): the markers have one value each, a kind has
one number, and the other fields are kept as they are. The payload is kept, and length and checksum
are compared with it, so that filling them in again changes nothing.

Hence an octet string begins with a frame exactly if it begins with the octets of a sound frame
(`Frame.decode_eq_some_iff`).
-/

namespace RemoteCall

namespace Bytes

variable {bs : Bytes} {offset width : Nat}

/-- Writing the number in a field gives the octets of the field. -/
theorem littleEndian_field (h : offset + width ≤ bs.length) :
    littleEndian width (bs.field offset width) = (bs.drop offset).take width := by
  have hwidth : ((bs.drop offset).take width).length = width := by
    rw [List.length_take, List.length_drop]
    omega
  have hback := littleEndian_ofLittleEndian ((bs.drop offset).take width)
  rwa [hwidth] at hback

/-- A field holds no more than its width allows. -/
theorem field_mod (h : offset + width ≤ bs.length) :
    bs.field offset width % 256 ^ width = bs.field offset width := by
  rw [← ofLittleEndian_littleEndian, littleEndian_field h, field]

end Bytes

namespace MessageKind

/-- A kind is read from its own number only. -/
theorem code_of_ofCode {w : UInt32} {k : MessageKind} (h : ofCode w = .ok k) : k.code = w := by
  unfold ofCode at h
  by_cases hrequest : w = 1
  · rw [if_pos hrequest] at h
    cases h
    exact hrequest.symm
  · rw [if_neg hrequest] at h
    by_cases hresponse : w = 2
    · rw [if_pos hresponse] at h
      cases h
      exact hresponse.symm
    · rw [if_neg hresponse] at h
      cases h

end MessageKind

namespace Envelope

variable {bs : Bytes} {e : Envelope}

/-- What an octet string holds, field by field, if it begins with an envelope. -/
structure Begins (bs : Bytes) (e : Envelope) : Prop where
  size_le : size ≤ bs.length
  begin_eq : word bs 0 = beginMagic
  kind_eq : word bs 4 = e.kind.code
  payloadLength_eq : word bs 8 = e.payloadLength
  checksum_eq : word bs 12 = e.checksum
  systemId_eq : UInt64.ofNat (bs.field 16 8) = e.systemId
  correlationId_eq : UInt64.ofNat (bs.field 24 8) = e.correlationId
  end_eq : word bs 32 = endMagic

/-- A marker is checked against one value. -/
theorem eq_of_checkMagic {expected actual : UInt32} (h : checkMagic expected actual = .ok ()) :
    actual = expected := by
  unfold checkMagic at h
  by_cases heq : expected = actual
  · exact heq.symm
  · rw [if_neg heq] at h
    cases h

/-- Each field is read from its place. -/
theorem begins_of_decode (h : decode bs = .ok e) : Begins bs e := by
  have hsize := size_le_of_decode h
  rw [decode, if_neg (by rw [List.length_take]; omega)] at h
  -- Each of the three checks must have passed.
  cases hbegin : checkMagic beginMagic (word bs 0) with
  | error defect => simp [hbegin, bind, Except.bind] at h
  | ok =>
    cases hend : checkMagic endMagic (word bs 32) with
    | error defect => simp [hbegin, hend, bind, Except.bind] at h
    | ok =>
      cases hkind : MessageKind.ofCode (word bs 4) with
      | error defect => simp [hbegin, hend, hkind, bind, Except.bind] at h
      | ok kind =>
        simp only [hbegin, hend, hkind, bind, Except.bind, pure, Except.pure] at h
        cases h
        exact {
          size_le := hsize
          begin_eq := eq_of_checkMagic hbegin
          kind_eq := (MessageKind.code_of_ofCode hkind).symm
          payloadLength_eq := rfl
          checksum_eq := rfl
          systemId_eq := rfl
          correlationId_eq := rfl
          end_eq := eq_of_checkMagic hend }

/-- Writing a field of 32 bits gives the octets it was read from. -/
theorem littleEndian_word {offset : Nat} (h : offset + 4 ≤ bs.length) :
    Bytes.littleEndian 4 (word bs offset).toNat = (bs.drop offset).take 4 := by
  have hmod : bs.field offset 4 % 2 ^ 32 = bs.field offset 4 := Bytes.field_mod h
  -- A number of four octets fits into 32 bits.
  rw [word, UInt32.toNat_ofNat', hmod, Bytes.littleEndian_field h]

/-- Writing a field of 64 bits gives the octets it was read from. -/
theorem littleEndian_long {offset : Nat} (h : offset + 8 ≤ bs.length) :
    Bytes.littleEndian 8 (UInt64.ofNat (bs.field offset 8)).toNat = (bs.drop offset).take 8 := by
  have hmod : bs.field offset 8 % 2 ^ 64 = bs.field offset 8 := Bytes.field_mod h
  rw [UInt64.toNat_ofNat', hmod, Bytes.littleEndian_field h]

/-- Writing an envelope that was read gives the octets it was read from. -/
theorem encode_of_decode (h : decode bs = .ok e) : e.encode = bs.take size := by
  have hbegins := begins_of_decode h
  have hsize : 36 ≤ bs.length := hbegins.size_le
  rw [encode, ← hbegins.begin_eq, ← hbegins.kind_eq, ← hbegins.payloadLength_eq,
    ← hbegins.checksum_eq, ← hbegins.systemId_eq, ← hbegins.correlationId_eq, ← hbegins.end_eq,
    littleEndian_word (by omega), littleEndian_word (by omega), littleEndian_word (by omega),
    littleEndian_word (by omega), littleEndian_long (by omega), littleEndian_long (by omega),
    littleEndian_word (by omega)]
  -- The fields lie next to each other, from the first octet to the last.
  have hnext (offset width more : Nat) :
      (bs.drop offset).take width ++ (bs.drop (offset + width)).take more =
        (bs.drop offset).take (width + more) := by
    rw [List.take_add, List.drop_drop]
  rw [hnext 24, hnext 16, hnext 12, hnext 8, hnext 4, hnext 0]
  rfl

end Envelope

namespace Frame

variable {maxPayload : Nat} {data rest : Bytes} {f : Frame}

/-- A frame that is read is sound, and its octets are those at the begin. -/
theorem sound_of_decode (h : decode maxPayload data = .ok (some (f, rest))) :
    f.Sound maxPayload ∧ data = f.octets ++ rest := by
  obtain ⟨hsize, hbody⟩ := split_of_decode h
  cases he : Envelope.decode data with
  | error defect =>
    rw [decode_eq_error_of_envelope hsize he] at h
    cases h
  | ok envelope =>
    by_cases hmax : maxPayload < envelope.payloadLength.toNat
    · rw [decode_eq_error_of_lt he hmax] at h
      cases h
    rw [decode_of_envelope he (Nat.not_lt.1 hmax)] at h
    simp only at h
    split at h
    · cases h
    next hlong =>
      split at h
      · cases h
      next hchecksum =>
        cases h
        have hlength : ((data.drop Envelope.size).take envelope.payloadLength.toNat).length =
            envelope.payloadLength.toNat := by
          rw [List.length_take] at hlong ⊢
          omega
        -- What was checked of the payload is what makes a frame sound.
        refine ⟨⟨hlength.symm, (not_not.1 hchecksum).symm, ?_⟩, ?_⟩
        · rw [hlength]
          exact Nat.not_lt.1 hmax
        · rw [octets, Envelope.encode_of_decode he, List.append_assoc, ← hbody,
            List.take_append_drop]

/-- An octet string begins with a frame exactly if it begins with the octets of a sound frame. -/
theorem decode_eq_some_iff :
    decode maxPayload data = .ok (some (f, rest)) ↔
      f.Sound maxPayload ∧ data = f.octets ++ rest := by
  constructor
  · exact sound_of_decode
  · rintro ⟨hsound, rfl⟩
    exact decode_octets hsound rest

/-- Filling in a sound frame changes nothing. -/
theorem Sound.sealed_eq (h : f.Sound maxPayload) : sealed f.envelope f.payload = f.envelope := by
  rw [sealed, ← h.checksum_eq, ← h.length_eq, UInt32.ofNat_toNat]

/-- Writing a sound frame gives its octets, without loss of the envelope it has. -/
theorem Sound.encode_eq_octets (h : f.Sound maxPayload) :
    encode f.envelope f.payload maxPayload = .ok f.octets := by
  rw [encode_eq f.envelope h.length_le, h.sealed_eq]

/-- Writing undoes reading. A frame that is read at the begin of any octets is at least as long as an
envelope, and no longer than the octets; what is left over begins where it ends. Its envelope tells
the length and the checksum of its payload, and writing it under the same limit gives the very octets
that were read. Whatever else is read as the same frame, under whatever limit and with whatever
behind it, has these octets as well. -/
theorem writing_undoes_reading (h : decode maxPayload data = .ok (some (f, rest))) :
    let consumed := data.length - rest.length
    36 ≤ consumed ∧ consumed ≤ data.length ∧ rest = data.drop consumed ∧
      f.envelope.payloadLength.toNat = f.payload.length ∧
      f.envelope.checksum = Checksum.crc32c f.payload ∧
      encode f.envelope f.payload maxPayload = .ok (data.take consumed) ∧
      ∀ (maxPayload' : Nat) (data' rest' : Bytes),
        decode maxPayload' data' = .ok (some (f, rest')) →
          data'.take (data'.length - rest'.length) = data.take consumed := by
  intro consumed
  obtain ⟨hsound, hdata⟩ := sound_of_decode h
  have hconsumed : consumed = f.octets.length := by
    show data.length - rest.length = f.octets.length
    rw [hdata, List.length_append, Nat.add_sub_cancel]
  have htake : data.take consumed = f.octets := by
    rw [hconsumed, hdata, List.take_left]
  have hlength : f.octets.length = 36 + f.payload.length := length_octets f
  refine ⟨by omega, ?_, ?_, hsound.length_eq, hsound.checksum_eq, ?_, ?_⟩
  · exact Nat.sub_le data.length rest.length
  · rw [hconsumed, hdata, List.drop_left]
  · rw [htake]
    exact hsound.encode_eq_octets
  · -- The octets of the frame do not depend on where it was read.
    intro maxPayload' data' rest' h'
    obtain ⟨-, hdata'⟩ := sound_of_decode h'
    rw [htake, hdata', List.length_append, Nat.add_sub_cancel, List.take_left]

/-- A response that is followed by two octets of something else. -/
theorem response_before_two_octets :
    let envelope := (Envelope.request 7 42 0).responseTo 3
    let octets := octets ⟨sealed envelope [1, 2, 3], [1, 2, 3]⟩
    decode 3 (octets ++ [0x50, 0x52]) =
        .ok (some (⟨sealed envelope [1, 2, 3], [1, 2, 3]⟩, [0x50, 0x52])) ∧
      encode (sealed envelope [1, 2, 3]) [1, 2, 3] 3 =
        .ok ((octets ++ [0x50, 0x52]).take 39) := by
  intro envelope octets
  have hread : decode 3 (octets ++ [0x50, 0x52]) =
      .ok (some (⟨sealed envelope [1, 2, 3], [1, 2, 3]⟩, [0x50, 0x52])) :=
    decode_octets (sound_sealed envelope (by decide) (by decide)) _
  obtain ⟨-, -, -, -, -, hwritten, -⟩ := writing_undoes_reading hread
  exact ⟨hread, hwritten⟩

end Frame

end RemoteCall
