import RemoteCall.Proofs.Wire.Canonical
import RemoteCall.Proofs.Wire.Header
/-!
# The format of request headers

A request header is two names, each as a length of sixteen bits and that many octets of UTF-8. The
reader accepts this format and nothing else: an octet string begins with a header exactly if it
begins with the octets that are written for this header (`RequestHeader.decode_eq_ok_iff`). There is
one way to write a name, as the length field has a fixed width and a text has one encoding, so that
nothing overlong and no surrogate is let through.

A header that is cut off, wherever it is cut, is rejected for lack of octets and for no other reason
(`RequestHeader.decode_cut`): the length of a name is judged before its octets are.
-/

namespace RemoteCall

namespace Utf8

/-- Octets are decoded to a text exactly if they are its encoding. -/
theorem decode_eq_ok_iff {bs : Bytes} {s : String} : decode bs = .ok s ↔ bs = encode s := by
  constructor
  · intro h
    unfold decode at h
    split at h
    next text htext =>
      cases h
      exact (encode_of_decode? htext).symm
    next => cases h
  · rintro rfl
    exact decode_encode s

end Utf8

namespace RequestHeader

/-! ## Names -/

/-- The length of a name fits into the length field. -/
def NameFits (name : String) : Prop :=
  (Utf8.encode name).length ≤ maxName

instance (name : String) : Decidable (NameFits name) :=
  inferInstanceAs (Decidable (_ ≤ _))

/-- The octets of a name whose length fits. -/
def nameOctets (name : String) : Bytes :=
  Bytes.littleEndian 2 (Utf8.encode name).length ++ Utf8.encode name

/-- Why a name cannot be written. -/
def tooLong (field name : String) : WireError :=
  .invalidField field s!"{(Utf8.encode name).length} bytes exceeds {maxName}"

variable {field name : String} {bs rest : Bytes}

@[simp]
theorem length_nameOctets (name : String) :
    (nameOctets name).length = 2 + (Utf8.encode name).length := by
  simp [nameOctets]

theorem encodeName_of_fits (h : NameFits name) : encodeName field name = .ok (nameOctets name) :=
  if_neg (Nat.not_lt.2 h)

theorem encodeName_of_not_fits (h : ¬NameFits name) :
    encodeName field name = .error (tooLong field name) :=
  if_pos (Nat.not_le.1 h)

/-- The length field of a name that fits holds its length, whatever follows the name. -/
theorem field_nameOctets (h : NameFits name) (more : Bytes) :
    (nameOctets name ++ more).field 0 2 = (Utf8.encode name).length := by
  rw [NameFits, maxName] at h
  rw [nameOctets, List.append_assoc, Bytes.field_littleEndian, Nat.mod_eq_of_lt (by omega)]

/-- A name is read from its own octets only, and what follows them is left over. -/
theorem decodeName_eq_ok_iff :
    decodeName field bs = .ok (name, rest) ↔ NameFits name ∧ bs = nameOctets name ++ rest := by
  constructor
  · intro h
    unfold decodeName at h
    split at h
    · cases h
    next hsize =>
      simp only at h
      split at h
      · cases h
      next hbody =>
        split at h
        next text htext =>
          cases h
          -- The text ends where the length field says.
          have hoctets := Utf8.decode_eq_ok_iff.1 htext
          have hlength : (Utf8.encode name).length = bs.field 0 2 := by
            rw [← hoctets, List.length_take]
            omega
          have hfield : bs.field 0 2 % 256 ^ 2 = bs.field 0 2 := Bytes.field_mod (by omega)
          have hprefix : Bytes.littleEndian 2 (bs.field 0 2) = bs.take 2 :=
            Bytes.littleEndian_field (by omega)
          refine ⟨?_, ?_⟩
          · rw [NameFits, hlength, maxName]
            omega
          · rw [nameOctets, hlength, hprefix, ← hoctets, List.append_assoc,
              List.take_append_drop, List.take_append_drop]
        next => cases h
  · rintro ⟨hfits, rfl⟩
    exact decodeName_encodeName (encodeName_of_fits hfits) rest

/-- A name that is cut off, in its length or behind it, is rejected for lack of octets. -/
theorem decodeName_cut (field : String) {cut more : Bytes} (hfits : NameFits name)
    (hmore : more ≠ []) (hcut : nameOctets name = cut ++ more) :
    ∃ needed, decodeName field cut = .error (.insufficientData needed cut.length) ∧
      cut.length < needed := by
  by_cases hsize : cut.length < 2
  · exact ⟨2, if_pos hsize, hsize⟩
  -- The length field is complete, and says how much is missing.
  have hfield : cut.field 0 2 = (Utf8.encode name).length := by
    have hwhole := field_nameOctets hfits []
    rw [List.append_nil, hcut, Bytes.field_append (by omega)] at hwhole
    exact hwhole
  have hlength : 2 + (Utf8.encode name).length = cut.length + more.length := by
    rw [← length_nameOctets, hcut, List.length_append]
  have hpos : 0 < more.length := List.length_pos_iff.2 hmore
  have hshort : (cut.drop 2).length < cut.field 0 2 := by
    rw [List.length_drop, hfield]
    omega
  refine ⟨cut.field 0 2 + 2, ?_, by omega⟩
  rw [decodeName, if_neg hsize]
  exact if_pos hshort

/-! ## Headers -/

variable {h : RequestHeader} {body octets : Bytes}

/-- A header is written as its names, the service first. The first name that does not fit is the
reason why a header cannot be written. -/
theorem encode_eq (h : RequestHeader) :
    h.encode =
      if NameFits h.service then
        if NameFits h.method then .ok (nameOctets h.service ++ nameOctets h.method)
        else .error (tooLong methodField h.method)
      else .error (tooLong serviceField h.service) := by
  unfold encode
  by_cases hservice : NameFits h.service
  · by_cases hmethod : NameFits h.method
    · rw [encodeName_of_fits hservice, encodeName_of_fits hmethod, if_pos hservice, if_pos hmethod]
      rfl
    · rw [encodeName_of_fits hservice, encodeName_of_not_fits hmethod, if_pos hservice,
        if_neg hmethod]
      rfl
  · rw [encodeName_of_not_fits hservice, if_neg hservice]
    rfl

theorem encode_eq_ok_iff :
    h.encode = .ok octets ↔
      (NameFits h.service ∧ NameFits h.method) ∧
        octets = nameOctets h.service ++ nameOctets h.method := by
  rw [encode_eq]
  split
  · split <;> simp_all [eq_comm]
  · simp_all

theorem encode_eq_error_iff {e : WireError} :
    h.encode = .error e ↔
      (¬NameFits h.service ∧ e = tooLong serviceField h.service) ∨
        (NameFits h.service ∧ ¬NameFits h.method ∧ e = tooLong methodField h.method) := by
  rw [encode_eq]
  split
  · split <;> simp_all [eq_comm]
  · simp_all [eq_comm]

/-- A header is read from its own octets only, and what follows them is left over. -/
theorem decode_eq_ok_iff :
    decode bs = .ok (h, body) ↔ ∃ octets, h.encode = .ok octets ∧ bs = octets ++ body := by
  constructor
  · intro hdecode
    unfold decode at hdecode
    cases hservice : decodeName serviceField bs with
    | error defect => simp [hservice, bind, Except.bind] at hdecode
    | ok found =>
      obtain ⟨service, rest⟩ := found
      cases hmethod : decodeName methodField rest with
      | error defect => simp [hservice, hmethod, bind, Except.bind] at hdecode
      | ok found =>
        obtain ⟨method, left⟩ := found
        simp only [hservice, hmethod, bind, Except.bind, pure, Except.pure] at hdecode
        cases hdecode
        obtain ⟨hfits, rfl⟩ := decodeName_eq_ok_iff.1 hservice
        obtain ⟨hfits', rfl⟩ := decodeName_eq_ok_iff.1 hmethod
        exact ⟨_, encode_eq_ok_iff.2 ⟨⟨hfits, hfits'⟩, rfl⟩, (List.append_assoc _ _ _).symm⟩
  · rintro ⟨octets, hencode, rfl⟩
    exact decode_encode hencode body

/-- A header that is cut off is rejected for lack of octets, wherever it is cut. -/
theorem decode_cut {cut more : Bytes} (hmore : more ≠ []) (hencode : h.encode = .ok (cut ++ more)) :
    ∃ needed available, decode cut = .error (.insufficientData needed available) ∧
      available < needed := by
  obtain ⟨⟨hservice, hmethod⟩, hoctets⟩ := encode_eq_ok_iff.1 hencode
  rcases List.append_eq_append_iff.1 hoctets with ⟨missing, hcut, rfl⟩ | ⟨cut', rfl, hcut⟩
  · by_cases hmissing : missing = []
    · -- It is cut between the names.
      rw [hmissing, List.append_nil] at hcut
      have hrest : decodeName serviceField cut = .ok (h.service, []) :=
        decodeName_eq_ok_iff.2 ⟨hservice, by rw [hcut, List.append_nil]⟩
      refine ⟨2, 0, ?_, by omega⟩
      rw [decode, hrest]
      rfl
    · obtain ⟨needed, hdecode, hlt⟩ := decodeName_cut serviceField hservice hmissing hcut
      refine ⟨needed, cut.length, ?_, hlt⟩
      rw [decode, hdecode]
      rfl
  · have hrest : decodeName serviceField (nameOctets h.service ++ cut') = .ok (h.service, cut') :=
      decodeName_eq_ok_iff.2 ⟨hservice, rfl⟩
    obtain ⟨needed, hdecode, hlt⟩ := decodeName_cut methodField hmethod hmore hcut
    refine ⟨needed, cut'.length, ?_, hlt⟩
    rw [decode, hrest]
    simp only [bind, Except.bind, hdecode]

end RequestHeader

/-! ## Payloads of requests -/

/-- The payload of a request is its header, and behind it what the codec appends. -/
theorem encodeRequest_eq_ok_iff {c : Codec} {service method : String} {argument : Datum}
    {payload : Bytes} :
    encodeRequest c service method argument = .ok payload ↔
      ∃ octets appended, RequestHeader.encode { service, method } = .ok octets ∧
        c.encode argument = .ok appended ∧ payload = octets ++ appended := by
  constructor
  · intro h
    unfold encodeRequest at h
    split at h
    · cases h
    next octets hoctets =>
      split at h
      · cases h
      next appended happended =>
        cases h
        exact ⟨octets, appended, hoctets, happended, rfl⟩
  · rintro ⟨octets, appended, hoctets, happended, rfl⟩
    simp only [encodeRequest, hoctets, happended]

namespace RequestHeader

/-- The codec of request headers accepts exactly its format. For every header:

* an octet string is read as this header and a body exactly if both names are at most 65535 octets
  long and the octet string is what is written for the header, followed by the body;
* if both names are in range the header is written, and reading undoes writing for every body;
* writing a header that was read gives the octets that were consumed;
* what is written, cut off anywhere before its end, is rejected because more octets are needed than
  there are;
* writing fails exactly if a name is too long, and the error names the first such field;
* whatever the codec, the payload of a request to the service and the method is the header and
  then what the codec appends for the argument, and there is one exactly if there are both. -/
theorem reads_exactly_its_format (h : RequestHeader) :
    (∀ bs body, decode bs = .ok (h, body) ↔
      ((Utf8.encode h.service).length ≤ 65535 ∧ (Utf8.encode h.method).length ≤ 65535) ∧
        ∃ octets, h.encode = .ok octets ∧ bs = octets ++ body) ∧
    ((Utf8.encode h.service).length ≤ 65535 → (Utf8.encode h.method).length ≤ 65535 →
      ∃ octets, h.encode = .ok octets ∧ ∀ body, decode (octets ++ body) = .ok (h, body)) ∧
    (∀ bs body, decode bs = .ok (h, body) →
      let consumed := bs.length - body.length
      h.encode = .ok (bs.take consumed) ∧ body = bs.drop consumed) ∧
    (∀ cut more, more ≠ [] → h.encode = .ok (cut ++ more) →
      ∃ needed available, decode cut = .error (.insufficientData needed available) ∧
        available < needed) ∧
    (∀ e, h.encode = .error e ↔
      (65535 < (Utf8.encode h.service).length ∧ e = tooLong "service_name" h.service) ∨
        ((Utf8.encode h.service).length ≤ 65535 ∧ 65535 < (Utf8.encode h.method).length ∧
          e = tooLong "service_method" h.method)) ∧
    ∀ (c : Codec) (argument : Datum) (payload : Bytes),
      encodeRequest c h.service h.method argument = .ok payload ↔
        ∃ octets appended, h.encode = .ok octets ∧ c.encode argument = .ok appended ∧
          payload = octets ++ appended := by
  refine ⟨?_, ?_, ?_, ?_, ?_, fun c argument payload => encodeRequest_eq_ok_iff⟩
  · intro bs body
    rw [decode_eq_ok_iff]
    constructor
    · rintro ⟨octets, hencode, hbs⟩
      exact ⟨(encode_eq_ok_iff.1 hencode).1, octets, hencode, hbs⟩
    · exact And.right
  · intro hservice hmethod
    have hencode : h.encode = .ok (nameOctets h.service ++ nameOctets h.method) :=
      encode_eq_ok_iff.2 ⟨⟨hservice, hmethod⟩, rfl⟩
    exact ⟨_, hencode, decode_encode hencode⟩
  · intro bs body hdecode consumed
    obtain ⟨octets, hencode, hbs⟩ := decode_eq_ok_iff.1 hdecode
    have hconsumed : consumed = octets.length := by
      show bs.length - body.length = octets.length
      rw [hbs, List.length_append, Nat.add_sub_cancel]
    rw [hconsumed, hbs, List.take_left, List.drop_left]
    exact ⟨hencode, rfl⟩
  · intro cut more hmore hencode
    exact decode_cut hmore hencode
  · intro e
    rw [encode_eq_error_iff, NameFits, NameFits, Nat.not_le, Nat.not_le]
    rfl

/-- A header is read before a body of one octet, and not read if its first name lacks an octet. -/
theorem echo_say_is_read :
    let h : RequestHeader := { service := "Echo", method := "Say" }
    let service : Bytes := [4, 0, 0x45, 0x63, 0x68, 0x6F]
    let method : Bytes := [3, 0, 0x53, 0x61, 0x79]
    ((Utf8.encode h.service).length ≤ 65535 ∧ (Utf8.encode h.method).length ≤ 65535) ∧
      h.encode = .ok (service ++ method) ∧
      decode (service ++ method ++ [7]) = .ok (h, [7]) ∧
      (0x6F :: method ≠ [] ∧ ∃ needed available,
        decode (service.take 5) = .error (.insufficientData needed available) ∧
          available < needed) := by
  intro h service method
  obtain ⟨hread, -, -, hcut, -⟩ := reads_exactly_its_format h
  have hfits : (Utf8.encode h.service).length ≤ 65535 ∧ (Utf8.encode h.method).length ≤ 65535 :=
    ⟨by decide, by decide⟩
  have hencode : h.encode = .ok (service ++ method) := by decide
  have hmore : 0x6F :: method ≠ [] := by decide
  exact ⟨hfits, hencode, (hread _ _).2 ⟨hfits, _, hencode, rfl⟩, hmore,
    hcut (service.take 5) (0x6F :: method) hmore hencode⟩

end RequestHeader

end RemoteCall
