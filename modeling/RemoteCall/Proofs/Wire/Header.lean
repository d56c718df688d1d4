import RemoteCall.Payload.Codec
import RemoteCall.Proofs.Wire.RoundTrip
/-!
# Headers that were written

What has been written as the header of a request is read as the same header, and what follows it is
left over. The payload of a request therefore tells the far end the service and the method, and
hands it the argument as the codec of the caller encoded it (`decode_of_encodeRequest`).
-/

namespace RemoteCall

/-- The octets of a text encode this text. -/
theorem Utf8.decode_encode (s : String) : Utf8.decode (Utf8.encode s) = .ok s := by
  rw [Utf8.decode, Utf8.decode?_encode]

namespace RequestHeader

/-- A name that was written is read again, whatever follows it. -/
theorem decodeName_encodeName {field name : String} {octets : Bytes}
    (h : encodeName field name = .ok octets) (rest : Bytes) :
    decodeName field (octets ++ rest) = .ok (name, rest) := by
  unfold encodeName at h
  by_cases hlong : maxName < (Utf8.encode name).length
  · rw [if_pos hlong] at h
    cases h
  rw [if_neg hlong] at h
  cases h
  -- The length field holds the length of every name that is allowed.
  have hmod : (Utf8.encode name).length % 256 ^ 2 = (Utf8.encode name).length := by
    rw [maxName] at hlong
    exact Nat.mod_eq_of_lt (by omega)
  have hdrop : (Bytes.littleEndian 2 (Utf8.encode name).length ++ Utf8.encode name ++ rest).drop 2 =
      Utf8.encode name ++ rest := by
    rw [List.append_assoc, List.drop_left' (Bytes.length_littleEndian _ _)]
  have hfield : (Bytes.littleEndian 2 (Utf8.encode name).length ++ Utf8.encode name ++ rest).field
      0 2 = (Utf8.encode name).length := by
    rw [List.append_assoc, Bytes.field_littleEndian, hmod]
  have hsize : ¬(Bytes.littleEndian 2 (Utf8.encode name).length ++ Utf8.encode name ++
      rest).length < 2 := by
    rw [List.append_assoc, List.length_append, Bytes.length_littleEndian]
    omega
  have hbody : ¬(Utf8.encode name ++ rest).length < (Utf8.encode name).length := by
    rw [List.length_append]
    omega
  rw [decodeName, if_neg hsize]
  simp only [hdrop, hfield, if_neg hbody, List.take_left, List.drop_left, Utf8.decode_encode]

/-- A header that was written is read again, and what follows it is left over. -/
theorem decode_encode {h : RequestHeader} {octets : Bytes} (hencode : h.encode = .ok octets)
    (body : Bytes) : decode (octets ++ body) = .ok (h, body) := by
  unfold encode at hencode
  cases hservice : encodeName serviceField h.service with
  | error defect => simp [hservice, bind, Except.bind] at hencode
  | ok service =>
    cases hmethod : encodeName methodField h.method with
    | error defect => simp [hservice, hmethod, bind, Except.bind] at hencode
    | ok method =>
      simp only [hservice, hmethod, bind, Except.bind, pure, Except.pure] at hencode
      cases hencode
      -- The service is in front, and the method follows it.
      rw [decode, List.append_assoc, decodeName_encodeName hservice]
      simp only [bind, Except.bind, decodeName_encodeName hmethod]
      rfl

end RequestHeader

/-- The payload of a request is read as the service and the method that are called, with the
argument as it was encoded. -/
theorem decode_of_encodeRequest {c : Codec} {service method : String} {argument : Datum}
    {payload : Bytes} (h : encodeRequest c service method argument = .ok payload) :
    ∃ body, c.encode argument = .ok body ∧
      RequestHeader.decode payload = .ok ({ service, method }, body) := by
  unfold encodeRequest at h
  split at h
  · cases h
  next header hheader =>
    split at h
    · cases h
    next body hbody =>
      cases h
      exact ⟨body, hbody, RequestHeader.decode_encode hheader body⟩

end RemoteCall
