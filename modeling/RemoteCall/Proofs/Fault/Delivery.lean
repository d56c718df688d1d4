import RemoteCall.Proofs.CallError.Canonical
import RemoteCall.Proofs.Dispatch.Conclusion
import RemoteCall.Proofs.Json.RoundTrip
/-!
# Delivery of faults

A fault is a tree of causes. What the caller is told are its leaves (`Fault.leaves`): the fault is
written as JSON, read again at the other end, turned into a tree of errors and brought into
canonical form. Nothing on this way loses a leaf or changes their order. The way has one limit:
the writer goes as deep as the tree, but the reader does not, so that a fault of too many levels
(`Fault.levels`) is not read at all (`Fault.read_toJson`).
-/

namespace RemoteCall

namespace Fault

/-! ## The tree of causes -/

mutual

/-- How many faults lie on the longest way from a fault to a cause without causes. -/
def levels : Fault → Nat
  | mk _ _ causes => levelsOfAll causes + 1

/-- The most levels that one of several faults has. -/
def levelsOfAll : List Fault → Nat
  | [] => 0
  | f :: fs => max (levels f) (levelsOfAll fs)

end

mutual

/-- The faults without causes in the tree of a fault, from left to right. -/
def leaves : Fault → List Fault
  | mk kind message [] => [mk kind message []]
  | mk _ _ (cause :: causes) => leaves cause ++ leavesOfAll causes

/-- The faults without causes in several trees, from left to right. -/
def leavesOfAll : List Fault → List Fault
  | [] => []
  | f :: fs => leaves f ++ leavesOfAll fs

end

/-- Several faults have at most so many levels if each of them has. -/
theorem levelsOfAll_le_iff {fs : List Fault} {n : Nat} :
    levelsOfAll fs ≤ n ↔ ∀ f ∈ fs, f.levels ≤ n := by
  induction fs with
  | nil => simp [levelsOfAll]
  | cons f fs ih => rw [levelsOfAll, Nat.max_le, ih, List.forall_mem_cons]

mutual

/-- A tree has a leaf. -/
theorem leaves_ne_nil : (f : Fault) → f.leaves ≠ []
  | mk kind message [] => by simp [leaves]
  | mk kind message (cause :: causes) => by
    rw [leaves]
    exact List.append_ne_nil_of_left_ne_nil (leaves_ne_nil cause) _

end

mutual

/-- A leaf has no causes. -/
theorem causes_of_mem_leaves : (f : Fault) → ∀ leaf ∈ f.leaves, leaf.causes = []
  | mk kind message [] => by simp [leaves, Fault.causes]
  | mk kind message (cause :: causes) => by
    intro leaf hleaf
    rw [leaves] at hleaf
    rcases List.mem_append.1 hleaf with hleaf | hleaf
    · exact causes_of_mem_leaves cause leaf hleaf
    · exact causes_of_mem_leavesOfAll causes leaf hleaf

/-- A leaf of several trees has no causes. -/
theorem causes_of_mem_leavesOfAll : (fs : List Fault) → ∀ leaf ∈ leavesOfAll fs, leaf.causes = []
  | [] => by simp [leavesOfAll]
  | f :: fs => by
    intro leaf hleaf
    rw [leavesOfAll] at hleaf
    rcases List.mem_append.1 hleaf with hleaf | hleaf
    · exact causes_of_mem_leaves f leaf hleaf
    · exact causes_of_mem_leavesOfAll fs leaf hleaf

end

/-! ## Faults in JSON -/

theorem toJsons_eq_map (fs : List Fault) : toJsons fs = fs.map toJson := by
  induction fs with
  | nil => rfl
  | cons f fs ih => rw [toJsons, ih, List.map_cons]

/-- A fault is written as an object. -/
theorem writeOnto_toJson_eq_cons (f : Fault) (rest : Bytes) :
    ∃ more, Json.writeOnto f.toJson rest = 0x7B :: more := by
  obtain ⟨kind, message, causes⟩ := f
  cases causes <;> exact ⟨_, rfl⟩

variable {causes : Json.Reader (List Fault)}

/-- A field of a fault is read into its empty place. -/
theorem readMember_kind (d : Draft) (hd : d.kind = none) (kind : String) (rest : Bytes) :
    Json.readMember (fields causes) "kind" d (Json.writeString kind rest) =
      some ({ d with kind := some kind }, rest) := by
  simp [Json.readMember, fields, Json.Field.ofPlace, hd, Json.readString_writeString]

theorem readMember_message (d : Draft) (hd : d.message = none) (message : String) (rest : Bytes) :
    Json.readMember (fields causes) "message" d (Json.writeString message rest) =
      some ({ d with message := some message }, rest) := by
  simp [Json.readMember, fields, Json.Field.ofPlace, hd, Json.readString_writeString]

theorem readMember_causes (d : Draft) (hd : d.causes = none) (text : Bytes) :
    Json.readMember (fields causes) "causes" d text =
      (causes text).map fun (fs, rest) => ({ d with causes := some fs }, rest) := by
  simp [Json.readMember, fields, Json.Field.ofPlace, hd]

/-- The kind and the message of a fault are read one after the other. What follows them is either
the end of the fault or the member with its causes. -/
theorem readWith_kind_message (causes : Json.Reader (List Fault)) (kind message : String)
    (tail : Bytes) :
    ∃ bound : Bytes, bound ≠ [] ∧
      readWith causes (0x7B :: Json.writeString "kind" (0x3A :: Json.writeString kind
        (0x2C :: Json.writeString "message" (0x3A :: Json.writeString message tail)))) =
      Option.bind
        (match Json.skipBlanks tail with
        | 0x2C :: rest => Json.readMembers (Json.readMember (fields causes)) bound
            ⟨some kind, some message, none⟩ rest
        | 0x7D :: rest => some (⟨some kind, some message, none⟩, rest)
        | _ => none)
        fun (d, rest) => d.finish.map (·, rest) := by
  obtain ⟨bound, hbound, htail⟩ := Json.readObjectTail_writeString
    (Json.readMember (fields causes)) "kind" ⟨none, none, none⟩ (0x3A ::
      Json.writeString kind (0x2C :: Json.writeString "message" (0x3A ::
        Json.writeString message tail)))
  -- There are octets enough for three members.
  have hlength := Json.length_writeString kind
    (0x2C :: Json.writeString "message" (0x3A :: Json.writeString message tail))
  rw [List.length_cons] at hbound hlength
  have hne {bound : Bytes} (h : 0 < bound.length) : bound ≠ [] := List.ne_nil_of_length_pos h
  refine ⟨bound.tail.tail, hne (by simp only [List.length_tail]; omega), ?_⟩
  rw [readWith, Json.readRecord_object, htail, Json.readMembers_writeString (hne (by omega)),
    readMember_kind _ rfl, Option.bind_some]
  simp only [Json.skipBlanks_cons (show Json.isBlank 0x2C = false by decide)]
  rw [Json.readMembers_writeString (hne (by rw [List.length_tail]; omega)),
    readMember_message _ rfl]
  rfl

/-- A fault without causes is read, whatever the reader of causes. -/
theorem readWith_toJson_leaf (kind message : String) (rest : Bytes) :
    readWith causes (Json.writeOnto (mk kind message []).toJson rest) =
      some (mk kind message [], rest) := by
  obtain ⟨bound, -, hread⟩ := readWith_kind_message causes kind message (0x7D :: rest)
  have hend := Json.skipBlanks_cons (show Json.isBlank 0x7D = false by decide) rest
  simp only [hend, Option.bind_some] at hread
  exact hread

/-- A fault with causes is read if its causes are. -/
theorem readWith_toJson_node (kind message : String) {fs : List Fault} (hne : fs ≠ [])
    {good : Prop} [Decidable good] (rest : Bytes)
    (h : causes (Json.writeOnto (.array (fs.map toJson)) (0x7D :: rest)) =
      if good then some (fs, 0x7D :: rest) else none) :
    readWith causes (Json.writeOnto (mk kind message fs).toJson rest) =
      if good then some (mk kind message fs, rest) else none := by
  obtain ⟨f, fs, rfl⟩ := List.exists_cons_of_ne_nil hne
  obtain ⟨bound, hbound, hread⟩ := readWith_kind_message causes kind message
    (0x2C :: Json.writeString "causes" (0x3A :: Json.writeOnto (.array ((f :: fs).map toJson))
      (0x7D :: rest)))
  have hform : (mk kind message (f :: fs)).toJson =
      .object [("kind", .string kind), ("message", .string message),
        ("causes", .array ((f :: fs).map toJson))] := by
    rw [toJson, toJsons_eq_map, List.map_cons]
  have hcomma (text : Bytes) := Json.skipBlanks_cons (show Json.isBlank 0x2C = false by decide) text
  have hend := Json.skipBlanks_cons (show Json.isBlank 0x7D = false by decide) rest
  simp only [hcomma, Json.readMembers_writeString hbound, readMember_causes, h] at hread
  rw [hform]
  refine hread.trans ?_
  by_cases hgood : good
  · simp [hgood, hend, Draft.finish]
  · simp [hgood]

/-- A fault that was written is read if it has not too many levels. Each level but the last takes
two levels of the text, one for the fault and one for the list of its causes. -/
theorem read_toJson (n : Nat) (f : Fault) (rest : Bytes) :
    read (2 * n + 1) (Json.writeOnto f.toJson rest) =
      if f.levels ≤ n + 1 then some (f, rest) else none := by
  induction n generalizing f rest with
  | zero =>
    obtain ⟨kind, message, causes⟩ := f
    cases causes with
    | nil => simp [levels, levelsOfAll, read, readWith_toJson_leaf]
    | cons f fs =>
      have hlevels : ¬(mk kind message (f :: fs)).levels ≤ 1 := by
        have hpos : 0 < f.levels := by cases f; simp [levels]
        simp only [levels, levelsOfAll]
        omega
      -- There is no level left for the list.
      have hnone : (none : Option (List Fault × Bytes)) =
          if False then some (f :: fs, 0x7D :: rest) else none := by simp
      rw [if_neg hlevels, read, readWith_toJson_node kind message (List.cons_ne_nil f fs) rest hnone]
      simp
  | succ n ih =>
    obtain ⟨kind, message, causes⟩ := f
    have hread : read (2 * (n + 1) + 1) = readWith (Json.readList (read (2 * n + 1))) := rfl
    rw [hread]
    cases causes with
    | nil => simp [levels, levelsOfAll, readWith_toJson_leaf]
    | cons f fs =>
      have hlist := Json.readList_writeArray (List.cons_ne_nil f fs)
        (fun g _ => writeOnto_toJson_eq_cons g) (fun g _ rest => ih g rest) (0x7D :: rest)
      rw [readWith_toJson_node kind message (List.cons_ne_nil f fs) rest hlist]
      have hlevels : (mk kind message (f :: fs)).levels ≤ n + 1 + 1 ↔
          ∀ g ∈ f :: fs, g.levels ≤ n + 1 := by
        rw [levels, Nat.add_le_add_iff_right, levelsOfAll_le_iff]
      simp only [hlevels]

/-- What a reader of faults makes of the body of a faulted response. -/
theorem decode_write (f : Fault) :
    Codec.json.decode .fault f.toJson.write =
      if f.levels ≤ 64 then .ok f else .error (.decode "*") := by
  -- The limit of 127 levels leaves room for 64 faults and 63 lists.
  have hread : ReplyType.fault.read f.toJson.write =
      if f.levels ≤ 64 then some (f, []) else none := f.read_toJson 63 []
  simp only [Codec.json, Json.readWhole, hread]
  by_cases hlevels : f.levels ≤ 64
  · simp only [if_pos hlevels]
    rfl
  · simp only [if_neg hlevels]

end Fault

/-! ## Errors of callers -/

namespace CallError

mutual

/-- The failures of the error that a fault stands for are its leaves. -/
theorem leaves_ofFault : (f : Fault) → (ofFault f).leaves = f.leaves.map .remote
  | .mk kind message [] => rfl
  | .mk kind message (cause :: causes) => by
    rw [ofFault, leaves, leavesOfAll, leaves_ofFault cause, leavesOfAll_ofFaults causes,
      Fault.leaves, List.map_append]

/-- The failures of the errors that several faults stand for are the leaves of these. -/
theorem leavesOfAll_ofFaults : (fs : List Fault) →
    leavesOfAll (ofFaults fs) = (Fault.leavesOfAll fs).map .remote
  | [] => rfl
  | f :: fs => by
    rw [ofFaults, leavesOfAll, leaves_ofFault f, leavesOfAll_ofFaults fs, Fault.leavesOfAll,
      List.map_append]

end

/-- The canonical form of the error that a fault stands for is its leaf, if it has only one, or else
the flat composite of all its leaves. -/
theorem normalize_ofFault (f : Fault) :
    (∃ leaf, f.leaves = [leaf] ∧ (ofFault f).normalize = failure (.remote leaf)) ∨
      (2 ≤ f.leaves.length ∧
        (ofFault f).normalize = composite (f.leaves.map fun leaf => failure (.remote leaf))) := by
  rw [normalize_eq_ofLeaves, leaves_ofFault]
  cases hleaves : f.leaves with
  | nil => exact absurd hleaves f.leaves_ne_nil
  | cons leaf others =>
    cases others with
    | nil => exact .inl ⟨leaf, rfl, rfl⟩
    | cons other others =>
      refine .inr ⟨by simp, ?_⟩
      rw [ofLeaves_of_length_ne (by simp), List.map_map]
      rfl

end CallError

/-! ## From the service to the caller -/

/-- A fault reaches the caller with all its causes, in order. It can always be encoded, and the
response reports a fault. A response to an outstanding call of the dispatcher concludes this call
and no other. If the fault has at most 64 levels, the body is read as the same fault, and the
error of the call is its only leaf, or the composite of all its leaves from left to right. If it has
more, the response cannot be decoded, and the call fails with that. -/
theorem Fault.reaches_caller (f : Fault) :
    ∃ payload body,
      encodeFault f = .ok payload ∧
      ResponseHeader.decode payload = .ok ({ faulted := true }, body) ∧
      (f.levels ≤ 64 → Codec.json.decode .fault body = .ok f) ∧
      f.leaves ≠ [] ∧ (∀ leaf ∈ f.leaves, leaf.causes = []) ∧
      ∀ (d : Dispatcher) (envelope : Envelope) (call : OutstandingCall),
        envelope.kind = .response → envelope.systemId = d.systemId →
        d.calls.find? envelope.correlationId = some call →
        ∃ e : CallError,
          d.Concludes (d.handleResponse envelope payload) envelope.correlationId call (.error e) ∧
          (f.levels ≤ 64 →
            (∃ leaf, f.leaves = [leaf] ∧ e = .failure (.remote leaf)) ∨
            (2 ≤ f.leaves.length ∧
              e = .composite (f.leaves.map fun leaf => .failure (.remote leaf)))) ∧
          (64 < f.levels → ∃ reason, e = .failure (.decode reason)) := by
  have hheader : ResponseHeader.decode (ResponseHeader.flags { faulted := true } :: f.toJson.write) =
      .ok ({ faulted := true }, f.toJson.write) := rfl
  refine ⟨_, f.toJson.write, rfl, hheader, ?_, f.leaves_ne_nil, f.causes_of_mem_leaves, ?_⟩
  · intro hlevels
    rw [f.decode_write, if_pos hlevels]
  intro d envelope call hkind hsystem hfind
  rw [Dispatcher.handleResponse_eq_complete hkind hsystem hfind]
  -- The call is concluded in any case; the number of levels decides with which error.
  by_cases hlevels : f.levels ≤ 64
  · have hjudge : call.judge (ResponseHeader.flags { faulted := true } :: f.toJson.write) =
        .error (CallError.ofFault f).normalize := by
      simp only [OutstandingCall.judge, hheader, f.decode_write, if_pos hlevels]
    rw [hjudge]
    refine ⟨_, Dispatcher.concludes_complete hfind _, fun _ => CallError.normalize_ofFault f, ?_⟩
    intro hmore
    exact absurd hlevels (Nat.not_le.2 hmore)
  · have hjudge : call.judge (ResponseHeader.flags { faulted := true } :: f.toJson.write) =
        .error (.failure (.decode (CodecError.decode "*").message)) := by
      simp only [OutstandingCall.judge, hheader, f.decode_write, if_neg hlevels]
    rw [hjudge]
    refine ⟨_, Dispatcher.concludes_complete hfind _, ?_, fun _ => ⟨_, rfl⟩⟩
    intro hfew
    exact absurd hfew hlevels

/-- Two leaves at different depths. -/
theorem Fault.nested_causes_reach_caller :
    let endpoint : Endpoint := { scheme := "test", host := "local", port := none, path := "Calc" }
    let request : CallRequest :=
      { codec := .json, service := "Calc", method := "Count", argument := .json .null
        replyType := .any }
    let c : OutstandingCall :=
      { id := 1, method := "Count", codec := .json, replyType := .any, box := 0 }
    let d := ((Dispatcher.start 7 endpoint .default).accept request).2
    let envelope := (Envelope.request 7 1 0).responseTo 0
    let f := composite "both" [composite "first" [leaf "Overflow" "\n"], leaf "Missing" "é"]
    d.calls.find? envelope.correlationId = some c ∧ f.levels = 3 ∧
      ∃ payload, encodeFault f = .ok payload ∧
        d.Concludes (d.handleResponse envelope payload) 1 c (.error (.composite
          [.failure (.remote (leaf "Overflow" "\n")), .failure (.remote (leaf "Missing" "é"))])) := by
  intro endpoint request c d envelope f
  have hfind : d.calls.find? envelope.correlationId = some c := rfl
  have hlevels : f.levels = 3 := by decide
  obtain ⟨payload, -, hencode, -, -, -, -, hdelivered⟩ := f.reaches_caller
  obtain ⟨e, hconcludes, hfew, -⟩ := hdelivered d envelope c rfl rfl hfind
  refine ⟨hfind, hlevels, payload, hencode, ?_⟩
  rcases hfew (by rw [hlevels]; decide) with ⟨one, hone, -⟩ | ⟨-, rfl⟩
  · exact absurd (congrArg List.length hone) (show ¬2 = 1 by decide)
  · exact hconcludes

end RemoteCall
