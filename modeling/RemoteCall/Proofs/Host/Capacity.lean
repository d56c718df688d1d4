import Mathlib.Data.List.Perm.Subperm
import RemoteCall.Proofs.Dispatch.Journal
import RemoteCall.Proofs.Host.Requests
/-!
# The limit of outstanding calls

A dispatcher with a limit never has more outstanding calls than that (`Dispatcher.Within`): a call
enters the table only if there is room for it, and everything else only takes calls out. There is no
room exactly if the limit has been reached.

A call for which there is no room, or whose request cannot be encoded, leaves no trace
(`Dispatcher.Traceless`). It uses up no id, nothing is handed to the transport, and all that happens
later happens as if the call had not been made. Its caller is the only one who is told.
-/

namespace RemoteCall

/-! ## Requests that cannot be encoded -/

/-- A request cannot be encoded because of its names, which have to fit into a header, or because of
its argument. A codec that gives the right reason says so. -/
theorem CallRequest.eq_encode {request : CallRequest} {e : CallError}
    (he : request.encode = .error e)
    (h : (∃ defect, RequestHeader.encode ⟨request.service, request.method⟩ = .error defect) ∨
      request.codec.Candid) : ∃ reason, e = .failure (.encode reason) := by
  rw [encode, encodeRequest] at he
  cases hheader : RequestHeader.encode ⟨request.service, request.method⟩ with
  | error defect =>
    rw [hheader] at he
    cases he
    exact ⟨_, rfl⟩
  | ok header =>
    -- The names fit, so that it is for the codec to give the reason.
    simp only [hheader, reduceCtorEq, exists_false, false_or] at he h
    split at he
    next defect hdefect =>
      obtain ⟨reason, rfl⟩ := h request.argument defect hdefect
      cases he
      exact ⟨_, rfl⟩
    next => cases he

namespace Dispatcher

variable {d d' : Dispatcher} {limit : Nat} {request : CallRequest} {e : CallError}

/-! ## The limit -/

/-- A dispatcher has a limit, and not more outstanding calls than that. -/
structure Within (limit : Nat) (d : Dispatcher) : Prop where
  limit_eq : d.limit = some limit
  outstanding_le : d.outstanding ≤ limit

/-- There are not more calls in the table if calls only leave it. -/
theorem Narrows.outstanding_le (h : d.Narrows d') : d'.outstanding ≤ d.outstanding := by
  have hnodup : d'.calls.entries.Nodup := d'.calls.nodup.of_map Prod.fst
  exact (hnodup.subperm h.entries_subset).length_le

namespace Within

theorem narrow (h : d.Within limit) (hnarrows : d.Narrows d') (hlimit : d'.limit = d.limit) :
    d'.Within limit where
  limit_eq := hlimit.trans h.limit_eq
  outstanding_le := Nat.le_trans hnarrows.outstanding_le h.outstanding_le

/-- A call is accepted only if there is room for it. -/
theorem accept {a : Admission} (h : d.Within limit) (haccepts : d.Accepts request a d') :
    d'.Within limit := by
  have hroom := haccepts.lt_limit limit h.limit_eq
  obtain ⟨calls, rfl, hentries⟩ := haccepts.state_eq
  refine ⟨h.limit_eq, ?_⟩
  rw [outstanding, Table.size, hentries, List.length_append, List.length_singleton]
  exact hroom

theorem take (h : d.Within limit) (s : Signal) : (d.take s).Within limit := by
  have hlimit : (d.take s).limit = d.limit := by
    obtain ⟨calls, pool, mail, hframe⟩ := d.frame_take s
    rw [hframe]
  exact h.narrow (d.narrows_take s) hlimit

theorem foldl_take (h : d.Within limit) (signals : List Signal) :
    (signals.foldl Dispatcher.take d).Within limit :=
  List.foldlRecOn (motive := Within limit) signals _ h fun _ hd s _ => hd.take s

/-- No move leads over the limit. -/
theorem move {hs : List Happening} (hmove : Move d hs d') (h : d.Within limit) :
    d'.Within limit := by
  -- Only the first of these moves brings a call into the table.
  cases hmove with
  | accept _ haccepts => exact h.accept haccepts
  | reach s => exact h.take s
  | @deliver worker _ _ =>
    have hlimit : (d.runWorker worker).limit = d.limit := by
      obtain ⟨pool, mail, hframe⟩ := d.frame_runWorker worker
      rw [hframe]
    exact h.narrow (d.narrows_runWorker worker) hlimit
  | skip nextId => exact ⟨h.limit_eq, h.outstanding_le⟩
  | leave _ => exact ⟨h.limit_eq, h.outstanding_le⟩

/-- There is no room for one more call exactly if the limit has been reached. -/
theorem refused_iff (h : d.Within limit) {payload : Bytes} (hencode : request.encode = .ok payload) :
    (d.accept request).1 = .error (.failure (.tooManyOutstandingCalls limit)) ↔
      d.outstanding = limit := by
  constructor
  · intro hresult
    cases haccept : d.accept request with
    | mk result d' =>
      rw [haccept] at hresult
      subst hresult
      -- The error is not the one for an id that is in use, so two reasons are left.
      cases refuses_of_accept haccept with
      | encoding hfails =>
        rw [hencode] at hfails
        cases hfails
      | limit _ _ hfull => exact Nat.le_antisymm h.outstanding_le hfull
  · intro hfull
    rw [accept_of_full hencode h.limit_eq (Nat.le_of_eq hfull.symm)]

end Within

/-- A new dispatcher has no outstanding calls. -/
theorem within_start (systemId : UInt64) (endpoint : Endpoint) (workers limit : Nat) :
    (start systemId endpoint
      { completionWorkers := workers, maxOutstandingCalls := some limit }).Within limit :=
  ⟨rfl, Nat.zero_le limit⟩

/-! ## Calls that leave no trace -/

/-- A call after some turns is refused with an error and leaves no trace. -/
structure Traceless (new : Dispatcher) (ops : List Operation) (request : CallRequest)
    (e : CallError) : Prop where
  /-- The dispatcher stays as it is. -/
  unchanged : (new.run ops).1.accept request = (.error e, (new.run ops).1)
  /-- Without the call the same happens, and leads to the same state. -/
  run_eq : ∀ transport more,
    new.run (ops ++ .call request transport :: more) = new.run (ops ++ more)
  /-- Everybody but the caller is told the same, whether the call is made or not. -/
  journal_eq : ∀ transport more, ∃ later,
    new.journal (ops ++ more) = new.journal ops ++ later ∧
    new.journal (ops ++ .call request transport :: more) =
      new.journal ops ++
        ((if (new.run ops).1.live then [.answered request (.error e)] else []) ++ later)
  /-- Without the call the transport is given the same requests. -/
  sent_eq : ∀ transport more,
    sentFrames (new.journal (ops ++ .call request transport :: more)) =
      sentFrames (new.journal (ops ++ more))
  /-- A host with the dispatcher stays as it is, with the transports and with all else. -/
  host_eq : ∀ (h : Host) node n, h.nodes[node]? = some n → n.dispatcher = (new.run ops).1 →
    h.call node request = (.error e, h)

/-- What a caller is told whose call is refused. -/
theorem notes_of_refused (h : d.accept request = (.error e, d))
    (transport : Envelope → Bytes → Transmission) :
    d.notes (.call request transport) = if d.live then [.answered request (.error e)] else [] := by
  rw [notes, h]

/-- A host stays as it is if a dispatcher refuses a call and stays as it is. -/
theorem call_of_unchanged (hunchanged : d.accept request = (.error e, d)) {h : Host} {node : Nat}
    {n : Node} (hnode : h.nodes[node]? = some n) (hd : n.dispatcher = d) :
    h.call node request = (.error e, h) := by
  subst hd
  have hsame : h.modifyDispatcher node (fun _ => n.dispatcher) = h := by
    have hnodes : h.nodes.modify node (fun n' => { n' with dispatcher := n.dispatcher }) = h.nodes := by
      -- The node is overwritten with what it has been, and the others are not touched.
      refine List.ext_getElem? fun i => ?_
      rw [List.getElem?_modify]
      split
      next hi =>
        subst hi
        rw [hnode]
        rfl
      next => exact Option.map_id'
    rw [Host.modifyDispatcher, Host.modifyNode, hnodes]
  rw [Host.call_of_refused hnode hunchanged, hsame]

/-- A call that is refused by a dispatcher which stays as it is leaves no trace. -/
theorem traceless_of_unchanged {new : Dispatcher} {ops : List Operation}
    (h : (new.run ops).1.accept request = (.error e, (new.run ops).1)) :
    new.Traceless ops request e := by
  have hnotes := notes_of_refused h
  have hjournal : ∀ transport more,
      new.journal (ops ++ .call request transport :: more) =
        new.journal ops ++
          ((if (new.run ops).1.live then [.answered request (.error e)] else []) ++
            (new.run ops).1.journal more) := by
    intro transport more
    rw [journal_append, journal, hnotes, step_of_refused h]
  refine ⟨h, fun transport more => ?_, fun transport more => ⟨_, journal_append _ _ _, hjournal _ _⟩,
    fun transport more => ?_, fun h' node n => call_of_unchanged h⟩
  · rw [run_append, run_append, run, step_of_refused h]
    rfl
  · rw [hjournal, journal_append, sentFrames_append, sentFrames_append, sentFrames_append]
    split <;> rfl

/-! ## Never more calls than the limit -/

/-- Whatever has happened to a dispatcher with a limit,

* there are not more outstanding calls than that, also while a request is given to the transport;
* a call whose request can be encoded is refused because there are too many exactly if as many calls
  are outstanding as the limit says;
* a call whose request cannot be encoded is refused for this reason in any case;
* either way a call that is refused leaves no trace. -/
theorem outstanding_calls_never_exceed_limit (systemId : UInt64) (endpoint : Endpoint)
    (workers limit : Nat) (ops : List Operation) :
    let new := start systemId endpoint
      { completionWorkers := workers, maxOutstandingCalls := some limit }
    let d := (new.run ops).1
    d.outstanding ≤ limit ∧
    ∀ request : CallRequest,
      (∀ a d', d.accept request = (.ok a, d') → ∀ signals : List Signal,
        (signals.foldl take d').outstanding ≤ limit) ∧
      (∀ payload, request.encode = .ok payload →
        ((d.accept request).1 = .error (.failure (.tooManyOutstandingCalls limit)) ↔
          d.outstanding = limit) ∧
        (d.outstanding = limit →
          new.Traceless ops request (.failure (.tooManyOutstandingCalls limit)))) ∧
      ∀ e, request.encode = .error e →
        new.Traceless ops request e ∧
        ((∃ defect, RequestHeader.encode ⟨request.service, request.method⟩ = .error defect) ∨
          request.codec.Candid → ∃ reason, e = .failure (.encode reason)) := by
  intro new d
  have hstart : new.Within limit := within_start systemId endpoint workers limit
  have hwithin : d.Within limit := (moves_run (orderly_start _ _ _) ops).preserves Within.move hstart
  refine ⟨hwithin.outstanding_le, fun request => ⟨?_, ?_, ?_⟩⟩
  · intro a d' haccept signals
    exact ((hwithin.accept (accepts_of_accept haccept)).foldl_take signals).outstanding_le
  · intro payload hencode
    refine ⟨hwithin.refused_iff hencode, fun hfull => ?_⟩
    exact traceless_of_unchanged (accept_of_full hencode hwithin.limit_eq (Nat.le_of_eq hfull.symm))
  · intro e hencode
    exact ⟨traceless_of_unchanged (accept_of_encode_error hencode), request.eq_encode hencode⟩

end Dispatcher

end RemoteCall
