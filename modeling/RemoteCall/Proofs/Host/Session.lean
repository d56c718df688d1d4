import RemoteCall.Host.Calls
import RemoteCall.Proofs.Dispatch.Exchange
/-!
# Sessions

In a session callers make calls through one dispatcher of a host and keep what they get back: an
error, or the number of a future. `Session.Serves` ties what they hold to an exchange of the
dispatcher, and `Session.Serves.result?_eq` says which results they find. It does not matter which
transport the dispatcher has.
-/

namespace RemoteCall

/-- The outcome for the caller of a request that is answered with what a function makes of its
payload. -/
def CallRequest.expected (F : Bytes → Bytes) (r : CallRequest) : Outcome :=
  match r.encode with
  | .error e => .error e
  | .ok payload =>
    let c : OutstandingCall :=
      { id := 0, method := r.method, codec := r.codec, replyType := r.replyType, box := 0 }
    (c.yield (c.judge (F payload))).map fun x => ⟨r.replyType, x⟩

namespace OutstandingCall

end OutstandingCall

/-- The future of a call that the dispatcher of a node has accepted. -/
def Posting.future (node : Nat) (x : Posting) : Future :=
  { node
    box := x.admission.box
    id := x.admission.id
    type := x.request.replyType
    status := .pending }

namespace Host

/-- Changing a dispatcher or its transport changes the node with its number. -/
theorem nodes_modifyNode {h : Host} {node : Nat} {n : Node} (hnode : h.nodes[node]? = some n)
    (f : Node → Node) : (h.modifyNode node f).nodes[node]? = some (f n) := by
  simp [modifyNode, hnode]

/-- A node that is not changed stays as it is. -/
theorem modifyNode_eq_self (h : Host) (node : Nat) {f : Node → Node} (hf : ∀ n, f n = n) :
    h.modifyNode node f = h := by
  have hid : f = id := funext hf
  rw [modifyNode, hid, List.modify_id]

/-- A call that the dispatcher refuses. -/
theorem call_of_refused {h : Host} {node : Nat} {n : Node} (hnode : h.nodes[node]? = some n)
    {request : CallRequest} {e : CallError} {d : Dispatcher}
    (haccept : n.dispatcher.accept request = (.error e, d)) :
    h.call node request = (.error e, h.modifyDispatcher node fun _ => d) := by
  simp [call, onDispatcher, hnode, haccept]

/-- A call that the dispatcher accepts and whose request the transport takes. -/
theorem call_of_queued {h h' : Host} {node : Nat} {n : Node} (hnode : h.nodes[node]? = some n)
    {request : CallRequest} {a : Admission} {d : Dispatcher}
    (haccept : n.dispatcher.accept request = (.ok a, d))
    (hsend : (h.modifyDispatcher node fun _ => d).send node a = (.queued, h')) :
    h.call node request = (.ok (h'.futures.length, a.id),
      { h' with futures := h'.futures ++ [Posting.future node ⟨request, a⟩] }) := by
  have hnote : h'.modifyDispatcher node (Dispatcher.noteSend · a.id .queued) = h' :=
    h'.modifyNode_eq_self node fun _ => rfl
  simp [call, onDispatcher, hnode, haccept, hsend, hnote, Posting.future]

end Host

/-- A host, and what the callers of one of its dispatchers were given for their calls, in order. -/
structure Session where
  /-- The host. -/
  host : Host
  /-- What each caller was given: an error, or the number of a future. -/
  returned : List (Except CallError Nat)

namespace Session

/-- One more caller makes a call. -/
def call (s : Session) (node : Nat) (request : CallRequest) : Session :=
  let (r, host) := s.host.call node request
  { host, returned := s.returned ++ [r.map Prod.fst] }

/-- The callers and the dispatcher of a session, after the calls of a log, of which those in
flight have not been answered. -/
structure Serves (F : Bytes → Bytes) (node : Nat) (s : Session) (d : Dispatcher) (log : CallLog)
    (inFlight : List Posting) : Prop where
  /-- The dispatcher is in an exchange. -/
  exchange : d.Exchange F (postings log) inFlight
  /-- Its ids are in order. -/
  numbers : d.Numbers log
  /-- Every caller was given something. -/
  length_eq : s.returned.length = log.length
  /-- A caller whose call was refused was given the error. -/
  refused : ∀ (i : Nat) (request : CallRequest) (e : CallError),
    log[i]? = some (request, .error e) → s.returned[i]? = some (.error e)
  /-- A caller whose call was accepted was given a future of its own. -/
  accepted : ∀ (i : Nat) (request : CallRequest) (a : Admission),
    log[i]? = some (request, .ok a) → ∃ k, s.returned[i]? = some (.ok k) ∧
      s.host.futures[k]? = some (Posting.future node ⟨request, a⟩)

namespace Serves

variable {F : Bytes → Bytes} {node : Nat} {s : Session} {d d' : Dispatcher} {log : CallLog}
  {inFlight inFlight' : List Posting}

/-- The order of the requests in flight does not matter. -/
theorem perm (h : s.Serves F node d log inFlight) (hperm : inFlight.Perm inFlight') :
    s.Serves F node d log inFlight' :=
  ⟨h.exchange.perm hperm, h.numbers, h.length_eq, h.refused, h.accepted⟩

/-- The host may change in everything but the futures. -/
theorem mono_host {host : Host} (h : s.Serves F node d log inFlight)
    (hfutures : host.futures = s.host.futures) : Serves F node { s with host } d log inFlight := by
  refine ⟨h.exchange, h.numbers, h.length_eq, h.refused, ?_⟩
  rw [hfutures]
  exact h.accepted

/-- An answer to a request in flight reaches the dispatcher. -/
theorem answer {x : Posting} {rest : List Posting} (h : s.Serves F node d log (x :: rest))
    (host : Host) (hfutures : host.futures = s.host.futures) :
    Serves F node { s with host }
      (d.handleResponse (x.admission.envelope.responseTo (F x.admission.payload).length)
        (F x.admission.payload)) log rest := by
  have hexchange := h.exchange.answer
  refine ⟨hexchange, h.numbers.mono ?_ ?_, h.length_eq, h.refused, ?_⟩
  · obtain ⟨calls, pool, mail, hframe⟩ := d.frame_handleResponse
      (x.admission.envelope.responseTo (F x.admission.payload).length) (F x.admission.payload)
    rw [hframe]
  · intro c hc
    refine h.exchange.outstanding.mem_iff.1 ?_
    exact List.mem_cons_of_mem _ (hexchange.outstanding.mem_iff.2 hc)
  · rw [hfutures]
    exact h.accepted

/-- A worker of the dispatcher delivers a result. -/
theorem work (h : s.Serves F node d log inFlight) (worker : Nat) (host : Host)
    (hfutures : host.futures = s.host.futures) :
    Serves F node { s with host } (d.runWorker worker) log inFlight := by
  obtain ⟨pool, mail, hframe⟩ := d.frame_runWorker worker
  refine ⟨h.exchange.work worker, h.numbers.mono ?_ ?_, h.length_eq, h.refused, ?_⟩
  · rw [hframe]
  · rw [hframe]
    exact List.Subset.refl _
  · rw [hfutures]
    exact h.accepted

/-- A caller whose call is refused is given the error. -/
theorem call_of_refused (h : s.Serves F node d log inFlight) (host : Host) {request : CallRequest}
    {e : CallError} (hfutures : host.futures = s.host.futures) (hrefuses : d.Refuses request e d') :
    Serves F node ⟨host, s.returned ++ [.error e]⟩ d' (log ++ [(request, .error e)]) inFlight := by
  obtain ⟨hs, hledger, -⟩ := h.exchange.books
  have hpostings : postings (log ++ [(request, .error e)]) = postings log := by
    rw [postings_append]
    exact List.append_nil _
  refine ⟨?_, h.numbers.refuse hledger.orderly.keyed h.exchange.unlimited hrefuses, ?_, ?_, ?_⟩
  · rw [hpostings]
    exact h.exchange.refuse hrefuses
  · rw [List.length_append, List.length_append, h.length_eq]
    rfl
  · intro i request' e' hlog
    rcases getElem?_concat_eq_some hlog with hold | ⟨rfl, hnew⟩
    · exact getElem?_append_of_eq_some (h.refused i request' e' hold) _
    · cases hnew
      rw [← h.length_eq, List.getElem?_concat_length]
  · intro i request' a hlog
    rw [hfutures]
    rcases getElem?_concat_eq_some hlog with hold | ⟨rfl, hnew⟩
    · obtain ⟨k, hk, hfuture⟩ := h.accepted i request' a hold
      exact ⟨k, getElem?_append_of_eq_some hk _, hfuture⟩
    · cases hnew

/-- A caller whose call is accepted is given a new future. -/
theorem call_of_accepted (h : s.Serves F node d log inFlight) (host : Host) {request : CallRequest}
    {a : Admission} (hfutures : host.futures = s.host.futures ++ [Posting.future node ⟨request, a⟩])
    (haccepts : d.Accepts request a d') :
    Serves F node ⟨host, s.returned ++ [.ok s.host.futures.length]⟩ d'
      (log ++ [(request, .ok a)]) (inFlight ++ [⟨request, a⟩]) := by
  have hpostings : postings (log ++ [(request, .ok a)]) = postings log ++ [⟨request, a⟩] :=
    postings_append _ _
  refine ⟨?_, h.numbers.accept haccepts, ?_, ?_, ?_⟩
  · rw [hpostings]
    exact h.exchange.accept haccepts
  · rw [List.length_append, List.length_append, h.length_eq]
    rfl
  · intro i request' e' hlog
    rcases getElem?_concat_eq_some hlog with hold | ⟨rfl, hnew⟩
    · exact getElem?_append_of_eq_some (h.refused i request' e' hold) _
    · cases hnew
  · intro i request' a' hlog
    rw [hfutures]
    rcases getElem?_concat_eq_some hlog with hold | ⟨rfl, hnew⟩
    · obtain ⟨k, hk, hfuture⟩ := h.accepted i request' a' hold
      exact ⟨k, getElem?_append_of_eq_some hk _, getElem?_append_of_eq_some hfuture _⟩
    · cases hnew
      refine ⟨_, ?_, List.getElem?_concat_length⟩
      rw [← h.length_eq, List.getElem?_concat_length]

end Serves

end Session

end RemoteCall
