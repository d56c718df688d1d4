import RemoteCall.Proofs.Dispatch.Numbering
import RemoteCall.Proofs.Host.Acts
import RemoteCall.Proofs.Host.Handover
/-!
# Requests to handlers

A request that a dispatcher has sent to a handler of the same process is on its way, or the
handler keeps it, until it ends: it is answered, or let go of in one way or another
(`Host.Share.Ends`). The books of a dispatcher (`Host.Share.Books`) tie its requests to its calls:
every request was sent for a call, and this call has the id of the request for itself as long as
ids do not wrap around. Every turn keeps the books.

The main statement is `Host.every_request_concludes_its_call`.
-/

namespace RemoteCall

/-- How a reaction ends a request, if it does: with an answer, or without one. -/
def Reaction.ending? : Reaction → Option (Option Answer)
  | answer a => some (some a)
  | drop | panic => some none
  | hold => none

theorem Reaction.eq_answer_of_ending {reaction : Reaction} {a : Answer}
    (h : reaction.ending? = some (some a)) : reaction = .answer a := by
  cases reaction <;> cases h
  rfl

namespace Host

namespace Share

/-- A request ends in an act: with an answer, or without one. -/
inductive Ends (x : Share) : Act → Responder → Option Answer → Prop
  /-- The handler gets it, and reacts in a way that ends it. -/
  | serve {request : Nat} {task : Task} {answer? : Option Answer}
      (h : x.tasks[request]? = some task)
      (hends : (task.handler task.responder.request task.payload).ending? = some answer?) :
      Ends x (.serve request) task.responder answer?
  /-- The handler answers it. -/
  | react {request : Nat} {task : Task} {a : Answer} (h : x.tasks[request]? = some task) :
      Ends x (.react request (.answer a)) task.responder (some a)
  /-- The handler lets go of it. -/
  | drop {request : Nat} {task : Task} (h : x.tasks[request]? = some task) :
      Ends x (.react request .drop) task.responder none
  /-- The handler breaks off. -/
  | panic {request : Nat} {task : Task} (h : x.tasks[request]? = some task) :
      Ends x (.react request .panic) task.responder none
  /-- No handler ever gets it. -/
  | discard {request : Nat} {task : Task} (h : x.tasks[request]? = some task) :
      Ends x (.discard request) task.responder none
  /-- It is answered after the handler has kept it. -/
  | answer {request : Nat} {held : Held} {a : Answer} (h : x.held[request]? = some (some held)) :
      Ends x (.answer request a) held.responder (some a)
  /-- It is let go of after the handler has kept it. -/
  | letGo {request : Nat} {held : Held} (h : x.held[request]? = some (some held)) :
      Ends x (.letGo request) held.responder none

section Ends

variable {x : Share} {n : Node}

/-- A reaction that ends a request uses up the way back. -/
theorem react_of_ending {reaction : Reaction} {answer? : Option Answer}
    (h : reaction.ending? = some answer?) (x : Share) (node : Nat) (r : Responder) :
    x.react node r reaction = x.modifyDispatcher (r.finish answer?) := by
  cases reaction with
  | hold => cases h
  | answer a | drop | panic =>
    cases h
    rfl

/-- A request that ends leaves the others, and the dispatcher hears of it. -/
theorem Ends.act_eq {a : Act} {r : Responder} {answer? : Option Answer} (h : x.Ends a r answer?)
    (hnode : x.node = some n) (node : Nat) (s : Surroundings) :
    ∃ y : Share, x.act node s a = y.modifyDispatcher (r.finish answer?) ∧ y.node = some n ∧
      y.futures = x.futures ∧ x.requests.Perm (r :: y.requests) := by
  -- Handlers may act at any time, even after the drop of the dispatcher.
  have hallows : n.allows a = true := by cases h <;> rfl
  rw [act, hnode]
  simp only [hallows, Bool.not_true, Bool.false_eq_true, if_false]
  cases h with
  | serve h hends =>
    simp only [withTask, h, react_of_ending hends]
    exact ⟨_, rfl, hnode, rfl, perm_requests_of_task h⟩
  | react h | drop h | panic h | discard h =>
    simp only [withTask, h]
    exact ⟨_, rfl, hnode, rfl, perm_requests_of_task h⟩
  | answer h | letGo h =>
    simp only [withHeld, h, Option.join_some]
    exact ⟨_, rfl, hnode, rfl, perm_requests_of_held h⟩

end Ends

/-! ## What acts do to requests and ids -/

/-- What an act does to the requests and the calls of a dispatcher. The number is one of the ids
that may be handed out. -/
inductive Step (node : Nat) (n : Node) (x y : Share) : Nat → Prop
  /-- Calls and requests may come to their end. -/
  | narrow {n' : Node} {ids : Nat} (hnode : y.node = some n')
      (hnarrows : n.dispatcher.Narrows n'.dispatcher) (hrequests : y.requests ⊆ x.requests)
      (hfutures : y.futures = x.futures) : Step node n x y ids
  /-- An id is used up. -/
  | skip (hnode : y.node = some { n with dispatcher := n.dispatcher.allocate.2 })
      (hrequests : y.requests = x.requests) (hfutures : y.futures = x.futures) : Step node n x y 1
  /-- A call is accepted, and its request may be on its way. -/
  | accept {request : CallRequest} {a : Admission} {d : Dispatcher} {n' : Node}
      (haccepts : n.dispatcher.Accepts request a d) (hnode : y.node = some n')
      (hnarrows : d.Narrows n'.dispatcher)
      (hrequests : ∀ r ∈ y.requests, r ∈ x.requests ∨
        r = { request := a.envelope, endpoint := n.dispatcher.endpoint.toText })
      (hfutures : y.futures = x.futures ++ [Posting.future node ⟨request, a⟩]) : Step node n x y 1

section Step

variable {x y : Share} {node : Nat} {n : Node}

/-- What an act does to the requests and the calls of a dispatcher. -/
theorem Changes.step {s : Surroundings} {a : Act} (h : x.Changes node s n a y) :
    x.Step node n y a.ids := by
  have hsame : x.requests ⊆ x.requests := List.Subset.refl _
  cases h with
  | stay _ hnode hrequests hfutures => exact .narrow hnode (.refl _) hrequests hfutures
  | take _ signal hnode hrequests hfutures =>
    exact .narrow hnode (n.dispatcher.narrows_take signal) hrequests hfutures
  | refuse haccept =>
    -- A call that is refused uses up an id at most.
    cases Dispatcher.refuses_of_accept haccept with
    | duplicate _ _ => exact .skip rfl rfl rfl
    | _ => exact .narrow rfl (.refl _) hsame rfl
  | @accept request a d _ haccept =>
    have haccepts := Dispatcher.accepts_of_accept haccept
    refine .accept haccepts rfl (d.narrows_noteSend a.id _) ?_ rfl
    intro r hr
    simp only [requests, List.map_append, List.append_assoc, List.mem_append, List.mem_map] at hr
    rcases hr with hold | ⟨t, ht, rfl⟩ | hheld
    · exact .inl (List.mem_append_left _ (List.mem_map.2 hold))
    · exact .inr (haccepts.endpoint_eq ▸ (of_mem_send ht).2)
    · exact .inl (List.mem_append_right _ hheld)
  | allocate => exact .skip rfl rfl rfl
  | drop => exact .narrow rfl n.dispatcher.narrows_close hsame rfl
  | work worker => exact .narrow rfl (n.dispatcher.narrows_runWorker worker) hsame rfl
  | @event event _ =>
    refine .narrow rfl ?_ hsame rfl
    rw [Node.happen]
    split
    · exact n.dispatcher.narrows_absorb _
    · exact .refl _

theorem step_act (hnode : x.node = some n) (node : Nat) (s : Surroundings) (a : Act) :
    x.Step node n (x.act node s a) a.ids :=
  (changes_act hnode node s a).step

/-- Background work stops. -/
theorem step_stop (hnode : x.node = some n) (node : Nat) : x.Step node n x.stop 0 := by
  have hreleases : n.dispatcher.Narrows
      (x.tasks.foldl (fun d t => t.responder.release d) n.dispatcher) :=
    List.foldlRecOn (motive := n.dispatcher.Narrows) x.tasks _ (.refl _)
      fun d hd t _ => hd.trans (d.narrows_notice (t.responder.lastSignal none))
  rw [stop, hnode]
  refine .narrow rfl (hreleases.trans (Dispatcher.narrows_stop _)) ?_ rfl
  exact List.subset_append_right _ _

end Step

/-! ## The books -/

/-- The books of a dispatcher that has handed out so many ids at most. -/
structure Books (ids : Nat) (n : Node) (x : Share) : Prop where
  /-- Every request carries the number of the dispatcher, and knows its endpoint. -/
  addressed : ∀ r ∈ x.requests, r.request.systemId = n.dispatcher.systemId ∧
    r.endpoint = n.dispatcher.endpoint.toText
  /-- Every request was sent for a call, whose id it carries. -/
  asked : ∀ r ∈ x.requests, ∃ f ∈ x.futures, f.id = r.request.correlationId
  /-- Every outstanding call has its future. -/
  registered : ∀ id call, n.dispatcher.calls.find? id = some call →
    ∃ f ∈ x.futures, f.id = id ∧ f.box = call.box
  /-- Every call was given an id in turn. -/
  numbered : ∃ count ≤ ids, HandsOut n.dispatcher.nextId count (x.futures.map Future.id)
  /-- Every call was given a mailbox in turn. -/
  boxed : x.futures.map Future.box = List.range n.dispatcher.mail.next

namespace Books

variable {ids : Nat} {n n' : Node} {x y : Share} {node : Nat}

/-- Calls and requests may come to their end. -/
theorem narrow (h : x.Books ids n) (hnarrows : n.dispatcher.Narrows n'.dispatcher)
    (hrequests : y.requests ⊆ x.requests) (hfutures : y.futures = x.futures) :
    y.Books ids n' where
  addressed r hr := by
    rw [hnarrows.systemId_eq, hnarrows.endpoint_eq]
    exact h.addressed r (hrequests hr)
  asked r hr := by
    rw [hfutures]
    exact h.asked r (hrequests hr)
  registered id call hfind := by
    rw [hfutures]
    exact h.registered id call (hnarrows.find?_eq_some hfind)
  numbered := by
    rw [hfutures, hnarrows.nextId_eq]
    exact h.numbered
  boxed := by
    rw [hfutures, hnarrows.nextBox_eq]
    exact h.boxed

theorem mono {more : Nat} (h : x.Books ids n) (hmore : ids ≤ more) : x.Books more n := by
  obtain ⟨count, hcount, hnumbered⟩ := h.numbered
  exact ⟨h.addressed, h.asked, h.registered, ⟨count, Nat.le_trans hcount hmore, hnumbered⟩, h.boxed⟩

/-- An id is used up. -/
theorem skip (h : x.Books ids n) (hrequests : y.requests = x.requests)
    (hfutures : y.futures = x.futures) :
    y.Books (ids + 1) { n with dispatcher := n.dispatcher.allocate.2 } := by
  obtain ⟨count, hcount, hnumbers⟩ := h.numbered
  refine ⟨?_, ?_, ?_, ⟨count + 1, Nat.succ_le_succ hcount, ?_⟩, ?_⟩
  · rw [hrequests]
    exact h.addressed
  · rw [hrequests, hfutures]
    exact h.asked
  · rw [hfutures]
    exact h.registered
  · rw [hfutures]
    exact hnumbers.skip
  · rw [hfutures]
    exact h.boxed

/-- A call is accepted, and its request may be on its way. -/
theorem accept (h : x.Books ids n) {request : CallRequest} {a : Admission} {d : Dispatcher}
    (haccepts : n.dispatcher.Accepts request a d) (hnarrows : d.Narrows n'.dispatcher)
    (hrequests : ∀ r ∈ y.requests, r ∈ x.requests ∨
      r = { request := a.envelope, endpoint := n.dispatcher.endpoint.toText })
    (hfutures : y.futures = x.futures ++ [Posting.future node ⟨request, a⟩]) :
    y.Books (ids + 1) n' := by
  obtain ⟨count, hcount, hnumbers⟩ := h.numbered
  have hfuture : (Posting.future node ⟨request, a⟩).id = n.dispatcher.nextId := haccepts.id_eq
  have henvelope := haccepts.envelope_eq
  have hfresh : Posting.future node ⟨request, a⟩ ∈ y.futures := by
    rw [hfutures]
    simp
  have hold : ∀ f ∈ x.futures, f ∈ y.futures := by
    rw [hfutures]
    exact fun f hf => List.mem_append_left _ hf
  obtain ⟨calls, rfl, hentries⟩ := haccepts.state_eq
  constructor
  case addressed =>
    intro r hr
    rw [hnarrows.systemId_eq, hnarrows.endpoint_eq]
    rcases hrequests r hr with hr | rfl
    · exact h.addressed r hr
    · exact ⟨by rw [henvelope]; rfl, rfl⟩
  case asked =>
    intro r hr
    rcases hrequests r hr with hr | rfl
    · obtain ⟨f, hf, hid⟩ := h.asked r hr
      exact ⟨f, hold f hf, hid⟩
    · exact ⟨_, hfresh, by rw [henvelope]; rfl⟩
  case registered =>
    intro id call hfind
    have hentry := (Table.find?_eq_some_iff _ _ _).1 (hnarrows.find?_eq_some hfind)
    rw [hentries, List.mem_append, List.mem_singleton] at hentry
    rcases hentry with hentry | hnew
    · obtain ⟨f, hf, hf'⟩ := h.registered id call ((Table.find?_eq_some_iff _ _ _).2 hentry)
      exact ⟨f, hold f hf, hf'⟩
    · cases hnew
      exact ⟨_, hfresh, rfl, rfl⟩
  case numbered =>
    refine ⟨count + 1, Nat.succ_le_succ hcount, ?_⟩
    rw [hnarrows.nextId_eq, hfutures, List.map_append, List.map_singleton, hfuture]
    exact hnumbers.give
  case boxed =>
    have hbox : (Posting.future node ⟨request, a⟩).box = n.dispatcher.mail.next := haccepts.box_eq
    rw [hnarrows.nextBox_eq, hfutures, List.map_append, List.map_singleton, hbox, h.boxed,
      MailRoom.next_opened, List.range_succ]

/-- The call that is outstanding under the id of a request is the only one that has ever had the
id, as long as ids have not wrapped around. -/
theorem exists_unique_future (h : x.Books ids n) (hids : ids ≤ 2 ^ 64) {r : Responder}
    (hr : r ∈ x.requests) :
    ∃ f ∈ x.futures, f.id = r.request.correlationId ∧
      (∀ other ∈ x.futures, other.id = r.request.correlationId → other = f) ∧
      ∀ call, n.dispatcher.calls.find? r.request.correlationId = some call → call.box = f.box := by
  obtain ⟨f, hf, hid⟩ := h.asked r hr
  obtain ⟨count, hcount, hnumbers⟩ := h.numbered
  -- No id has been handed out twice.
  have hnodup := hnumbers.nodup (Nat.le_trans hcount hids)
  have hunique : ∀ other ∈ x.futures, other.id = r.request.correlationId → other = f :=
    fun other hother hsame => List.inj_on_of_nodup_map hnodup hother hf (hsame.trans hid.symm)
  refine ⟨f, hf, hid, hunique, fun call hcall => ?_⟩
  obtain ⟨g, hg, hgid, hbox⟩ := h.registered _ call hcall
  rw [← hbox, hunique g hg hgid]

/-- Every call has a mailbox of its own. -/
theorem eq_of_box_eq (h : x.Books ids n) {f g : Future} (hf : f ∈ x.futures) (hg : g ∈ x.futures)
    (hbox : f.box = g.box) : f = g := by
  refine List.inj_on_of_nodup_map (f := Future.box) ?_ hf hg hbox
  rw [h.boxed]
  exact List.nodup_range

/-- A step keeps the books. -/
theorem step {more : Nat} (h : x.Books ids n) (hstep : x.Step node n y more) :
    ∃ n', y.node = some n' ∧ y.Books (ids + more) n' := by
  cases hstep with
  | narrow hnode hnarrows hrequests hfutures =>
    exact ⟨_, hnode, (h.narrow hnarrows hrequests hfutures).mono (Nat.le_add_right _ _)⟩
  | skip hnode hrequests hfutures => exact ⟨_, hnode, h.skip hrequests hfutures⟩
  | accept haccepts hnode hnarrows hrequests hfutures =>
    exact ⟨_, hnode, h.accept haccepts hnarrows hrequests hfutures⟩

end Books

theorem books_build (ids : Nat) (systemId : UInt64) (e : Endpoint) (config : DispatcherConfig)
    (transport : Transport) :
    Books ids { dispatcher := .start systemId e config, transport }
      (Share.empty.build systemId e config transport) where
  addressed r hr := by cases hr
  asked r hr := by cases hr
  registered id call hfind := by cases hfind
  numbered := ⟨0, Nat.zero_le ids, .zero⟩
  boxed := rfl

end Share

/-- In every run the books are in order. -/
theorem books_run (factory : TransportFactory) (config : DispatcherConfig)
    (connections : ConnectionConfig) (turns : List Turn) {node : Nat} {n : Node}
    (hnode : ((start factory config connections).run turns).nodes[node]? = some n) :
    (((start factory config connections).run turns).share node).Books
      (turns.map (Turn.ids node)).sum n := by
  -- Whatever keeps the books keeps them for the dispatcher as it is then.
  have hkeep : ∀ {ids more : Nat} {x y : Share}, (∀ n, x.node = some n → x.Books ids n) →
      (x.node = none → y.node = none) → (∀ n, x.node = some n → x.Step node n y more) →
      ∀ n, y.node = some n → y.Books (ids + more) n := by
    intro ids more x y hx hnone hstep n hn
    cases hnode : x.node with
    | none =>
      rw [hnone hnode] at hn
      cases hn
    | some m =>
      obtain ⟨n', hn', hbooks⟩ := (hx m hnode).step (hstep m hnode)
      rw [hn] at hn'
      cases hn'
      exact hbooks
  -- The induction is on the turns; their ids are counted, since `numbered` speaks of the count.
  refine share_induction factory config connections
    (fun ids x => ∀ n, x.node = some n → x.Books ids n) node turns ?_ ?_ ?_ ?_ n hnode
  · intro ids n hn
    cases hn
  · intro ids systemId e config connections transport b _ n hn
    cases hn
    exact Share.books_build ids systemId e config transport
  · intro _ ids x hx
    refine hkeep hx (fun hnone => ?_) fun n hn => Share.step_stop hn node
    rw [Share.stop, hnone]
    rfl
  · intro ids x s a hx
    refine hkeep hx (fun hnone => ?_) fun n hn => Share.step_act hn node s a
    rw [Share.act, hnone]
    exact hnone

/-! ## What becomes of a request -/

/-- What the one who answers a request in an act is told. -/
def told (h : Host) (node : Nat) (a : Act) : Option (Except CallError Bool) :=
  match a with
  | .serve _ | .react _ (.answer _) =>
    match (h.act node a).served[h.served.length]?.map Served.result with
    | some (.answered result) => some result
    | _ => none
  | .answer request answer => (h.answer (h.heldIndex node request) answer).1
  | _ => none

/-- The record of a request that is answered says what the handler is told. -/
theorem served_react_answer {h : Host} {task : Task} {n : Node}
    (hnode : h.nodes[task.node]? = some n) (answer : Answer) :
    (h.react task (.answer answer)).served[h.served.length]?.map Served.result =
      some (.answered (answer.payload.map fun _ => n.dispatcher.live)) := by
  rw [react_eq hnode, List.getElem?_concat_length]
  rfl

/-- It is whether the dispatcher was still there, or why the answer could not be encoded. -/
theorem told_of_ends {h : Host} {node : Nat} {n : Node} (hnode : h.nodes[node]? = some n) {a : Act}
    {r : Responder} {answer : Answer} (hends : (h.share node).Ends a r (some answer)) :
    h.told node a = some (answer.payload.map fun _ => n.dispatcher.live) := by
  cases hends with
  | @serve request task _ htask hends =>
    rcases h.withTask_cases node request with ⟨hnone, -⟩ | ⟨task', tasks, hsome, rfl, hwith, -⟩
    · rw [htask] at hnone
      cases hnone
    · rw [htask] at hsome
      cases hsome
      have hact : h.act task.node (.serve request) =
          { h with tasks }.react task (.answer answer) := by
        rw [act_of_allows hnode rfl]
        show h.withTask task.node request serve = _
        rw [hwith, serve, Reaction.eq_answer_of_ending hends]
      simp only [told, hact, served_react_answer (h := { h with tasks }) hnode]
  | @react request task _ htask =>
    rcases h.withTask_cases node request with ⟨hnone, -⟩ | ⟨task', tasks, hsome, rfl, hwith, -⟩
    · rw [htask] at hnone
      cases hnone
    · have hact : h.act task'.node (.react request (.answer answer)) =
          { h with tasks }.react task' (.answer answer) := by
        rw [act_of_allows hnode rfl]
        exact hwith _
      simp only [told, hact, served_react_answer (h := { h with tasks }) hnode]
  | @answer request held _ hheld =>
    rcases h.takeHeld_cases node request with ⟨hnone, -⟩ | ⟨taken, kept, hsome, rfl, htake, -⟩
    · rw [hheld] at hnone
      cases hnone
    · rw [hheld] at hsome
      cases hsome
      have hrespond := respond_eq (h := { h with held := kept }) hnode held.responder answer
      simp only [told, Host.answer, htake, hrespond, Responder.respond_fst]

/-- The dispatchers after an act that changes the share of one of them. -/
theorem Confined.nodes_eq {h h' : Host} {node : Nat} {x : Share} (hc : h.Confined h' node x)
    {n : Node} (hx : x.node = some n) : h'.nodes = h.nodes.set node n := by
  refine List.ext_getElem? fun i => ?_
  by_cases hi : i = node
  · subst hi
    have hnode : h'.nodes[i]? = some n := (congrArg Share.node hc.share_eq).trans hx
    have hlength : h'.nodes.length = h.nodes.length := congrArg Surroundings.size hc.surroundings_eq
    obtain ⟨hlt, -⟩ := List.getElem?_eq_some_iff.1 hnode
    rw [hnode, List.getElem?_set_self (by omega)]
  · rw [List.getElem?_set_ne (Ne.symm hi)]
    exact congrArg Share.node (hc.others i hi)

end Host

/-- A codec gives the right reason when it fails to encode a value. -/
def Codec.Candid (c : Codec) : Prop :=
  ∀ x e, c.encode x = .error e → ∃ reason, e = .encode reason

theorem Codec.candid_json : Codec.json.Candid := by
  intro x e he
  cases x with
  | json value => cases he
  | unencodable =>
    cases he
    exact ⟨_, rfl⟩

theorem Codec.Candid.masked {c : Codec} (h : c.Candid) (name : String) (key : UInt8) :
    (Codec.masked name key c).Candid := by
  intro x e he
  cases hencode : c.encode x with
  | ok bs => simp [Codec.masked, hencode, Except.map] at he
  | error e' =>
    obtain rfl : e' = e := by simpa [Codec.masked, hencode, Except.map] using he
    exact h x e' hencode

/-- The codec of an answer gives the right reason when it fails. -/
def Answer.Candid : Answer → Prop
  | success codec _ => codec.Candid
  | _ => True

/-- An answer cannot be delivered only because it cannot be encoded. -/
theorem Answer.Candid.eq_encode {a : Answer} (h : a.Candid) {e : CallError}
    (he : a.payload = .error e) : ∃ reason, e = .failure (.encode reason) := by
  cases a with
  | raw payload => cases he
  | success codec result =>
    rw [payload, encodeSuccess] at he
    split at he
    next defect hdefect =>
      obtain ⟨reason, rfl⟩ := h result defect hdefect
      cases he
      exact ⟨_, rfl⟩
    next => cases he
  | fault f => cases he

namespace Host

/-- A call whose request the transport refuses, or resolves with a failure, is concluded with the
failure as soon as it has been registered. -/
theorem call_of_failed {h : Host} {node : Nat} {n : Node} (hnode : h.nodes[node]? = some n)
    {request : CallRequest} {a : Admission} {d : Dispatcher}
    (haccept : n.dispatcher.accept request = (.ok a, d)) {outcome : SendOutcome} {f : Failure}
    (houtcome : outcome = .resolved (.failure f) ∨ outcome = .rejected (.failure f))
    (hsend : Node.send { n with dispatcher := d } node h.surroundings a =
      (outcome, n.transport, [])) :
    (h.call node request).2.tasks = h.tasks ∧
      ∃ d', (h.call node request).2.nodes[node]? = some { n with dispatcher := d' } ∧
        d.Concludes d' a.id (a.record request) (.error (.failure f)) := by
  have hregistered := (Dispatcher.accepts_of_accept haccept).find?_eq
  rw [call_of_accepted hnode haccept, hsend]
  refine ⟨List.append_nil _, _, nodes_modifyNode hnode _, ?_⟩
  rcases houtcome with rfl | rfl
  · exact Dispatcher.concludes_complete hregistered _
  · exact Dispatcher.concludes_complete hregistered _

/-- When background work has stopped, the request of a call never gets to the handler: it is let go
of at once, and its call is concluded. -/
theorem call_without_background_work {h : Host} {node : Nat} {n : Node}
    (hnode : h.nodes[node]? = some n) (hstopped : h.running = false)
    (hinProcess : n.transport = .inProcess) {handler : Handler}
    (hhandler : h.switchboard.find? n.dispatcher.endpoint = some handler) {request : CallRequest}
    {a : Admission} {d : Dispatcher} (haccept : n.dispatcher.accept request = (.ok a, d)) :
    (h.call node request).2.tasks = h.tasks ∧
      ∃ d', (h.call node request).2.nodes[node]? = some { n with dispatcher := d' } ∧
        d.Concludes d' a.id (a.record request)
          (.error (.failure (.noResponse n.dispatcher.endpoint.toText))) := by
  have hendpoint := (Dispatcher.accepts_of_accept haccept).endpoint_eq
  refine call_of_failed hnode haccept (.inl rfl) ?_
  simp [Node.send, hinProcess, hendpoint, surroundings, hhandler, hstopped]

/-- In every run, a request that ends, in whatever way, is used up, and concludes the call that is
outstanding under its id, with what the answer means for the call if a payload was delivered, and
because there was no response otherwise. Nothing happens to any other call, and nothing at all if no
call is outstanding under the id, or if the dispatcher was dropped. The one who answers is told
whether the dispatcher was still there, or that the answer could not be encoded. As long as ids have
not wrapped around, only one call has ever had the id. -/
theorem every_request_concludes_its_call (factory : TransportFactory) (config : DispatcherConfig)
    (connections : ConnectionConfig) (turns : List Turn) (node : Nat) (n : Node) (a : Act)
    (r : Responder) (answer? : Option Answer)
    (hnode : ((start factory config connections).run turns).nodes[node]? = some n)
    (hends : (((start factory config connections).run turns).share node).Ends a r answer?) :
    let h := (start factory config connections).run turns
    let d := n.dispatcher
    let id := r.request.correlationId
    (∃ d', (h.act node a).nodes = h.nodes.set node { n with dispatcher := d' } ∧
      (d.live = true → ∀ call, d.calls.find? id = some call →
        d.Concludes d' id call
          (match answer?.map Answer.payload with
            | some (.ok payload) => call.judge payload
            | _ => .error (.failure (.noResponse d.endpoint.toText)))) ∧
      (d.live = false ∨ d.calls.find? id = none → d' = d)) ∧
    (h.share node).requests.Perm (r :: ((h.act node a).share node).requests) ∧
    (∀ answer, answer? = some answer →
      h.told node a = some (answer.payload.map fun _ => d.live) ∧
      (answer.Candid → ∀ e, answer.payload = .error e → ∃ reason, e = .failure (.encode reason))) ∧
    ((turns.map (Turn.ids node)).sum ≤ 2 ^ 64 →
      ∃ f ∈ (h.share node).futures, f.id = id ∧
        (∀ other ∈ (h.share node).futures, other.id = id → other = f) ∧
        ∀ call, d.calls.find? id = some call → call.box = f.box) := by
  intro h d id
  have hbooks := books_run factory config connections turns hnode
  have hconfined := confined_act (isOwned_run (isOwned_start factory config connections) turns) node a
  obtain ⟨y, hact, hy, hfutures, hrequests⟩ := hends.act_eq hnode node h.surroundings
  obtain ⟨haddress, hendpoint⟩ := hbooks.addressed r (hrequests.mem_iff.2 List.mem_cons_self)
  rw [hact] at hconfined
  refine ⟨⟨r.finish answer? d, ?_, fun hlive call hcall => ?_, ?_⟩, ?_, ?_, ?_⟩
  · refine hconfined.nodes_eq ?_
    rw [Share.modifyDispatcher, hy]
    rfl
  · have hconcludes := Responder.concludes_finish hlive haddress hcall answer?
    rw [Responder.lastVerdict, hendpoint] at hconcludes
    exact hconcludes
  · rintro (hdead | hnone)
    · rw [Responder.finish_eq, hdead]
      rfl
    · exact Responder.finish_eq_self hnone answer?
  · rw [hconfined.share_eq]
    exact hrequests
  · rintro answer rfl
    exact ⟨told_of_ends hnode hends, fun hcandid e he => hcandid.eq_encode he⟩
  · exact fun hids => hbooks.exists_unique_future hids (hrequests.mem_iff.2 List.mem_cons_self)

/-- The second of two requests is answered after the handler has kept it, while the first is still
on its way. -/
theorem kept_request_is_answered :
    let endpoint : Endpoint := { scheme := "inproc", host := "local", port := none, path := "Calc" }
    let request : CallRequest :=
      { codec := .json, service := "Calc", method := "Count", argument := .json .null
        replyType := .any }
    let settings : DispatcherConfig := { completionWorkers := 2, maxOutstandingCalls := none }
    let turns : List Turn :=
      [.build .inProcess endpoint settings .default, .register endpoint fun _ _ => .hold,
        .act 0 (.call request), .act 0 (.call request), .act 0 (.react 1 .hold)]
    let h := (start .empty settings .default).run turns
    let answer : Answer := .raw [0, 0x37]
    let r : Responder := { request := .request 1 2 17, endpoint := endpoint.toText }
    ∃ n d' call, h.nodes[0]? = some n ∧ (h.share 0).Ends (.answer 0 answer) r (some answer) ∧
      (h.act 0 (.answer 0 answer)).nodes = h.nodes.set 0 { n with dispatcher := d' } ∧
      call.box = 1 ∧ n.dispatcher.Concludes d' 2 call (call.judge [0, 0x37]) ∧
      h.told 0 (.answer 0 answer) = some (.ok true) := by
  intro endpoint request settings turns h answer r
  have hheld : (h.share 0).held[0]? = some (some { node := 0, responder := r }) := by
    decide +kernel
  have hends : (h.share 0).Ends (.answer 0 answer) r (some answer) := .answer hheld
  have hlive : (h.nodes[0]?.map fun n => n.dispatcher.live) = some true := by decide +kernel
  have hcall : (h.nodes[0]?.bind fun n => n.dispatcher.calls.find? 2).map OutstandingCall.box =
      some 1 := by decide +kernel
  obtain ⟨n, hnode, hlive⟩ := Option.map_eq_some_iff.1 hlive
  rw [hnode] at hcall
  obtain ⟨call, hcall, hbox⟩ := Option.map_eq_some_iff.1 hcall
  obtain ⟨⟨d', hnodes, hconcludes, -⟩, -, htold, -⟩ :=
    every_request_concludes_its_call .empty settings .default turns 0 n (.answer 0 answer) r
      (some answer) hnode hends
  refine ⟨n, d', call, hnode, hends, hnodes, hbox, hconcludes hlive call hcall, ?_⟩
  rw [(htold answer rfl).1, hlive]
  rfl

end Host

end RemoteCall
