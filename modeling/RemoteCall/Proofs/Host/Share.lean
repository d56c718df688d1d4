import Mathlib.Data.List.Induction
import RemoteCall.Proofs.Host.Session
import RemoteCall.Proofs.Host.Turns
/-!
# Shares

What a turn does to the share of a dispatcher depends on this share and on the surroundings only,
and a turn that concerns another dispatcher does nothing to it (`Host.share_turn`). The surroundings
change by themselves (`Host.surroundings_turn`). `Share.act` and `Share.turn` say what a turn does
without looking at the rest of the host.

`Host.share_induction` is the way to prove something about the share of a dispatcher in every run.
-/

namespace RemoteCall

/-! ## Some entries among others -/

section Entries

variable {α : Type} {p q : α → Bool} {xs : List α} {i : Nat} {x y : α}

/-- The list around the entry with a number among those with a property. -/
theorem exists_split_findIdxNth (h : xs[xs.findIdxNth p i]? = some x) :
    ∃ before after, xs = before ++ x :: after ∧ before.length = xs.findIdxNth p i ∧ p x = true ∧
      (before.filter p).length = i := by
  induction xs generalizing i with
  | nil => simp at h
  | cons z xs ih =>
    by_cases hz : p z = true
    · cases i with
      | zero =>
        -- The entry is in front.
        rw [List.findIdxNth_cons_zero_of_pos hz] at h ⊢
        obtain rfl : z = x := by simpa using h
        exact ⟨[], xs, rfl, rfl, hz, rfl⟩
      | succ i =>
        rw [List.findIdxNth_cons_succ_of_pos hz] at h ⊢
        obtain ⟨before, after, rfl, hbefore, hx, hi⟩ := ih (by simpa using h)
        exact ⟨z :: before, after, rfl, by simp [hbefore], hx, by simp [hz, hi]⟩
    · have hz' : p z = false := by simpa using hz
      rw [List.findIdxNth_cons_of_neg hz'] at h ⊢
      obtain ⟨before, after, rfl, hbefore, hx, hi⟩ := ih (by simpa using h)
      exact ⟨z :: before, after, rfl, by simp [hbefore], hx, by simp [hz, hi]⟩

/-- It has this number when the other entries are left out. -/
theorem getElem?_filter_of_findIdxNth (h : xs[xs.findIdxNth p i]? = some x) :
    (xs.filter p)[i]? = some x := by
  obtain ⟨before, after, hxs, -, hx, rfl⟩ := exists_split_findIdxNth h
  rw [hxs, List.filter_append, List.filter_cons_of_pos hx]
  simp

/-- There are not as many entries with the property, if none of them is found. -/
theorem getElem?_filter_eq_none (h : xs[xs.findIdxNth p i]? = none) :
    (xs.filter p)[i]? = none := by
  have hcount : ¬ i < xs.countP p := by
    rw [← List.findIdxNth_lt_length_iff]
    simpa using h
  rw [List.getElem?_eq_none_iff, ← List.countP_eq_length_filter]
  omega

/-- Erasing an entry erases it from those with its property. -/
theorem filter_eraseIdx_findIdxNth (h : xs[xs.findIdxNth p i]? = some x) :
    (xs.eraseIdx (xs.findIdxNth p i)).filter p = (xs.filter p).eraseIdx i := by
  obtain ⟨before, after, hxs, hbefore, hx, rfl⟩ := exists_split_findIdxNth h
  rw [← hbefore, hxs, List.filter_append, List.filter_cons_of_pos hx]
  simp [List.eraseIdx_append_of_length_le]

/-- So does replacing it by an entry without the property. -/
theorem filter_set_findIdxNth (h : xs[xs.findIdxNth p i]? = some x) (hy : p y = false) :
    (xs.set (xs.findIdxNth p i) y).filter p = (xs.filter p).eraseIdx i := by
  obtain ⟨before, after, hxs, hbefore, hx, rfl⟩ := exists_split_findIdxNth h
  rw [← hbefore, hxs, List.filter_append, List.filter_cons_of_pos hx]
  simp [List.eraseIdx_append_of_length_le, hy]

/-- Erasing an entry leaves the entries with another property. -/
theorem filter_eraseIdx_of_neg {j : Nat} (h : xs[j]? = some x) (hx : q x = false) :
    (xs.eraseIdx j).filter q = xs.filter q := by
  obtain ⟨hj, rfl⟩ := List.getElem?_eq_some_iff.1 h
  conv_rhs => rw [← List.take_append_drop j xs, List.drop_eq_getElem_cons hj]
  rw [List.eraseIdx_eq_take_drop_succ, List.filter_append, List.filter_append,
    List.filter_cons_of_neg (by simp [hx])]

/-- So does replacing it by another that has not got that property either. -/
theorem filter_set_of_neg {j : Nat} (h : xs[j]? = some x) (hx : q x = false) (hy : q y = false) :
    (xs.set j y).filter q = xs.filter q := by
  obtain ⟨hj, rfl⟩ := List.getElem?_eq_some_iff.1 h
  conv_rhs => rw [← List.take_append_drop j xs, List.drop_eq_getElem_cons hj]
  rw [List.set_eq_take_append_cons_drop, if_pos hj, List.filter_append, List.filter_append,
    List.filter_cons_of_neg (by simp [hy]), List.filter_cons_of_neg (by simp [hx])]

end Entries

/-! ## Acts on a share -/

namespace Node

/-- Gives a request to the transport: what the transport does with it, the transport afterwards,
and the tasks that come of it. -/
def send (n : Node) (node : Nat) (s : Host.Surroundings) (a : Admission) :
    SendOutcome × Transport × List Task :=
  let endpoint := n.dispatcher.endpoint.toText
  match n.transport with
  | .null => (.resolved (.failure (.notImplemented endpoint)), .null, [])
  | .recorder r =>
    let (outcome, r) := r.send a.envelope a.payload
    (outcome, .recorder r, [])
  | .socket c dial closing =>
    match c.send a.envelope a.payload with
    | .error e => (.rejected e, .socket c dial closing, [])
    | .ok c => (.queued, .socket c dial closing, [])
  | .inProcess =>
    match s.switchboard.find? n.dispatcher.endpoint with
    | none => (.rejected (.failure (.endpointNotFound endpoint)), .inProcess, [])
    | some handler =>
      if s.running then
        let responder : Responder := { request := a.envelope, endpoint }
        (.queued, .inProcess, [{ node, responder, payload := a.payload, handler }])
      -- The task would never run, and its request is let go of at once.
      else (.resolved (.failure (.noResponse endpoint)), .inProcess, [])

/-- Something happens to the connection, if there is one. -/
def happen (n : Node) (event : Connection.Event) : Node :=
  match n.transport with
  | .socket c _ closing =>
    let (c, effect) := c.step n.dispatcher.live event
    { dispatcher := n.dispatcher.absorb effect, transport := .socket c (.done none) closing }
  | _ => n

end Node

/-- A transport whose background work has stopped. -/
def Transport.stopped : Transport → Transport
  | socket c dial closing => socket c.closed dial closing
  | t => t

namespace Host

namespace Share

/-- The dispatcher changes. -/
def modifyDispatcher (x : Share) (f : Dispatcher → Dispatcher) : Share :=
  { x with node := x.node.map fun n => { n with dispatcher := f n.dispatcher } }

/-- A call is made through the dispatcher. -/
def call (x : Share) (node : Nat) (s : Surroundings) (n : Node) (request : CallRequest) : Share :=
  match n.dispatcher.accept request with
  | (.error _, dispatcher) => { x with node := some { n with dispatcher } }
  | (.ok a, dispatcher) =>
    -- The call is registered before its request is sent.
    let (outcome, transport, tasks) := Node.send { n with dispatcher } node s a
    { x with
      node := some { dispatcher := dispatcher.noteSend a.id outcome, transport }
      tasks := x.tasks ++ tasks
      futures := x.futures ++ [Posting.future node ⟨request, a⟩] }

/-- Takes out a request that waits for a handler, and goes on with it. -/
def withTask (x : Share) (request : Nat) (f : Share → Task → Share) : Share :=
  match x.tasks[request]? with
  | none => x
  | some task => f { x with tasks := x.tasks.eraseIdx request } task

/-- Takes out a request that a handler kept, and goes on with it. -/
def withHeld (x : Share) (request : Nat) (f : Share → Held → Share) : Share :=
  match x.held[request]?.join with
  | none => x
  | some held => f { x with held := x.held.eraseIdx request } held

/-- A handler gets a request and reacts to it. -/
def react (x : Share) (node : Nat) (r : Responder) : Reaction → Share
  | .answer a => x.modifyDispatcher fun d => (r.respond a d).2
  | .drop | .panic => x.modifyDispatcher r.release
  | .hold => { x with held := x.held ++ [some { node, responder := r }] }

/-- One turn that concerns the dispatcher. -/
def act (x : Share) (node : Nat) (s : Surroundings) (a : Act) : Share :=
  match x.node with
  | none => x
  | some n =>
    if !n.allows a then x
    else
      match a with
      | .call request => x.call node s n request
      | .signal s => x.modifyDispatcher fun d => d.take s
      | .allocate => x.modifyDispatcher fun d => d.allocate.2
      | .drop =>
        { x with node := some { dispatcher := n.dispatcher.close, transport := n.transport.close } }
      | .work worker => x.modifyDispatcher fun d => d.runWorker worker
      | .event event => { x with node := some (n.happen event) }
      | .serve request =>
        x.withTask request fun x task =>
          x.react node task.responder (task.handler task.responder.request task.payload)
      | .react request reaction =>
        x.withTask request fun x task => x.react node task.responder reaction
      | .discard request =>
        x.withTask request fun x task => x.modifyDispatcher task.responder.release
      | .answer request a =>
        x.withHeld request fun x held =>
          x.modifyDispatcher fun d => (held.responder.respond a d).2
      | .letGo request =>
        x.withHeld request fun x held => x.modifyDispatcher held.responder.release

end Share

/-! ## What acts do -/

/-- From one host to the other, the share of a dispatcher has become another share, and nothing
else that matters has changed. -/
structure Confined (h h' : Host) (node : Nat) (x : Share) : Prop where
  share_eq : h'.share node = x
  others : ∀ other ≠ node, h'.share other = h.share other
  surroundings_eq : h'.surroundings = h.surroundings
  isOwned_eq : h'.isOwned = h.isOwned

variable {h h' h'' : Host} {node : Nat} {n : Node} {x y : Share}

theorem Confined.refl (h : Host) (node : Nat) : h.Confined h node (h.share node) :=
  ⟨rfl, fun _ _ => rfl, rfl, rfl⟩

theorem Confined.trans (hxy : h.Confined h' node x) (hyz : h'.Confined h'' node y) :
    h.Confined h'' node y where
  share_eq := hyz.share_eq
  others other hne := (hyz.others other hne).trans (hxy.others other hne)
  surroundings_eq := hyz.surroundings_eq.trans hxy.surroundings_eq
  isOwned_eq := hyz.isOwned_eq.trans hxy.isOwned_eq

/-- A dispatcher changes together with its transport. -/
theorem confined_modifyNode (h : Host) (node : Nat) (f : Node → Node) :
    h.Confined (h.modifyNode node f) node
      { h.share node with node := (h.share node).node.map f } where
  share_eq := by simp [share, modifyNode]
  others other hne := by simp [share, modifyNode, hne.symm]
  surroundings_eq := by simp [surroundings, modifyNode]
  isOwned_eq := rfl

theorem confined_modifyDispatcher (h : Host) (node : Nat) (f : Dispatcher → Dispatcher) :
    h.Confined (h.modifyDispatcher node f) node ((h.share node).modifyDispatcher f) :=
  confined_modifyNode h node _

/-- Only what becomes of the dispatcher that is there matters. -/
theorem modifyNode_congr (hnode : h.nodes[node]? = some n) {f g : Node → Node} (hfg : f n = g n) :
    h.modifyNode node f = h.modifyNode node g := by
  rw [modifyNode, modifyNode]
  congr 1
  refine List.ext_getElem? fun i => ?_
  rw [List.getElem?_modify, List.getElem?_modify]
  by_cases hi : node = i
  · simp [← hi, hnode, hfg]
  · simp only [if_neg hi]

/-- The answer to a request goes to its dispatcher. -/
theorem respond_eq (hnode : h.nodes[node]? = some n) (r : Responder) (a : Answer) :
    h.respond node r a =
      ((r.respond a n.dispatcher).1, h.modifyDispatcher node fun d => (r.respond a d).2) := by
  rw [respond, onDispatcher, hnode]
  refine congrArg (Prod.mk _) (modifyNode_congr hnode ?_)
  rfl

/-- A transport takes a request or refuses it. -/
theorem send_eq (hnode : h.nodes[node]? = some n) (a : Admission) :
    h.send node a =
      let (outcome, transport, tasks) := n.send node h.surroundings a
      (outcome, { h.modifyTransport node fun _ => transport with tasks := h.tasks ++ tasks }) := by
  obtain ⟨d, transport⟩ := n
  -- Putting a transport back where it was changes nothing.
  have hsame : h.modifyTransport node (fun _ => transport) = h :=
    (modifyNode_congr (f := fun n => { n with transport }) (g := id) hnode rfl).trans
      (modifyNode_eq_self h node fun _ => rfl)
  cases transport with
  | null => simp [send, Node.send, hnode, hsame]
  | recorder r => simp [send, Node.send, hnode, modifyTransport, modifyNode]
  | socket c dial closing =>
    cases hsend : c.send a.envelope a.payload with
    | error e => simp [send, Node.send, hnode, hsend, hsame]
    | ok c' => simp [send, Node.send, hnode, hsend, modifyTransport, modifyNode]
  | inProcess =>
    cases hfind : h.switchboard.find? d.endpoint with
    | none => simp [send, Node.send, hnode, surroundings, hfind, hsame]
    | some handler =>
      rw [send, hnode]
      simp only [hfind]
      by_cases hrunning : h.running = true
      · have hlocal : Node.send ⟨d, .inProcess⟩ node h.surroundings a = (.queued, .inProcess,
            [{ node, responder := { request := a.envelope, endpoint := d.endpoint.toText }
               payload := a.payload, handler }]) := by
          simp [Node.send, surroundings, hfind, hrunning]
        rw [if_pos hrunning, hlocal]
        simp only [hsame]
      · have hlocal : Node.send ⟨d, .inProcess⟩ node h.surroundings a =
            (.resolved (.failure (.noResponse d.endpoint.toText)), .inProcess, []) := by
          simp [Node.send, surroundings, hfind, hrunning]
        rw [if_neg hrunning, hlocal]
        simp only [hsame, List.append_nil]

/-- The task that comes of a request carries it, and knows the way back. -/
theorem of_mem_send {s : Surroundings} {a : Admission} {t : Task}
    (ht : t ∈ (n.send node s a).2.2) :
    t.node = node ∧
      t.responder = { request := a.envelope, endpoint := n.dispatcher.endpoint.toText } := by
  rw [Node.send] at ht
  grind

/-- Tasks and futures of a dispatcher are added to its share. -/
theorem Confined.grow (hx : h.Confined h' node x) {tasks : List Task} {futures : List Future}
    (htasks : ∀ t ∈ tasks, t.node = node) (hfutures : ∀ f ∈ futures, f.node = node) :
    h.Confined { h' with tasks := h'.tasks ++ tasks, futures := h'.futures ++ futures } node
      { x with tasks := x.tasks ++ tasks, futures := x.futures ++ futures } where
  share_eq := by
    have htasks' : tasks.filter (Task.isOf node) = tasks :=
      List.filter_eq_self.2 fun t ht => by simp [Task.isOf, htasks t ht]
    have hfutures' : futures.filter (Future.isOf node) = futures :=
      List.filter_eq_self.2 fun f hf => by simp [Future.isOf, hfutures f hf]
    rw [← hx.share_eq]
    simp [share, List.filter_append, htasks', hfutures']
  others other hne := by
    have htasks' : tasks.filter (Task.isOf other) = [] :=
      List.filter_eq_nil_iff.2 fun t ht => by simp [Task.isOf, htasks t ht, hne.symm]
    have hfutures' : futures.filter (Future.isOf other) = [] :=
      List.filter_eq_nil_iff.2 fun f hf => by simp [Future.isOf, hfutures f hf, hne.symm]
    rw [← hx.others other hne]
    simp [share, List.filter_append, htasks', hfutures']
  surroundings_eq := hx.surroundings_eq
  isOwned_eq := hx.isOwned_eq

/-- A call that is accepted: the dispatcher registers it, the transport gets the request, and the
dispatcher is told what has become of it. -/
theorem call_of_accepted (hnode : h.nodes[node]? = some n) {request : CallRequest} {a : Admission}
    {d : Dispatcher} (haccept : n.dispatcher.accept request = (.ok a, d)) :
    (h.call node request).2 =
      let (outcome, transport, tasks) := Node.send { n with dispatcher := d } node h.surroundings a
      { h.modifyNode node fun _ => { dispatcher := d.noteSend a.id outcome, transport } with
        tasks := h.tasks ++ tasks
        futures := h.futures ++ [Posting.future node ⟨request, a⟩] } := by
  have hregistered := nodes_modifyNode hnode fun n => { n with dispatcher := d }
  have hsurroundings : (h.modifyDispatcher node fun _ => d).surroundings = h.surroundings :=
    (confined_modifyDispatcher h node _).surroundings_eq
  have hsend := send_eq (h := h.modifyDispatcher node fun _ => d) hregistered a
  rw [hsurroundings] at hsend
  rw [call, onDispatcher, hnode]
  simp only [Option.map_some, haccept]
  rw [hsend]
  simp only [modifyDispatcher, modifyTransport, modifyNode, List.modify_modify_eq]
  rfl

/-- A call changes the share of its dispatcher. -/
theorem confined_call (hnode : h.nodes[node]? = some n) (request : CallRequest) :
    h.Confined (h.call node request).2 node
      ((h.share node).call node h.surroundings n request) := by
  have hshare : (h.share node).node = some n := hnode
  rw [Share.call]
  split
  next e d haccept =>
    have hnew := confined_modifyDispatcher h node fun _ => d
    rw [Share.modifyDispatcher, hshare] at hnew
    rw [call_of_refused hnode haccept]
    exact hnew
  next a d haccept =>
    have hnew := confined_modifyNode h node fun _ =>
      { dispatcher := d.noteSend a.id (Node.send { n with dispatcher := d } node h.surroundings a).1
        transport := (Node.send { n with dispatcher := d } node h.surroundings a).2.1 }
    rw [hshare] at hnew
    rw [call_of_accepted hnode haccept]
    exact hnew.grow (fun t ht => (of_mem_send ht).1) fun f hf => by rw [List.mem_singleton.1 hf]; rfl

theorem confined_release (h : Host) (node : Nat) (r : Responder) :
    h.Confined (h.release node r) node ((h.share node).modifyDispatcher r.release) :=
  confined_modifyDispatcher h node r.release

theorem confined_respond (hnode : h.nodes[node]? = some n) (r : Responder) (a : Answer) :
    h.Confined (h.respond node r a).2 node
      ((h.share node).modifyDispatcher fun d => (r.respond a d).2) := by
  rw [respond_eq hnode]
  exact confined_modifyDispatcher h node fun d => (r.respond a d).2

/-- What handlers have served matters to nobody. -/
theorem Confined.served (hx : h.Confined h' node x) (served : List Served) :
    h.Confined { h' with served } node x :=
  ⟨hx.share_eq, hx.others, hx.surroundings_eq, hx.isOwned_eq⟩

/-- A handler that reacts to a request changes the share of the dispatcher that sent it. -/
theorem confined_react {task : Task} (htask : task.node = node) (hnode : h.nodes[node]? = some n)
    (reaction : Reaction) :
    h.Confined (h.react task reaction) node
      ((h.share node).react node task.responder reaction) := by
  subst htask
  cases reaction with
  | answer a => exact (confined_respond hnode task.responder a).served _
  | drop => exact (confined_release h task.node task.responder).served _
  | panic => exact (confined_release h task.node task.responder).served _
  | hold =>
    -- The request goes to a new place at the end.
    refine ⟨?_, fun other hne => ?_, rfl, rfl⟩
    · simp [share, react, Share.react, List.filter_append, Held.isOf]
    · simp [share, react, List.filter_append, Held.isOf, hne.symm]

/-- The request with a number is taken out of those that wait for a handler, if it is there. -/
theorem withTask_cases (h : Host) (node request : Nat) :
    ((h.share node).tasks[request]? = none ∧ ∀ f, h.withTask node request f = h) ∨
    ∃ (task : Task) (tasks : List Task), (h.share node).tasks[request]? = some task ∧
      task.node = node ∧ (∀ f, h.withTask node request f = f { h with tasks } task) ∧
      h.Confined { h with tasks } node
        { h.share node with tasks := (h.share node).tasks.eraseIdx request } := by
  simp only [withTask]
  cases htask : h.tasks[h.taskIndex node request]? with
  | none => exact .inl ⟨getElem?_filter_eq_none htask, fun _ => rfl⟩
  | some task =>
    obtain ⟨-, -, -, -, hof, -⟩ := exists_split_findIdxNth htask
    have hof' : task.node = node := by simpa [Task.isOf] using hof
    refine .inr ⟨task, _, getElem?_filter_of_findIdxNth htask, hof', fun _ => rfl, ?_,
      fun other hne => ?_, rfl, rfl⟩
    · rw [share, taskIndex, filter_eraseIdx_findIdxNth htask]
      rfl
    · rw [share, filter_eraseIdx_of_neg htask (by simp [Task.isOf, hof', hne.symm])]
      rfl

/-- The request with a number is taken out of those that handlers kept, if it is there. -/
theorem takeHeld_cases (h : Host) (node request : Nat) :
    ((h.share node).held[request]? = none ∧ h.takeHeld (h.heldIndex node request) = (none, h)) ∨
    ∃ (taken : Held) (held : List (Option Held)), (h.share node).held[request]? = some (some taken) ∧
      taken.node = node ∧ h.takeHeld (h.heldIndex node request) = (some taken, { h with held }) ∧
      h.Confined { h with held } node
        { h.share node with held := (h.share node).held.eraseIdx request } := by
  simp only [takeHeld]
  cases hplace : h.held[h.heldIndex node request]? with
  | none =>
    -- There is no such place, so that none is made empty.
    have hset : h.held.set (h.heldIndex node request) none = h.held :=
      List.set_eq_of_length_le (List.getElem?_eq_none_iff.1 hplace)
    exact .inl ⟨getElem?_filter_eq_none hplace, by rw [hset]; rfl⟩
  | some place =>
    obtain ⟨-, -, -, -, hof, -⟩ := exists_split_findIdxNth hplace
    obtain ⟨taken, rfl, htaken⟩ : ∃ taken : Held, place = some taken ∧ taken.node = node := by
      simpa [Held.isOf, Option.any_eq_true] using hof
    refine .inr ⟨taken, _, getElem?_filter_of_findIdxNth hplace, htaken, rfl, ?_,
      fun other hne => ?_, rfl, rfl⟩
    · rw [share, heldIndex, filter_set_findIdxNth hplace rfl]
      rfl
    · rw [share, filter_set_of_neg hplace (by simp [Held.isOf, htaken, hne.symm]) rfl]
      rfl

theorem reclaim_of_not_owned (hown : h.isOwned node = false) :
    h.reclaim node = h.modifyNode node fun n =>
      { dispatcher := n.dispatcher.close, transport := n.transport.close } := by
  rw [reclaim, hown]
  rfl

/-- What is done with a request that is taken out changes the share of its dispatcher. -/
theorem confined_withTask (hnode : h.nodes[node]? = some n) (request : Nat)
    {f : Host → Task → Host} {g : Share → Task → Share}
    (hf : ∀ (h : Host) (task : Task), h.nodes[node]? = some n → task.node = node →
      h.Confined (f h task) node (g (h.share node) task)) :
    h.Confined (h.withTask node request f) node ((h.share node).withTask request g) := by
  rw [Share.withTask]
  rcases h.withTask_cases node request with ⟨hnone, hsame⟩ | ⟨task, tasks, htask, hof, hwith, htaken⟩
  · rw [hnone, hsame]
    exact .refl h node
  · have hafter := hf { h with tasks } task hnode hof
    rw [htaken.share_eq] at hafter
    rw [htask, hwith]
    exact htaken.trans hafter

/-- A turn that concerns a dispatcher changes its share, as the share and the surroundings say. -/
theorem confined_act (hown : ∀ node, h.isOwned node = false) (node : Nat) (a : Act) :
    h.Confined (h.act node a) node ((h.share node).act node h.surroundings a) := by
  unfold act Share.act
  cases hnode : h.nodes[node]? with
  | none =>
    have hshare : (h.share node).node = none := hnode
    simp only [hshare]
    exact .refl h node
  | some n =>
    have hshare : (h.share node).node = some n := hnode
    simp only [hshare]
    by_cases hallows : n.allows a = true
    · rw [if_neg (by simp [hallows]), if_neg (by simp [hallows])]
      cases a with
      | call request => exact confined_call hnode request
      | signal s => exact confined_modifyDispatcher h node fun d => d.take s
      | allocate => exact confined_modifyDispatcher h node fun d => d.allocate.2
      | drop =>
        have hclose := confined_modifyNode h node fun n =>
          { dispatcher := n.dispatcher.close, transport := n.transport.close }
        rw [hshare] at hclose
        simp only [reclaim_of_not_owned (hown node)]
        exact hclose
      | work worker => exact confined_modifyDispatcher h node fun d => d.runWorker worker
      | event event =>
        have hevent := confined_modifyNode h node fun n => n.happen event
        rw [hshare] at hevent
        exact hevent
      | serve request =>
        exact confined_withTask hnode request fun h task hnode htask =>
          confined_react htask hnode _
      | react request reaction =>
        exact confined_withTask hnode request fun h task hnode htask =>
          confined_react htask hnode reaction
      | discard request =>
        exact confined_withTask hnode request fun h task _ _ => confined_release h node task.responder
      | answer request a =>
        simp only [answer, Share.withHeld]
        rcases h.takeHeld_cases node request with
          ⟨hnone, htake⟩ | ⟨taken, held, hsome, rfl, htake, htaken⟩
        · rw [hnone, htake]
          exact .refl h node
        · have hafter := confined_respond (h := { h with held }) hnode taken.responder a
          rw [htaken.share_eq] at hafter
          rw [hsome, htake]
          exact htaken.trans hafter
      | letGo request =>
        simp only [dropHeld, Share.withHeld]
        rcases h.takeHeld_cases node request with
          ⟨hnone, htake⟩ | ⟨taken, held, hsome, rfl, htake, htaken⟩
        · rw [hnone, htake]
          exact .refl h node
        · have hafter := confined_release { h with held } taken.node taken.responder
          rw [htaken.share_eq] at hafter
          rw [hsome, htake]
          exact htaken.trans hafter
    · rw [if_pos (by simpa using hallows), if_pos (by simpa using hallows)]
      exact .refl h node

/-! ## What turns do -/

/-- What a turn does to the surroundings. -/
def Surroundings.turn (s : Surroundings) : Turn → Surroundings
  | .build b e _ connections =>
    if s.running then
      { s with
        nextSystemId := s.nextSystemId + 1
        size := if (b.build true e connections).isOk then s.size + 1 else s.size }
    else s
  | .register e handler =>
    match s.switchboard.register e handler with
    | .ok switchboard => { s with switchboard }
    | .error _ => s
  | .unregister e => { s with switchboard := (s.switchboard.unregister e).2 }
  | .stop => { s with running := false }
  | .act _ _ => s

/-- No turn makes the dispatchers fewer. -/
theorem Surroundings.size_le_turn (s : Surroundings) (t : Turn) : s.size ≤ (s.turn t).size := by
  cases t with
  | build b e config connections =>
    rw [turn]
    split
    · simp only
      split <;> omega
    · exact Nat.le_refl _
  | register e handler =>
    rw [turn]
    split <;> exact Nat.le_refl _
  | _ => exact Nat.le_refl _

namespace Share

/-- The share of a dispatcher that has not been built. -/
def empty : Share :=
  { node := none, tasks := [], held := [], futures := [] }

/-- A dispatcher is built. -/
def build (x : Share) (systemId : UInt64) (e : Endpoint) (config : DispatcherConfig)
    (transport : Transport) : Share :=
  { x with node := some { dispatcher := .start systemId e config, transport } }

/-- Background work stops. Requests on their way are let go of first. -/
def stop (x : Share) : Share :=
  { x with
    node := x.node.map fun n =>
      { dispatcher := (x.tasks.foldl (fun d t => t.responder.release d) n.dispatcher).stop
        transport := n.transport.stopped }
    tasks := [] }

/-- What a turn does to a share. -/
def turn (x : Share) (node : Nat) (s : Surroundings) : Turn → Share
  | .build b e config connections =>
    if s.running ∧ s.size = node then
      match b.build true e connections with
      | .ok transport => x.build s.nextSystemId e config transport
      | .error _ => x
    else x
  | .register _ _ | .unregister _ => x
  | .stop => x.stop
  | .act other a => if other = node then x.act node s a else x

end Share

/-- Requests that are let go of concern the dispatchers that sent them. -/
theorem foldl_release (h : Host) (tasks : List Task) :
    ∃ nodes, tasks.foldl (fun h task => h.release task.node task.responder) h = { h with nodes } ∧
      nodes.length = h.nodes.length ∧ ∀ node : Nat, nodes[node]? = h.nodes[node]?.map fun n =>
        { n with
          dispatcher :=
            (tasks.filter (Task.isOf node)).foldl (fun d t => t.responder.release d) n.dispatcher } := by
  induction tasks generalizing h with
  | nil => exact ⟨h.nodes, rfl, rfl, fun node => by simp⟩
  | cons task tasks ih =>
    obtain ⟨nodes, hfold, hlength, hnodes⟩ := ih (h.release task.node task.responder)
    refine ⟨nodes, hfold, ?_, fun node => ?_⟩
    · rw [hlength]
      simp [release, modifyDispatcher, modifyNode]
    · rw [hnodes]
      by_cases hof : task.node = node
      · simp [release, modifyDispatcher, modifyNode, Task.isOf, hof, Function.comp_def]
      · simp [release, modifyDispatcher, modifyNode, Task.isOf, hof]

/-- The host with one more dispatcher. -/
def withDispatcher (h : Host) (e : Endpoint) (transport : Transport) : Host :=
  { h with
    nextSystemId := h.nextSystemId + 1
    nodes := h.nodes ++ [{ dispatcher := .start h.nextSystemId e h.config, transport }]
    ready := h.ready ++ [h.nodes.length] }

/-- What comes of building a dispatcher. -/
theorem install_eq (h : Host) (e : Endpoint) (made : Except CallError Transport) :
    h.install e made =
      if h.running then
        match made with
        | .error error => (.error error, { h with nextSystemId := h.nextSystemId + 1 })
        | .ok transport => (.ok h.nodes.length, h.withDispatcher e transport)
      else (.error (.failure .noRuntime), h) := by
  rw [install]
  by_cases hrunning : h.running = true
  · rw [if_pos hrunning, if_neg (by simp [hrunning])]
    cases made <;> rfl
  · rw [if_neg hrunning, if_pos (by simpa using hrunning)]

theorem build_eq (h : Host) (b : TransportBuilder) (e : Endpoint) (config : DispatcherConfig)
    (connections : ConnectionConfig) :
    h.turn (.build b e config connections) =
      if h.running then
        match b.build true e connections with
        | .error _ => { h with config, connections, nextSystemId := h.nextSystemId + 1 }
        | .ok transport =>
          { h with
            config
            connections
            nextSystemId := h.nextSystemId + 1
            nodes := h.nodes ++
              [{ dispatcher := .start h.nextSystemId e config, transport }]
            ready := h.ready ++ [h.nodes.length] }
      else { h with config, connections } := by
  rw [turn, build, install_eq]
  by_cases hrunning : h.running = true
  · simp only [hrunning, if_true]
    cases b.build true e connections <;> rfl
  · simp only [hrunning, Bool.false_eq_true, if_false]

/-- A turn changes the surroundings, as they say themselves. -/
theorem surroundings_turn (hown : ∀ node, h.isOwned node = false) (t : Turn) :
    (h.turn t).surroundings = h.surroundings.turn t := by
  cases t with
  | build b e config connections =>
    rw [build_eq, Surroundings.turn]
    by_cases hrunning : h.running = true
    · cases hbuild : b.build true e connections <;>
        simp [surroundings, hrunning, Except.isOk, Except.toBool]
    · simp [surroundings, hrunning]
  | register e handler =>
    simp only [turn, register, Surroundings.turn, surroundings]
    cases h.switchboard.register e handler <;> rfl
  | unregister e => rfl
  | stop =>
    obtain ⟨nodes, hfold, hlength, -⟩ := foldl_release { h with tasks := [] } h.tasks
    simp [turn, stop, hfold, surroundings, Surroundings.turn, hlength]
  | act node a => exact (confined_act hown node a).surroundings_eq

/-- A turn changes the share of a dispatcher, as the share and the surroundings say. -/
theorem share_turn (hown : ∀ node, h.isOwned node = false) (node : Nat) (t : Turn) :
    (h.turn t).share node = (h.share node).turn node h.surroundings t := by
  cases t with
  | build b e config connections =>
    rw [build_eq, Share.turn]
    by_cases hrunning : h.running = true
    · cases hbuild : b.build true e connections with
      | error e => simp [share, hrunning, surroundings]
      | ok transport =>
        by_cases hnode : h.nodes.length = node
        · subst hnode
          simp [share, hrunning, surroundings, Share.build]
        · have hother : (h.nodes ++ [{ dispatcher := .start h.nextSystemId e config
                                       transport : Node }])[node]? = h.nodes[node]? := by
            grind
          simp [share, hrunning, surroundings, hnode, hother]
    · simp [share, hrunning, surroundings]
  | register e handler =>
    simp only [turn, register, Share.turn]
    cases h.switchboard.register e handler <;> rfl
  | unregister e => rfl
  | stop =>
    obtain ⟨nodes, hfold, hlength, hnodes⟩ := foldl_release { h with tasks := [] } h.tasks
    simp only [turn, stop, hfold, share, Share.turn, Share.stop, List.getElem?_map, hnodes,
      Option.map_map, List.filter_nil]
    rfl
  | act other a =>
    rw [Share.turn]
    by_cases hnode : other = node
    · rw [if_pos hnode, ← hnode]
      exact (confined_act hown other a).share_eq
    · rw [if_neg hnode]
      exact (confined_act hown other a).others node (Ne.symm hnode)

/-- In a turn nobody but the callers gets to own a dispatcher. -/
theorem isOwned_turn (hown : ∀ node, h.isOwned node = false) (t : Turn) :
    ∀ node, (h.turn t).isOwned node = false := by
  suffices hsame : (h.turn t).isOwned = h.isOwned by
    rw [hsame]
    exact hown
  cases t with
  | build b e config connections =>
    rw [build_eq]
    split
    · split <;> rfl
    · rfl
  | register e handler =>
    rw [turn, register]
    split <;> rfl
  | unregister e => rfl
  | stop =>
    obtain ⟨nodes, hfold, -⟩ := foldl_release { h with tasks := [] } h.tasks
    rw [turn, stop, hfold]
    rfl
  | act node a => exact (confined_act hown node a).isOwned_eq

/-! ## Runs -/

theorem isOwned_run (hown : ∀ node, h.isOwned node = false) (turns : List Turn) :
    ∀ node, (h.run turns).isOwned node = false :=
  List.foldlRecOn (motive := fun h : Host => ∀ node, h.isOwned node = false) turns _ hown
    fun _ hown t _ => isOwned_turn hown t

variable (factory : TransportFactory) (config : DispatcherConfig) (connections : ConnectionConfig)

theorem isOwned_start (node : Nat) :
    (start factory config connections).isOwned node = false :=
  rfl

theorem share_eq_empty {node : Nat} {turns : List Turn}
    (hnode : ((start factory config connections).run turns).nodes.length ≤ node) :
    ((start factory config connections).run turns).share node = .empty := by
  induction turns using List.reverseRecOn with
  | nil => rfl
  | append_singleton turns t ih =>
    have hown := isOwned_run (isOwned_start factory config connections) turns
    rw [run_append] at hnode ⊢
    generalize (start factory config connections).run turns = h at *
    have hafter : (h.surroundings.turn t).size ≤ node := by
      rw [← surroundings_turn hown]
      exact hnode
    have hempty := ih (Nat.le_trans (h.surroundings.size_le_turn t) hafter)
    rw [show h.run [t] = h.turn t from rfl, share_turn hown, hempty]
    cases t with
    | build b e config connections =>
      rw [Share.turn]
      split
      next hbuilt =>
        -- A dispatcher with this number is not built, as there would be more of them then.
        cases hbuild : b.build true e connections with
        | error e => rfl
        | ok transport =>
          have hsize : (h.surroundings.turn (.build b e config connections)).size = node + 1 := by
            simp [Surroundings.turn, hbuilt, hbuild, Except.isOk, Except.toBool]
          omega
      next => rfl
    | act other a =>
      rw [Share.turn]
      split <;> rfl
    | _ => rfl

/-- What holds of the share of a dispatcher when it is built, and what every turn preserves that
concerns the dispatcher, holds in every run. The number is that of the ids handed out, at most. -/
theorem share_induction (P : Nat → Share → Prop) (node : Nat) (turns : List Turn)
    (hempty : ∀ ids, P ids .empty)
    (hbuild : ∀ ids systemId e config connections transport (b : TransportBuilder),
      b.build true e connections = .ok transport →
        P ids (Share.empty.build systemId e config transport))
    (hstop : .stop ∈ turns → ∀ ids x, P ids x → P ids x.stop)
    (hact : ∀ ids x s a, P ids x → P (ids + a.ids) (x.act node s a)) :
    P (turns.map (Turn.ids node)).sum (((start factory config connections).run turns).share node) := by
  induction turns using List.reverseRecOn with
  | nil => exact hempty 0
  | append_singleton turns t ih =>
    have hown := isOwned_run (isOwned_start factory config connections) turns
    have hbefore := ih fun hmem => hstop (List.mem_append_left _ hmem)
    have hnone := @share_eq_empty factory config connections node turns
    rw [run_append, List.map_append, List.sum_append, List.map_singleton, List.sum_singleton]
    generalize (start factory config connections).run turns = h at *
    rw [show h.run [t] = h.turn t from rfl, share_turn hown]
    cases t with
    | build b e config connections =>
      rw [Share.turn]
      split
      next hbuilt =>
        rw [hnone (Nat.le_of_eq hbuilt.2)] at hbefore ⊢
        cases htransport : b.build true e connections with
        | error e => exact hbefore
        | ok transport => exact hbuild _ _ e config connections transport b htransport
      next => exact hbefore
    | register e handler => exact hbefore
    | unregister e => exact hbefore
    | stop => exact hstop (by simp) _ _ hbefore
    | act other a =>
      rw [Share.turn, Turn.ids]
      split
      next => exact hact _ _ _ _ hbefore
      next => exact hbefore

end Host

end RemoteCall
