import RemoteCall.Proofs.Dispatch.Conclusion
import RemoteCall.Proofs.Host.Share
/-!
# What acts do

`Share.Changes` lists what an act may do to the share of a dispatcher: to the dispatcher with its
transport, to its requests, and to the futures of its calls. An act does nothing else
(`Share.changes_act`), and what is preserved by acts is shown by cases on this list.
-/

namespace RemoteCall.Host.Share

/-- The requests that have not ended. -/
def requests (x : Share) : List Responder :=
  x.tasks.map Task.responder ++ x.held.filterMap (Option.map Held.responder)

variable {x y : Share} {node : Nat} {n : Node}

/-- A request that is taken out of those on their way. -/
theorem perm_requests_of_task {request : Nat} {task : Task} (h : x.tasks[request]? = some task) :
    x.requests.Perm (task.responder :: { x with tasks := x.tasks.eraseIdx request }.requests) :=
  ((perm_cons_eraseIdx h).map Task.responder).append_right _

/-- A request that is taken out of those that were kept. -/
theorem perm_requests_of_held {request : Nat} {held : Held}
    (h : x.held[request]? = some (some held)) :
    x.requests.Perm (held.responder :: { x with held := x.held.eraseIdx request }.requests) :=
  (((perm_cons_eraseIdx h).filterMap (Option.map Held.responder)).append_left _).trans
    List.perm_middle

/-- What an act may do to the share of a dispatcher. -/
inductive Changes (x : Share) (node : Nat) (s : Surroundings) (n : Node) : Act → Share → Prop
  /-- The dispatcher and its transport stay as they are. -/
  | stay {a : Act} {y : Share} (h : ∀ event, a = .event event → n.allows a = false)
      (hnode : y.node = some n) (hrequests : y.requests ⊆ x.requests)
      (hfutures : y.futures = x.futures) : Changes x node s n a y
  /-- A signal reaches the dispatcher. -/
  | take {a : Act} {y : Share} (h : ∀ event, a ≠ .event event) (signal : Signal)
      (hnode : y.node = some { n with dispatcher := n.dispatcher.take signal })
      (hrequests : y.requests ⊆ x.requests) (hfutures : y.futures = x.futures) :
      Changes x node s n a y
  /-- A call is refused. -/
  | refuse {request : CallRequest} {e : CallError} {d : Dispatcher}
      (h : n.dispatcher.accept request = (.error e, d)) :
      Changes x node s n (.call request) { x with node := some { n with dispatcher := d } }
  /-- A call is accepted, and the transport gets the request. -/
  | accept {request : CallRequest} {a : Admission} {d : Dispatcher}
      (hlive : n.dispatcher.live = true) (h : n.dispatcher.accept request = (.ok a, d)) :
      Changes x node s n (.call request)
        { x with
          node := some
            { dispatcher := d.noteSend a.id (Node.send { n with dispatcher := d } node s a).1
              transport := (Node.send { n with dispatcher := d } node s a).2.1 }
          tasks := x.tasks ++ (Node.send { n with dispatcher := d } node s a).2.2
          futures := x.futures ++ [Posting.future node ⟨request, a⟩] }
  /-- An id is used up. -/
  | allocate : Changes x node s n .allocate
      { x with node := some { n with dispatcher := n.dispatcher.allocate.2 } }
  /-- The dispatcher is dropped, and the transport is told. -/
  | drop : Changes x node s n .drop
      { x with node := some { dispatcher := n.dispatcher.close, transport := n.transport.close } }
  /-- A worker delivers its next result. -/
  | work (worker : Nat) : Changes x node s n (.work worker)
      { x with node := some { n with dispatcher := n.dispatcher.runWorker worker } }
  /-- An event happens to the connection. -/
  | event {event : Connection.Event} (h : n.allows (.event event) = true) :
      Changes x node s n (.event event) { x with node := some (n.happen event) }

/-- A request comes to its end. A dispatcher that was dropped does not notice. -/
theorem changes_finish (hnode : y.node = some n) {r : Responder}
    (hrequests : x.requests.Perm (r :: y.requests)) (hfutures : y.futures = x.futures) (node : Nat)
    (s : Surroundings) {a : Act} (h : ∀ event, a ≠ .event event) (answer? : Option Answer) :
    x.Changes node s n a (y.modifyDispatcher (r.finish answer?)) := by
  have hsubset : y.requests ⊆ x.requests := fun r' hr' =>
    hrequests.mem_iff.2 (List.mem_cons_of_mem r hr')
  have hfinish : (y.modifyDispatcher (r.finish answer?)).node =
      some { n with dispatcher := r.finish answer? n.dispatcher } := by
    rw [modifyDispatcher, hnode]
    rfl
  rw [r.finish_eq] at hfinish
  by_cases hlive : n.dispatcher.live = true
  · rw [if_pos hlive] at hfinish
    exact .take h _ hfinish hsubset hfutures
  · rw [if_neg hlive] at hfinish
    exact .stay (fun event hevent => absurd hevent (h event)) hfinish hsubset hfutures

/-- A request on its way is taken out, if it is there. -/
theorem changes_withTask (hnode : x.node = some n) (node : Nat) (s : Surroundings) {a : Act}
    (h : ∀ event, a ≠ .event event) (request : Nat) {f : Share → Task → Share}
    (hf : ∀ (y : Share) (task : Task), y.node = some n →
      x.requests.Perm (task.responder :: y.requests) → y.futures = x.futures →
      x.Changes node s n a (f y task)) :
    x.Changes node s n a (x.withTask request f) := by
  rw [withTask]
  cases htask : x.tasks[request]? with
  | none => exact .stay (fun event hevent => absurd hevent (h event)) hnode (List.Subset.refl _) rfl
  | some task => exact hf _ task hnode (perm_requests_of_task htask) rfl

/-- A handler gets a request, if it is there, and reacts to it. -/
theorem changes_react (hnode : x.node = some n) (node : Nat) (s : Surroundings) {a : Act}
    (h : ∀ event, a ≠ .event event) (request : Nat) (reaction : Task → Reaction) :
    x.Changes node s n a
      (x.withTask request fun x task => x.react node task.responder (reaction task)) := by
  refine changes_withTask hnode node s h request fun y task hy hrequests hfutures => ?_
  cases reaction task with
  | answer a => exact changes_finish hy hrequests hfutures node s h (some a)
  | drop => exact changes_finish hy hrequests hfutures node s h none
  | panic => exact changes_finish hy hrequests hfutures node s h none
  | hold =>
    -- The request is still there, but at another place.
    refine .stay (fun event hevent => absurd hevent (h event)) hy (fun r hr => ?_) hfutures
    rw [hrequests.mem_iff]
    simp only [react, requests, List.filterMap_append, ← List.append_assoc] at hr
    rcases List.mem_append.1 hr with hold | hnew
    · exact List.mem_cons_of_mem _ hold
    · exact List.mem_cons.2 (.inl (by simpa using hnew))

/-- A request that a handler kept comes to its end, if it is there. -/
theorem changes_withHeld (hnode : x.node = some n) (node : Nat) (s : Surroundings) {a : Act}
    (h : ∀ event, a ≠ .event event) (request : Nat) (answer? : Option Answer) :
    x.Changes node s n a
      (x.withHeld request fun x held => x.modifyDispatcher (held.responder.finish answer?)) := by
  rw [withHeld]
  cases hplace : x.held[request]?.join with
  | none => exact .stay (fun event hevent => absurd hevent (h event)) hnode (List.Subset.refl _) rfl
  | some held =>
    exact changes_finish (y := { x with held := x.held.eraseIdx request }) hnode
      (perm_requests_of_held (Option.join_eq_some_iff.1 hplace)) rfl node s h answer?

/-- What an act does to the share of a dispatcher. -/
theorem changes_act (hnode : x.node = some n) (node : Nat) (s : Surroundings) (a : Act) :
    x.Changes node s n a (x.act node s a) := by
  by_cases hallows : n.allows a = true
  · cases a with
    | call request =>
      have hact : x.act node s (.call request) = x.call node s n request := by
        simp [act, hnode, hallows]
      rw [hact, call]
      split
      next e d haccept => exact .refuse haccept
      next a d haccept => exact .accept hallows haccept
    | signal signal =>
      refine .take (by simp) signal ?_ ?_ ?_ <;>
        simp [act, hnode, hallows, modifyDispatcher, requests]
    | allocate =>
      have hact : x.act node s .allocate =
          { x with node := some { n with dispatcher := n.dispatcher.allocate.2 } } := by
        simp [act, hnode, hallows, modifyDispatcher]
      rw [hact]
      exact .allocate
    | drop =>
      have hact : x.act node s .drop =
          { x with
            node :=
              some { dispatcher := n.dispatcher.close, transport := n.transport.close } } := by
        simp [act, hnode, hallows]
      rw [hact]
      exact .drop
    | work worker =>
      have hact : x.act node s (.work worker) =
          { x with node := some { n with dispatcher := n.dispatcher.runWorker worker } } := by
        simp [act, hnode, hallows, modifyDispatcher]
      rw [hact]
      exact .work worker
    | event event =>
      have hact : x.act node s (.event event) = { x with node := some (n.happen event) } := by
        simp [act, hnode, hallows]
      rw [hact]
      exact .event hallows
    | serve request =>
      have hact : x.act node s (.serve request) = x.withTask request fun x task =>
          x.react node task.responder (task.handler task.responder.request task.payload) := by
        simp [act, hnode, hallows]
      rw [hact]
      exact changes_react hnode node s (by simp) request _
    | react request reaction =>
      have hact : x.act node s (.react request reaction) =
          x.withTask request fun x task => x.react node task.responder reaction := by
        simp [act, hnode, hallows]
      rw [hact]
      exact changes_react hnode node s (by simp) request fun _ => reaction
    | discard request =>
      have hact : x.act node s (.discard request) =
          x.withTask request fun x task => x.modifyDispatcher (task.responder.finish none) := by
        simp only [act, hnode, hallows, Bool.not_true, Bool.false_eq_true, if_false]
        rfl
      rw [hact]
      exact changes_withTask hnode node s (by simp) request fun y task hy hrequests hfutures =>
        changes_finish hy hrequests hfutures node s (by simp) none
    | answer request a =>
      have hact : x.act node s (.answer request a) = x.withHeld request fun x held =>
          x.modifyDispatcher (held.responder.finish (some a)) := by
        simp only [act, hnode, hallows, Bool.not_true, Bool.false_eq_true, if_false]
        rfl
      rw [hact]
      exact changes_withHeld hnode node s (by simp) request (some a)
    | letGo request =>
      have hact : x.act node s (.letGo request) = x.withHeld request fun x held =>
          x.modifyDispatcher (held.responder.finish none) := by
        simp only [act, hnode, hallows, Bool.not_true, Bool.false_eq_true, if_false]
        rfl
      rw [hact]
      exact changes_withHeld hnode node s (by simp) request none
  · -- An act that cannot happen changes nothing.
    have hact : x.act node s a = x := by simp [act, hnode, hallows]
    rw [hact]
    exact .stay (fun _ _ => by simpa using hallows) hnode (List.Subset.refl _) rfl

end RemoteCall.Host.Share
