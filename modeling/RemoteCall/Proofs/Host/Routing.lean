import RemoteCall.Proofs.Host.Requests
import RemoteCall.Proofs.Host.Routes
/-!
# The way of requests to handlers

Handlers come and go while requests wait for them. Which handler gets a request is decided when the
request is sent: it is the one that serves the endpoint of the dispatcher then. A request that was
sent waits as a task, which carries its handler. It leaves the queue when it is handed over to this
handler, which then reacts to it (`Host.HandsOver`), or when it is let go of before
(`Host.perm_turn`). So whatever happens to the routes in between, it is handed over once at most,
and to no other handler.

The main statement is `Host.requests_go_to_the_handler_at_their_sending`.
-/

namespace RemoteCall

/-- A request that was accepted, on its way from a dispatcher to a handler. -/
def Admission.task (a : Admission) (node : Nat) (e : Endpoint) (handler : Handler) : Task :=
  { node
    responder := { request := a.envelope, endpoint := e.toText }
    payload := a.payload
    handler }

namespace Node

/-- An in-process transport sends a request to the handler that the route leads to, if background
work goes on. -/
theorem tasks_send_of_inProcess {n : Node} (htransport : n.transport = .inProcess) (node : Nat)
    (s : Host.Surroundings) (a : Admission) :
    (n.send node s a).2.2 =
      if s.running then
        ((s.switchboard.find? n.dispatcher.endpoint).map
          (a.task node n.dispatcher.endpoint)).toList
      else [] := by
  rw [send, htransport]
  cases s.switchboard.find? n.dispatcher.endpoint with
  | none => simp
  | some handler => cases s.running <;> rfl

/-- Other transports send nothing to handlers. -/
theorem tasks_send_of_ne {n : Node} (htransport : n.transport ≠ .inProcess) (node : Nat)
    (s : Host.Surroundings) (a : Admission) : (n.send node s a).2.2 = [] := by
  rw [send]
  split
  · rfl
  · rfl
  · split <;> rfl
  next hinProcess => exact absurd hinProcess htransport

end Node

namespace Host

variable {h first : Host} {node : Nat} {n : Node}

/-! ## Requests that are sent -/

/-- A call through an in-process dispatcher, which the dispatcher accepts. -/
structure Posts (h : Host) (node : Nat) (n : Node) (request : CallRequest) (a : Admission)
    (d : Dispatcher) : Prop where
  /-- The dispatcher is there. -/
  node_eq : h.nodes[node]? = some n
  /-- It has not been dropped. -/
  live : n.dispatcher.live = true
  /-- Its transport is the in-process transport. -/
  transport_eq : n.transport = .inProcess
  /-- It accepts the call. -/
  accept_eq : n.dispatcher.accept request = (.ok a, d)

/-- The requests that are sent to handlers in a turn: those that a call puts behind the others. -/
def dispatched (h : Host) : Turn → List Task
  | .act node (.call request) => (h.act node (.call request)).tasks.drop h.tasks.length
  | _ => []

theorem act_call_of_live (hnode : h.nodes[node]? = some n) (hlive : n.dispatcher.live = true)
    (request : CallRequest) : h.act node (.call request) = (h.call node request).2 :=
  act_of_allows hnode (a := .call request) hlive

/-- A call that is accepted puts what the transport makes of its request behind the others. -/
theorem tasks_call_of_accepted (hnode : h.nodes[node]? = some n) {request : CallRequest}
    {a : Admission} {d : Dispatcher} (haccept : n.dispatcher.accept request = (.ok a, d)) :
    (h.call node request).2.tasks =
      h.tasks ++ (Node.send { n with dispatcher := d } node h.surroundings a).2.2 := by
  rw [call_of_accepted hnode haccept]

/-- Through an in-process dispatcher this is a request for the handler that the route leads to. -/
theorem Posts.tasks_act {request : CallRequest} {a : Admission} {d : Dispatcher}
    (hposts : h.Posts node n request a d) :
    (h.act node (.call request)).tasks = h.tasks ++
      if h.running then
        ((h.switchboard.find? n.dispatcher.endpoint).map (a.task node n.dispatcher.endpoint)).toList
      else [] := by
  have hendpoint := (Dispatcher.accepts_of_accept hposts.accept_eq).endpoint_eq
  rw [act_call_of_live hposts.node_eq hposts.live,
    tasks_call_of_accepted hposts.node_eq hposts.accept_eq,
    Node.tasks_send_of_inProcess (n := { n with dispatcher := d }) hposts.transport_eq, hendpoint]
  rfl

/-- If no handler is registered at its endpoint, the call is concluded, and no request is sent. -/
theorem Posts.endpointNotFound {request : CallRequest} {a : Admission} {d : Dispatcher}
    (hposts : h.Posts node n request a d) (hnone : n.dispatcher.endpoint ∉ h.switchboard.keys) :
    (h.act node (.call request)).tasks = h.tasks ∧
      ∃ d', (h.act node (.call request)).nodes[node]? = some { n with dispatcher := d' } ∧
        d.Concludes d' a.id (a.record request)
          (.error (.failure (.endpointNotFound n.dispatcher.endpoint.toText))) := by
  have hendpoint := (Dispatcher.accepts_of_accept hposts.accept_eq).endpoint_eq
  have hfind := (h.switchboard.find?_eq_none_iff _).2 hnone
  rw [act_call_of_live hposts.node_eq hposts.live]
  refine call_of_failed hposts.node_eq hposts.accept_eq (.inr rfl) ?_
  simp [Node.send, hposts.transport_eq, hendpoint, surroundings, hfind]

/-- A call sends no request, or it goes through an in-process dispatcher, and its request goes to
the handler that the route leads to. -/
theorem tasks_act_call_cases (h : Host) (node : Nat) (request : CallRequest) :
    (h.act node (.call request)).tasks = h.tasks ∨
      ∃ n a d handler, h.Posts node n request a d ∧
        h.switchboard.find? n.dispatcher.endpoint = some handler ∧
        (h.act node (.call request)).tasks =
          h.tasks ++ [a.task node n.dispatcher.endpoint handler] := by
  rcases h.act_eq_self_or_allows node (.call request) with hsame | ⟨n, hnode, hlive⟩
  · -- The dispatcher is not there, or its callers are gone.
    exact .inl (congrArg Host.tasks hsame)
  · cases haccept : n.dispatcher.accept request with
    | mk result d =>
      cases result with
      | error e =>
        left
        rw [act_call_of_live hnode hlive, call_of_refused hnode haccept]
        rfl
      | ok a =>
        by_cases htransport : n.transport = .inProcess
        · have hposts : h.Posts node n request a d := ⟨hnode, hlive, htransport, haccept⟩
          rw [hposts.tasks_act]
          cases hfind : h.switchboard.find? n.dispatcher.endpoint with
          | none => exact .inl (by simp)
          | some handler =>
            cases h.running with
            | false => exact .inl (List.append_nil _)
            | true => exact .inr ⟨n, a, d, handler, hposts, hfind, rfl⟩
        · left
          rw [act_call_of_live hnode hlive, tasks_call_of_accepted hnode haccept,
            Node.tasks_send_of_ne (n := { n with dispatcher := d }) htransport, List.append_nil]

/-- The requests that a call sends come behind the others. -/
theorem tasks_act_call (h : Host) (node : Nat) (request : CallRequest) :
    (h.act node (.call request)).tasks = h.tasks ++ h.dispatched (.act node (.call request)) := by
  rw [dispatched]
  rcases h.tasks_act_call_cases node request with hsame | ⟨n, a, d, handler, -, -, hmore⟩
  · rw [hsame, List.drop_length, List.append_nil]
  · rw [hmore, List.drop_left]

/-- A request that is sent in a turn belongs to a call through an in-process dispatcher, and no
other is sent in this turn. -/
theorem dispatched_cases (h : Host) (t : Turn) :
    h.dispatched t = [] ∨
      ∃ node request n a d handler, t = .act node (.call request) ∧ h.Posts node n request a d ∧
        h.switchboard.find? n.dispatcher.endpoint = some handler ∧
        h.dispatched t = [a.task node n.dispatcher.endpoint handler] := by
  cases t with
  | act node a =>
    cases a with
    | call request =>
      rw [dispatched]
      rcases h.tasks_act_call_cases node request with
        hsame | ⟨n, a, d, handler, hposts, hfind, hmore⟩
      · exact .inl (by rw [hsame, List.drop_length])
      · exact .inr ⟨node, request, n, a, d, handler, rfl, hposts, hfind,
          by rw [hmore, List.drop_left]⟩
    | _ => exact .inl rfl
  | _ => exact .inl rfl

/-! ## Requests that leave the queue -/

/-- The requests that are let go of in a turn before a handler gets them. -/
def forgone (h : Host) : Turn → List Task
  | .act node (.discard request) => (h.waiting? node request).toList
  | .stop => h.tasks
  | _ => []

/-- An act that takes out a request with a number leaves the others. -/
theorem perm_act_of_withTask {a : Act} {request : Nat} {f : Host → Task → Host}
    (hsent : h.dispatched (.act node a) = [])
    (hact : ∀ n, h.nodes[node]? = some n → h.act node a = h.withTask node request f)
    (hf : ∀ h task, (f h task).tasks = h.tasks) :
    (h.tasks ++ h.dispatched (.act node a)).Perm
      ((h.waiting? node request).toList ++ (h.act node a).tasks) := by
  rw [hsent, List.append_nil]
  cases hwaiting : h.waiting? node request with
  | none =>
    rw [act_eq_self_of_waiting? hact hwaiting]
    exact .refl _
  | some task =>
    obtain ⟨-, htask, n, hnode⟩ := waiting?_eq_some hwaiting
    rw [hact n hnode, withTask, htask]
    show h.tasks.Perm (_ ++ (f _ task).tasks)
    rw [hf]
    exact perm_cons_eraseIdx htask

/-- A turn moves requests: those that waited or are sent now are handed over, let go of, or wait. -/
theorem perm_turn (h : Host) (t : Turn) :
    (h.tasks ++ h.dispatched t).Perm (h.handedOver t ++ (h.forgone t ++ (h.turn t).tasks)) := by
  -- Most turns leave the requests alone.
  have hkeeps {t : Turn} (hsent : h.dispatched t = []) (hgiven : h.handedOver t = [])
      (hleft : h.forgone t = []) (hsame : (h.turn t).tasks = h.tasks) :
      (h.tasks ++ h.dispatched t).Perm (h.handedOver t ++ (h.forgone t ++ (h.turn t).tasks)) := by
    rw [hsent, hgiven, hleft, hsame, List.append_nil]
    exact .refl _
  cases t with
  | build b e config connections =>
    refine hkeeps rfl rfl rfl ?_
    rw [build_eq]
    split
    · split <;> rfl
    · rfl
  | register e handler =>
    refine hkeeps rfl rfl rfl ?_
    rw [turn, register]
    split <;> rfl
  | unregister e => exact hkeeps rfl rfl rfl rfl
  | stop =>
    obtain ⟨nodes, hfold, -⟩ := foldl_release { h with tasks := [] } h.tasks
    have hnone : (h.turn .stop).tasks = [] := by simp [turn, stop, hfold]
    rw [hnone]
    exact .refl _
  | act node a =>
    cases a with
    | call request => exact .of_eq (h.tasks_act_call node request).symm
    -- Handlers get requests in these two turns, and in the third nobody does.
    | serve request =>
      exact perm_act_of_withTask rfl
        (fun _ hnode => act_of_allows hnode (a := .serve request) rfl)
        fun h task => h.tasks_react task _
    | react request reaction =>
      exact perm_act_of_withTask rfl
        (fun _ hnode => act_of_allows hnode (a := .react request reaction) rfl)
        fun h task => h.tasks_react task reaction
    | discard request =>
      exact perm_act_of_withTask rfl
        (fun _ hnode => act_of_allows hnode (a := .discard request) rfl)
        fun h task => rfl
    | _ =>
      refine hkeeps rfl rfl rfl ((served_act_of_ne ?_ ?_).2 ?_ ?_) <;> simp

/-! ## Runs -/

/-- The requests that are sent to handlers in several turns. -/
def dispatchedIn (h : Host) : List Turn → List Task
  | [] => []
  | t :: turns => h.dispatched t ++ (h.turn t).dispatchedIn turns

/-- The requests that are let go of in several turns before a handler gets them. -/
def forgoneIn (h : Host) : List Turn → List Task
  | [] => []
  | t :: turns => h.forgone t ++ (h.turn t).forgoneIn turns

/-- A run moves requests: those that waited or are sent are handed over, let go of, or wait. -/
theorem perm_run (h : Host) (turns : List Turn) :
    (h.tasks ++ h.dispatchedIn turns).Perm
      (h.handedOverIn turns ++ (h.forgoneIn turns ++ (h.run turns).tasks)) := by
  induction turns generalizing h with
  | nil => exact .of_eq (List.append_nil _)
  | cons t turns ih =>
    show (h.tasks ++ (h.dispatched t ++ (h.turn t).dispatchedIn turns)).Perm
      ((h.handedOver t ++ (h.turn t).handedOverIn turns) ++
        ((h.forgone t ++ (h.turn t).forgoneIn turns) ++ ((h.turn t).run turns).tasks))
    rw [← List.append_assoc]
    refine ((h.perm_turn t).append_right _).trans ?_
    simp only [List.append_assoc]
    refine .append_left _ (((ih (h.turn t)).append_left _).trans ?_)
    -- The requests that are handed over later come before those that are let go of now.
    exact List.perm_append_comm_assoc _ _ _

/-- A request that is sent in several turns is sent in one of them. -/
theorem exists_turn_of_mem_dispatchedIn {turns : List Turn} {task : Task}
    (htask : task ∈ first.dispatchedIn turns) :
    ∃ before t after, turns = before ++ t :: after ∧ task ∈ (first.run before).dispatched t := by
  induction turns generalizing first with
  | nil => cases htask
  | cons t turns ih =>
    rcases List.mem_append.1 htask with hnow | hlater
    · exact ⟨[], t, turns, rfl, hnow⟩
    · obtain ⟨before, t', after, rfl, hmem⟩ := ih hlater
      exact ⟨t :: before, t', after, rfl, hmem⟩

/-- Where a request comes from: in one of the turns an in-process dispatcher accepted a call, and
the handler that the request is for served the endpoint of this dispatcher then. -/
def ComesFrom (first : Host) (turns : List Turn) (task : Task) (a : Admission) : Prop :=
  ∃ before request after n d, turns = before ++ .act task.node (.call request) :: after ∧
    (first.run before).Posts task.node n request a d ∧
    first.Serves before n.dispatcher.endpoint task.handler ∧
    task = a.task task.node n.dispatcher.endpoint task.handler

/-- The envelope and the payload that it carries are those of the call. -/
theorem ComesFrom.reaction_eq {turns : List Turn} {task : Task} {a : Admission}
    (h : first.ComesFrom turns task a) :
    task.handler task.responder.request task.payload = task.handler a.envelope a.payload := by
  obtain ⟨before, request, after, n, d, -, -, -, htask⟩ := h
  rw [htask]
  rfl

/-- Whatever is sent in a run comes from a call. -/
theorem comesFrom_of_mem_dispatchedIn (hown : ∀ node, first.isOwned node = false)
    (hempty : first.switchboard = .empty) {turns : List Turn} {task : Task}
    (htask : task ∈ first.dispatchedIn turns) : ∃ a, first.ComesFrom turns task a := by
  obtain ⟨before, t, after, rfl, hmem⟩ := exists_turn_of_mem_dispatchedIn htask
  rcases (first.run before).dispatched_cases t with
    hnone | ⟨node, request, n, a, d, handler, rfl, hposts, hfind, hone⟩
  · rw [hnone] at hmem
    cases hmem
  · rw [hone, List.mem_singleton] at hmem
    subst hmem
    exact ⟨a, before, request, after, n, d, rfl, hposts,
      (find?_run_iff hown hempty before).1 hfind, rfl⟩

/-- So does whatever waits, if nothing waited at first. -/
theorem comesFrom_of_mem_tasks (hown : ∀ node, first.isOwned node = false)
    (hempty : first.switchboard = .empty) (hnone : first.tasks = []) {turns : List Turn}
    {task : Task} (htask : task ∈ (first.run turns).tasks) : ∃ a, first.ComesFrom turns task a := by
  refine comesFrom_of_mem_dispatchedIn hown hempty ?_
  have hmoves := first.perm_run turns
  rw [hnone, List.nil_append] at hmoves
  exact hmoves.mem_iff.2 (List.mem_append_right _ (List.mem_append_right _ htask))

/-! ## Requests of one dispatcher -/

/-- No turn makes the calls of a dispatcher fewer. -/
theorem futures_prefix_turn (hown : ∀ node, h.isOwned node = false) (node : Nat) (t : Turn) :
    (h.share node).futures <+: ((h.turn t).share node).futures := by
  rw [share_turn hown]
  cases t with
  | build b e config connections =>
    rw [Share.turn]
    split
    · split <;> exact List.prefix_refl _
    · exact List.prefix_refl _
  | act other a =>
    rw [Share.turn]
    split
    · cases hnode : (h.share node).node with
      | none =>
        unfold Share.act
        simp only [hnode]
        exact List.prefix_refl _
      | some n =>
        have hstep := Share.step_act hnode node h.surroundings a
        generalize a.ids = ids at hstep
        cases hstep with
        | narrow _ _ _ hfutures => exact hfutures ▸ List.prefix_refl _
        | skip _ _ hfutures => exact hfutures ▸ List.prefix_refl _
        | accept _ _ _ _ hfutures => exact ⟨_, hfutures.symm⟩
    · exact List.prefix_refl _
  | _ => exact List.prefix_refl _

/-- A call that is accepted gives its caller a future behind the others. -/
theorem Posts.futures_turn {request : CallRequest} {a : Admission} {d : Dispatcher}
    (hposts : h.Posts node n request a d) :
    ((h.turn (.act node (.call request))).share node).futures =
      (h.share node).futures ++ [Posting.future node ⟨request, a⟩] := by
  show ((h.act node (.call request)).share node).futures = _
  rw [act_call_of_live hposts.node_eq hposts.live,
    (confined_call hposts.node_eq request).share_eq, Share.call, hposts.accept_eq]

/-- The ids of the requests of a dispatcher among some. -/
def idsOf (node : Nat) (tasks : List Task) : List UInt64 :=
  (tasks.filter (Task.isOf node)).map fun task => task.responder.request.correlationId

theorem idsOf_append (node : Nat) (tasks more : List Task) :
    idsOf node (tasks ++ more) = idsOf node tasks ++ idsOf node more := by
  rw [idsOf, List.filter_append, List.map_append]
  rfl

/-- The request of a call carries the id of the call. -/
theorem Posts.idsOf_task {request : CallRequest} {a : Admission} {d : Dispatcher}
    (hposts : h.Posts node n request a d) (e : Endpoint) (handler : Handler) :
    idsOf node [a.task node e handler] = [a.id] := by
  have henvelope := (Dispatcher.accepts_of_accept hposts.accept_eq).envelope_eq
  simp [idsOf, Task.isOf, Admission.task, henvelope, Envelope.request]

/-- The ids of the requests that a dispatcher sends to handlers are ids of its calls, in order. -/
theorem idsOf_dispatchedIn_sublist (hown : ∀ node, first.isOwned node = false) (turns : List Turn)
    (node : Nat) :
    (idsOf node (first.dispatchedIn turns)).Sublist
      (((first.run turns).share node).futures.map Future.id) := by
  induction turns using List.reverseRecOn with
  | nil => exact List.nil_sublist _
  | append_singleton turns t ih =>
    rw [collected_append dispatchedIn dispatched (fun _ => rfl) (fun _ _ _ => rfl), run_append]
    show (idsOf node (_ ++ ((first.run turns).dispatched t ++ []))).Sublist
      ((((first.run turns).turn t).share node).futures.map Future.id)
    rw [List.append_nil, idsOf_append]
    -- In most turns the dispatcher sends no request, and its calls do not get fewer.
    have hquiet (hnone : idsOf node ((first.run turns).dispatched t) = []) :
        (idsOf node (first.dispatchedIn turns) ++
          idsOf node ((first.run turns).dispatched t)).Sublist
            ((((first.run turns).turn t).share node).futures.map Future.id) := by
      rw [hnone, List.append_nil]
      exact ih.trans ((futures_prefix_turn (isOwned_run hown turns) node t).sublist.map Future.id)
    rcases (first.run turns).dispatched_cases t with
      hnone | ⟨other, request, n, a, d, handler, rfl, hposts, -, hone⟩
    · exact hquiet (by rw [hnone]; rfl)
    · by_cases hnode : other = node
      · subst hnode
        rw [hone, hposts.idsOf_task, hposts.futures_turn, List.map_append]
        exact ih.append (List.Sublist.refl _)
      · refine hquiet ?_
        rw [hone]
        simp [idsOf, Task.isOf, Admission.task, hnode]

/-- As long as its ids have not wrapped around, a dispatcher sends no request twice. -/
theorem nodup_dispatchedIn (factory : TransportFactory) (config : DispatcherConfig)
    (connections : ConnectionConfig) (turns : List Turn) (node : Nat)
    (hids : (turns.map (Turn.ids node)).sum ≤ 2 ^ 64) :
    (((start factory config connections).dispatchedIn turns).filter (Task.isOf node)).Nodup := by
  have hsublist :=
    idsOf_dispatchedIn_sublist (isOwned_start factory config connections) turns node
  refine List.Nodup.of_map _ (hsublist.nodup ?_)
  cases hnode : ((start factory config connections).run turns).nodes[node]? with
  | none =>
    rw [share_eq_empty factory config connections (List.getElem?_eq_none_iff.1 hnode)]
    exact List.nodup_nil
  | some n =>
    obtain ⟨count, hcount, hnumbers⟩ := (books_run factory config connections turns hnode).numbered
    exact hnumbers.nodup (Nat.le_trans hcount hids)

/-! ## A handler gets a request -/

/-- The dispatcher of a request that waits is there. -/
theorem lt_length_of_mem_tasks (factory : TransportFactory) (config : DispatcherConfig)
    (connections : ConnectionConfig) (turns : List Turn) {task : Task}
    (htask : task ∈ ((start factory config connections).run turns).tasks) :
    task.node < ((start factory config connections).run turns).nodes.length := by
  refine Nat.lt_of_not_le fun hlength => ?_
  -- The request would be in the share of a dispatcher that has not been built.
  have hempty := share_eq_empty factory config connections hlength
  have hmem : task ∈ (((start factory config connections).run turns).share task.node).tasks :=
    List.mem_filter.2 ⟨htask, by simp [Task.isOf]⟩
  rw [hempty] at hmem
  cases hmem

/-- Whatever waits has a number among the requests of its dispatcher. -/
theorem exists_number_of_waiting (factory : TransportFactory) (config : DispatcherConfig)
    (connections : ConnectionConfig) (turns : List Turn) {i : Nat} {task : Task}
    (htask : ((start factory config connections).run turns).tasks[i]? = some task) :
    let h := (start factory config connections).run turns
    ∃ request, h.waiting? task.node request = some task ∧ h.taskIndex task.node request = i := by
  intro h
  obtain ⟨hi, hget⟩ := List.getElem?_eq_some_iff.1 htask
  have hof : Task.isOf task.node h.tasks[i] = true := by
    rw [hget]
    simp [Task.isOf]
  have hindex : h.taskIndex task.node (h.tasks.countPBefore (Task.isOf task.node) i) = i :=
    List.findIdxNth_countPBefore_of_lt_length_of_pos hof
  have hlt : task.node < h.nodes.length :=
    lt_length_of_mem_tasks factory config connections turns (List.mem_of_getElem? htask)
  refine ⟨_, ?_, hindex⟩
  rw [waiting?, if_pos hlt, hindex]
  exact htask

/-- Requests go to the handlers that serve the endpoints of their dispatchers when they are sent,
whatever turns there are:

* a route leads to the handler that was registered at the endpoint with success and has not been
  unregistered since; as long as there is one, registering another fails and changes nothing;
* the request of a call that an in-process dispatcher accepts gets behind those that wait, for the
  handler that serves the endpoint of the dispatcher; if none does, or background work has stopped,
  nothing more waits, and the call is concluded with an error that names the endpoint; no handler
  serves anything in this turn;
* whatever waits comes from such a call, and can be handed over next: in one turn it leaves the
  queue, and the reaction of the handler that served when it was sent, to the envelope and the
  payload of the call, reaches its dispatcher; so does any other reaction that the handler may have;
* background work hands over all that waits, one request after the other;
* whatever is sent is handed over, or let go of, or waits, and this only once; as long as the ids of
  a dispatcher do not wrap around, no two of its requests are the same; what is handed over is what
  handlers serve, in order;
* in each turn of the run handlers serve nothing, or one request is handed over, which comes from
  such a call before, and the reaction is that of the handler that served when it was sent, to the
  envelope and the payload of the call; only the turn `react` may name another. -/
theorem requests_go_to_the_handler_at_their_sending (factory : TransportFactory)
    (config : DispatcherConfig) (connections : ConnectionConfig) (turns : List Turn) :
    let first := start factory config connections
    let h := first.run turns
    ((∀ e handler, h.switchboard.find? e = some handler ↔ first.Serves turns e handler) ∧
      ∀ e handler,
        ((∀ other, ¬first.Serves turns e other) → (h.register e handler).1 = .ok ()) ∧
        ((∃ other, first.Serves turns e other) →
          h.register e handler = (.error (.failure (.endpointInUse e.toText)), h))) ∧
    (∀ node n request a d, h.Posts node n request a d →
      let e := n.dispatcher.endpoint
      let after := h.turn (.act node (.call request))
      after.served = h.served ∧
      (∀ handler, first.Serves turns e handler → h.running = true →
        after.tasks = h.tasks ++ [a.task node e handler]) ∧
      (∀ handler, first.Serves turns e handler → h.running = false → after.tasks = h.tasks ∧
        ∃ d', after.nodes[node]? = some { n with dispatcher := d' } ∧
          d.Concludes d' a.id (a.record request) (.error (.failure (.noResponse e.toText)))) ∧
      ((∀ handler, ¬first.Serves turns e handler) → after.tasks = h.tasks ∧
        ∃ d', after.nodes[node]? = some { n with dispatcher := d' } ∧
          d.Concludes d' a.id (a.record request)
            (.error (.failure (.endpointNotFound e.toText))))) ∧
    (∀ i task, h.tasks[i]? = some task → ∃ a request, first.ComesFrom turns task a ∧
      (h.handedOver (.act task.node (.serve request)) = [task] ∧
        h.HandsOver i task (task.handler a.envelope a.payload)
          (h.turn (.act task.node (.serve request)))) ∧
      ∀ reaction, h.handedOver (.act task.node (.react request reaction)) = [task] ∧
        h.HandsOver i task reaction (h.turn (.act task.node (.react request reaction)))) ∧
    (h.serveAll = h.run (h.tasks.map fun task => .act task.node (.serve 0)) ∧
      h.handedOverIn (h.tasks.map fun task => .act task.node (.serve 0)) = h.tasks) ∧
    ((first.dispatchedIn turns).Perm
        (first.handedOverIn turns ++ (first.forgoneIn turns ++ h.tasks)) ∧
      (∀ node, (turns.map (Turn.ids node)).sum ≤ 2 ^ 64 →
        ((first.dispatchedIn turns).filter (Task.isOf node)).Nodup) ∧
      h.served.map (fun s => (s.envelope, s.call)) =
        (first.handedOverIn turns).map fun task =>
          (task.responder.request, RequestHeader.decode task.payload)) ∧
    (∀ before t after, turns = before ++ t :: after →
      let g := first.run before
      (g.handedOver t = [] ∧ (g.turn t).served = g.served) ∨
        ∃ i task a reaction, g.handedOver t = [task] ∧ first.ComesFrom before task a ∧
          g.HandsOver i task reaction (g.turn t) ∧
          (∀ node request, t = .act node (.serve request) →
            reaction = task.handler a.envelope a.payload) ∧
          ∀ node request other, t = .act node (.react request other) → reaction = other) := by
  intro first h
  have hown : ∀ node, first.isOwned node = false := isOwned_start factory config connections
  have hroute : ∀ e handler, h.switchboard.find? e = some handler ↔ first.Serves turns e handler :=
    fun e handler => find?_run_iff hown rfl turns
  have hkeys : ∀ e, e ∈ h.switchboard.keys ↔ ∃ handler, first.Serves turns e handler := by
    intro e
    rw [Table.mem_keys_iff]
    exact exists_congr fun handler => hroute e handler
  refine ⟨⟨hroute, fun e handler => ⟨fun hnone => ?_, fun hother => ?_⟩⟩, ?_, ?_, ?_,
    ⟨first.perm_run turns, ?_, first.served_run turns⟩, ?_⟩
  · refine register_eq_ok_iff.2 fun hmem => ?_
    obtain ⟨other, hother⟩ := (hkeys e).1 hmem
    exact hnone other hother
  · exact register_of_mem ((hkeys e).2 hother) handler
  · intro node n request a d hposts e after
    have hafter : after = (h.call node request).2 :=
      act_call_of_live hposts.node_eq hposts.live request
    refine ⟨(served_act_of_ne (by simp) (by simp)).1, fun handler hserves hrunning => ?_,
      fun handler hserves hstopped => ?_, fun hnone => ?_⟩
    · show (h.act node (.call request)).tasks = _
      rw [hposts.tasks_act, if_pos hrunning, (hroute _ _).2 hserves]
      rfl
    · rw [hafter]
      exact call_without_background_work hposts.node_eq hstopped hposts.transport_eq
        ((hroute _ _).2 hserves) hposts.accept_eq
    · exact hposts.endpointNotFound fun hmem =>
        have ⟨handler, hserves⟩ := (hkeys e).1 hmem
        hnone handler hserves
  · intro i task htask
    obtain ⟨request, hwaiting, rfl⟩ :=
      exists_number_of_waiting factory config connections turns htask
    obtain ⟨a, hfrom⟩ := comesFrom_of_mem_tasks hown rfl rfl (List.mem_of_getElem? htask)
    have hgiven : (h.waiting? task.node request).toList = [task] :=
      congrArg Option.toList hwaiting
    refine ⟨a, request, hfrom, ⟨hgiven, ?_⟩, fun reaction => ⟨hgiven, ?_⟩⟩
    · exact hfrom.reaction_eq ▸ handsOver_serve hwaiting
    · exact handsOver_react hwaiting reaction
  · exact h.serveAll_eq_run fun task htask =>
      lt_length_of_mem_tasks factory config connections turns htask
  · exact nodup_dispatchedIn factory config connections turns
  · intro before t after _ g
    rcases g.handedOver_cases t with
      hnone | ⟨i, task, reaction, hgiven, hover, hserves, hreacts⟩
    · exact .inl hnone
    · obtain ⟨a, hfrom⟩ := comesFrom_of_mem_tasks hown rfl rfl (List.mem_of_getElem? hover.1)
      refine .inr ⟨i, task, a, reaction, hgiven, hfrom, hover, fun node request hserve => ?_,
        hreacts⟩
      rw [hserves node request hserve, hfrom.reaction_eq]

/-- A handler gets a request though another handler has taken its place before. -/
theorem replaced_handler_gets_its_request :
    let endpoint : Endpoint := { scheme := "inproc", host := "local", port := none, path := "Calc" }
    let request : CallRequest :=
      { codec := .json, service := "Calc", method := "Count", argument := .json .null
        replyType := .any }
    let settings : DispatcherConfig := { completionWorkers := 2, maxOutstandingCalls := none }
    let before : List Turn :=
      [.build .inProcess endpoint settings .default, .register endpoint fun _ _ => .hold,
        .act 0 (.call request), .unregister endpoint, .register endpoint fun _ _ => .drop]
    let t : Turn := .act 0 (.serve 0)
    let first := start .empty settings .default
    let h := first.run before
    first.Serves before endpoint (fun _ _ => .drop) ∧
      ∃ i task a, h.handedOver t = [task] ∧ first.ComesFrom before task a ∧
        h.HandsOver i task .hold (h.turn t) := by
  intro endpoint request settings before t first h
  obtain ⟨⟨hroute, -⟩, -⟩ :=
    requests_go_to_the_handler_at_their_sending .empty settings .default before
  obtain ⟨-, -, -, -, -, hturns⟩ :=
    requests_go_to_the_handler_at_their_sending .empty settings .default (before ++ [t])
  have hreactions : (h.handedOver t).map
      (fun task => task.handler task.responder.request task.payload) = [.hold] := rfl
  refine ⟨(hroute _ _).1 rfl, ?_⟩
  rcases hturns before t [] rfl with
    ⟨hnone, -⟩ | ⟨i, task, a, reaction, hone, hfrom, hover, hserve, -⟩
  · rw [hnone] at hreactions
    cases hreactions
  · rw [hone] at hreactions
    obtain rfl : reaction = .hold :=
      (hserve 0 0 rfl).trans (hfrom.reaction_eq.symm.trans (List.singleton_inj.1 hreactions))
    exact ⟨i, task, a, hone, hfrom, hover⟩

end Host

end RemoteCall
