import RemoteCall.Proofs.Dispatch.Conclusion
import RemoteCall.Proofs.Host.Share
/-!
# Handing requests over

A request that waits for a handler is handed over in one turn: it leaves the queue, and what the
reaction to it means for its dispatcher, for the requests that handlers keep, and for the record of
what handlers have served happens in the same turn (`Host.HandsOver`). In the turn `serve` the
reaction is that of the handler in the task to the envelope and the payload in the task; in the turn
`react` it is any other, as it may be if the handler remembers something.

No other turn has handlers serve anything (`Host.handedOver_cases`). So what is handed over in a run
is what the record says (`Host.served_run`).
-/

namespace RemoteCall

namespace Reaction

/-- What a reaction to a request means for the dispatcher of the request. -/
def reach (r : Responder) (d : Dispatcher) : Reaction → Dispatcher
  | .answer a => (r.respond a d).2
  | .drop | .panic => r.release d
  | .hold => d

/-- The places in which the request is kept after a reaction. -/
def kept (place : Held) : Reaction → List (Option Held)
  | .hold => [some place]
  | _ => []

/-- How a reaction is put on record. A request that is kept gets the given number, and who answers
is told whether the dispatcher is live, or why the answer cannot be encoded. -/
def result (live : Bool) (number : Nat) : Reaction → Served.Result
  | .answer a => .answered (a.payload.map fun _ => live)
  | .drop => .dropped
  | .panic => .panicked
  | .hold => .held number

end Reaction

/-- The record of a request that was handed over, with what became of it. -/
def Task.record (task : Task) (result : Served.Result) : Served :=
  { envelope := task.responder.request, call := RequestHeader.decode task.payload, result }

namespace Host

variable {h : Host} {node : Nat} {n : Node} {task : Task}

/-- From one host to the other, the request at a place in the queue is handed over, and there is a
reaction to it. Nothing else happens. -/
def HandsOver (h : Host) (i : Nat) (task : Task) (reaction : Reaction) (h' : Host) : Prop :=
  h.tasks[i]? = some task ∧ ∃ n, h.nodes[task.node]? = some n ∧
    h' =
      { h with
        tasks := h.tasks.eraseIdx i
        nodes := h.nodes.set task.node
          { n with dispatcher := reaction.reach task.responder n.dispatcher }
        held := h.held ++ reaction.kept { node := task.node, responder := task.responder }
        served := h.served ++ [task.record (reaction.result n.dispatcher.live h.held.length)] }

/-! ## Reactions -/

/-- What a reaction does to the host. -/
theorem react_eq (hnode : h.nodes[task.node]? = some n) (reaction : Reaction) :
    h.react task reaction =
      { h with
        nodes := h.nodes.set task.node
          { n with dispatcher := reaction.reach task.responder n.dispatcher }
        held := h.held ++ reaction.kept { node := task.node, responder := task.responder }
        served :=
          h.served ++ [task.record (reaction.result n.dispatcher.live h.held.length)] } := by
  have hmodify (f : Dispatcher → Dispatcher) : h.modifyDispatcher task.node f =
      { h with nodes := h.nodes.set task.node { n with dispatcher := f n.dispatcher } } := by
    rw [modifyDispatcher, modifyNode, List.modify_eq_set_getElem?, hnode]
    rfl
  cases reaction with
  | answer a =>
    simp only [react, respond_eq hnode, hmodify, Responder.respond_fst, Reaction.kept,
      List.append_nil]
    rfl
  | drop | panic =>
    simp only [react, release, hmodify, Reaction.kept, List.append_nil]
    rfl
  | hold =>
    -- The dispatcher stays as it is.
    have hsame : h.nodes.set task.node n = h.nodes := by
      obtain ⟨hlt, rfl⟩ := List.getElem?_eq_some_iff.1 hnode
      exact List.set_getElem_self hlt
    simp only [react, Reaction.reach, Reaction.kept, hsame]
    rfl

/-- A reaction does not depend on the requests that wait, and leaves them alone. -/
theorem react_with_tasks (h : Host) (tasks : List Task) (task : Task) (reaction : Reaction) :
    { h with tasks }.react task reaction = { h.react task reaction with tasks } := by
  cases reaction with
  | answer a =>
    simp only [react, respond, onDispatcher]
    cases h.nodes[task.node]? <;> rfl
  | _ => rfl

@[simp]
theorem tasks_react (h : Host) (task : Task) (reaction : Reaction) :
    (h.react task reaction).tasks = h.tasks := by
  show ({ h with tasks := h.tasks }.react task reaction).tasks = h.tasks
  rw [react_with_tasks]

/-! ## Turns -/

/-- The request that waits for a handler under a number among those of a dispatcher. -/
def waiting? (h : Host) (node request : Nat) : Option Task :=
  if node < h.nodes.length then h.tasks[h.taskIndex node request]? else none

/-- The request that is handed over to its handler in a turn. -/
def handedOver (h : Host) : Turn → List Task
  | .act node (.serve request) | .act node (.react request _) => (h.waiting? node request).toList
  | _ => []

/-- A request that waits belongs to a dispatcher that is there. -/
theorem waiting?_eq_some {request : Nat} (hwaiting : h.waiting? node request = some task) :
    task.node = node ∧ h.tasks[h.taskIndex node request]? = some task ∧
      ∃ n, h.nodes[node]? = some n := by
  rw [waiting?] at hwaiting
  split at hwaiting
  next hlt =>
    obtain ⟨-, -, -, -, hof, -⟩ := exists_split_findIdxNth hwaiting
    exact ⟨by simpa [Task.isOf] using hof, hwaiting, _, List.getElem?_eq_getElem hlt⟩
  next => cases hwaiting

section

variable {a : Act} {request : Nat}

/-- If no request waits under the number, an act that would take it out does nothing. -/
theorem act_eq_self_of_waiting? {f : Host → Task → Host}
    (hact : ∀ n, h.nodes[node]? = some n → h.act node a = h.withTask node request f)
    (hnone : h.waiting? node request = none) : h.act node a = h := by
  rcases h.act_eq_self_or_allows node a with hsame | ⟨n, hnode, -⟩
  · exact hsame
  · rw [waiting?, if_pos (List.getElem?_eq_some_iff.1 hnode).1] at hnone
    rw [hact n hnode, withTask, hnone]

/-- Otherwise it is handed over, if the act leads to a reaction. -/
theorem handsOver_of_waiting? (reaction : Task → Reaction)
    (hact : ∀ n, h.nodes[node]? = some n →
      h.act node a = h.withTask node request fun h task => h.react task (reaction task))
    (hwaiting : h.waiting? node request = some task) :
    h.HandsOver (h.taskIndex node request) task (reaction task) (h.act node a) := by
  obtain ⟨rfl, htask, n, hnode⟩ := waiting?_eq_some hwaiting
  refine ⟨htask, n, hnode, ?_⟩
  rw [hact n hnode, withTask, htask]
  let taken : Host := { h with tasks := h.tasks.eraseIdx (h.taskIndex task.node request) }
  exact react_eq (h := taken) hnode (reaction task)

end

/-- A handler gets a request under its number, and reacts to its envelope and its payload. -/
theorem handsOver_serve {request : Nat} (hwaiting : h.waiting? node request = some task) :
    h.HandsOver (h.taskIndex node request) task
      (task.handler task.responder.request task.payload) (h.turn (.act node (.serve request))) :=
  handsOver_of_waiting? (fun task => task.handler task.responder.request task.payload)
    (fun _ hnode => act_of_allows hnode (a := .serve request) rfl) hwaiting

/-- There may be another reaction, too. -/
theorem handsOver_react {request : Nat} (hwaiting : h.waiting? node request = some task)
    (reaction : Reaction) :
    h.HandsOver (h.taskIndex node request) task reaction
      (h.turn (.act node (.react request reaction))) :=
  handsOver_of_waiting? (fun _ => reaction)
    (fun _ hnode => act_of_allows hnode (a := .react request reaction) rfl) hwaiting

/-- In other acts handlers serve nothing. Requests begin to wait in calls only, and are let go of in
`discard` only. -/
theorem served_act_of_ne {a : Act} (hserve : ∀ request, a ≠ .serve request)
    (hreact : ∀ request reaction, a ≠ .react request reaction) :
    (h.act node a).served = h.served ∧
      ((∀ request, a ≠ .call request) → (∀ request, a ≠ .discard request) →
        (h.act node a).tasks = h.tasks) := by
  rcases h.act_eq_self_or_allows node a with hsame | ⟨n, hnode, hallows⟩
  · rw [hsame]
    exact ⟨rfl, fun _ _ => rfl⟩
  · rw [act_of_allows hnode hallows]
    cases a with
    | serve request => exact absurd rfl (hserve request)
    | react request reaction => exact absurd rfl (hreact request reaction)
    | call request =>
      refine ⟨?_, fun hcall => absurd rfl (hcall request)⟩
      show (h.call node request).2.served = h.served
      cases haccept : n.dispatcher.accept request with
      | mk result d =>
        cases result with
        | error e =>
          rw [call_of_refused hnode haccept]
          rfl
        | ok a =>
          rw [call_of_accepted hnode haccept]
          rfl
    | discard request =>
      refine ⟨?_, fun _ hdiscard => absurd rfl (hdiscard request)⟩
      show (h.withTask node request _).served = h.served
      rw [withTask]
      cases h.tasks[h.taskIndex node request]? <;> rfl
    | answer request a =>
      show (h.answer (h.heldIndex node request) a).2.served = h.served ∧
        (_ → _ → (h.answer (h.heldIndex node request) a).2.tasks = h.tasks)
      rw [answer, takeHeld]
      cases h.held[h.heldIndex node request]?.join with
      | none => exact ⟨rfl, fun _ _ => rfl⟩
      | some held =>
        simp only [respond, onDispatcher]
        cases h.nodes[held.node]? <;> exact ⟨rfl, fun _ _ => rfl⟩
    | letGo request =>
      show (h.dropHeld (h.heldIndex node request)).2.served = h.served ∧
        (_ → _ → (h.dropHeld (h.heldIndex node request)).2.tasks = h.tasks)
      rw [dropHeld, takeHeld]
      cases h.held[h.heldIndex node request]?.join <;> exact ⟨rfl, fun _ _ => rfl⟩
    | drop =>
      show (h.reclaim node).served = h.served ∧ (_ → _ → (h.reclaim node).tasks = h.tasks)
      rw [reclaim]
      split <;> exact ⟨rfl, fun _ _ => rfl⟩
    -- The others change a dispatcher or its transport only.
    | _ => exact ⟨rfl, fun _ _ => rfl⟩

/-- In a turn handlers serve nothing, or one request is handed over. In the turn `serve` its handler
reacts to its envelope and its payload; the turn `react` says itself what the reaction is. -/
theorem handedOver_cases (h : Host) (t : Turn) :
    (h.handedOver t = [] ∧ (h.turn t).served = h.served) ∨
      ∃ i task reaction, h.handedOver t = [task] ∧ h.HandsOver i task reaction (h.turn t) ∧
        (∀ node request, t = .act node (.serve request) →
          reaction = task.handler task.responder.request task.payload) ∧
        ∀ node request other, t = .act node (.react request other) → reaction = other := by
  cases t with
  | build b e config connections =>
    refine .inl ⟨rfl, ?_⟩
    rw [build_eq]
    split
    · split <;> rfl
    · rfl
  | register e handler =>
    refine .inl ⟨rfl, ?_⟩
    rw [turn, register]
    split <;> rfl
  | unregister e => exact .inl ⟨rfl, rfl⟩
  | stop =>
    obtain ⟨nodes, hfold, -⟩ := foldl_release { h with tasks := [] } h.tasks
    exact .inl ⟨rfl, by simp [turn, stop, hfold]⟩
  | act node a =>
    cases a with
    | serve request =>
      rw [handedOver]
      cases hwaiting : h.waiting? node request with
      | none =>
        have hsame : h.act node (.serve request) = h :=
          act_eq_self_of_waiting? (fun _ hnode => act_of_allows hnode (a := .serve request) rfl)
            hwaiting
        exact .inl ⟨rfl, congrArg Host.served hsame⟩
      | some task =>
        exact .inr ⟨_, task, _, rfl, handsOver_serve hwaiting, fun _ _ _ => rfl,
          fun _ _ _ hreact => by cases hreact⟩
    | react request reaction =>
      rw [handedOver]
      cases hwaiting : h.waiting? node request with
      | none =>
        have hsame : h.act node (.react request reaction) = h :=
          act_eq_self_of_waiting?
            (fun _ hnode => act_of_allows hnode (a := .react request reaction) rfl) hwaiting
        exact .inl ⟨rfl, congrArg Host.served hsame⟩
      | some task =>
        refine .inr ⟨_, task, reaction, rfl, handsOver_react hwaiting reaction,
          fun _ _ hserve => (by cases hserve), fun _ _ other hreact => ?_⟩
        cases hreact
        rfl
    | _ => exact .inl ⟨rfl, (served_act_of_ne (by simp) (by simp)).1⟩

/-! ## Runs -/

/-- The requests that are handed over to their handlers in several turns. -/
def handedOverIn (h : Host) : List Turn → List Task
  | [] => []
  | t :: turns => h.handedOver t ++ (h.turn t).handedOverIn turns

/-- What handlers serve in a run is what is handed over to them, in order: they have seen its
envelopes, and what its payloads say. -/
theorem served_run (h : Host) (turns : List Turn) :
    (h.run turns).served.map (fun s => (s.envelope, s.call)) =
      h.served.map (fun s => (s.envelope, s.call)) ++
        (h.handedOverIn turns).map fun task =>
          (task.responder.request, RequestHeader.decode task.payload) := by
  -- The induction is on the turns; the record grows by what the first of them hands over.
  induction turns generalizing h with
  | nil => exact (List.append_nil _).symm
  | cons t turns ih =>
    show ((h.turn t).run turns).served.map _ = _ ++ (h.handedOver t ++ _).map _
    rw [ih, List.map_append, ← List.append_assoc]
    rcases h.handedOver_cases t with ⟨hnone, hserved⟩ | ⟨i, task, reaction, hone, hover, -⟩
    · rw [hnone, hserved, List.map_nil, List.append_nil]
    · obtain ⟨-, n, -, hturn⟩ := hover
      rw [hone, hturn, List.map_append]
      rfl

/-- If the dispatcher of the first request that waits is there, the request has the number 0. -/
theorem turn_serve_zero {tasks : List Task} (htasks : h.tasks = task :: tasks)
    (hnode : h.nodes[task.node]? = some n) :
    h.waiting? task.node 0 = some task ∧
      h.turn (.act task.node (.serve 0)) = { h with tasks }.serve task := by
  have hindex : h.taskIndex task.node 0 = 0 := by
    rw [taskIndex, htasks]
    exact List.findIdxNth_cons_zero_of_pos (by simp [Task.isOf])
  constructor
  · rw [waiting?, if_pos (List.getElem?_eq_some_iff.1 hnode).1, hindex, htasks]
    rfl
  · show h.act task.node (.serve 0) = _
    rw [act_of_allows hnode rfl]
    show h.withTask task.node 0 serve = _
    rw [withTask, hindex, htasks]
    rfl

/-- The first request is served while the others still wait. -/
theorem serveAll_of_cons {tasks : List Task} (htasks : h.tasks = task :: tasks) :
    h.serveAll = ({ h with tasks }.serve task).serveAll := by
  have hserve (more : List Task) :
      { h with tasks := more }.serve task = { h.serve task with tasks := more } :=
    h.react_with_tasks more task _
  rw [hserve, serveAll, serveAll, htasks]
  show tasks.foldl serve ({ h with tasks := [] }.serve task) = _
  rw [hserve]

/-- When background work serves what waits, it hands over one request after the other. -/
theorem serveAll_eq_run (h : Host) (hnodes : ∀ task ∈ h.tasks, task.node < h.nodes.length) :
    h.serveAll = h.run (h.tasks.map fun task => .act task.node (.serve 0)) ∧
      h.handedOverIn (h.tasks.map fun task => .act task.node (.serve 0)) = h.tasks := by
  -- The induction is on what waits. The first turn leaves a host with the other requests.
  generalize htasks : h.tasks = tasks at hnodes
  induction tasks generalizing h with
  | nil =>
    refine ⟨?_, rfl⟩
    rw [serveAll, htasks]
    show { h with tasks := [] } = h
    rw [← htasks]
  | cons task tasks ih =>
    obtain ⟨hlt, hrest⟩ := List.forall_mem_cons.1 hnodes
    have hnode := List.getElem?_eq_getElem hlt
    obtain ⟨hwaiting, hturn⟩ := turn_serve_zero htasks hnode
    have hlength : ({ h with tasks }.serve task).nodes.length = h.nodes.length := by
      rw [serve, react_eq (h := { h with tasks }) hnode]
      exact List.length_set
    obtain ⟨hall, hgiven⟩ := ih ({ h with tasks }.serve task) (tasks_react _ task _)
      (by rwa [hlength])
    constructor
    · show h.serveAll = (h.turn (.act task.node (.serve 0))).run _
      rw [hturn, ← hall, serveAll_of_cons htasks]
    · show h.handedOver (.act task.node (.serve 0)) ++
        (h.turn (.act task.node (.serve 0))).handedOverIn _ = _
      rw [hturn, hgiven, handedOver, hwaiting]
      rfl

end Host

end RemoteCall
