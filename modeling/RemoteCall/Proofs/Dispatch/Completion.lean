import RemoteCall.Proofs.Dispatch.Delivery
/-!
# Completions

A job that is handed in gets a worker, waits for its turn, and is done. What can be said of the
rota of the workers and of the mailboxes of the callers after every run is put together in
`Workroom.every_job_is_done_once_and_in_order`, with two things that concern the acts of the run:
which jobs come into the queues at all (`Workroom.exists_assigned_iff`), and what becomes of them in
the end, when the pool has been dropped (`Workroom.Rota.drained`).

A host does not let single workers take turns, but lets all of them send what they have
(`Dispatcher.runWorkers`). That is a row of turns too (`Workroom.exists_run_runWorkers`).
-/

namespace RemoteCall

/-! ## All workers at once -/

namespace CompletionPool

/-- The first of all jobs is the next one of some worker. -/
theorem exists_queue_of_flatten {queues : List (List Completion)} {job : Completion}
    {rest : List Completion} (h : queues.flatten = job :: rest) :
    ∃ i, (queues[i]?.getD []).head? = some job ∧ (queues.modify i List.tail).flatten = rest := by
  induction queues with
  | nil => cases h
  | cons queue queues ih =>
    cases queue with
    | nil =>
      obtain ⟨i, hhead, hrest⟩ := ih h
      refine ⟨i + 1, hhead, ?_⟩
      rw [List.modify_succ_cons]
      exact hrest
    | cons first jobs =>
      rw [List.flatten_cons, List.cons_append, List.cons.injEq] at h
      obtain ⟨rfl, rfl⟩ := h
      exact ⟨0, rfl, rfl⟩

/-- A worker that takes a job does not change what is left when all jobs are taken. -/
theorem cleared_advance (p : CompletionPool) (worker : Nat) :
    (p.advance worker).cleared = p.cleared := by
  simp [cleared, advance, List.map_const']

/-- When nothing waits, there is nothing to take. -/
theorem cleared_eq_self {p : CompletionPool} (h : p.pending = []) : p.cleared = p := by
  have hqueues : (p.queues.map fun _ => []) = p.queues := by
    rw [List.map_const', Eq.comm, List.eq_replicate_iff]
    exact ⟨rfl, List.flatten_eq_nil_iff.1 h⟩
  simp only [cleared, hqueues]

end CompletionPool

/-- Whether a worker takes the first of all jobs before the others are taken does not matter. -/
theorem Dispatcher.runWorkers_runWorker {d : Dispatcher} {worker : Nat} {job : Completion}
    (hnext : d.pool.next? worker = some job)
    (hpending : d.pool.pending = job :: (d.pool.advance worker).pending) :
    (d.runWorker worker).runWorkers = d.runWorkers := by
  rw [runWorker_of_next? hnext, runWorkers, runWorkers, hpending, List.foldl_cons]
  simp only [CompletionPool.cleared_advance]
  rfl

namespace Workroom

variable {w w' : Workroom} {es es' : List Event} {workers : Nat}

/-- When the workers send all results that they have, that is as if each of them had got as many
turns as it has jobs. -/
theorem exists_run_runWorkers (w : Workroom) :
    ∃ row : List Nat,
      (w.run (row.map .work)).1 = { w with dispatcher := w.dispatcher.runWorkers } ∧
      (resolved (w.run (row.map .work)).2).map Prod.snd = w.dispatcher.pool.pending := by
  generalize hpending : w.dispatcher.pool.pending = jobs
  induction jobs generalizing w with
  | nil =>
    refine ⟨[], ?_, rfl⟩
    rw [Dispatcher.runWorkers, hpending, CompletionPool.cleared_eq_self hpending]
    rfl
  | cons job jobs ih =>
    obtain ⟨worker, hnext, hrest⟩ := CompletionPool.exists_queue_of_flatten hpending
    obtain ⟨rest, hqueue⟩ := List.head?_eq_some_iff.1 hnext
    have hstep : w.step (.work worker) =
        ({ w with dispatcher := w.dispatcher.runWorker worker }, [.resolved worker job]) :=
      step_work_of_queue hqueue
    have hjobs : (w.dispatcher.runWorker worker).pool.pending = jobs := by
      rw [Dispatcher.runWorker_of_next? hnext]
      exact hrest
    -- The worker of the first job takes the first turn.
    obtain ⟨row, hrun, hdone⟩ := ih { w with dispatcher := w.dispatcher.runWorker worker } hjobs
    have hall : (w.dispatcher.runWorker worker).runWorkers = w.dispatcher.runWorkers :=
      Dispatcher.runWorkers_runWorker hnext (hpending.trans (congrArg (job :: ·) hrest.symm))
    refine ⟨worker :: row, ?_, ?_⟩
    · rw [List.map_cons, run, hstep, ← hall]
      exact hrun
    · rw [List.map_cons, run, hstep, resolved_append, List.map_append, hdone]
      rfl

/-! ## Jobs that are handed in -/

/-- What happens in a run, happens in one of its acts. -/
theorem exists_act_of_mem {e : Event} {acts : List Act} (h : e ∈ (w.run acts).2) :
    ∃ before act after,
      acts = before ++ act :: after ∧ e ∈ ((w.run before).1.step act).2 := by
  induction acts generalizing w with
  | nil => cases h
  | cons act acts ih =>
    rw [run, List.mem_append] at h
    rcases h with hnow | hlater
    · exact ⟨[], act, acts, rfl, hnow⟩
    · obtain ⟨before, other, after, rfl, hstep⟩ := ih hlater
      exact ⟨act :: before, other, after, rfl, hstep⟩

/-- What happens in one of the acts of a run, happens in the run. -/
theorem mem_run_of_mem_step {e : Event} {before after : List Act} {act : Act}
    (h : e ∈ ((w.run before).1.step act).2) : e ∈ (w.run (before ++ act :: after)).2 := by
  rw [run_append, run]
  exact List.mem_append_right _ (List.mem_append_left _ h)

theorem mem_assigned {worker : Nat} {job : Completion} :
    (worker, job) ∈ assigned es ↔ .assigned worker job ∈ es := by
  rw [assigned, List.mem_filterMap]
  constructor
  · rintro ⟨e, he, hassigned⟩
    cases e with
    | assigned =>
      cases hassigned
      exact he
    | _ => cases hassigned
  · intro he
    exact ⟨_, he, rfl⟩

/-- A call that is held can be found by its mailbox. -/
theorem Whereabouts.find?_held (h : w.Whereabouts es) {box : Nat} {call : OutstandingCall} :
    w.held.find? (fun c => c.box == box) = some call ↔ call ∈ w.held ∧ call.box = box := by
  constructor
  · intro hfind
    have hbox := List.find?_some hfind
    exact ⟨List.mem_of_find?_eq_some hfind, beq_iff_eq.1 hbox⟩
  · rintro ⟨hheld, rfl⟩
    -- No other call that is held has this mailbox, so there is no other to be found before it.
    have hnodup : (w.held.map OutstandingCall.box).Nodup := by
      have hboxes := h.nodup_boxes
      rw [List.append_assoc, List.map_append, List.nodup_append] at hboxes
      exact hboxes.1
    cases hfind : w.held.find? fun c => c.box == call.box with
    | none => simpa using List.find?_eq_none.1 hfind call hheld
    | some other =>
      have hsame := List.find?_some hfind
      rw [List.inj_on_of_nodup_map hnodup (List.mem_of_find?_eq_some hfind) hheld
        (beq_iff_eq.1 hsame)]

/-- A worker gets a job if somebody who holds the call hands it in and the pool is there. -/
theorem Whereabouts.assigned_step (h : w.Whereabouts es) {act : Act} {job : Completion} :
    (∃ worker, .assigned worker job ∈ (w.step act).2) ↔
      act = .submit job.call.box job.outcome ∧ w.isOpen = true ∧ job.call ∈ w.held := by
  constructor
  · rintro ⟨worker, hassigned⟩
    cases act with
    | prepare id method codec type => simp [step, prepare] at hassigned
    | submit box outcome =>
      rw [step, submit] at hassigned
      split at hassigned
      next => cases hassigned
      next call hfind =>
        split at hassigned
        next hopen =>
          obtain ⟨hheld, hbox⟩ := h.find?_held.1 hfind
          cases List.mem_singleton.1 hassigned
          exact ⟨by rw [hbox], hopen, hheld⟩
        next => cases hassigned
    | hangUp box =>
      rw [step, hangUp] at hassigned
      split at hassigned <;> simp at hassigned
    | close => cases hassigned
    | work worker =>
      rw [step, work] at hassigned
      split at hassigned
      next => simp at hassigned
      next => split at hassigned <;> simp at hassigned
  · rintro ⟨rfl, hopen, hheld⟩
    refine ⟨w.dispatcher.pool.turn, ?_⟩
    rw [step, submit, h.find?_held.2 ⟨hheld, rfl⟩]
    simp [hopen]

/-- When the pool has been dropped, no job is handed in. -/
theorem assigned_run_eq_nil (hclosed : w.isOpen = false) (acts : List Act) :
    assigned (w.run acts).2 = [] := by
  induction acts generalizing w with
  | nil => rfl
  | cons act acts ih =>
    have hmove := w.move_step act
    rw [run, assigned_append, hmove.assigned_eq_nil hclosed, ih (hmove.isOpen_eq_false hclosed)]
    rfl

/-- Exactly those jobs get a worker that are handed in by somebody who holds the call, as long as
the pool is there. -/
theorem exists_assigned_iff (systemId : UInt64) (endpoint : Endpoint) (config : DispatcherConfig)
    (acts : List Act) (job : Completion) :
    let new := start systemId endpoint config
    (∃ worker, (worker, job) ∈ assigned (new.run acts).2) ↔
      ∃ before after, acts = before ++ .submit job.call.box job.outcome :: after ∧
        .close ∉ before ∧ job.call ∈ (new.run before).1.held := by
  intro new
  have hwhere (before : List Act) : (new.run before).1.Whereabouts (new.run before).2 :=
    (rota_delivery_run systemId endpoint config before).2.toWhereabouts
  have hopen (before : List Act) : (new.run before).1.isOpen = true ↔ .close ∉ before := by
    rw [isOpen_run]
    exact and_iff_right rfl
  constructor
  · -- The act in which the worker got the job is one in which it was handed in.
    rintro ⟨worker, hassigned⟩
    obtain ⟨before, act, after, rfl, hstep⟩ := exists_act_of_mem (mem_assigned.1 hassigned)
    obtain ⟨rfl, hthere, hheld⟩ := (hwhere before).assigned_step.1 ⟨worker, hstep⟩
    exact ⟨before, after, rfl, (hopen before).1 hthere, hheld⟩
  · rintro ⟨before, after, rfl, hthere, hheld⟩
    obtain ⟨worker, hstep⟩ :=
      (hwhere before).assigned_step.2 ⟨rfl, (hopen before).2 hthere, hheld⟩
    exact ⟨worker, mem_assigned.2 (mem_run_of_mem_step hstep)⟩

/-! ## The end -/

/-- Once nothing is handed in any more, and every worker gets a turn for each of its jobs and one
more, all jobs are done and all workers have left. -/
theorem Rota.drained (h : Rota workers w es) (hclosed : w.isOpen = false) {more : List Act}
    (hturns : ∀ worker < workers, (w.queue worker).length < turns worker more) :
    let later := w.run more
    later.1.dispatcher.pool.pending = [] ∧
      ∀ worker < workers, worker ∈ later.1.gone ∧
        jobsOf worker (assigned es) = jobsOf worker (resolved (es ++ later.2)) := by
  intro later
  have hlater : Rota workers later.1 (es ++ later.2) := h.run more
  have hgone : ∀ worker < workers, worker ∈ later.1.gone := by
    intro worker hworker
    refine mem_gone_of_turns h.running hclosed ?_ (hturns worker hworker)
    rw [h.length_queues]
    exact hworker
  refine ⟨hlater.pending_eq_nil hgone, fun worker hworker => ⟨hgone worker hworker, ?_⟩⟩
  -- The worker has an empty queue in the end, and has not got any more jobs.
  have hjobs := hlater.jobsOf_eq worker
  rwa [assigned_append, assigned_run_eq_nil hclosed, List.append_nil,
    hlater.queue_eq_nil worker (hgone worker hworker), List.append_nil] at hjobs

/-! ## Every job is done once and in order -/

/-- Whatever is done in a workroom, be there as many workers as there may, where none counts as one,

* every job gets a worker that is there, in turn by a counter of 64 bits;
* the jobs that workers get are those that are handed in by somebody who holds the call, as long as
  the pool is there, each with its result;
* no call is handed in twice or resolved twice;
* a caller whose call has been resolved finds the result that was handed in with it, and a caller
  whose call has not been resolved finds nothing, unless they have given up;
* of the jobs that a worker has got it has done the first, and the others are in its queue in the
  order in which they were handed in; a single worker does so with all jobs;
* a worker does as many of the jobs in its queue as it gets turns, whatever happens in between;
* a caller who gives up changes nothing but its own mailbox: all else happens as if it had not;
* no worker leaves as long as the pool is there, so no job is left to whoever hands it in, and a
  worker that has left had done all jobs that it ever gets;
* after the pool has been dropped, when every worker has had a turn for each of its jobs and one
  more, all workers have left and every job that was handed in has been done. -/
theorem every_job_is_done_once_and_in_order (systemId : UInt64) (endpoint : Endpoint)
    (config : DispatcherConfig) (acts : List Act) :
    let workers := max config.completionWorkers 1
    let new := start systemId endpoint config
    let w := (new.run acts).1
    let es := (new.run acts).2
    (w.dispatcher.pool.queues.length = workers ∧
      ∀ k e, (assigned es)[k]? = some e → e.1 = k % 2 ^ 64 % workers ∧ e.1 < workers) ∧
    (∀ job : Completion, (∃ worker, (worker, job) ∈ assigned es) ↔
      ∃ before after, acts = before ++ .submit job.call.box job.outcome :: after ∧
        .close ∉ before ∧ job.call ∈ (new.run before).1.held) ∧
    ((assigned es).map fun e => e.2.call.box).Nodup ∧
    ((resolved es).map fun e => e.2.call.box).Nodup ∧
    (∀ e ∈ resolved es, w.dispatcher.mail.state e.2.call.box =
      if e.2.call.box ∈ hungUp es then .abandoned else .holding e.2.outcome) ∧
    (∀ call ∈ w.held ++ w.dispatcher.pool.pending.map Completion.call,
      w.dispatcher.mail.state call.box =
        if call.box ∈ hungUp es then .abandoned else .waiting) ∧
    (∀ worker, jobsOf worker (assigned es) = jobsOf worker (resolved es) ++ w.queue worker) ∧
    (workers = 1 → (assigned es).map Prod.snd = (resolved es).map Prod.snd ++ w.queue 0) ∧
    (∀ more worker,
      (w.queue worker).take (turns worker more) <+: jobsOf worker (resolved (w.run more).2)) ∧
    (∀ before box after, acts = before ++ .hangUp box :: after →
      box < (new.run before).1.dispatcher.mail.next →
      w = (new.run (before ++ after)).1.withdraw box ∧
      ∃ es₁ es₂, es = es₁ ++ .hungUp box :: es₂ ∧ (new.run (before ++ after)).2 = es₁ ++ es₂) ∧
    (.close ∉ acts → w.gone = []) ∧
    (∀ before worker after, es = before ++ .left worker :: after →
      jobsOf worker (assigned es) = jobsOf worker (resolved before)) ∧
    ∀ more, .close ∈ acts →
      (∀ worker < workers, (w.queue worker).length < turns worker more) →
      let later := w.run more
      later.1.dispatcher.pool.pending = [] ∧
      ∀ worker < workers, worker ∈ later.1.gone ∧
        jobsOf worker (assigned es) = jobsOf worker (resolved (es ++ later.2)) := by
  intro workers new w es
  -- The rota and the mailboxes say most of it. The rest is about the acts that came before and come
  -- later.
  obtain ⟨hrota, hdelivery⟩ := rota_delivery_run systemId endpoint config acts
  have hopen : w.isOpen = true ↔ .close ∉ acts := by
    rw [isOpen_run]
    exact and_iff_right rfl
  refine ⟨⟨hrota.length_queues, fun k e he => ⟨hrota.turn_eq k e he, ?_⟩⟩,
    exists_assigned_iff systemId endpoint config acts, hdelivery.nodup_assigned,
    hdelivery.nodup_resolved, hdelivery.state_of_resolved, hdelivery.state_of_waiting,
    hrota.jobsOf_eq, ?_, fun more worker => take_queue_prefix_jobsOf hrota.running worker more, ?_,
    fun hthere => hrota.gone_eq_nil (hopen.2 hthere), hrota.jobsOf_of_left, ?_⟩
  · exact hrota.lt_of_mem_assigned (List.mem_of_getElem? he)
  · intro hone
    rw [show max config.completionWorkers 1 = 1 from hone] at hrota
    exact hrota.map_snd_eq
  · rintro before box after rfl hbox
    have hbefore := (rota_delivery_run systemId endpoint config before).1
    exact run_hangUp hbefore.running hbox after
  · intro more hclose hturns
    refine hrota.drained ?_ hturns
    rw [← Bool.not_eq_true, hopen]
    exact not_not_intro hclose

/-- The first of three callers has given up when its call is resolved, and the pool is dropped while
two jobs wait. The workers do both of them and leave, and the other two callers have their
results. -/
theorem two_workers_finish_and_leave :
    let endpoint : Endpoint := { scheme := "test", host := "local", port := none, path := "Calc" }
    let acts : List Act :=
      [.prepare 1 "Count" .json .any, .prepare 2 "Count" .json .any, .prepare 3 "Count" .json .any,
        .submit 0 (.ok ⟨.any, .null⟩), .submit 1 (.error (.failure .noRuntime)), .hangUp 0,
        .submit 2 (.error (.failure .dispatcherClosed)), .work 0, .close]
    let more : List Act := [.work 0, .work 1, .work 1, .work 0]
    let r := (start 7 endpoint default).run acts
    r.1.dispatcher.pool.pending.map (fun job => job.call.id) = [3, 2] ∧
      (∀ worker < 2, (r.1.queue worker).length < turns worker more) ∧
      (r.1.run more).1.dispatcher.pool.pending = [] ∧ (r.1.run more).1.gone = [1, 0] ∧
      (∀ worker < 2,
        jobsOf worker (assigned r.2) = jobsOf worker (resolved (r.2 ++ (r.1.run more).2))) ∧
      (r.1.run more).1.dispatcher.mail.boxes.map (fun b =>
        match b with
        | .holding (.error e) => some e
        | _ => none) = [none, some (.failure .noRuntime), some (.failure .dispatcherClosed)] := by
  intro endpoint acts more
  have hturns : ∀ worker < 2,
      (((start 7 endpoint default).run acts).1.queue worker).length < turns worker more := by
    decide
  have hclose : .close ∈ acts := by simp [acts]
  have hfacts := every_job_is_done_once_and_in_order 7 endpoint default acts
  obtain ⟨-, -, -, -, -, -, -, -, -, -, -, -, hend⟩ := hfacts
  obtain ⟨hpending, hdone⟩ := hend more hclose hturns
  exact ⟨by decide, hturns, hpending, by decide, fun worker hworker => (hdone worker hworker).2,
    by decide⟩

end Workroom

end RemoteCall
