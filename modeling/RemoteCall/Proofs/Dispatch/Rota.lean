import Mathlib.Algebra.Ring.Nat
import RemoteCall.Proofs.Dispatch.Workroom
/-!
# Rotas

The rota of a workroom (`Workroom.Rota`) is about its workers: whose turn it was to get a job, which
jobs each of them has done, and who has left. Every move keeps it, whatever the callers do in
between. A worker does its jobs in the order in which it got them, and as many of them as it gets
turns (`Workroom.take_queue_prefix_jobsOf`).
-/

namespace RemoteCall

namespace Workroom

variable {w w' : Workroom} {es es' : List Event} {workers : Nat}

/-- Background work goes on in every move. -/
theorem Move.running_eq (h : Move w es' w') :
    w'.dispatcher.running = w.dispatcher.running := by
  cases h with
  | submit _ _ outcome =>
    obtain ⟨pool, mail, hresolve⟩ := w.dispatcher.frame_resolve _ outcome
    rw [hresolve]
  | resolve _ =>
    obtain ⟨pool, mail, hwork⟩ := w.dispatcher.frame_runWorker _
    rw [hwork]
  | _ => rfl

/-- No move changes the number of workers. -/
theorem Move.length_queues_eq (h : Move w es' w') (hrunning : w.dispatcher.running = true) :
    w'.dispatcher.pool.queues.length = w.dispatcher.pool.queues.length := by
  cases h with
  | submit _ _ outcome =>
    rw [Dispatcher.resolve_of_running hrunning]
    exact List.length_modify ..
  | resolve hnext =>
    rw [Dispatcher.runWorker_of_next? hnext]
    exact List.length_modify ..
  | _ => rfl

/-- The counter counts the jobs that are handed in. -/
theorem Move.dealt_eq (h : Move w es' w') (hrunning : w.dispatcher.running = true) :
    w'.dispatcher.pool.dealt = w.dispatcher.pool.dealt + .ofNat (assigned es').length := by
  cases h with
  | submit _ _ outcome =>
    rw [Dispatcher.resolve_of_running hrunning]
    rfl
  | resolve hnext =>
    rw [Dispatcher.runWorker_of_next? hnext]
    exact (UInt64.add_zero _).symm
  | _ => exact (UInt64.add_zero _).symm

/-- The job that is handed in gets the worker whose turn it is. -/
theorem Move.assigned_eq (h : Move w es' w') :
    assigned es' = [] ∨ ∃ job, assigned es' = [(w.dispatcher.pool.turn, job)] := by
  cases h with
  | submit => exact .inr ⟨_, rfl⟩
  | _ => exact .inl rfl

/-- A move lets every worker do jobs from the front of its queue, and puts new ones behind the
others. -/
theorem Move.queue_append (h : Move w es' w') (hrunning : w.dispatcher.running = true)
    (worker : Nat) :
    w.queue worker ++ jobsOf worker (assigned es') =
      jobsOf worker (resolved es') ++ w'.queue worker := by
  cases h with
  | submit _ _ outcome =>
    rw [Dispatcher.resolve_of_running hrunning]
    show _ ++ jobsOf worker [_] = (w.dispatcher.pool.submit _).queue worker
    rw [jobsOf_singleton, CompletionPool.queue_submit]
    rfl
  | @resolve busy job hnext =>
    rw [Dispatcher.runWorker_of_next? hnext]
    show w.queue worker ++ [] = jobsOf worker [(busy, job)] ++
      (w.dispatcher.pool.advance busy).queue worker
    rw [jobsOf_singleton, CompletionPool.queue_advance, List.append_nil]
    split
    next hbusy =>
      subst hbusy
      obtain ⟨rest, hrest⟩ := List.head?_eq_some_iff.1 hnext
      have hqueue : w.dispatcher.pool.queue worker = job :: rest := hrest
      rw [queue, hqueue]
      rfl
    next => rfl
  | _ => exact List.append_nil _

/-- Only workers that leave are added to those that have left. -/
theorem Move.mem_gone_iff (h : Move w es' w') (worker : Nat) :
    worker ∈ w'.gone ↔ worker ∈ w.gone ∨ .left worker ∈ es' := by
  cases h with
  | leave => simp
  | hangUp => simp [withdraw]
  | _ => simp

/-- A worker leaves when nothing is in its queue and nothing is handed in any more. -/
theorem Move.of_left_mem (h : Move w es' w') {worker : Nat} (hleft : .left worker ∈ es') :
    es' = [.left worker] ∧ w.isOpen = false ∧ w.queue worker = [] := by
  cases h with
  | leave hclosed hidle =>
    cases List.mem_singleton.1 hleft
    exact ⟨rfl, hclosed, hidle⟩
  | _ => simp at hleft

/-- If a worker is among those that have left after a move, it leaves in the move or has left
before. -/
theorem Move.split_of_left (h : Move w es' w') {before after : List Event} {worker : Nat}
    (hleft : es ++ es' = before ++ .left worker :: after) :
    (before = es ∧ es' = [.left worker]) ∨ ∃ mid, es = before ++ .left worker :: mid := by
  rcases List.append_eq_append_iff.1 hleft with ⟨mid, hbefore, hes'⟩ | ⟨mid, hes, hafter⟩
  · obtain ⟨hone, -⟩ := h.of_left_mem (show .left worker ∈ es' by simp [hes'])
    -- Nothing else happens in the move, so nothing stands before the event.
    have hmid : mid = [] := by
      have hlength := congrArg List.length (hone.symm.trans hes')
      rw [List.length_singleton, List.length_append, List.length_cons] at hlength
      exact List.length_eq_zero_iff.1 (by omega)
    rw [hmid, List.append_nil] at hbefore
    exact .inl ⟨hbefore, hone⟩
  · cases mid with
    | nil =>
      rw [List.nil_append] at hafter
      rw [List.append_nil] at hes
      obtain ⟨hone, -⟩ := h.of_left_mem (hafter ▸ List.mem_cons_self)
      exact .inl ⟨hes.symm, hone⟩
    | cons e mid =>
      rw [List.cons_append, List.cons.injEq] at hafter
      obtain ⟨rfl, -⟩ := hafter
      exact .inr ⟨mid, hes⟩

/-- A pool that has been dropped does not come back. -/
theorem Move.isOpen_eq_false (h : Move w es' w') (hclosed : w.isOpen = false) :
    w'.isOpen = false := by
  cases h with
  | close => rfl
  | _ => exact hclosed

/-- Without a pool nothing is handed in. -/
theorem Move.assigned_eq_nil (h : Move w es' w') (hclosed : w.isOpen = false) :
    assigned es' = [] := by
  cases h with
  | submit hopen => rw [hclosed] at hopen; cases hopen
  | _ => rfl

/-- What has become of the jobs of so many workers after the given events. -/
structure Rota (workers : Nat) (w : Workroom) (es : List Event) : Prop where
  /-- Background work goes on. -/
  running : w.dispatcher.running = true
  /-- There are as many queues as workers. -/
  length_queues : w.dispatcher.pool.queues.length = workers
  /-- The counter has counted the jobs, as far as it goes. -/
  dealt_eq : w.dispatcher.pool.dealt = .ofNat (assigned es).length
  /-- The jobs have been dealt out in turn. -/
  turn_eq : ∀ k e, (assigned es)[k]? = some e → e.1 = k % 2 ^ 64 % workers
  /-- Of the jobs that a worker has got it has done the first, and the others are in its queue. -/
  jobsOf_eq : ∀ worker,
    jobsOf worker (assigned es) = jobsOf worker (resolved es) ++ w.queue worker
  /-- Those who have left are gone. -/
  left_mem_iff : ∀ worker, .left worker ∈ es ↔ worker ∈ w.gone
  /-- As long as jobs can be handed in, all workers are there. -/
  gone_eq_nil : w.isOpen = true → w.gone = []
  /-- Nothing is in the queue of a worker that is gone. -/
  queue_eq_nil : ∀ worker ∈ w.gone, w.queue worker = []
  /-- Whoever left had done all its jobs. -/
  jobsOf_of_left : ∀ before worker after, es = before ++ .left worker :: after →
    jobsOf worker (assigned es) = jobsOf worker (resolved before)

/-- The workers of a new workroom have not done anything. -/
theorem rota_start (systemId : UInt64) (endpoint : Endpoint) (config : DispatcherConfig) :
    Rota (max config.completionWorkers 1) (start systemId endpoint config) [] where
  running := rfl
  length_queues := List.length_replicate
  dealt_eq := rfl
  turn_eq k e h := by cases h
  jobsOf_eq worker := by
    show [] = ((List.replicate (max config.completionWorkers 1) [])[worker]?.getD [])
    rw [List.getElem?_replicate]
    split <;> rfl
  left_mem_iff worker := by simp [start]
  gone_eq_nil _ := rfl
  queue_eq_nil worker h := by cases h
  jobsOf_of_left before worker after h := by simp at h

namespace Rota

/-- There is a worker. -/
theorem workers_pos (h : Rota workers w es) : 0 < workers := by
  rw [← h.length_queues, List.length_pos_iff]
  exact w.dispatcher.pool.queues_ne_nil

/-- Only workers get jobs. -/
theorem lt_of_mem_assigned (h : Rota workers w es) {e : Nat × Completion} (he : e ∈ assigned es) :
    e.1 < workers := by
  obtain ⟨k, hk⟩ := List.mem_iff_getElem?.1 he
  rw [h.turn_eq k e hk]
  exact Nat.mod_lt _ h.workers_pos

/-- A worker does jobs that it has got. -/
theorem resolved_subset (h : Rota workers w es) : resolved es ⊆ assigned es := by
  intro e he
  rw [← mem_jobsOf, h.jobsOf_eq]
  exact List.mem_append_left _ (mem_jobsOf.2 he)

/-- The next job gets the worker whose turn it is. -/
theorem turn_eq_concat (h : Rota workers w es) (job : Completion) (k : Nat) (e : Nat × Completion)
    (he : (assigned es ++ [(w.dispatcher.pool.turn, job)])[k]? = some e) :
    e.1 = k % 2 ^ 64 % workers := by
  rcases Nat.lt_trichotomy k (assigned es).length with hlt | rfl | hgt
  · rw [List.getElem?_append_left hlt] at he
    exact h.turn_eq k e he
  · rw [List.getElem?_concat_length, Option.some.injEq] at he
    rw [← he, CompletionPool.turn, h.length_queues, h.dealt_eq, UInt64.toNat_ofNat']
  · rw [List.getElem?_eq_none (by rw [List.length_append]; exact hgt)] at he
    cases he

/-- Nothing is handed in any more when a worker has left. -/
theorem isOpen_eq_false (h : Rota workers w es) {worker : Nat} (hgone : worker ∈ w.gone) :
    w.isOpen = false := by
  rw [← Bool.not_eq_true]
  intro hopen
  rw [h.gone_eq_nil hopen] at hgone
  cases hgone

/-- Whoever left before a move, or leaves in it, had done all its jobs. -/
theorem jobsOf_of_left_move (h : Rota workers w es) (hmove : Move w es' w')
    {before after : List Event} {worker : Nat}
    (hleft : es ++ es' = before ++ .left worker :: after) :
    jobsOf worker (assigned (es ++ es')) = jobsOf worker (resolved before) := by
  rcases hmove.split_of_left hleft with ⟨rfl, rfl⟩ | ⟨mid, hes⟩
  · obtain ⟨-, -, hidle⟩ := hmove.of_left_mem List.mem_cons_self
    rw [assigned_append, show assigned [.left worker] = [] from rfl, List.append_nil,
      h.jobsOf_eq, hidle, List.append_nil]
  · -- As the worker has left before, nothing is handed in now.
    have hgone : worker ∈ w.gone := by
      rw [← h.left_mem_iff, hes]
      simp
    rw [assigned_append, hmove.assigned_eq_nil (h.isOpen_eq_false hgone), List.append_nil]
    exact h.jobsOf_of_left before worker mid hes

/-- Before the move in which a worker leaves, and ever after, its queue is empty and nothing is
handed in. -/
theorem idle_of_mem_gone (h : Rota workers w es) (hmove : Move w es' w') {worker : Nat}
    (hgone : worker ∈ w'.gone) : w.isOpen = false ∧ w.queue worker = [] := by
  rcases (hmove.mem_gone_iff worker).1 hgone with hold | hnow
  · exact ⟨h.isOpen_eq_false hold, h.queue_eq_nil worker hold⟩
  · exact (hmove.of_left_mem hnow).2

/-- Every move keeps the rota. -/
theorem move (h : Rota workers w es) (hmove : Move w es' w') : Rota workers w' (es ++ es') where
  running := hmove.running_eq.trans h.running
  length_queues := (hmove.length_queues_eq h.running).trans h.length_queues
  dealt_eq := by
    rw [hmove.dealt_eq h.running, h.dealt_eq, assigned_append, List.length_append, UInt64.ofNat_add]
  turn_eq k e he := by
    rw [assigned_append] at he
    rcases hmove.assigned_eq with hnone | ⟨job, hjob⟩
    · rw [hnone, List.append_nil] at he
      exact h.turn_eq k e he
    · rw [hjob] at he
      exact h.turn_eq_concat job k e he
  jobsOf_eq worker := by
    rw [assigned_append, resolved_append, jobsOf_append, jobsOf_append, h.jobsOf_eq,
      List.append_assoc, hmove.queue_append h.running, List.append_assoc]
  left_mem_iff worker := by
    rw [List.mem_append, h.left_mem_iff, hmove.mem_gone_iff]
  gone_eq_nil hopen := by
    rw [List.eq_nil_iff_forall_not_mem]
    intro worker hgone
    rw [hmove.isOpen_eq_false (h.idle_of_mem_gone hmove hgone).1] at hopen
    cases hopen
  queue_eq_nil worker hgone := by
    obtain ⟨hclosed, hidle⟩ := h.idle_of_mem_gone hmove hgone
    have hqueue := hmove.queue_append h.running worker
    rw [hidle, hmove.assigned_eq_nil hclosed] at hqueue
    exact (List.append_eq_nil_iff.1 hqueue.symm).2
  jobsOf_of_left before worker after hleft := h.jobsOf_of_left_move hmove hleft

/-- When all workers are gone, nothing waits. -/
theorem pending_eq_nil (h : Rota workers w es) (hgone : ∀ worker < workers, worker ∈ w.gone) :
    w.dispatcher.pool.pending = [] := by
  refine CompletionPool.pending_eq_nil fun worker hworker => ?_
  rw [h.length_queues] at hworker
  exact h.queue_eq_nil worker (hgone worker hworker)

/-- A single worker does all jobs in order. -/
theorem map_snd_eq (h : Rota 1 w es) :
    (assigned es).map Prod.snd = (resolved es).map Prod.snd ++ w.queue 0 := by
  have hassigned : ∀ e ∈ assigned es, e.1 = 0 := fun e he =>
    Nat.lt_one_iff.1 (h.lt_of_mem_assigned he)
  rw [← jobsOf_eq_map hassigned, h.jobsOf_eq,
    jobsOf_eq_map fun e he => hassigned e (h.resolved_subset he)]

/-- The rota of a run. -/
theorem run (h : Rota workers w es) (acts : List Act) :
    Rota workers (w.run acts).1 (es ++ (w.run acts).2) :=
  run_induction (fun h hmove => h.move hmove) h acts

end Rota

/-! ## Turns -/

/-- Whether an act is a turn of the given worker. -/
def Act.isTurnOf (worker : Nat) : Act → Bool
  | .work other => other == worker
  | _ => false

/-- How many turns a worker gets. -/
def turns (worker : Nat) (acts : List Act) : Nat :=
  acts.countP (Act.isTurnOf worker)

/-- An act is a turn of a worker only if the worker works in it. -/
theorem Act.eq_work {act : Act} {worker : Nat} (h : act.isTurnOf worker = true) :
    act = .work worker := by
  cases act with
  | work other => rw [show other = worker from eq_of_beq h]
  | _ => cases h

/-- A worker does nothing when it has no turn. -/
theorem jobsOf_resolved_of_not_turn (w : Workroom) {act : Act} {worker : Nat}
    (h : ¬ act.isTurnOf worker = true) : jobsOf worker (resolved (w.step act).2) = [] := by
  cases act with
  | prepare id method codec type => rfl
  | submit box outcome =>
    rw [step, submit]
    split
    next => rfl
    next => split <;> rfl
  | hangUp box =>
    rw [step, hangUp]
    split <;> rfl
  | close => rfl
  | work other =>
    have hother : worker ≠ other := fun heq => h (beq_iff_eq.2 heq.symm)
    rw [step, work]
    split
    next job _ =>
      show jobsOf worker [(other, job)] = []
      rw [jobsOf_singleton, if_neg hother]
    next => split <;> rfl

/-- In its turn a worker does the job in front of its queue. -/
theorem step_work_of_queue {worker : Nat} {job : Completion} {rest : List Completion}
    (h : w.queue worker = job :: rest) :
    w.step (.work worker) =
      ({ w with dispatcher := w.dispatcher.runWorker worker }, [.resolved worker job]) := by
  have hnext : w.dispatcher.pool.next? worker = some job := congrArg List.head? h
  rw [step, work, hnext]

/-- The others then move up. -/
theorem queue_work_of_queue (hrunning : w.dispatcher.running = true) {worker : Nat}
    {job : Completion} {rest : List Completion} (h : w.queue worker = job :: rest) :
    (w.step (.work worker)).1.queue worker = rest := by
  have hqueue := (w.move_step (.work worker)).queue_append hrunning worker
  rw [step_work_of_queue h] at hqueue ⊢
  rw [h, show assigned [.resolved worker job] = [] from rfl,
    show resolved [.resolved worker job] = [(worker, job)] from rfl, jobsOf_singleton, if_pos rfl,
    show jobsOf worker [] = [] from rfl, List.append_nil] at hqueue
  exact (List.cons.inj hqueue).2.symm

/-- A worker does as many of the jobs in its queue as it gets turns, in order. -/
theorem take_queue_prefix_jobsOf (hrunning : w.dispatcher.running = true) (worker : Nat)
    (acts : List Act) :
    (w.queue worker).take (turns worker acts) <+: jobsOf worker (resolved (w.run acts).2) := by
  induction acts generalizing w with
  | nil => exact List.nil_prefix
  | cons act acts ih =>
    have hmove := w.move_step act
    have hlater := ih (hmove.running_eq.trans hrunning)
    rw [run, resolved_append, jobsOf_append]
    by_cases hturn : act.isTurnOf worker = true
    · rw [turns, List.countP_cons_of_pos hturn]
      cases hjobs : w.queue worker with
      | nil =>
        rw [List.take_nil]
        exact List.nil_prefix
      | cons job rest =>
        obtain rfl := act.eq_work hturn
        rw [queue_work_of_queue hrunning hjobs] at hlater
        have hfirst : jobsOf worker (resolved (w.step (.work worker)).2) = [job] := by
          rw [step_work_of_queue hjobs]
          exact (jobsOf_singleton worker worker job).trans (if_pos rfl)
        rw [hfirst, List.take_succ_cons, List.singleton_append]
        exact List.cons_prefix_cons.2 ⟨rfl, hlater⟩
    · -- Jobs may have come in, but those that were there are still in front.
      have hqueue := hmove.queue_append hrunning worker
      rw [w.jobsOf_resolved_of_not_turn hturn, List.nil_append] at hqueue ⊢
      rw [turns, List.countP_cons_of_neg hturn]
      refine List.IsPrefix.trans ?_ hlater
      rw [← hqueue, turns, List.take_append]
      exact List.prefix_append _ _

/-- A worker that is gone stays away. -/
theorem mem_gone_run {worker : Nat} (h : worker ∈ w.gone) (acts : List Act) :
    worker ∈ (w.run acts).1.gone := by
  induction acts generalizing w with
  | nil => exact h
  | cons act acts ih =>
    rw [run]
    exact ih (((w.move_step act).mem_gone_iff worker).2 (.inl h))

/-- Nothing but its drop closes the pool. -/
theorem isOpen_step (w : Workroom) (act : Act) :
    (w.step act).1.isOpen = true ↔ w.isOpen = true ∧ .close ≠ act := by
  cases act with
  | prepare id method codec type => simp [step, prepare]
  | submit box outcome =>
    rw [step, submit]
    split
    next => simp
    next => split <;> simp
  | hangUp box =>
    rw [step, hangUp]
    split <;> simp [withdraw]
  | close => simp [step]
  | work worker =>
    rw [step, work]
    split
    next => simp
    next => split <;> simp

/-- The pool is there as long as it has not been dropped. -/
theorem isOpen_run (w : Workroom) (acts : List Act) :
    (w.run acts).1.isOpen = true ↔ w.isOpen = true ∧ .close ∉ acts := by
  induction acts generalizing w with
  | nil => simp [run]
  | cons act acts ih =>
    rw [run, ih, isOpen_step, List.mem_cons, not_or, and_assoc, ne_eq]

/-- A worker without jobs leaves in its turn, unless it is gone already. -/
theorem mem_gone_work (hclosed : w.isOpen = false) {worker : Nat}
    (hworker : worker < w.dispatcher.pool.queues.length) (hidle : w.queue worker = []) :
    worker ∈ (w.step (.work worker)).1.gone := by
  have hnext : w.dispatcher.pool.next? worker = none := congrArg List.head? hidle
  rw [step, work, hnext]
  by_cases hgone : worker ∈ w.gone
  · simp [hgone]
  · simp [hclosed, hgone, Nat.not_le.2 hworker]

/-- When nothing is handed in any more, a worker leaves in the turn after its last job. -/
theorem mem_gone_of_turns (hrunning : w.dispatcher.running = true) (hclosed : w.isOpen = false)
    {worker : Nat} (hworker : worker < w.dispatcher.pool.queues.length) {acts : List Act}
    (hturns : (w.queue worker).length < turns worker acts) : worker ∈ (w.run acts).1.gone := by
  induction acts generalizing w with
  | nil => cases hturns
  | cons act acts ih =>
    have hmove := w.move_step act
    have hrunning' := hmove.running_eq.trans hrunning
    have hclosed' := hmove.isOpen_eq_false hclosed
    have hworker' : worker < (w.step act).1.dispatcher.pool.queues.length := by
      rw [hmove.length_queues_eq hrunning]
      exact hworker
    rw [run]
    by_cases hturn : act.isTurnOf worker = true
    · rw [turns, List.countP_cons_of_pos hturn] at hturns
      obtain rfl := act.eq_work hturn
      cases hjobs : w.queue worker with
      | nil => exact mem_gone_run (mem_gone_work hclosed hworker hjobs) acts
      | cons job rest =>
        -- The turn is used up, and so is a job.
        refine ih hrunning' hclosed' hworker' ?_
        rw [queue_work_of_queue hrunning hjobs]
        rw [hjobs, List.length_cons] at hturns
        exact Nat.lt_of_succ_lt_succ hturns
    · have hqueue := hmove.queue_append hrunning worker
      rw [w.jobsOf_resolved_of_not_turn hturn, hmove.assigned_eq_nil hclosed,
        List.nil_append] at hqueue
      refine ih hrunning' hclosed' hworker' ?_
      rw [turns, List.countP_cons_of_neg hturn] at hturns
      rw [← hqueue]
      exact (List.append_nil _).symm ▸ hturns

end Workroom

end RemoteCall
