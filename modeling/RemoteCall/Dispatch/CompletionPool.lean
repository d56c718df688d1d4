import RemoteCall.Dispatch.Call
/-!
# Completion pools

Results are not delivered by whoever finds them: each is handed, with its call, to one of a
pool of workers. Jobs are dealt out in turn, and every worker takes its jobs in the order in
which it got them. When background work has stopped there are no workers any more, and a job
has to be done by the one who hands it in.
-/

namespace RemoteCall

/-- A call whose result is known and has to be delivered. -/
structure Completion where
  /-- The call. -/
  call : OutstandingCall
  /-- Its result. -/
  outcome : Outcome

/-- The queues of the workers. -/
structure CompletionPool where
  /-- The jobs of each worker, the first to be taken in front. -/
  queues : List (List Completion)
  /-- How many jobs have been dealt out, modulo the size of the counter. -/
  dealt : UInt64
  /-- There is a worker. -/
  queues_ne_nil : queues ≠ []

namespace CompletionPool

/-- Idle workers: as many as asked for, and at least one. -/
def start (count : Nat) : CompletionPool :=
  { queues := List.replicate (max count 1) []
    dealt := 0
    queues_ne_nil := by
      intro h
      have := congrArg List.length h
      simp at this }

instance : Inhabited CompletionPool := ⟨start 1⟩

/-- The worker that gets the next job. -/
def turn (p : CompletionPool) : Nat :=
  p.dealt.toNat % p.queues.length

/-- Gives a job to the worker whose turn it is. -/
def submit (p : CompletionPool) (job : Completion) : CompletionPool :=
  { queues := p.queues.modify p.turn (· ++ [job])
    dealt := p.dealt + 1
    queues_ne_nil := by
      intro h
      have := congrArg List.length h
      simp [List.length_modify] at this
      exact p.queues_ne_nil this }

/-- The next job of a worker, if it has one. -/
def next? (p : CompletionPool) (worker : Nat) : Option Completion :=
  (p.queues[worker]?.getD []).head?

/-- The pool after a worker has taken its next job. -/
def advance (p : CompletionPool) (worker : Nat) : CompletionPool :=
  { p with
    queues := p.queues.modify worker List.tail
    queues_ne_nil := by
      intro h
      have := congrArg List.length h
      simp [List.length_modify] at this
      exact p.queues_ne_nil this }

/-- The jobs that no worker has taken yet. -/
def pending (p : CompletionPool) : List Completion :=
  p.queues.flatten

/-- The pool without jobs. -/
def cleared (p : CompletionPool) : CompletionPool :=
  { p with
    queues := p.queues.map fun _ => []
    queues_ne_nil := by simpa using p.queues_ne_nil }

/-- A job that goes into one of several queues is one more of all jobs. -/
theorem flatten_modify_append {queues : List (List Completion)} {i : Nat} (job : Completion)
    (hi : i < queues.length) :
    (queues.modify i (· ++ [job])).flatten.Perm (queues.flatten ++ [job]) := by
  induction queues generalizing i with
  | nil => simp at hi
  | cons q qs ih =>
    cases i with
    | zero =>
      rw [List.modify_zero_cons, List.flatten_cons, List.flatten_cons, List.append_assoc,
        List.append_assoc]
      exact List.perm_append_comm.append_left q
    | succ i =>
      rw [List.modify_succ_cons, List.flatten_cons, List.flatten_cons, List.append_assoc]
      exact (ih (by simpa using hi)).append_left q

/-- A job that leaves its queue at the front leaves all other jobs. -/
theorem flatten_modify_tail {queues : List (List Completion)} {i : Nat} {job : Completion}
    (hjob : (queues[i]?.getD []).head? = some job) :
    queues.flatten.Perm (job :: (queues.modify i List.tail).flatten) := by
  induction queues generalizing i with
  | nil => simp at hjob
  | cons q qs ih =>
    cases i with
    | zero =>
      cases q with
      | nil => simp at hjob
      | cons j q =>
        obtain rfl : j = job := by simpa using hjob
        simp
    | succ i =>
      rw [List.modify_succ_cons, List.flatten_cons, List.flatten_cons]
      have hqs := (ih (i := i) (by simpa using hjob)).append_left q
      exact hqs.trans List.perm_middle

/-- There is a worker whose turn it is. -/
theorem turn_lt (p : CompletionPool) : p.turn < p.queues.length :=
  Nat.mod_lt _ (List.length_pos_iff.2 p.queues_ne_nil)

/-- A job that is handed in waits with the others. -/
theorem pending_submit (p : CompletionPool) (job : Completion) :
    (p.submit job).pending.Perm (p.pending ++ [job]) :=
  flatten_modify_append job p.turn_lt

/-- The job that a worker takes has waited with the others. -/
theorem pending_perm_of_next? {p : CompletionPool} {worker : Nat} {job : Completion}
    (h : p.next? worker = some job) : p.pending.Perm (job :: (p.advance worker).pending) :=
  flatten_modify_tail h

/-- A worker has a job if any job waits. -/
theorem exists_next? {p : CompletionPool} (h : p.pending ≠ []) :
    ∃ worker job, p.next? worker = some job := by
  obtain ⟨queue, hqueue, hne⟩ : ∃ queue ∈ p.queues, queue ≠ [] := by
    simpa [pending, List.flatten_eq_nil_iff] using h
  obtain ⟨worker, hworker⟩ := List.mem_iff_getElem?.1 hqueue
  obtain ⟨job, rest, rfl⟩ := List.exists_cons_of_ne_nil hne
  exact ⟨worker, job, by simp [next?, hworker]⟩

end CompletionPool

end RemoteCall
