import RemoteCall.Proofs.Dispatch.Run
/-!
# Workrooms

Calls come into a workroom with their results, and leave it when a worker has sent the result to
the caller. In between, callers may give up waiting, and in the end the pool may be dropped: then
nothing more is handed in, and every worker leaves when its queue is empty. All of this happens in
any order (`Workroom.Act`). `Workroom.Move` lists the few changes that acts consist of; what every
move preserves holds after every run (`Workroom.run_induction`).

The queues, the mailboxes and what a worker does in its turn are those of the dispatcher. Whoever
hands in a call gives its sending end away, so a workroom knows who holds which call.
-/

namespace RemoteCall

/-! ## Queues -/

namespace CompletionPool

/-- The jobs of a worker, the next in front. -/
def queue (p : CompletionPool) (worker : Nat) : List Completion :=
  p.queues[worker]?.getD []

/-- A job that is handed in comes last in the queue of the worker whose turn it is. -/
theorem queue_submit (p : CompletionPool) (job : Completion) (worker : Nat) :
    (p.submit job).queue worker = p.queue worker ++ if worker = p.turn then [job] else [] := by
  by_cases hworker : worker = p.turn
  · subst hworker
    simp [queue, submit, p.turn_lt]
  · simp [queue, submit, hworker, Ne.symm hworker]

/-- A worker that takes its next job leaves the queues of the others alone. -/
theorem queue_advance (p : CompletionPool) (worker other : Nat) :
    (p.advance worker).queue other =
      if other = worker then (p.queue other).tail else p.queue other := by
  by_cases hother : other = worker
  · subst hother
    cases hqueue : p.queues[other]? <;> simp [queue, advance, hqueue]
  · simp [queue, advance, hother, Ne.symm hother]

/-- What waits, waits in the queue of a worker. -/
theorem pending_eq_nil {p : CompletionPool} (h : ∀ worker < p.queues.length, p.queue worker = []) :
    p.pending = [] := by
  rw [pending, List.flatten_eq_nil_iff]
  intro queue hqueue
  obtain ⟨worker, hworker, rfl⟩ := List.mem_iff_getElem.1 hqueue
  have hempty := h worker hworker
  rwa [CompletionPool.queue, List.getElem?_eq_getElem hworker] at hempty

end CompletionPool

/-- As long as background work goes on, a call that is resolved goes to the worker whose turn it
is. -/
theorem Dispatcher.resolve_of_running {d : Dispatcher} (h : d.running = true)
    (call : OutstandingCall) (outcome : Outcome) :
    d.resolve call outcome = { d with pool := d.pool.submit ⟨call, outcome⟩ } := by
  rw [resolve, if_pos h]

/-! ## Acts -/

/-- A dispatcher with its workers, and the calls that are to be resolved. -/
structure Workroom where
  /-- The dispatcher. It has the queues of the workers and the mailboxes of the callers. -/
  dispatcher : Dispatcher
  /-- The calls that have not been handed in. Each of them has the sending end of its mailbox. -/
  held : List OutstandingCall
  /-- Whether calls can still be handed in, as the pool has not been dropped. -/
  isOpen : Bool
  /-- The workers that have left, in order. -/
  gone : List Nat

namespace Workroom

/-- The workroom of a new dispatcher. -/
def start (systemId : UInt64) (endpoint : Endpoint) (config : DispatcherConfig) : Workroom :=
  { dispatcher := .start systemId endpoint config
    held := []
    isOpen := true
    gone := [] }

/-- The jobs of a worker, the next in front. -/
def queue (w : Workroom) (worker : Nat) : List Completion :=
  w.dispatcher.pool.queue worker

/-- What can be done in a workroom. -/
inductive Act where
  /-- Somebody makes a call, which gets a new mailbox. -/
  | prepare (id : UInt64) (method : String) (codec : Codec) (type : ReplyType)
  /-- The call with the given mailbox is handed in with its result. -/
  | submit (box : Nat) (outcome : Outcome)
  /-- A caller drops its future. -/
  | hangUp (box : Nat)
  /-- The pool is dropped. -/
  | close
  /-- A worker gets a turn. -/
  | work (worker : Nat)

/-- What happens in a workroom. -/
inductive Event where
  /-- A call has been made. -/
  | prepared (call : OutstandingCall)
  /-- A worker has got a job. -/
  | assigned (worker : Nat) (job : Completion)
  /-- A worker has sent a result. -/
  | resolved (worker : Nat) (job : Completion)
  /-- A caller has given up its mailbox. -/
  | hungUp (box : Nat)
  /-- A worker has left. -/
  | left (worker : Nat)

/-- Makes a call. -/
def prepare (w : Workroom) (id : UInt64) (method : String) (codec : Codec) (type : ReplyType) :
    Workroom × List Event :=
  let call : OutstandingCall :=
    { id, method, codec, replyType := type, box := w.dispatcher.mail.next }
  ({ w with
      dispatcher := { w.dispatcher with mail := w.dispatcher.mail.opened }
      held := w.held ++ [call] },
    [.prepared call])

/-- Hands in a call with its result. Whoever does so must hold the call, and the pool must be
there. -/
def submit (w : Workroom) (box : Nat) (outcome : Outcome) : Workroom × List Event :=
  match w.held.find? fun call => call.box == box with
  | none => (w, [])
  | some call =>
    if w.isOpen then
      ({ w with
          dispatcher := w.dispatcher.resolve call outcome
          held := w.held.eraseP fun call => call.box == box },
        [.assigned w.dispatcher.pool.turn ⟨call, outcome⟩])
    else (w, [])

/-- The workroom in which a mailbox has been given up. -/
def withdraw (w : Workroom) (box : Nat) : Workroom :=
  { w with dispatcher := { w.dispatcher with mail := w.dispatcher.mail.abandon box } }

/-- A caller drops its future, if it has one. -/
def hangUp (w : Workroom) (box : Nat) : Workroom × List Event :=
  if box < w.dispatcher.mail.next then (w.withdraw box, [.hungUp box]) else (w, [])

/-- A worker does its next job. If it has none it waits for one, or leaves when none can come. -/
def work (w : Workroom) (worker : Nat) : Workroom × List Event :=
  match w.dispatcher.pool.next? worker with
  | some job => ({ w with dispatcher := w.dispatcher.runWorker worker }, [.resolved worker job])
  | none =>
    if w.isOpen ∨ worker ∈ w.gone ∨ w.dispatcher.pool.queues.length ≤ worker then (w, [])
    else ({ w with gone := w.gone ++ [worker] }, [.left worker])

/-- One act, with what happens in it. -/
def step (w : Workroom) : Act → Workroom × List Event
  | .prepare id method codec type => w.prepare id method codec type
  | .submit box outcome => w.submit box outcome
  | .hangUp box => w.hangUp box
  | .close => ({ w with isOpen := false }, [])
  | .work worker => w.work worker

/-- Several acts, with what happens in them. -/
def run (w : Workroom) : List Act → Workroom × List Event
  | [] => (w, [])
  | act :: acts =>
    let (w, events) := w.step act
    let (w, later) := w.run acts
    (w, events ++ later)

/-- Acts one after the other are one run. -/
theorem run_append (w : Workroom) (acts more : List Act) :
    w.run (acts ++ more) =
      (((w.run acts).1.run more).1, (w.run acts).2 ++ ((w.run acts).1.run more).2) := by
  induction acts generalizing w with
  | nil => rfl
  | cons act acts ih => simp [run, ih, List.append_assoc]

/-! ## What has happened -/

namespace Event

/-- The call that has been made. -/
def prepared? : Event → Option OutstandingCall
  | prepared call => some call
  | _ => none

/-- The job that a worker has got, with the worker. -/
def assigned? : Event → Option (Nat × Completion)
  | assigned worker job => some (worker, job)
  | _ => none

/-- The job that a worker has done, with the worker. -/
def resolved? : Event → Option (Nat × Completion)
  | resolved worker job => some (worker, job)
  | _ => none

/-- The mailbox that has been given up. -/
def hungUp? : Event → Option Nat
  | hungUp box => some box
  | _ => none

end Event

/-- The calls that were made, in order. -/
def prepared (es : List Event) : List OutstandingCall :=
  es.filterMap Event.prepared?

/-- The jobs that workers have got, in order. -/
def assigned (es : List Event) : List (Nat × Completion) :=
  es.filterMap Event.assigned?

/-- The jobs that workers have done, in order. -/
def resolved (es : List Event) : List (Nat × Completion) :=
  es.filterMap Event.resolved?

/-- The mailboxes that were given up. -/
def hungUp (es : List Event) : List Nat :=
  es.filterMap Event.hungUp?

/-- What concerns a worker. -/
def jobsOf (worker : Nat) (jobs : List (Nat × Completion)) : List Completion :=
  (jobs.filter fun e => e.1 = worker).map Prod.snd

@[simp]
theorem prepared_append (es more : List Event) :
    prepared (es ++ more) = prepared es ++ prepared more :=
  List.filterMap_append

@[simp]
theorem assigned_append (es more : List Event) :
    assigned (es ++ more) = assigned es ++ assigned more :=
  List.filterMap_append

@[simp]
theorem resolved_append (es more : List Event) :
    resolved (es ++ more) = resolved es ++ resolved more :=
  List.filterMap_append

@[simp]
theorem hungUp_append (es more : List Event) : hungUp (es ++ more) = hungUp es ++ hungUp more :=
  List.filterMap_append

@[simp]
theorem jobsOf_append (worker : Nat) (jobs more : List (Nat × Completion)) :
    jobsOf worker (jobs ++ more) = jobsOf worker jobs ++ jobsOf worker more := by
  simp [jobsOf]

@[simp]
theorem jobsOf_singleton (worker other : Nat) (job : Completion) :
    jobsOf worker [(other, job)] = if worker = other then [job] else [] := by
  by_cases h : worker = other <;> simp [jobsOf, h, Ne.symm]

/-- If everything concerns one worker, nothing is left out. -/
theorem jobsOf_eq_map {worker : Nat} {jobs : List (Nat × Completion)}
    (h : ∀ e ∈ jobs, e.1 = worker) : jobsOf worker jobs = jobs.map Prod.snd := by
  rw [jobsOf, List.filter_eq_self.2 fun e he => decide_eq_true (h e he)]

theorem mem_jobsOf {worker : Nat} {jobs : List (Nat × Completion)} {job : Completion} :
    job ∈ jobsOf worker jobs ↔ (worker, job) ∈ jobs := by
  simp [jobsOf]

/-! ## Moves -/

/-- The changes that acts consist of, with what happens in them. -/
inductive Move : Workroom → List Event → Workroom → Prop
  /-- Nothing happens. -/
  | idle (w : Workroom) : Move w [] w
  /-- A call is made. -/
  | prepare (w : Workroom) {call : OutstandingCall} (hbox : call.box = w.dispatcher.mail.next) :
      Move w [.prepared call]
        { w with
          dispatcher := { w.dispatcher with mail := w.dispatcher.mail.opened }
          held := w.held ++ [call] }
  /-- A call that is held is handed in. -/
  | submit {w : Workroom} {before after : List OutstandingCall} {call : OutstandingCall}
      (hopen : w.isOpen = true) (hheld : w.held = before ++ call :: after) (outcome : Outcome) :
      Move w [.assigned w.dispatcher.pool.turn ⟨call, outcome⟩]
        { w with
          dispatcher := w.dispatcher.resolve call outcome
          held := before ++ after }
  /-- A mailbox is given up. -/
  | hangUp {w : Workroom} {box : Nat} (hbox : box < w.dispatcher.mail.next) :
      Move w [.hungUp box] (w.withdraw box)
  /-- The pool is dropped. -/
  | close (w : Workroom) : Move w [] { w with isOpen := false }
  /-- A worker does its next job. -/
  | resolve {w : Workroom} {worker : Nat} {job : Completion}
      (hnext : w.dispatcher.pool.next? worker = some job) :
      Move w [.resolved worker job] { w with dispatcher := w.dispatcher.runWorker worker }
  /-- A worker without jobs leaves. -/
  | leave {w : Workroom} {worker : Nat} (hclosed : w.isOpen = false) (hidle : w.queue worker = [])
      (hworker : worker < w.dispatcher.pool.queues.length) (hgone : worker ∉ w.gone) :
      Move w [.left worker] { w with gone := w.gone ++ [worker] }

/-- Every act is a move. -/
theorem move_step (w : Workroom) (act : Act) : Move w (w.step act).2 (w.step act).1 := by
  cases act with
  | prepare id method codec type => exact .prepare w rfl
  | submit box outcome =>
    rw [step, submit]
    split
    next => exact .idle w
    next call hfind =>
      split
      next hopen =>
        -- The first call with the mailbox is the one that is found, and the one that is handed in.
        obtain ⟨hbox, before, after, hheld, hbefore⟩ := List.find?_eq_some_iff_append.1 hfind
        have hrest : (w.held.eraseP fun call => call.box == box) = before ++ after := by
          rw [hheld, List.eraseP_append_right _ fun c hc => by simpa using hbefore c hc]
          simp [hbox]
        rw [hrest]
        exact .submit hopen hheld outcome
      next => exact .idle w
  | hangUp box =>
    rw [step, hangUp]
    split
    next hbox => exact .hangUp hbox
    next => exact .idle w
  | close => exact .close w
  | work worker =>
    rw [step, work]
    split
    next job hnext => exact .resolve hnext
    next hnext =>
      split
      next => exact .idle w
      next hleaves =>
        rw [not_or, not_or, Bool.not_eq_true, Nat.not_le] at hleaves
        obtain ⟨hclosed, hgone, hworker⟩ := hleaves
        exact .leave hclosed (List.head?_eq_none_iff.1 hnext) hworker hgone

/-- What every move preserves holds after every run. -/
theorem run_induction {P : Workroom → List Event → Prop}
    (hmove : ∀ {w w' : Workroom} {es es' : List Event}, P w es → Move w es' w' → P w' (es ++ es'))
    {w : Workroom} {es : List Event} (h : P w es) (acts : List Act) :
    P (w.run acts).1 (es ++ (w.run acts).2) := by
  induction acts generalizing w es with
  | nil =>
    rw [run, List.append_nil]
    exact h
  | cons act acts ih =>
    rw [run, ← List.append_assoc]
    exact ih (hmove h (w.move_step act))

end Workroom

end RemoteCall
