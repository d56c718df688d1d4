import RemoteCall.Dispatch.Desk
import RemoteCall.Proofs.Table.FiniteMap
/-!
# The registry of calls

Whoever stands at a desk registers calls, looks at them and takes them out again, resolves or lets go
of those that were taken out, and waits for results or gives up waiting, in any order
(`CallDesk.Command`). To those who ask, the table is a finite map from ids to calls
(`CallDesk.Register`): a desk and its register answer alike, and every command leads from the one
pair to another (`register_step`, `answer?_register`). A call that was registered is in the table, or
has been handed out once (`admitted_perm_step`).
-/

open scoped List

namespace RemoteCall

namespace CallDesk

/-! ## Commands -/

/-- What can be done at a desk. -/
inductive Command where
  /-- A new call is registered, and its receiver goes into a slot. -/
  | insert (slot id : UInt64) (method : String) (codec : Codec) (type : ReplyType)
  /-- The call with an id is taken out of the table. -/
  | remove (id : UInt64)
  /-- Somebody looks at the call with an id. -/
  | peek (id : UInt64)
  /-- Somebody asks whether there is a call with an id. -/
  | contains (id : UInt64)
  /-- Somebody asks how many calls there are. -/
  | size
  /-- Somebody asks whether there are no calls. -/
  | isEmpty
  /-- All calls are taken out of the table. -/
  | drain
  /-- The call with an id that was taken out is resolved. -/
  | resolve (id : UInt64) (outcome : Outcome)
  /-- The call with an id that was taken out is let go of. -/
  | discard (id : UInt64)
  /-- The receiver in a slot is given up. -/
  | hangUp (slot : UInt64)
  /-- What has arrived in a slot is taken. -/
  | receive (slot : UInt64)

/-- The call that is registered under an id. It gets the next mailbox. -/
def newCall (d : CallDesk) (id : UInt64) (method : String) (codec : Codec) (type : ReplyType) :
    OutstandingCall :=
  { id, method, codec, replyType := type, box := d.mail.next }

/-- The desk after a command. -/
def step (d : CallDesk) : Command → CallDesk
  | .insert slot id method codec type => (d.insert slot id method codec type).2
  | .remove id => (d.remove id).2
  | .peek _ | .contains _ | .size | .isEmpty => d
  | .drain => d.drain.2
  | .resolve id outcome => (d.resolve id outcome).2
  | .discard id => (d.discard id).2
  | .hangUp slot => (d.hangUp slot).2
  | .receive slot => (d.receive slot).2

/-- The desk after several commands. -/
def run (d : CallDesk) (cmds : List Command) : CallDesk :=
  cmds.foldl step d

/-- What is told by a table that is asked. -/
inductive Answer where
  /-- Whether a call was registered. -/
  | registered (result : Except CallError Unit)
  /-- The call with an id. What somebody wants to know about a call is read off it. -/
  | call (call? : Option OutstandingCall)
  /-- A yes or a no. -/
  | truth (b : Bool)
  /-- A number of calls. -/
  | count (n : Nat)
  /-- Several calls, in no particular order. -/
  | calls (cs : Multiset OutstandingCall)

/-- What the table answers to a command, if the command is for the table. -/
def answer? (d : CallDesk) : Command → Option Answer
  | .insert slot id method codec type => some (.registered (d.insert slot id method codec type).1)
  | .remove id => some (.call (d.remove id).1)
  | .peek id => some (.call (d.table.find? id))
  | .contains id => some (.truth (d.table.contains id))
  | .size => some (.count d.table.size)
  | .isEmpty => some (.truth d.table.isEmpty)
  | .drain => some (.calls d.table.drain.1)
  | .resolve _ _ | .discard _ | .hangUp _ | .receive _ => none

/-- The answers to several commands. -/
def answers (d : CallDesk) : List Command → List Answer
  | [] => []
  | c :: cs => (d.answer? c).toList ++ (d.step c).answers cs

/-- The call that a command puts into the table. -/
def admitted (d : CallDesk) : Command → List OutstandingCall
  | .insert slot id method codec type =>
    match (d.insert slot id method codec type).1 with
    | .ok _ => [d.newCall id method codec type]
    | .error _ => []
  | _ => []

/-- The calls that a command takes out of the table. -/
def handedOut (d : CallDesk) : Command → List OutstandingCall
  | .remove id => (d.remove id).1.toList
  | .drain => d.table.drain.1
  | _ => []

/-- The calls that several commands put into the table, in order. -/
def admittedIn (d : CallDesk) : List Command → List OutstandingCall
  | [] => []
  | c :: cs => d.admitted c ++ (d.step c).admittedIn cs

/-- The calls that several commands take out of the table, in order. -/
def handedOutIn (d : CallDesk) : List Command → List OutstandingCall
  | [] => []
  | c :: cs => d.handedOut c ++ (d.step c).handedOutIn cs

/-! ## Registers -/

/-- A finite map from ids to calls, and how many calls were shown to it. -/
structure Register where
  /-- The calls by id. -/
  calls : Finmap fun _ : UInt64 => OutstandingCall
  /-- The number of calls that were to be registered so far. The next call has this mailbox. -/
  shown : Nat

namespace Register

/-- The register without calls. -/
def empty : Register :=
  ⟨∅, 0⟩

/-- The register after a command. -/
def step (r : Register) : Command → Register
  | .insert _ id method codec type =>
    { calls :=
        if id ∈ r.calls then r.calls
        else r.calls.insert id { id, method, codec, replyType := type, box := r.shown }
      shown := r.shown + 1 }
  | .remove id => { r with calls := r.calls.erase id }
  | .drain => { r with calls := ∅ }
  | _ => r

/-- What the map says about a command, if the command is for the table. -/
def answer? (r : Register) : Command → Option Answer
  | .insert _ id _ _ _ =>
    some (.registered
      (if id ∈ r.calls then .error (.failure (.duplicateCorrelationId id)) else .ok ()))
  | .remove id | .peek id => some (.call (r.calls.lookup id))
  | .contains id => some (.truth (decide (id ∈ r.calls)))
  | .size => some (.count r.calls.keys.card)
  | .isEmpty => some (.truth (decide (r.calls.keys = ∅)))
  | .drain => some (.calls (r.calls.entries.map Sigma.snd))
  | .resolve _ _ | .discard _ | .hangUp _ | .receive _ => none

/-- What the map says about several commands. -/
def answers (r : Register) : List Command → List Answer
  | [] => []
  | c :: cs => (r.answer? c).toList ++ (r.step c).answers cs

end Register

/-- The register of a desk. -/
def register (d : CallDesk) : Register :=
  ⟨d.table.toFinmap, d.mail.next⟩

variable {d : CallDesk} {slot id : UInt64} {method : String} {codec : Codec} {type : ReplyType}
  {call : OutstandingCall}

/-! ## What the commands do -/

/-- The mailboxes after the receiver in a slot was given up. -/
def vacated (d : CallDesk) (slot : UInt64) : MailRoom Outcome :=
  match d.receivers.find? slot with
  | some r => d.mail.abandon r.box
  | none => d.mail

@[simp]
theorem next_vacated (d : CallDesk) (slot : UInt64) : (d.vacated slot).next = d.mail.next := by
  rw [vacated]
  split
  · exact d.mail.next_modify _ _
  · rfl

/-- A call whose id is taken is let go of, and the table stays as it is. -/
theorem insert_of_mem (h : id ∈ d.table.keys) (slot : UInt64) (method : String) (codec : Codec)
    (type : ReplyType) :
    d.insert slot id method codec type =
      (.error (.failure (.duplicateCorrelationId id)),
        { d with
          mail := (d.vacated slot).opened.close d.mail.next
          receivers := d.receivers.replace slot { box := d.mail.next, type } }) := by
  have hinsert : d.table.insert (d.newCall id method codec type) =
      .error (.failure (.duplicateCorrelationId id)) := by
    rw [CallTable.insert, (d.table.insert?_eq_none_iff (d.newCall id method codec type).id _).2 h]
    rfl
  rw [newCall] at hinsert
  rw [insert]
  simp only [hinsert]
  rfl

/-- A call whose id is not taken goes into the table. -/
theorem insert_of_notMem (h : id ∉ d.table.keys) (slot : UInt64) (method : String) (codec : Codec)
    (type : ReplyType) :
    ∃ table : CallTable,
      d.table.insert? id (d.newCall id method codec type) = some table ∧
      d.insert slot id method codec type =
        (.ok (),
          { d with
            table
            mail := (d.vacated slot).opened
            receivers := d.receivers.replace slot { box := d.mail.next, type } }) := by
  obtain ⟨table, htable⟩ :
      ∃ table, d.table.insert? id (d.newCall id method codec type) = some table :=
    Option.ne_none_iff_exists'.1 (mt (d.table.insert?_eq_none_iff _ _).1 h)
  refine ⟨table, htable, ?_⟩
  have hinsert : d.table.insert (d.newCall id method codec type) = .ok table := by
    rw [CallTable.insert, show d.table.insert? (d.newCall id method codec type).id _ = _ from htable]
  rw [newCall] at hinsert
  rw [insert]
  simp only [hinsert]
  rfl

/-- An entry that is inserted comes last. -/
theorem values_of_insert? {t u : CallTable} (h : t.insert? id call = some u) :
    u.values = t.values ++ [call] := by
  rw [Table.values, ((t.insert?_eq_some_iff u id call).1 h).2, List.map_append]
  rfl

/-- Keeping a call that was taken out does not touch the table. -/
@[simp]
theorem table_keep (d : CallDesk) (call : OutstandingCall) : (d.keep call).table = d.table := by
  rw [keep]
  split <;> rfl

/-- It opens no mailbox either. -/
@[simp]
theorem next_keep (d : CallDesk) (call : OutstandingCall) :
    (d.keep call).mail.next = d.mail.next := by
  rw [keep]
  split
  · exact d.mail.next_modify _ _
  · rfl

theorem table_foldl_keep (d : CallDesk) (calls : List OutstandingCall) :
    (calls.foldl keep d).table = d.table := by
  induction calls generalizing d with
  | nil => rfl
  | cons call calls ih => rw [List.foldl_cons, ih, table_keep]

@[simp]
theorem register_keep (d : CallDesk) (call : OutstandingCall) :
    (d.keep call).register = d.register := by
  simp [register]

theorem register_foldl_keep (d : CallDesk) (calls : List OutstandingCall) :
    (calls.foldl keep d).register = d.register := by
  induction calls generalizing d with
  | nil => rfl
  | cons call calls ih => rw [List.foldl_cons, ih, register_keep]

/-- Removing a call erases its id from the table. -/
theorem remove_of_find? (h : d.table.find? id = some call) :
    d.remove id = (some call, { d with table := d.table.erase id }.keep call) := by
  rw [remove, Table.remove?, h]
  rfl

theorem remove_of_find?_eq_none (h : d.table.find? id = none) : d.remove id = (none, d) := by
  rw [remove, Table.remove?, h]
  rfl

/-! ## The table is a finite map -/

/-- The register follows the desk. -/
theorem register_step (d : CallDesk) (c : Command) : (d.step c).register = d.register.step c := by
  cases c with
  | insert slot id method codec type =>
    show (d.insert slot id method codec type).2.register = _
    by_cases hid : id ∈ d.table.keys
    · rw [insert_of_mem hid]
      simp [register, Register.step, hid, MailRoom.close]
    · obtain ⟨table, htable, hinsert⟩ := insert_of_notMem hid slot method codec type
      rw [hinsert]
      simp [register, Register.step, hid, Table.toFinmap_insert? htable, newCall]
  | remove id =>
    show (d.remove id).2.register = _
    cases hfind : d.table.find? id with
    | some call =>
      rw [remove_of_find? hfind, register_keep]
      simp [register, Register.step]
    | none =>
      -- An id that is not there is erased from the map without any effect.
      have herase : d.table.toFinmap.erase id = d.table.toFinmap := by
        refine Finmap.ext_lookup fun id' => ?_
        by_cases hid : id' = id
        · rw [hid, Finmap.lookup_erase, Table.lookup_toFinmap, hfind]
        · rw [Finmap.lookup_erase_ne hid]
      rw [remove_of_find?_eq_none hfind]
      simp [register, Register.step, herase]
  | drain =>
    show ((d.table.values.foldl keep { d with table := .empty }).register) = _
    rw [register_foldl_keep]
    rfl
  | resolve id outcome =>
    show (d.resolve id outcome).2.register = _
    rw [resolve]
    split
    · rfl
    · simp [register, Register.step]
  | discard id =>
    show (d.discard id).2.register = _
    rw [discard]
    split
    · rfl
    · simp [register, Register.step, release, MailRoom.close]
  | hangUp slot =>
    show (d.hangUp slot).2.register = _
    rw [hangUp]
    split
    · rfl
    · simp [register, Register.step, MailRoom.abandon]
  | receive slot =>
    show (d.receive slot).2.register = _
    rw [receive]
    split
    · rfl
    · simp [register, Register.step, MailRoom.take]
  | peek | contains | size | isEmpty => rfl

/-- The register of a desk answers like the desk. -/
theorem answer?_register (d : CallDesk) (c : Command) : d.register.answer? c = d.answer? c := by
  cases c with
  | insert slot id method codec type =>
    by_cases hid : id ∈ d.table.keys
    · simp [answer?, Register.answer?, register, insert_of_mem hid, hid]
    · obtain ⟨table, -, hinsert⟩ := insert_of_notMem hid slot method codec type
      simp [answer?, Register.answer?, register, hinsert, hid]
  | remove id =>
    cases hfind : d.table.find? id with
    | some call => simp [answer?, Register.answer?, register, remove_of_find? hfind, hfind]
    | none => simp [answer?, Register.answer?, register, remove_of_find?_eq_none hfind, hfind]
  | contains id =>
    have hmem : decide (id ∈ d.table.keys) = d.table.contains id := by
      rw [Table.contains, Bool.eq_iff_iff, decide_eq_true_eq, Table.mem_keys_iff,
        Option.isSome_iff_exists]
    simp [answer?, Register.answer?, register, hmem]
  | isEmpty =>
    have hempty : decide (d.table.toFinmap.keys = ∅) = d.table.isEmpty := by
      rw [Bool.eq_iff_iff, decide_eq_true_eq, Table.keys_toFinmap_eq_empty_iff]
    show some (Answer.truth (decide (d.table.toFinmap.keys = ∅))) = some (.truth d.table.isEmpty)
    rw [hempty]
  | peek | size | drain | resolve | discard | hangUp | receive =>
    simp [answer?, Register.answer?, register, CallTable.drain]

/-- All that is answered is what the finite map says. -/
theorem answers_register (d : CallDesk) (cmds : List Command) :
    d.register.answers cmds = d.answers cmds := by
  induction cmds generalizing d with
  | nil => rfl
  | cons c cmds ih => rw [Register.answers, answers, answer?_register, ← register_step, ih]

/-! ## Calls are neither lost nor copied -/

/-- What is done with a call that was taken out, or at the receiving end, is not for the table. -/
theorem table_step_of_answer?_eq_none {c : Command} (h : d.answer? c = none) :
    (d.step c).table = d.table := by
  cases c with
  | resolve id outcome =>
    show (d.resolve id outcome).2.table = d.table
    rw [resolve]
    split <;> rfl
  | discard id =>
    show (d.discard id).2.table = d.table
    rw [discard]
    split <;> rfl
  | hangUp slot =>
    show (d.hangUp slot).2.table = d.table
    rw [hangUp]
    split <;> rfl
  | receive slot =>
    show (d.receive slot).2.table = d.table
    rw [receive]
    split <;> rfl
  | _ => cases h

/-- A command moves calls: what is in the table or comes in is what goes out or stays. -/
theorem admitted_perm_step (d : CallDesk) (c : Command) :
    (d.table.values ++ d.admitted c).Perm (d.handedOut c ++ (d.step c).table.values) := by
  cases c with
  | insert slot id method codec type =>
    by_cases hid : id ∈ d.table.keys
    · simp [admitted, handedOut, step, insert_of_mem hid]
    · obtain ⟨table, htable, hinsert⟩ := insert_of_notMem hid slot method codec type
      simp [admitted, handedOut, step, hinsert, values_of_insert? htable]
  | remove id =>
    show (d.table.values ++ []).Perm ((d.remove id).1.toList ++ (d.remove id).2.table.values)
    rw [List.append_nil]
    cases hfind : d.table.find? id with
    | some call =>
      rw [remove_of_find? hfind, table_keep]
      exact Table.values_perm_of_find? hfind
    | none =>
      rw [remove_of_find?_eq_none hfind]
      exact .refl _
  | drain =>
    show (d.table.values ++ []).Perm
      (d.table.values ++ (d.table.values.foldl keep { d with table := .empty }).table.values)
    rw [table_foldl_keep]
    exact .refl _
  | resolve | discard | hangUp | receive =>
    show (d.table.values ++ []).Perm (d.step _).table.values
    rw [List.append_nil, table_step_of_answer?_eq_none rfl]
  | peek | contains | size | isEmpty =>
    show (d.table.values ++ []).Perm d.table.values
    rw [List.append_nil]

/-- So do several commands. -/
theorem admittedIn_perm_run (d : CallDesk) (cmds : List Command) :
    (d.table.values ++ d.admittedIn cmds).Perm (d.handedOutIn cmds ++ (d.run cmds).table.values) := by
  induction cmds generalizing d with
  | nil => simp [admittedIn, handedOutIn, run]
  | cons c cmds ih =>
    calc d.table.values ++ (d.admitted c ++ (d.step c).admittedIn cmds)
      _ = (d.table.values ++ d.admitted c) ++ (d.step c).admittedIn cmds := by
        rw [List.append_assoc]
      _ ~ (d.handedOut c ++ (d.step c).table.values) ++ (d.step c).admittedIn cmds :=
        (d.admitted_perm_step c).append_right _
      _ = d.handedOut c ++ ((d.step c).table.values ++ (d.step c).admittedIn cmds) := by
        rw [List.append_assoc]
      _ ~ d.handedOut c ++ ((d.step c).handedOutIn cmds ++ ((d.step c).run cmds).table.values) :=
        (ih (d.step c)).append_left _
      _ = d.handedOutIn (c :: cmds) ++ (d.run (c :: cmds)).table.values := by
        rw [← List.append_assoc, handedOutIn, run, run, List.foldl_cons]

/-- A call that comes into the table has a mailbox that was not there before. -/
theorem box_of_mem_admitted {c : Command} (h : call ∈ d.admitted c) :
    call.box = d.mail.next ∧ (d.step c).mail.next = d.mail.next + 1 := by
  have hshown : (d.step c).mail.next = (d.register.step c).shown :=
    congrArg Register.shown (register_step d c)
  cases c with
  | insert slot id method codec type =>
    refine ⟨?_, hshown⟩
    rw [admitted] at h
    split at h
    · rw [List.mem_singleton.1 h]
      rfl
    · cases h
  | _ => cases h

/-- No command takes mailboxes away. -/
theorem next_le_step (d : CallDesk) (c : Command) : d.mail.next ≤ (d.step c).mail.next := by
  have hshown : (d.step c).mail.next = (d.register.step c).shown :=
    congrArg Register.shown (register_step d c)
  rw [hshown]
  cases c with
  | insert => exact Nat.le_succ _
  | _ => exact Nat.le_refl _

/-- The calls that come in later have mailboxes with higher numbers. -/
theorem next_le_of_mem_admittedIn {cmds : List Command} (h : call ∈ d.admittedIn cmds) :
    d.mail.next ≤ call.box := by
  induction cmds generalizing d with
  | nil => cases h
  | cons c cmds ih =>
    rcases List.mem_append.1 h with h | h
    · exact (box_of_mem_admitted h).1.ge
    · exact (d.next_le_step c).trans (ih h)

/-- No two calls that come in have one mailbox. -/
theorem nodup_boxes_admittedIn (d : CallDesk) (cmds : List Command) :
    ((d.admittedIn cmds).map OutstandingCall.box).Nodup := by
  induction cmds generalizing d with
  | nil => exact List.nodup_nil
  | cons c cmds ih =>
    rw [admittedIn, List.map_append, List.nodup_append]
    refine ⟨?_, ih (d.step c), ?_⟩
    · -- At most one call comes in at a time.
      cases c with
      | insert =>
        rw [admitted]
        split <;> simp
      | _ => exact List.nodup_nil
    · intro a ha b hb
      obtain ⟨call, hcall, rfl⟩ := List.mem_map.1 ha
      obtain ⟨later, hlater, rfl⟩ := List.mem_map.1 hb
      obtain ⟨hbox, hnext⟩ := box_of_mem_admitted hcall
      have hle := next_le_of_mem_admittedIn hlater
      omega

end CallDesk

end RemoteCall
