import RemoteCall.Proofs.Dispatch.Registry
import RemoteCall.Proofs.Dispatch.Signal
/-!
# The custody of calls

A call is resolved through the sending end of its mailbox. As long as the call is in the table, or
belongs to whoever took it out, nobody else has used this sending end: this is what every command at
a desk preserves (`CallDesk.Custody`, `CallDesk.Custody.step`).

The main statement, `CallDesk.calls_are_kept_as_in_a_finite_map`, says what a desk does with calls
from the first command on.
-/

namespace RemoteCall

/-! ## Mailboxes that wait for a result -/

/-- The sending end of a mailbox is still there. -/
def Mailbox.IsOpen {α : Type} (b : Mailbox α) : Prop :=
  b = .waiting ∨ b = .abandoned

namespace MailRoom

/-- The mailboxes of some calls wait for a result: no two calls share one, and every sending end is
there. -/
structure Awaits (m : MailRoom Outcome) (calls : List OutstandingCall) : Prop where
  /-- No two calls share a mailbox. -/
  nodup : (calls.map OutstandingCall.box).Nodup
  /-- The sending ends are there. -/
  isOpen : ∀ call ∈ calls, (m.state call.box).IsOpen

/-- A mailbox that was never opened is closed. -/
theorem state_of_next_le {α : Type} {m : MailRoom α} {box : Nat} (h : m.next ≤ box) :
    m.state box = .closed := by
  rw [state, List.getElem?_eq_none h]
  rfl

/-- Opening a mailbox touches no other. -/
theorem state_opened_of_ne {α : Type} {m : MailRoom α} {box : Nat} (h : box ≠ m.next) :
    m.opened.state box = m.state box := by
  rcases Nat.lt_or_ge box m.next with hlt | hge
  · exact state_opened hlt
  · have hnext : m.opened.next ≤ box := by
      rw [next_opened]
      omega
    rw [state_of_next_le hge, state_of_next_le hnext]

namespace Awaits

variable {m : MailRoom Outcome} {calls others : List OutstandingCall} {call : OutstandingCall}

theorem nil (m : MailRoom Outcome) : m.Awaits [] :=
  ⟨List.nodup_nil, fun _ h => by cases h⟩

theorem perm (h : m.Awaits calls) (hperm : calls.Perm others) : m.Awaits others :=
  ⟨(hperm.map _).nodup_iff.1 h.nodup, fun call hcall => h.isOpen call (hperm.mem_iff.2 hcall)⟩

theorem sublist (h : m.Awaits calls) (hsub : others.Sublist calls) : m.Awaits others :=
  ⟨h.nodup.sublist (hsub.map _), fun call hcall => h.isOpen call (hsub.subset hcall)⟩

/-- A sending end that is there belongs to a mailbox that was opened. -/
theorem lt_next (h : m.Awaits calls) (hcall : call ∈ calls) : call.box < m.next := by
  by_contra hbox
  have hclosed : m.state call.box = .closed := state_of_next_le (Nat.le_of_not_lt hbox)
  rcases hclosed ▸ h.isOpen call hcall with hstate | hstate <;> cases hstate

/-- Whatever is done at the receiving end of a mailbox, the sending ends stay. -/
theorem modify (h : m.Awaits calls) (box : Nat) {f : Mailbox Outcome → Mailbox Outcome}
    (hf : ∀ b : Mailbox Outcome, b.IsOpen → (f b).IsOpen) : (m.modify box f).Awaits calls := by
  refine ⟨h.nodup, fun call hcall => ?_⟩
  by_cases hbox : box = call.box
  · rw [hbox, state_modify_self (h.lt_next hcall)]
    exact hf _ (h.isOpen call hcall)
  · rw [state_modify_of_ne hbox]
    exact h.isOpen call hcall

theorem abandon (h : m.Awaits calls) (box : Nat) : (m.abandon box).Awaits calls :=
  h.modify box fun _ _ => .inr rfl

theorem take (h : m.Awaits calls) (box : Nat) : (m.take box).Awaits calls :=
  h.modify box fun b hb => by rcases hb with rfl | rfl <;> [exact .inl rfl; exact .inr rfl]

/-- A call with a new mailbox can join. -/
theorem cons_opened (h : m.Awaits calls) (hbox : call.box = m.next) :
    m.opened.Awaits (call :: calls) := by
  constructor
  · rw [List.map_cons, List.nodup_cons]
    refine ⟨fun hmem => ?_, h.nodup⟩
    obtain ⟨other, hother, heq⟩ := List.mem_map.1 hmem
    have hlt := h.lt_next hother
    omega
  · intro other hother
    rcases List.mem_cons.1 hother with rfl | hother
    · rw [hbox, state_opened_next]
      exact .inl rfl
    · rw [state_opened (h.lt_next hother)]
      exact h.isOpen other hother

/-- What is done to the mailbox of one call does not touch the mailboxes of the others. -/
theorem state_modify (h : m.Awaits (call :: calls)) (f : Mailbox Outcome → Mailbox Outcome)
    {other : OutstandingCall} (hother : other ∈ calls) :
    (m.modify call.box f).state other.box = m.state other.box := by
  have hnodup := h.nodup
  rw [List.map_cons, List.nodup_cons] at hnodup
  refine state_modify_of_ne (fun heq => hnodup.1 ?_) f
  rw [heq]
  exact List.mem_map_of_mem hother

/-- So the mailbox of one call can be used while the others wait. -/
theorem modify_head (h : m.Awaits (call :: calls)) (f : Mailbox Outcome → Mailbox Outcome) :
    (m.modify call.box f).Awaits calls := by
  refine ⟨(h.sublist (List.sublist_cons_self ..)).nodup, fun other hother => ?_⟩
  rw [h.state_modify f hother]
  exact h.isOpen other (List.mem_cons_of_mem _ hother)

end Awaits

end MailRoom

namespace CallDesk

variable {d : CallDesk} {inHand : List OutstandingCall} {id : UInt64} {call : OutstandingCall}

/-! ## Nobody uses the sending end of a call that is kept -/

/-- At a desk with calls in hand, every call in the table is there under its id, and the sending
ends of the calls in hand, in the table and taken out are all there, each once. -/
structure Custody (d : CallDesk) (inHand : List OutstandingCall) : Prop where
  /-- Calls are registered under their ids. -/
  keyed : CallTable.Keyed d.table
  /-- Their mailboxes wait for a result. -/
  awaits : d.mail.Awaits (inHand ++ (d.table.values ++ d.taken.values))

/-- Nothing is kept at the beginning. -/
theorem custody_empty : empty.Custody [] :=
  ⟨CallTable.keyed_empty, .nil _⟩

/-- A call that was taken out stands beside all others that are kept. -/
theorem Custody.awaits_cons (h : d.Custody inHand) (hfind : d.taken.find? id = some call) :
    d.mail.Awaits (call :: (inHand ++ (d.table.values ++ (d.taken.erase id).values))) := by
  refine h.awaits.perm ?_
  have htaken := Table.values_perm_of_find? hfind
  rw [← List.append_assoc, ← List.append_assoc]
  exact (htaken.append_left _).trans List.perm_middle

/-- A call that was taken out can be disposed of together with its mailbox. -/
theorem Custody.dismiss (h : d.Custody inHand) (hfind : d.taken.find? id = some call)
    (f : Mailbox Outcome → Mailbox Outcome) :
    ({ d with taken := d.taken.erase id, mail := d.mail.modify call.box f }).Custody inHand :=
  ⟨h.keyed, (h.awaits_cons hfind).modify_head f⟩

/-- The calls that were taken out before, when another one is kept: its id is free then. -/
theorem taken_keep (d : CallDesk) (call : OutstandingCall) :
    (d.keep call).taken = d.taken.replace call.id call := by
  rw [keep]
  split <;> rfl

theorem values_replace (t : CallTable) (id : UInt64) (call : OutstandingCall) :
    (t.replace id call).values = (t.erase id).values ++ [call] := by
  simp [Table.values, Table.replace, Table.append]

/-- Keeping a call touches no mailbox of a call in hand, nor that of a call with another id that was
taken out before. -/
theorem Custody.state_keep (h : d.Custody (call :: inHand)) {other : OutstandingCall}
    (hother : other ∈ call :: inHand ∨ d.taken.find? other.id = some other ∧ other.id ≠ call.id) :
    (d.keep call).mail.state other.box = d.mail.state other.box := by
  rw [keep]
  cases hfind : d.taken.find? call.id with
  | none => rfl
  | some old =>
    refine (h.awaits_cons hfind).state_modify _ ?_
    rcases hother with hmem | ⟨hmem, hid⟩
    · exact List.mem_append_left _ hmem
    · -- The other call is still kept when the old one is erased.
      have hkept : (d.taken.erase call.id).find? other.id = some other := by
        rw [Table.find?_erase, if_neg hid, hmem]
      refine List.mem_append_right _ (List.mem_append_right _ ?_)
      exact List.mem_map_of_mem (((d.taken.erase call.id).find?_eq_some_iff _ _).1 hkept)

/-- A call in hand can be kept. -/
theorem Custody.keep (h : d.Custody (call :: inHand)) : (d.keep call).Custody inHand := by
  refine ⟨by rw [table_keep]; exact h.keyed, ?_⟩
  rw [table_keep, taken_keep, values_replace]
  -- The call moves to the end, and what had its id before is gone.
  have hrest : ((d.keep call).mail).Awaits
      (call :: (inHand ++ (d.table.values ++ (d.taken.erase call.id).values))) := by
    cases hfind : d.taken.find? call.id with
    | none =>
      rw [CallDesk.keep, hfind]
      refine h.awaits.sublist (.cons_cons _ (.append_left (.append_left ?_ _) _))
      exact List.filter_sublist.map Prod.snd
    | some old =>
      rw [CallDesk.keep, hfind]
      exact (h.awaits_cons hfind).modify_head _
  refine hrest.perm ?_
  rw [← List.append_assoc, ← List.append_assoc, ← List.append_assoc]
  exact (List.perm_append_singleton call _).symm

/-- Among calls that are kept one after the other, each is there in the end, with its mailbox
untouched, unless one with its id comes after it. -/
theorem Custody.foldl_keep_of_taken {calls : List OutstandingCall} (h : d.Custody calls)
    (htaken : d.taken.find? call.id = some call)
    (hid : call.id ∉ calls.map OutstandingCall.id) :
    (calls.foldl CallDesk.keep d).taken.find? call.id = some call ∧
      (calls.foldl CallDesk.keep d).mail.state call.box = d.mail.state call.box := by
  induction calls generalizing d with
  | nil => exact ⟨htaken, rfl⟩
  | cons c cs ih =>
    rw [List.map_cons, List.mem_cons, not_or] at hid
    obtain ⟨hne, hcs⟩ := hid
    have hkept : (d.keep c).taken.find? call.id = some call := by
      rw [taken_keep, Table.find?_replace, if_neg hne, htaken]
    obtain ⟨hfind, hstate⟩ := ih h.keep hkept hcs
    exact ⟨hfind, hstate.trans (h.state_keep (.inr ⟨htaken, hne⟩))⟩

/-- Calls with different ids can all be kept. -/
theorem Custody.foldl_keep {calls : List OutstandingCall} (h : d.Custody calls)
    (hids : (calls.map OutstandingCall.id).Nodup) :
    (calls.foldl CallDesk.keep d).Custody [] ∧
      ∀ call ∈ calls, (calls.foldl CallDesk.keep d).taken.find? call.id = some call ∧
        (calls.foldl CallDesk.keep d).mail.state call.box = d.mail.state call.box := by
  induction calls generalizing d with
  | nil => exact ⟨h, fun call hcall => by cases hcall⟩
  | cons c cs ih =>
    rw [List.map_cons, List.nodup_cons] at hids
    obtain ⟨hc, hcs⟩ := hids
    obtain ⟨hcustody, hrest⟩ := ih h.keep hcs
    refine ⟨hcustody, fun call hcall => ?_⟩
    rcases List.mem_cons.1 hcall with rfl | hmem
    · have hkept : (d.keep call).taken.find? call.id = some call := by
        rw [taken_keep, Table.find?_replace, if_pos rfl]
      obtain ⟨hfind, hstate⟩ := h.keep.foldl_keep_of_taken hkept hc
      exact ⟨hfind, hstate.trans (h.state_keep (.inl List.mem_cons_self))⟩
    · obtain ⟨hfind, hstate⟩ := hrest call hmem
      exact ⟨hfind, hstate.trans (h.state_keep (.inl (List.mem_cons_of_mem _ hmem)))⟩

/-- The call that is found under an id can be taken in hand. -/
theorem Custody.remove (h : d.Custody []) (hfind : d.table.find? id = some call) :
    { d with table := d.table.erase id }.Custody [call] := by
  refine ⟨h.keyed.erase id, h.awaits.perm ?_⟩
  exact (Table.values_perm_of_find? hfind).append_right _

/-- All calls can be taken in hand. -/
theorem Custody.drain (h : d.Custody []) :
    { d with table := .empty }.Custody d.table.values :=
  ⟨CallTable.keyed_empty, h.awaits⟩

/-- What goes out of the table with a command comes to those who asked for it, with its mailbox
untouched. -/
theorem Custody.handedOut (h : d.Custody []) {c : Command} (hcall : call ∈ d.handedOut c) :
    (d.step c).taken.find? call.id = some call ∧
      (d.step c).mail.state call.box = d.mail.state call.box := by
  cases c with
  | remove id =>
    show (d.remove id).2.taken.find? call.id = some call ∧
      (d.remove id).2.mail.state call.box = d.mail.state call.box
    replace hcall : call ∈ (d.remove id).1.toList := hcall
    cases hfind : d.table.find? id with
    | some found =>
      rw [remove_of_find? hfind] at hcall ⊢
      obtain rfl : call = found := by simpa using hcall
      exact ((h.remove hfind).foldl_keep (List.nodup_singleton _)).2 call List.mem_cons_self
    | none =>
      rw [remove_of_find?_eq_none hfind] at hcall
      cases hcall
  | drain => exact (h.drain.foldl_keep h.keyed.nodup_ids).2 call hcall
  | _ => cases hcall

/-- The receiver in a slot can be given up. -/
theorem Custody.awaits_vacated (h : d.Custody inHand) (slot : UInt64) :
    (d.vacated slot).Awaits (inHand ++ (d.table.values ++ d.taken.values)) := by
  rw [vacated]
  split
  · exact h.awaits.abandon _
  · exact h.awaits

/-- A call that is inserted waits for its result, or is let go of at once. -/
theorem Custody.insert (h : d.Custody []) (slot id : UInt64) (method : String) (codec : Codec)
    (type : ReplyType) : (d.insert slot id method codec type).2.Custody [] := by
  have hopened : (d.vacated slot).opened.Awaits
      (d.newCall id method codec type :: (d.table.values ++ d.taken.values)) :=
    (h.awaits_vacated slot).cons_opened (d.next_vacated slot).symm
  by_cases hid : id ∈ d.table.keys
  · rw [insert_of_mem hid]
    exact ⟨h.keyed, hopened.modify_head _⟩
  · obtain ⟨table, htable, hinsert⟩ := insert_of_notMem hid slot method codec type
    rw [hinsert]
    refine ⟨?_, hopened.perm ?_⟩
    · intro entry hentry
      replace hentry : entry ∈ table.entries := hentry
      rw [((d.table.insert?_eq_some_iff table id _).1 htable).2, List.mem_append,
        List.mem_singleton] at hentry
      rcases hentry with hmem | rfl
      · exact h.keyed entry hmem
      · rfl
    · -- The new call is the last in the table, in front of those that were taken out.
      show (d.newCall id method codec type :: (d.table.values ++ d.taken.values)).Perm
        (table.values ++ d.taken.values)
      rw [values_of_insert? htable, List.append_assoc]
      exact List.perm_middle.symm

/-- Every command leaves the calls that are kept alone. -/
theorem Custody.step (h : d.Custody []) (c : Command) : (d.step c).Custody [] := by
  cases c with
  | insert slot id method codec type => exact h.insert slot id method codec type
  | remove id =>
    show (d.remove id).2.Custody []
    cases hfind : d.table.find? id with
    | some call =>
      rw [remove_of_find? hfind]
      exact (h.remove hfind).keep
    | none =>
      rw [remove_of_find?_eq_none hfind]
      exact h
  | drain => exact (h.drain.foldl_keep h.keyed.nodup_ids).1
  | resolve id outcome =>
    show (d.resolve id outcome).2.Custody []
    cases hfind : d.taken.find? id with
    | some call =>
      rw [resolve, Table.remove?, hfind]
      exact h.dismiss hfind _
    | none =>
      rw [resolve, Table.remove?, hfind]
      exact h
  | discard id =>
    show (d.discard id).2.Custody []
    cases hfind : d.taken.find? id with
    | some call =>
      rw [discard, Table.remove?, hfind]
      exact h.dismiss hfind _
    | none =>
      rw [discard, Table.remove?, hfind]
      exact h
  | hangUp slot =>
    show (d.hangUp slot).2.Custody []
    rw [hangUp]
    split
    · exact h
    · exact ⟨h.keyed, h.awaits.abandon _⟩
  | receive slot =>
    show (d.receive slot).2.Custody []
    rw [receive]
    split
    · exact h
    · exact ⟨h.keyed, h.awaits.take _⟩
  | peek | contains | size | isEmpty => exact h

/-- However the desk is used, the calls that are kept are left alone. -/
theorem Custody.run (h : d.Custody []) (cmds : List Command) : (d.run cmds).Custody [] := by
  induction cmds generalizing d with
  | nil => exact h
  | cons c cmds ih => exact ih (h.step c)

/-! ## The registry of calls -/

/-- Giving up the receiver in a slot touches its mailbox only. -/
theorem state_vacated (d : CallDesk) (slot : UInt64) (box : Nat) :
    (d.vacated slot).state box = d.mail.state box ∨
      ∃ r, d.receivers.find? slot = some r ∧ r.box = box ∧
        (d.vacated slot).state box = .abandoned := by
  cases hfind : d.receivers.find? slot with
  | none => exact .inl (by rw [vacated, hfind])
  | some r =>
    have hvacated : d.vacated slot = d.mail.abandon r.box := by rw [vacated, hfind]
    rw [hvacated, MailRoom.abandon]
    by_cases hbox : r.box = box
    · by_cases hlt : box < d.mail.next
      · exact .inr ⟨r, rfl, hbox, by rw [hbox, MailRoom.state_modify_self hlt]; rfl⟩
      · -- There is no such mailbox, before and after.
        have hle := Nat.le_of_not_lt hlt
        refine .inl ?_
        rw [MailRoom.state_of_next_le hle,
          MailRoom.state_of_next_le ((d.mail.next_modify ..).trans_le hle)]
    · exact .inl (MailRoom.state_modify_of_ne hbox _)

/-- A call that is rejected finds its own mailbox closed. No other mailbox is touched, except that
of the receiver which made room for the new one. -/
theorem state_insert_of_mem (h : id ∈ d.table.keys) (slot : UInt64) (method : String)
    (codec : Codec) (type : ReplyType) :
    (d.step (.insert slot id method codec type)).mail.state d.mail.next = .closed ∧
      ∀ box ≠ d.mail.next,
        (d.step (.insert slot id method codec type)).mail.state box = d.mail.state box ∨
          ∃ r, d.receivers.find? slot = some r ∧ r.box = box ∧
            (d.step (.insert slot id method codec type)).mail.state box = .abandoned := by
  have hmail : (d.step (.insert slot id method codec type)).mail =
      (d.vacated slot).opened.close (d.vacated slot).next := by
    show (d.insert slot id method codec type).2.mail = _
    rw [insert_of_mem h, next_vacated]
  rw [hmail, ← d.next_vacated slot]
  constructor
  · rw [MailRoom.close, MailRoom.state_modify_self (by simp), MailRoom.state_opened_next]
    rfl
  · intro box hbox
    rw [MailRoom.close, MailRoom.state_modify_of_ne (Ne.symm hbox), MailRoom.state_opened_of_ne hbox]
    exact d.state_vacated slot box

/-- However a desk is used:

* all answers of its table are those of a finite map from ids to calls;
* of the calls that came into the table, no two with one mailbox, each has left it once or is still
  there, and is the same as when it came in;
* nobody has used the sending end of a call that is in the table, and a call that leaves the table
  belongs, with its sending end as it was, to whoever took it out;
* when a call is rejected, the table is left as it is, and only the mailbox of this call is closed;
* when all calls are taken out, they are those that were in the table, nothing stays behind, and
  every id can be used afterwards. -/
theorem calls_are_kept_as_in_a_finite_map (cmds : List Command) :
    let d := empty.run cmds
    empty.answers cmds = Register.empty.answers cmds ∧
      ((empty.admittedIn cmds).map OutstandingCall.box).Nodup ∧
      (empty.admittedIn cmds).Perm (empty.handedOutIn cmds ++ d.table.values) ∧
      (∀ call ∈ d.table.values, (d.mail.state call.box).IsOpen) ∧
      (∀ c, ∀ call ∈ d.handedOut c,
        (d.step c).taken.find? call.id = some call ∧
          (d.step c).mail.state call.box = d.mail.state call.box) ∧
      (∀ slot id method codec type, id ∈ d.table.keys →
        let d' := d.step (.insert slot id method codec type)
        d'.table = d.table ∧ d'.taken = d.taken ∧ d'.mail.state d.mail.next = .closed ∧
          ∀ box ≠ d.mail.next, d'.mail.state box = d.mail.state box ∨
            ∃ r, d.receivers.find? slot = some r ∧ r.box = box ∧
              d'.mail.state box = .abandoned) ∧
      d.drain.1 = d.table.values.map OutstandingCall.id ∧
      (d.step .drain).table = .empty ∧
      ∀ slot id method codec type,
        ((d.step .drain).insert slot id method codec type).1 = .ok () := by
  intro d
  have hcustody : d.Custody [] := custody_empty.run cmds
  have hdrain : (d.step .drain).table = .empty := table_foldl_keep _ _
  have hregister : empty.register = Register.empty := by
    rw [register, Register.empty]
    exact congrArg (Register.mk · 0) (rfl : Table.toFinmap .empty = ∅)
  refine ⟨?_, nodup_boxes_admittedIn _ _, admittedIn_perm_run empty cmds, ?_, ?_, ?_, rfl, hdrain, ?_⟩
  · rw [← hregister, answers_register]
  · intro call hcall
    exact hcustody.awaits.isOpen call (List.mem_append_right _ (List.mem_append_left _ hcall))
  · intro c call hcall
    exact hcustody.handedOut hcall
  · intro slot id method codec type hid
    obtain ⟨hclosed, hothers⟩ := state_insert_of_mem hid slot method codec type
    refine ⟨?_, ?_, hclosed, hothers⟩
    · show (d.insert slot id method codec type).2.table = d.table
      rw [insert_of_mem hid]
    · show (d.insert slot id method codec type).2.taken = d.taken
      rw [insert_of_mem hid]
  · intro slot id method codec type
    have hid : id ∉ (d.step .drain).table.keys := by
      rw [hdrain]
      exact List.not_mem_nil
    obtain ⟨table, -, hinsert⟩ := insert_of_notMem hid slot method codec type
    rw [hinsert]

/-- The id of the first call is taken, so the second call finds its mailbox closed, and the first is
handed out. -/
theorem the_second_call_with_an_id_is_closed :
    let d := empty.run [.insert 0 7 "first" .json .fault]
    7 ∈ d.table.keys ∧
      (d.step (.insert 1 7 "second" .json .fault)).mail.state 1 = .closed ∧
      ∃ call ∈ d.handedOut (.remove 7),
        call.method = "first" ∧ (d.step (.remove 7)).mail.state call.box = d.mail.state call.box := by
  have hfacts := calls_are_kept_as_in_a_finite_map [.insert 0 7 "first" .json .fault]
  obtain ⟨-, -, -, -, hhanded, hrejected, -⟩ := hfacts
  refine ⟨by decide, (hrejected 1 7 "second" .json .fault (by decide)).2.2.1, ?_⟩
  exact ⟨_, List.mem_cons_self, rfl, (hhanded (.remove 7) _ List.mem_cons_self).2⟩

end CallDesk

end RemoteCall
