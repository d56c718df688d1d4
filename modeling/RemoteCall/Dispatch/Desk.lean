import RemoteCall.Dispatch.Call
/-!
# Call desks

A call that has been taken out of a table belongs to whoever took it: it is resolved once, or
let go of, which closes its mailbox without a result. A desk handles calls one by one in this
way. It keeps a table, the calls that were taken out of it, and the receivers of all calls,
each in a slot.
-/

namespace RemoteCall

/-- The receiving end of a call. -/
structure Receiver where
  /-- The mailbox. -/
  box : Nat
  /-- The type of result that is expected. -/
  type : ReplyType
  deriving Repr, DecidableEq

/-- A table of outstanding calls with what belongs to it. -/
structure CallDesk where
  /-- The outstanding calls. -/
  table : CallTable
  /-- The calls that were taken out of the table and are not resolved yet. -/
  taken : CallTable
  /-- The mailboxes of all calls. -/
  mail : MailRoom Outcome
  /-- The receivers by slot. -/
  receivers : Table UInt64 Receiver

namespace CallDesk

/-- A desk without calls. -/
def empty : CallDesk :=
  { table := .empty, taken := .empty, mail := .empty, receivers := .empty }

instance : Inhabited CallDesk := ⟨empty⟩

/-- Lets go of a call. -/
def release (d : CallDesk) (call : OutstandingCall) : CallDesk :=
  { d with mail := d.mail.close call.box }

/-- Keeps a call that was taken out of the table, and lets go of another with its id. -/
def keep (d : CallDesk) (call : OutstandingCall) : CallDesk :=
  let d := match d.taken.find? call.id with
    | some old => d.release old
    | none => d
  { d with taken := d.taken.replace call.id call }

/-! ## Calls -/

/-- Registers a call whose receiver goes into a slot. A call that is rejected is let go of. -/
def insert (d : CallDesk) (slot id : UInt64) (method : String) (codec : Codec)
    (type : ReplyType) : Except CallError Unit × CallDesk :=
  let call : OutstandingCall := { id, method, codec, replyType := type, box := d.mail.next }
  let mail := match d.receivers.find? slot with
    | some r => d.mail.abandon r.box
    | none => d.mail
  let d := { d with
    mail := mail.opened
    receivers := d.receivers.replace slot { box := call.box, type } }
  match d.table.insert call with
  | .ok table => (.ok (), { d with table })
  | .error e => (.error e, d.release call)

/-- Takes a call out of the table. -/
def remove (d : CallDesk) (id : UInt64) : Option OutstandingCall × CallDesk :=
  match d.table.remove? id with
  | some (call, table) => (some call, { d with table }.keep call)
  | none => (none, d)

/-- Takes all calls out of the table; returns their ids. -/
def drain (d : CallDesk) : List UInt64 × CallDesk :=
  let (calls, table) := d.table.drain
  (calls.map OutstandingCall.id, calls.foldl keep { d with table })

/-- Resolves a call that was taken out; tells whether its receiver was still there. -/
def resolve (d : CallDesk) (id : UInt64) (outcome : Outcome) : Option Bool × CallDesk :=
  match d.taken.remove? id with
  | none => (none, d)
  | some (call, taken) =>
    let (received, _) := (d.mail.state call.box).send outcome
    (some received, { d with taken, mail := d.mail.send call.box outcome })

/-- Lets go of a call that was taken out; tells whether there was one. -/
def discard (d : CallDesk) (id : UInt64) : Bool × CallDesk :=
  match d.taken.remove? id with
  | none => (false, d)
  | some (call, taken) => (true, { d with taken }.release call)

/-! ## Receivers -/

/-- Gives up the receiver in a slot; tells whether there was one. -/
def hangUp (d : CallDesk) (slot : UInt64) : Bool × CallDesk :=
  match d.receivers.remove? slot with
  | none => (false, d)
  | some (r, receivers) => (true, { d with receivers, mail := d.mail.abandon r.box })

/-- Takes what has arrived for the receiver in a slot. -/
def receive (d : CallDesk) (slot : UInt64) : Option ((t : ReplyType) × Arrival t) × CallDesk :=
  match d.receivers.find? slot with
  | none => (none, d)
  | some r =>
    (some ⟨r.type, (d.mail.state r.box).arrival r.type⟩, { d with mail := d.mail.take r.box })

end CallDesk

end RemoteCall
