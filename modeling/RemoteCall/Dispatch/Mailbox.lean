/-!
# Mailboxes

A mailbox carries one result from whoever resolves a call to the caller who waits for it. The
sending end is used up by sending, or closed without a result; the receiving end takes the
result once, or is given up. A mail room holds the mailboxes of many calls, numbered in the
order in which they were opened.
-/

namespace RemoteCall

/-- The state of a mailbox. -/
inductive Mailbox (α : Type) where
  /-- Both ends are there, and nothing has been sent. -/
  | waiting
  /-- A result has been sent and not yet taken. -/
  | holding (result : α)
  /-- The sending end is closed and there is no result, or it has been taken. -/
  | closed
  /-- The receiving end has been given up. -/
  | abandoned
  deriving Repr, DecidableEq

namespace Mailbox

variable {α : Type}

/-- Sends the result; also tells whether the receiving end was there. -/
def send (result : α) : Mailbox α → Bool × Mailbox α
  | waiting => (true, holding result)
  | box => (false, box)

/-- Closes the sending end without a result. -/
def close : Mailbox α → Mailbox α
  | waiting => closed
  | box => box

/-- Gives up the receiving end. -/
def abandon (_ : Mailbox α) : Mailbox α :=
  abandoned

/-- What is left in a mailbox after its result has been taken. -/
def take : Mailbox α → Mailbox α
  | holding _ => closed
  | box => box

end Mailbox

/-- The mailboxes of many calls. -/
structure MailRoom (α : Type) where
  /-- The mailboxes, in the order in which they were opened. -/
  boxes : List (Mailbox α)
  deriving Repr, DecidableEq

namespace MailRoom

variable {α : Type}

/-- The mail room without mailboxes. -/
def empty : MailRoom α :=
  ⟨[]⟩

instance : Inhabited (MailRoom α) := ⟨empty⟩

/-- The number of the next mailbox to be opened. -/
def next (m : MailRoom α) : Nat :=
  m.boxes.length

/-- Opens a mailbox. -/
def opened (m : MailRoom α) : MailRoom α :=
  ⟨m.boxes ++ [.waiting]⟩

/-- The state of a mailbox; one that was never opened counts as closed. -/
def state (m : MailRoom α) (box : Nat) : Mailbox α :=
  m.boxes[box]?.getD .closed

/-- Changes the state of a mailbox. -/
def modify (m : MailRoom α) (box : Nat) (f : Mailbox α → Mailbox α) : MailRoom α :=
  ⟨m.boxes.modify box f⟩

/-- Sends a result to a mailbox. -/
def send (m : MailRoom α) (box : Nat) (result : α) : MailRoom α :=
  m.modify box fun b => (b.send result).2

/-- Closes the sending end of a mailbox. -/
def close (m : MailRoom α) (box : Nat) : MailRoom α :=
  m.modify box .close

/-- Gives up the receiving end of a mailbox. -/
def abandon (m : MailRoom α) (box : Nat) : MailRoom α :=
  m.modify box .abandon

/-- Takes the result out of a mailbox. -/
def take (m : MailRoom α) (box : Nat) : MailRoom α :=
  m.modify box .take

/-- Opening a mailbox uses up its number. -/
@[simp]
theorem next_opened (m : MailRoom α) : m.opened.next = m.next + 1 := by
  simp [opened, next]

/-- A mailbox that has just been opened waits for its result. -/
@[simp]
theorem state_opened_next (m : MailRoom α) : m.opened.state m.next = .waiting := by
  simp [opened, state, next]

/-- Opening a mailbox does not touch those that are there. -/
theorem state_opened {m : MailRoom α} {box : Nat} (h : box < m.next) :
    m.opened.state box = m.state box := by
  rw [state, state, opened, List.getElem?_append_left h]

/-- Changing a mailbox opens none. -/
@[simp]
theorem next_modify (m : MailRoom α) (box : Nat) (f : Mailbox α → Mailbox α) :
    (m.modify box f).next = m.next := by
  simp [modify, next]

/-- A mailbox that has been opened is changed as told. -/
theorem state_modify_self {m : MailRoom α} {box : Nat} (h : box < m.next)
    (f : Mailbox α → Mailbox α) : (m.modify box f).state box = f (m.state box) := by
  have hbox : m.boxes[box]? = some m.boxes[box] := List.getElem?_eq_getElem h
  simp [modify, state, hbox]

/-- Changing one mailbox does not touch another. -/
theorem state_modify_of_ne {m : MailRoom α} {box other : Nat} (h : box ≠ other)
    (f : Mailbox α → Mailbox α) : (m.modify box f).state other = m.state other := by
  simp [modify, state, h]

/-- Sending opens no mailbox. -/
@[simp]
theorem next_send (m : MailRoom α) (box : Nat) (result : α) : (m.send box result).next = m.next :=
  m.next_modify box _

/-- A mailbox that waits holds the result that is sent to it. -/
theorem state_send_self {m : MailRoom α} {box : Nat} (h : m.state box = .waiting) (result : α) :
    (m.send box result).state box = .holding result := by
  rw [state] at h
  cases hbox : m.boxes[box]? with
  | none => simp [hbox] at h
  | some b =>
    obtain rfl : b = .waiting := by simpa [hbox] using h
    simp [send, modify, state, hbox, Mailbox.send]

/-- Sending to one mailbox does not touch another. -/
theorem state_send_of_ne {m : MailRoom α} {box other : Nat} (h : box ≠ other) (result : α) :
    (m.send box result).state other = m.state other :=
  state_modify_of_ne h _

end MailRoom

end RemoteCall
