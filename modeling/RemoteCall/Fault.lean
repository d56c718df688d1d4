/-!
# Faults

A fault is a failure that the far end reports: its kind, a message, and, when several
failures were raised together, the faults that caused it.
-/

namespace RemoteCall

/-- A failure reported by a service. -/
inductive Fault where
  /-- A fault with its kind, its message and its causes. -/
  | mk (kind message : String) (causes : List Fault)
  deriving Repr, Inhabited

namespace Fault

/-- The kind of failure, for information only. -/
def kind : Fault → String
  | mk kind _ _ => kind

/-- The message. -/
def message : Fault → String
  | mk _ message _ => message

/-- The faults raised together, in order. -/
def causes : Fault → List Fault
  | mk _ _ causes => causes

/-- A fault without causes. -/
def leaf (kind message : String) : Fault :=
  mk kind message []

/-- A fault that gathers several causes. -/
def composite (message : String) (causes : List Fault) : Fault :=
  mk "Composite" message causes

/-- The text of a fault; its causes are left out. -/
def toText (f : Fault) : String :=
  s!"{f.kind}: {f.message}"

mutual

/-- Equality of faults is decidable. -/
def decEq : (f g : Fault) → Decidable (f = g)
  | mk k m cs, mk k' m' cs' =>
    if h : k = k' ∧ m = m' then
      match decEqList cs cs' with
      | isTrue hc => isTrue (by rw [h.1, h.2, hc])
      | isFalse hc => isFalse (fun e => hc (by cases e; rfl))
    else isFalse (fun e => h (by cases e; exact ⟨rfl, rfl⟩))

/-- Equality of lists of faults is decidable. -/
def decEqList : (fs gs : List Fault) → Decidable (fs = gs)
  | [], [] => isTrue rfl
  | [], _ :: _ => isFalse (fun e => by cases e)
  | _ :: _, [] => isFalse (fun e => by cases e)
  | f :: fs, g :: gs =>
    match decEq f g, decEqList fs gs with
    | isTrue h, isTrue hs => isTrue (by rw [h, hs])
    | isFalse h, _ => isFalse (fun e => h (by cases e; rfl))
    | _, isFalse hs => isFalse (fun e => hs (by cases e; rfl))

end

instance : DecidableEq Fault := decEq

end Fault

end RemoteCall
