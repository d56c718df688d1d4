import RemoteCall.Text.Utf8
import RemoteCall.Json.Binary64
/-!
# JSON values

The values of JSON. Objects keep their members in the order given; `Json.ofMembers` builds
the object in which the members stand in the order of their names and each name occurs once.
-/

namespace RemoteCall

/-- A number: an integer that fits into 64 bits with or without sign, or a binary fraction. -/
inductive Json.Number where
  /-- An integer. -/
  | int (i : Int)
  /-- A binary64 number, given by its bits. -/
  | real (bits : UInt64)
  deriving Repr, DecidableEq

/-- A JSON value. -/
inductive Json where
  /-- The value `null`. -/
  | null
  /-- A truth value. -/
  | bool (b : Bool)
  /-- A number. -/
  | number (n : Json.Number)
  /-- A text. -/
  | string (s : String)
  /-- A list of values. -/
  | array (elements : List Json)
  /-- Named values, in order. -/
  | object (members : List (String × Json))
  deriving Repr, Inhabited

namespace Json

/-- An integer. -/
def int (i : Int) : Json :=
  number (.int i)

/-- Keeps the last of neighbouring members with one name. -/
def lastOfEach {α : Type} : List (String × α) → List (String × α)
  | [] => []
  | [m] => [m]
  | m :: n :: ms => if m.1 = n.1 then lastOfEach (n :: ms) else m :: lastOfEach (n :: ms)

/-- Members in the order of their names; of members with one name the last is kept. -/
def sortMembers {α : Type} (members : List (String × α)) : List (String × α) :=
  lastOfEach (members.mergeSort fun m n => decide (m.1 ≤ n.1))

/-- The object with the given members, in the order of their names. -/
def ofMembers (members : List (String × Json)) : Json :=
  object (sortMembers members)

mutual

/-- Equality of values is decidable. -/
def decEq : (a b : Json) → Decidable (a = b)
  | null, null => isTrue rfl
  | bool a, bool b => if h : a = b then isTrue (by rw [h]) else isFalse (by simp [h])
  | number a, number b => if h : a = b then isTrue (by rw [h]) else isFalse (by simp [h])
  | string a, string b => if h : a = b then isTrue (by rw [h]) else isFalse (by simp [h])
  | array xs, array ys =>
    match decEqElements xs ys with
    | isTrue h => isTrue (by rw [h])
    | isFalse h => isFalse (fun e => h (by cases e; rfl))
  | object xs, object ys =>
    match decEqMembers xs ys with
    | isTrue h => isTrue (by rw [h])
    | isFalse h => isFalse (fun e => h (by cases e; rfl))
  | null, bool _ | null, number _ | null, string _ | null, array _ | null, object _
  | bool _, null | bool _, number _ | bool _, string _ | bool _, array _ | bool _, object _
  | number _, null | number _, bool _ | number _, string _ | number _, array _
  | number _, object _ | string _, null | string _, bool _ | string _, number _
  | string _, array _ | string _, object _ | array _, null | array _, bool _
  | array _, number _ | array _, string _ | array _, object _ | object _, null
  | object _, bool _ | object _, number _ | object _, string _ | object _, array _ =>
    isFalse (fun e => by cases e)

/-- Equality of lists of values is decidable. -/
def decEqElements : (xs ys : List Json) → Decidable (xs = ys)
  | [], [] => isTrue rfl
  | [], _ :: _ => isFalse (fun e => by cases e)
  | _ :: _, [] => isFalse (fun e => by cases e)
  | x :: xs, y :: ys =>
    match decEq x y, decEqElements xs ys with
    | isTrue h, isTrue hs => isTrue (by rw [h, hs])
    | isFalse h, _ => isFalse (fun e => h (by cases e; rfl))
    | _, isFalse hs => isFalse (fun e => hs (by cases e; rfl))

/-- Equality of lists of members is decidable. -/
def decEqMembers : (xs ys : List (String × Json)) → Decidable (xs = ys)
  | [], [] => isTrue rfl
  | [], _ :: _ => isFalse (fun e => by cases e)
  | _ :: _, [] => isFalse (fun e => by cases e)
  | (k, x) :: xs, (l, y) :: ys =>
    if hk : k = l then
      match decEq x y, decEqMembers xs ys with
      | isTrue h, isTrue hs => isTrue (by rw [hk, h, hs])
      | isFalse h, _ => isFalse (fun e => h (by cases e; rfl))
      | _, isFalse hs => isFalse (fun e => hs (by cases e; rfl))
    else isFalse (fun e => hk (by cases e; rfl))

end

instance : DecidableEq Json := decEq

end Json

end RemoteCall
