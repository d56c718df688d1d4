import RemoteCall.Json.Reader
/-!
# Records in JSON

A record with named fields is read from an object, in which unknown members are passed over
and no field may occur twice, or from an array, in which the fields stand in order.
-/

namespace RemoteCall.Json

/-- A field of a record that is gathered in a state `σ`. -/
structure Field (σ : Type) where
  /-- The name of the field. -/
  name : String
  /-- Reads the field into the state; fails if the state has the field already. -/
  read : σ → Reader σ

namespace Field

/-- A field with a place in the state, which is empty until the field has been read. -/
def ofPlace {σ α : Type} (name : String) (get : σ → Option α) (set : σ → α → σ)
    (value : Reader α) : Field σ where
  name
  read s bs :=
    match get s with
    | some _ => none
    | none => (value bs).map fun (x, rest) => (set s x, rest)

end Field

/-- Reads a member of a record: a field, or an unknown member, which is passed over. -/
def readMember {σ : Type} (fields : List (Field σ)) (name : String) (s : σ) : Reader σ := fun bs =>
  match fields.find? (·.name == name) with
  | some field => field.read s bs
  | none => (skipValue bs).map (s, ·)

/-- Reads fields in order after the opening bracket of an array, until the bracket is closed.
The bracket must be closed after the last field at the latest. -/
def readPositions {σ : Type} : List (Field σ) → (first : Bool) → σ → Reader σ
  | [], _, s, bs => (expect 0x5D bs).map (s, ·)
  | field :: fields, first, s, bs =>
    match skipBlanks bs with
    | 0x5D :: rest => some (s, rest)
    | _ =>
      match if first then some bs else expect 0x2C bs with
      | none => none
      | some rest =>
        match field.read s rest with
        | some (s, rest) => readPositions fields false s rest
        | none => none

/-- Reads a record; `finish` makes the record from what was gathered, unless a field that it
needs is missing. -/
def readRecord {σ α : Type} (fields : List (Field σ)) (start : σ) (finish : σ → Option α) :
    Reader α := fun bs =>
  let gathered := match skipBlanks bs with
    | 0x7B :: rest => readObjectTail (readMember fields) start rest
    | 0x5B :: rest => readPositions fields true start rest
    | _ => none
  gathered.bind fun (s, rest) => (finish s).map (·, rest)

end RemoteCall.Json
