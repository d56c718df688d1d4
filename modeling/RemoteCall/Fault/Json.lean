import RemoteCall.Fault
import RemoteCall.Json.Writer
import RemoteCall.Json.Record
/-!
# Faults in JSON

A fault is an object with its kind, its message and the list of its causes. The list is left
out when it is empty, and a missing list is read as empty.
-/

namespace RemoteCall

namespace Fault

mutual

/-- The JSON form of a fault. Causes are left out if there are none. -/
def toJson : Fault → Json
  | mk kind message [] => .object [("kind", .string kind), ("message", .string message)]
  | mk kind message (cause :: causes) =>
    .object [("kind", .string kind), ("message", .string message),
      ("causes", .array (toJson cause :: toJsons causes))]

/-- The JSON forms of several faults. -/
def toJsons : List Fault → List Json
  | [] => []
  | f :: fs => toJson f :: toJsons fs

end

/-- The parts of a fault read so far. -/
structure Draft where
  /-- The kind. -/
  kind : Option String
  /-- The message. -/
  message : Option String
  /-- The causes. -/
  causes : Option (List Fault)

/-- The fault whose parts have been read; causes may be missing. -/
def Draft.finish (d : Draft) : Option Fault := do
  return Fault.mk (← d.kind) (← d.message) (d.causes.getD [])

/-- The fields of a fault, given the reader of its causes. -/
def fields (causes : Json.Reader (List Fault)) : List (Json.Field Draft) :=
  [.ofPlace "kind" Draft.kind (fun d x => { d with kind := some x }) Json.readString,
    .ofPlace "message" Draft.message (fun d x => { d with message := some x }) Json.readString,
    .ofPlace "causes" Draft.causes (fun d x => { d with causes := some x }) causes]

/-- Reads a fault, given the reader of its causes. -/
def readWith (causes : Json.Reader (List Fault)) : Json.Reader Fault :=
  Json.readRecord (fields causes) ⟨none, none, none⟩ Draft.finish

/-- Reads a fault in which objects and lists are nested at most `levels` deep. A fault is one
level, and the list of its causes is another. -/
def read : (levels : Nat) → Json.Reader Fault
  | 0 => fun _ => none
  | 1 => readWith fun _ => none
  | levels + 2 => readWith (Json.readList (read levels))

end Fault

end RemoteCall
