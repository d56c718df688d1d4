import RemoteCall.Endpoint
import RemoteCall.Json.Writer
import RemoteCall.Json.Record
/-!
# Endpoints in JSON

An endpoint is an object with its parts, taken as they are: what is read need not be an
endpoint that some text denotes.
-/

namespace RemoteCall

namespace Endpoint

/-- The JSON form of an endpoint. A missing port is null. -/
def toJson (e : Endpoint) : Json :=
  .object [("scheme", .string e.scheme), ("host", .string e.host),
    ("port", match e.port with
      | some p => .int p.toNat
      | none => .null),
    ("path", .string e.path)]

/-- The parts of an endpoint read so far. -/
structure Draft where
  /-- The scheme. -/
  scheme : Option String
  /-- The host. -/
  host : Option String
  /-- The port; the inner value is missing if it is null. -/
  port : Option (Option UInt16)
  /-- The path. -/
  path : Option String

/-- The endpoint whose parts have been read; the port may be missing. -/
def Draft.finish (d : Draft) : Option Endpoint := do
  return {
    scheme := ← d.scheme
    host := ← d.host
    port := d.port.getD none
    path := ← d.path }

/-- Reads a port. -/
def readPort : Json.Reader UInt16 := fun bs =>
  (Json.readInt 0 65535 bs).map fun (i, rest) => (UInt16.ofNat i.toNat, rest)

/-- The fields of an endpoint. -/
def fields : List (Json.Field Draft) :=
  [.ofPlace "scheme" Draft.scheme (fun d x => { d with scheme := some x }) Json.readString,
    .ofPlace "host" Draft.host (fun d x => { d with host := some x }) Json.readString,
    .ofPlace "port" Draft.port (fun d x => { d with port := some x }) (Json.readNullable readPort),
    .ofPlace "path" Draft.path (fun d x => { d with path := some x }) Json.readString]

/-- Reads an endpoint. Its parts are taken as they are. -/
def read : Json.Reader Endpoint :=
  Json.readRecord fields ⟨none, none, none, none⟩ Draft.finish

end Endpoint

end RemoteCall
