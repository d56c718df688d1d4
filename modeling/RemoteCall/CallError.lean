import RemoteCall.Endpoint
import RemoteCall.Fault
import RemoteCall.Wire.Error
/-!
# Call errors

Everything that can go wrong with a call, with the wording in one place. A failure is a single
thing gone wrong. Errors are trees of failures, in which a composite gathers the errors raised
together. `CallError.normalize` brings an error into its canonical form, a single failure or a
flat composite, and keeps its leaves in order.
-/

namespace RemoteCall

/-- Why a payload codec failed, with the reason it gave. -/
inductive CodecError where
  /-- A value could not be turned into octets. -/
  | encode (reason : String)
  /-- Octets could not be turned into a value of the expected type. -/
  | decode (reason : String)
  deriving Repr, DecidableEq

namespace CodecError

/-- The reason the codec gave. -/
def reason : CodecError → String
  | encode reason => reason
  | decode reason => reason

/-- The description of a codec error. -/
def message : CodecError → String
  | encode reason => "encode error: " ++ reason
  | decode reason => "decode error: " ++ reason

end CodecError

/-- A single reason why a call failed, or could not be made. -/
inductive Failure where
  /-- The request could not be encoded. Nothing was registered or sent. -/
  | encode (reason : String)
  /-- The response could not be decoded. -/
  | decode (reason : String)
  /-- The service reported a fault. -/
  | remote (fault : Fault)
  /-- The connection was closed. -/
  | disconnected (endpoint : String)
  /-- The connection failed. -/
  | networkFault (endpoint reason : String)
  /-- The endpoint is bound to a transport that never delivers. -/
  | notImplemented (endpoint : String)
  /-- The handler let go of the request without answering it. -/
  | noResponse (endpoint : String)
  /-- No handler is registered at the endpoint. -/
  | endpointNotFound (endpoint : String)
  /-- A handler is already registered at the endpoint. -/
  | endpointInUse (endpoint : String)
  /-- No transport is registered for the scheme. -/
  | unknownScheme (scheme : String)
  /-- The endpoint is malformed, or its transport cannot use it. -/
  | invalidEndpoint (reason : String)
  /-- A call with this correlation id is outstanding already. -/
  | duplicateCorrelationId (id : UInt64)
  /-- The dispatcher has as many outstanding calls as it may have. -/
  | tooManyOutstandingCalls (limit : Nat)
  /-- A frame could not be built or read. -/
  | wire (error : WireError)
  /-- Background work cannot be run. -/
  | noRuntime
  /-- The dispatcher was dropped before the call was resolved. -/
  | dispatcherClosed
  deriving Repr, DecidableEq, Inhabited

/-- The description of a failure. -/
def Failure.message : Failure → String
  | encode reason => "encode failed: " ++ reason
  | decode reason => "decode failed: " ++ reason
  | remote fault => "remote fault: " ++ fault.toText
  | disconnected endpoint => "disconnect for " ++ endpoint
  | networkFault endpoint reason => "network fault for " ++ endpoint ++ ": " ++ reason
  | notImplemented endpoint => "not implemented: " ++ endpoint
  | noResponse endpoint => "no response from " ++ endpoint
  | endpointNotFound endpoint => "endpoint not found: " ++ endpoint
  | endpointInUse endpoint => "endpoint already registered: " ++ endpoint
  | unknownScheme scheme => "no transport registered for scheme " ++ Text.quote scheme
  | invalidEndpoint reason => "invalid endpoint: " ++ reason
  | duplicateCorrelationId id => s!"correlation id {id.toNat} already outstanding"
  | tooManyOutstandingCalls limit => s!"too many outstanding calls (limit {limit})"
  | wire error => "wire error: " ++ error.message
  | noRuntime => "no tokio runtime available"
  | dispatcherClosed => "dispatcher closed"

/-- The error of a call: one failure, or several errors raised together. -/
inductive CallError where
  /-- A single failure. -/
  | failure (f : Failure)
  /-- Several errors raised together, in order. -/
  | composite (causes : List CallError)
  deriving Repr, Inhabited

namespace CallError

instance : Coe Failure CallError := ⟨failure⟩

/-- The error of a codec, as the error of the call. -/
def ofCodec : CodecError → CallError
  | .encode reason => failure (.encode (CodecError.encode reason).message)
  | .decode reason => failure (.decode (CodecError.decode reason).message)

/-- The error of a text that is no endpoint. -/
def ofParse (e : Endpoint.ParseError) : CallError :=
  failure (.invalidEndpoint e.message)

/-- The description of an error. A composite shows the number of its causes and the first. -/
def message : CallError → String
  | failure f => f.message
  | composite [] => "0 errors, first: "
  | composite (first :: others) => s!"{others.length + 1} errors, first: " ++ first.message

mutual

/-- The failures of an error, from left to right. -/
def leaves : CallError → List Failure
  | failure f => [f]
  | composite causes => leavesOfAll causes

/-- The failures of several errors, from left to right. -/
def leavesOfAll : List CallError → List Failure
  | [] => []
  | e :: es => leaves e ++ leavesOfAll es

end

mutual

/-- Puts the failures of an error, from left to right, behind the errors that were found before. -/
def flattenOnto (found : Array CallError) : CallError → Array CallError
  | failure f => found.push (failure f)
  | composite causes => flattenAllOnto found causes

/-- Puts the failures of several errors behind the errors that were found before. -/
def flattenAllOnto (found : Array CallError) : List CallError → Array CallError
  | [] => found
  | e :: es => flattenAllOnto (flattenOnto found e) es

end

/-- The canonical form of an error: composites within a composite are dissolved into it, and if
one cause is left, it takes the place of the composite. -/
def normalize : CallError → CallError
  | failure f => failure f
  | composite causes =>
    match (flattenAllOnto #[] causes).toList with
    | [cause] => cause
    | flat => composite flat

mutual

/-- The error that a fault stands for: its causes if it has any, and else itself. -/
def ofFault : Fault → CallError
  | .mk kind message [] => failure (.remote (.mk kind message []))
  | .mk _ _ (cause :: causes) => composite (ofFault cause :: ofFaults causes)

/-- The errors that several faults stand for. -/
def ofFaults : List Fault → List CallError
  | [] => []
  | f :: fs => ofFault f :: ofFaults fs

end

mutual

/-- Equality of errors is decidable. -/
def decEq : (d e : CallError) → Decidable (d = e)
  | failure f, failure g =>
    if h : f = g then isTrue (by rw [h]) else isFalse (fun e => h (by cases e; rfl))
  | failure _, composite _ => isFalse (fun e => by cases e)
  | composite _, failure _ => isFalse (fun e => by cases e)
  | composite ds, composite es =>
    match decEqList ds es with
    | isTrue h => isTrue (by rw [h])
    | isFalse h => isFalse (fun e => h (by cases e; rfl))

/-- Equality of lists of errors is decidable. -/
def decEqList : (ds es : List CallError) → Decidable (ds = es)
  | [], [] => isTrue rfl
  | [], _ :: _ => isFalse (fun e => by cases e)
  | _ :: _, [] => isFalse (fun e => by cases e)
  | d :: ds, e :: es =>
    match decEq d e, decEqList ds es with
    | isTrue h, isTrue hs => isTrue (by rw [h, hs])
    | isFalse h, _ => isFalse (fun e => h (by cases e; rfl))
    | _, isFalse hs => isFalse (fun e => hs (by cases e; rfl))

end

instance : DecidableEq CallError := decEq

end CallError

end RemoteCall
