import RemoteCall.Wire.Frame
/-!
# Inboxes

A stream brings its octets in chunks whose borders mean nothing. An inbox gathers them until
they make frames. It knows how many octets are missing, and only puts a chunk aside that brings
fewer, so that a frame that comes in many chunks is looked at twice: when its envelope is
complete, and when its payload is. What comes out is what `Frame.decodeAll` finds in the octets
so far, as `Inbox.receive_eq` says.
-/

namespace RemoteCall

/-- Octets that have been read from a stream and make no complete frame yet. -/
structure Inbox (maxPayload : Nat) where
  /-- The chunks in which they came, the last in front. -/
  chunks : List Bytes
  /-- How many octets must at least follow them. -/
  missing : Nat
  /-- The number of missing octets is that of the frame in the chunks. -/
  missing_eq : missing = Frame.shortage maxPayload chunks.reverse.flatten
  deriving Repr, DecidableEq

namespace Inbox

variable {maxPayload : Nat}

/-- The octets of an inbox. -/
def octets (i : Inbox maxPayload) : Bytes :=
  i.chunks.reverse.flatten

/-- An inbox with the given octets. -/
def ofOctets (maxPayload : Nat) (data : Bytes) : Inbox maxPayload :=
  { chunks := [data]
    missing := Frame.shortage maxPayload data
    missing_eq := by simp }

/-- An inbox without octets. -/
def empty (maxPayload : Nat) : Inbox maxPayload :=
  ofOctets maxPayload []

/-- Puts a chunk aside that leaves the frame incomplete. -/
def putAside (i : Inbox maxPayload) (chunk : Bytes) (h : chunk.length < i.missing) :
    Inbox maxPayload :=
  { chunks := chunk :: i.chunks
    missing := i.missing - chunk.length
    missing_eq := by
      rw [i.missing_eq] at h ⊢
      rw [List.reverse_cons, List.flatten_append, ← Frame.shortage_append h]
      simp }

/-- What a chunk brings. -/
structure Intake (maxPayload : Nat) where
  /-- The frames that it completes, in order. -/
  frames : List Frame
  /-- The defect that follows them, if there is one. -/
  error? : Option WireError
  /-- The inbox with what is left over. -/
  inbox : Inbox maxPayload
  deriving Repr, DecidableEq

/-- Takes in a chunk of octets. -/
def receive (i : Inbox maxPayload) (chunk : Bytes) : Intake maxPayload :=
  if h : chunk.length < i.missing then
    { frames := [], error? := none, inbox := i.putAside chunk h }
  else
    let stream := Frame.decodeAll maxPayload (chunk :: i.chunks).reverse.flatten
    { frames := stream.frames
      error? := stream.error?
      inbox := .ofOctets maxPayload stream.rest }

/-- What a chunk brings, without regard to how the octets were cut into chunks. -/
def Intake.stream (r : Intake maxPayload) : Frame.Stream :=
  { frames := r.frames, rest := r.inbox.octets, error? := r.error? }

/-- An inbox holds the octets that it was made from. -/
@[simp]
theorem octets_ofOctets (data : Bytes) : (ofOctets maxPayload data).octets = data := by
  simp [octets, ofOctets]

/-- A new inbox holds nothing. -/
@[simp]
theorem octets_empty : (empty maxPayload).octets = [] :=
  octets_ofOctets []

/-- A chunk that is put aside comes behind what was there. -/
@[simp]
theorem octets_putAside (i : Inbox maxPayload) (chunk : Bytes) (h : chunk.length < i.missing) :
    (i.putAside chunk h).octets = i.octets ++ chunk := by
  simp [octets, putAside]

/-- What comes out is what the octets so far hold, however they were cut. -/
theorem receive_eq (i : Inbox maxPayload) (chunk : Bytes) :
    (i.receive chunk).stream = Frame.decodeAll maxPayload (i.octets ++ chunk) := by
  rw [receive]
  split
  next h =>
    have hmissing : 0 < Frame.shortage maxPayload (i.octets ++ chunk) := by
      rw [i.missing_eq] at h
      have hshort := Frame.shortage_append h
      rw [← octets] at h hshort
      omega
    rw [Frame.decodeAll, Frame.decodeUpTo, Frame.decode_eq_none_of_shortage hmissing]
    simp [Intake.stream]
  next =>
    have hoctets : (chunk :: i.chunks).reverse.flatten = i.octets ++ chunk := by simp [octets]
    rw [hoctets]
    simp [Intake.stream]

end Inbox

end RemoteCall
