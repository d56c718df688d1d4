import RemoteCall.Bytes
/-!
# Links

A link is an established byte stream between a connection and its peer: a pipe in each
direction, of which each holds only so many octets. An end of the link that is given up closes
both pipes at its side; what the other end has sent until then can still be read at the side
that remains. A link can be made to fail, so that reading or writing reports an error.
-/

namespace RemoteCall

/-- A byte stream between a connection and its peer. -/
structure Link where
  /-- The address that the connection was opened to. -/
  address : String
  /-- How many octets each pipe holds at most. -/
  capacity : Nat
  /-- The octets on their way to the peer. -/
  outbound : Bytes
  /-- The octets on their way to the connection. -/
  inbound : Bytes
  /-- Whether the connection is still there. -/
  nearOpen : Bool
  /-- Whether the peer is still there. -/
  farOpen : Bool
  /-- The error that the next read of the connection reports. -/
  readError : Option String
  /-- The error that every further write of the connection reports. -/
  writeError : Option String
  /-- What the peer has read and makes no complete frame yet, the last chunk in front. -/
  received : List Bytes
  /-- Whether the peer has come upon the end of what was sent. -/
  endSeen : Bool
  deriving Repr, DecidableEq

namespace Link

/-- The error of writing when the other end is gone. -/
def brokenPipe : String := "broken pipe"

/-- A new link. -/
def start (address : String) (capacity : Nat) : Link :=
  { address
    capacity
    outbound := []
    inbound := []
    nearOpen := true
    farOpen := true
    readError := none
    writeError := none
    received := []
    endSeen := false }

/-- What comes of trying to write. -/
inductive WriteOutcome where
  /-- The pipe took some octets, or none if it is full. -/
  | wrote (count : Nat)
  /-- The pipe cannot be written. -/
  | failed (reason : String)
  deriving Repr, DecidableEq

/-- What comes of trying to read. -/
inductive ReadOutcome where
  /-- Octets were read. -/
  | read (chunk : Bytes)
  /-- There is nothing to read yet. -/
  | blocked
  /-- Everything has been read, and the other end is gone. -/
  | finished
  /-- The pipe cannot be read. -/
  | failed (reason : String)
  deriving Repr, DecidableEq

/-- The connection writes as much as the pipe takes. -/
def nearWrite (l : Link) (bs : Bytes) : WriteOutcome × Link :=
  match l.writeError with
  | some reason => (.failed reason, l)
  | none =>
    if !l.farOpen then (.failed brokenPipe, l)
    else
      let taken := bs.take (l.capacity - l.outbound.length)
      (.wrote taken.length, { l with outbound := l.outbound ++ taken })

/-- The connection reads at most `size` octets. -/
def nearRead (l : Link) (size : Nat) : ReadOutcome × Link :=
  match l.readError with
  | some reason => (.failed reason, { l with readError := none })
  | none =>
    if l.inbound.isEmpty then (if l.farOpen then .blocked else .finished, l)
    else (.read (l.inbound.take size), { l with inbound := l.inbound.drop size })

/-- The peer writes as much as the pipe takes. -/
def farWrite (l : Link) (bs : Bytes) : WriteOutcome × Link :=
  if !l.nearOpen then (.failed brokenPipe, l)
  else
    let taken := bs.take (l.capacity - l.inbound.length)
    (.wrote taken.length, { l with inbound := l.inbound ++ taken })

/-- The peer reads at most `size` octets. A peer that comes upon the end remembers it. -/
def farRead (l : Link) (size : Nat) : ReadOutcome × Link :=
  if l.outbound.isEmpty then
    if l.nearOpen then (.blocked, l) else (.finished, { l with endSeen := true })
  else
    (.read (l.outbound.take size),
      { l with
        outbound := l.outbound.drop size
        received := l.outbound.take size :: l.received })

/-- The peer reads all that is there, but at most `size` octets. Only a peer that asks for more
than there is comes upon the end. -/
def farReadAll (l : Link) (size : Nat) : Link :=
  if size = 0 then l
  else if l.outbound.length < size then ((l.farRead size).2.farRead size).2
  else (l.farRead size).2

/-- The connection gives up its end. -/
def nearClose (l : Link) : Link :=
  { l with nearOpen := false }

/-- The peer gives up its end. -/
def farClose (l : Link) : Link :=
  { l with farOpen := false }

/-! ## Links in order -/

/-- A connection whose peer is there writes what the pipe has room for. -/
theorem nearWrite_eq {l : Link} (herror : l.writeError = none) (hfar : l.farOpen = true)
    (bs : Bytes) :
    let taken := bs.take (l.capacity - l.outbound.length)
    l.nearWrite bs = (.wrote taken.length, { l with outbound := l.outbound ++ taken }) := by
  rw [nearWrite]
  split
  next reason hsome =>
    rw [herror] at hsome
    cases hsome
  next => rw [if_neg (by simp [hfar])]

/-- A connection whose peer is there reads what there is, or waits. -/
theorem nearRead_eq {l : Link} (herror : l.readError = none) (hfar : l.farOpen = true)
    (size : Nat) :
    l.nearRead size =
      if l.inbound.isEmpty then (.blocked, l)
      else (.read (l.inbound.take size), { l with inbound := l.inbound.drop size }) := by
  rw [nearRead]
  split
  next reason hsome =>
    rw [herror] at hsome
    cases hsome
  next => rw [if_pos hfar]

/-- A peer whose connection is there writes what the pipe has room for. -/
theorem farWrite_eq {l : Link} (hnear : l.nearOpen = true) (bs : Bytes) :
    let taken := bs.take (l.capacity - l.inbound.length)
    l.farWrite bs = (.wrote taken.length, { l with inbound := l.inbound ++ taken }) := by
  rw [farWrite, if_neg (by simp [hnear])]

/-- A peer whose connection is there moves octets out of the pipe by reading. -/
theorem farReadAll_eq {l : Link} (hnear : l.nearOpen = true) (size : Nat) :
    ∃ outbound received, l.farReadAll size = { l with outbound, received } ∧
      received.reverse.flatten ++ outbound = l.received.reverse.flatten ++ l.outbound := by
  have hread : ∀ l : Link, l.nearOpen = true → ∃ outbound received,
      (l.farRead size).2 = { l with outbound, received } ∧
        received.reverse.flatten ++ outbound = l.received.reverse.flatten ++ l.outbound := by
    intro l hnear
    rw [farRead, if_pos hnear]
    split
    · exact ⟨l.outbound, l.received, rfl, rfl⟩
    · refine ⟨l.outbound.drop size, l.outbound.take size :: l.received, rfl, ?_⟩
      simp
  rw [farReadAll]
  split
  · exact ⟨l.outbound, l.received, rfl, rfl⟩
  · obtain ⟨outbound, received, hfirst, hsame⟩ := hread l hnear
    split
    · rw [hfirst]
      obtain ⟨outbound', received', hsecond, hsame'⟩ := hread { l with outbound, received } hnear
      exact ⟨outbound', received', hsecond, hsame'.trans hsame⟩
    · exact ⟨outbound, received, hfirst, hsame⟩

end Link

end RemoteCall
