import RemoteCall.Host.Background
/-!
# Peers

What the far ends of the links of a host do: they read what connections have written, write
what connections will read, close their end of the link, or make it fail.
-/

namespace RemoteCall.Host

/-- Changes a link. -/
def modifyLink (h : Host) (link : Nat) (f : Link → Link) : Host :=
  { h with links := h.links.modify link f }

/-- What a peer has found. -/
structure PeerReading where
  /-- The address that the connection was opened to. -/
  address : String
  /-- The complete frames among what was read. -/
  frames : List Frame
  /-- How many octets are left over. -/
  rest : Nat
  /-- Whether the peer has come upon the end of what was sent, now or before. -/
  finished : Bool
  deriving Repr, DecidableEq

/-- How many octets the connections of a host have not written yet. -/
def unwritten (h : Host) : Nat :=
  (h.nodes.flatMap fun n =>
    match n.transport with
    | .socket c _ _ => c.writing ++ c.queue.flatten
    | _ => []).length

/-- A peer reads until nothing comes, and lets the host go on with its work in between. Each
step takes an octet that is on its way or not yet written. -/
def drainFar : (steps : Nat) → Host → (link : Nat) → Host
  | 0, h, _ => h
  | steps + 1, h, link =>
    match h.links[link]? with
    | none => h
    | some l =>
      match l.farRead l.outbound.length with
      | (.read _, l) => drainFar steps (h.modifyLink link fun _ => l).settle link
      | (_, l) => h.modifyLink link fun _ => l

/-- A peer takes the complete frames out of what it has read. -/
def collectFrames (h : Host) (link : Nat) : Option (PeerReading × Host) :=
  h.links[link]?.map fun l =>
    let stream := Frame.decodeAll (UInt64.size - 1) l.received.reverse.flatten
    ({ address := l.address
       frames := stream.frames
       rest := stream.rest.length
       finished := l.endSeen },
      h.modifyLink link fun l => { l with received := [stream.rest] })

/-- A peer reads: at most so many octets at once, or until nothing comes. A peer that has
closed its end reads nothing. -/
def peerRead (h : Host) (link : Nat) (size : Option Nat) : Option (PeerReading × Host) :=
  match h.links[link]? with
  | none => none
  | some l =>
    if !l.farOpen then h.collectFrames link
    else
      match size with
      | none => (drainFar (l.outbound.length + h.unwritten + 2) h link).collectFrames link
      | some size => (h.modifyLink link (·.farReadAll size)).collectFrames link

/-- What comes of a peer writing. -/
inductive PeerWriting where
  /-- So many octets were written, as many as the pipe takes. -/
  | written (count : Nat)
  /-- The connection was gone after some octets. -/
  | broken (count : Nat)
  /-- The peer has closed its end. -/
  | closed
  deriving Repr, DecidableEq

/-- A peer writes at once as much as the pipe takes; the rest is lost. -/
def writeOnce (h : Host) (link : Nat) (bs : Bytes) : PeerWriting × Host :=
  match h.links[link]? with
  | none => (.closed, h)
  | some l =>
    match l.farWrite bs with
    | (.failed _, _) => (.broken 0, h)
    | (.wrote n, l) => (.written n, h.modifyLink link fun _ => l)

/-- A peer writes piece by piece, each of at most `size` octets, and lets the host go on with
its work after each. It does not come back to what the pipe did not take of a piece. Each step
writes a piece, so that there are at most as many as octets. -/
def writePieces (size : Nat) : (steps : Nat) → Host → (link : Nat) → Bytes → Nat →
    PeerWriting × Host
  | 0, h, _, _, count => (.written count, h)
  | steps + 1, h, link, bs, count =>
    if bs.isEmpty then (.written count, h)
    else
      match h.writeOnce link (bs.take size) with
      | (.written n, h) => writePieces size steps h.settle link (bs.drop size) (count + n)
      | (.broken _, h) => (.broken count, h)
      | (.closed, h) => (.closed, h)

/-- A peer writes: at once, or in pieces of the given size if that makes several. -/
def peerSend (h : Host) (link : Nat) (bs : Bytes) (chunk : Option Nat) :
    Option (PeerWriting × Host) :=
  h.links[link]?.map fun l =>
    let size := max 1 (chunk.getD bs.length)
    if !l.farOpen then (.closed, h)
    else if bs.isEmpty then (.written 0, h)
    else if bs.length ≤ size then h.writeOnce link bs
    else writePieces size bs.length h link bs 0

/-- A peer closes its end of the link; also tells whether it was open. -/
def peerClose (h : Host) (link : Nat) : Option (Bool × Host) :=
  h.links[link]?.map fun l => (l.farOpen, h.modifyLink link Link.farClose)

/-- The next read of a connection fails. -/
def failNextRead (h : Host) (link : Nat) (reason : String) : Host :=
  h.modifyLink link fun l => { l with readError := some reason }

/-- Every further write of a connection fails. -/
def failWrites (h : Host) (link : Nat) (reason : String) : Host :=
  h.modifyLink link fun l => { l with writeError := some reason }

end RemoteCall.Host
