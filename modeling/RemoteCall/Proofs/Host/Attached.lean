import RemoteCall.Host.Peers
import RemoteCall.Proofs.Host.Session
import RemoteCall.Proofs.Transport.Pipeline
/-!
# Connections and their links

A connection belongs to a dispatcher of a host, and once it is established it has a link of the
host. `Host.Attached` says so; here is what the operations of the host do to both.
-/

namespace RemoteCall

namespace Host

/-- Something happens between the established connection of a dispatcher and its link. -/
def withConversation (h : Host) (node : Nat) (f : Conversation → Conversation) : Host :=
  match h.nodes[node]? with
  | some { dispatcher, transport := .socket connection (.done (some link)) closing } =>
    match h.links[link]? with
    | some l =>
      let t := f { dispatcher, connection, link := l }
      { h.modifyNode node fun _ =>
          { dispatcher := t.dispatcher
            transport := .socket t.connection (.done (some link)) closing } with
        links := h.links.set link t.link }
    | none => h
  | _ => h

/-- What a peer finds that reads from a link that it has not given up. -/
theorem peerRead_of_open {h : Host} {number : Nat} {l : Link} (hlink : h.links[number]? = some l)
    (hopen : l.farOpen = true) (size : Nat) :
    let stream := Frame.decodeAll Peer.maxPayload (l.farReadAll size).received.reverse.flatten
    ∃ reading, h.peerRead number (some size) = some (reading, h.modifyLink number fun l =>
        { l.farReadAll size with received := [stream.rest] }) ∧ reading.frames = stream.frames := by
  intro stream
  rw [peerRead, hlink]
  simp only [hopen, Bool.not_true, Bool.false_eq_true, if_false, collectFrames, modifyLink,
    List.getElem?_modify_eq, hlink, Option.map_eq_map, Option.map_some, List.modify_modify_eq]
  exact ⟨_, rfl, rfl⟩

/-- The number of the link of a dispatcher, if its connection is established. -/
def linkOf? (h : Host) (node : Nat) : Option Nat :=
  match h.nodes[node]?.map Node.transport with
  | some (.socket _ (.done (some link)) _) => some link
  | _ => none

/-- The connection of a dispatcher is opened, if nobody has tried to open it. -/
def connect (h : Host) (node : Nat) : Host :=
  match h.nodes[node]?.map Node.transport with
  | some (.socket c .idle _) => h.dial node c .idle
  | _ => h

/-- How the connection of a dispatcher stands to its link. A connection that has not been opened
counts as one with an empty link. -/
inductive Attached (h : Host) (node : Nat) (d : Dispatcher) (c : Connection) : Link → Prop
  /-- The connection has not been opened. -/
  | idle (hnode : h.nodes[node]? = some { dispatcher := d, transport := .socket c .idle false })
      (hphase : c.phase = .connecting) : Attached h node d c (.start "" 0)
  /-- The connection is established over the link with the given number. -/
  | established {number : Nat} {link : Link}
      (hnode : h.nodes[node]? =
        some { dispatcher := d, transport := .socket c (.done (some number)) false })
      (hphase : c.phase = .established) (hlink : h.links[number]? = some link) :
      Attached h node d c link

namespace Attached

variable {h : Host} {node : Nat} {d : Dispatcher} {c : Connection} {link : Link}

/-- Only the dispatchers and the links of a host matter. -/
theorem of_eq {h' : Host} (ha : h.Attached node d c link) (hnodes : h'.nodes = h.nodes)
    (hlinks : h'.links = h.links) : h'.Attached node d c link := by
  cases ha with
  | idle hnode hphase => exact .idle (hnodes ▸ hnode) hphase
  | established hnode hphase hlink =>
    exact .established (hnodes ▸ hnode) hphase (hlinks ▸ hlink)

/-- A connection belongs to its dispatcher. -/
theorem node_eq (ha : h.Attached node d c link) :
    ∃ transport, h.nodes[node]? = some { dispatcher := d, transport } := by
  cases ha with
  | idle hnode _ => exact ⟨_, hnode⟩
  | established hnode _ _ => exact ⟨_, hnode⟩

/-- A connection that is attached has not ended. -/
theorem phase_ne (ha : h.Attached node d c link) : c.phase ≠ .ended := by
  cases ha with
  | idle _ hphase => simp [hphase]
  | established _ hphase _ => simp [hphase]

/-- A connection that is established has a link. -/
theorem exists_link (ha : h.Attached node d c link) (hphase : c.phase = .established) :
    ∃ number, h.nodes[node]? =
        some { dispatcher := d, transport := .socket c (.done (some number)) false } ∧
      h.links[number]? = some link := by
  cases ha with
  | idle _ hidle =>
    rw [hphase] at hidle
    cases hidle
  | @established number _ hnode _ hlink => exact ⟨number, hnode, hlink⟩

/-- The dispatcher may change. -/
theorem modifyDispatcher (ha : h.Attached node d c link) (f : Dispatcher → Dispatcher) :
    (h.modifyDispatcher node f).Attached node (f d) c link := by
  cases ha with
  | idle hnode hphase => exact .idle (nodes_modifyNode hnode _) hphase
  | established hnode hphase hlink => exact .established (nodes_modifyNode hnode _) hphase hlink

/-- The connection takes a request into its queue. -/
theorem send (ha : h.Attached node d c link) {a : Admission} {queue : List Bytes}
    (hsend : c.send a.envelope a.payload = .ok { c with queue }) :
    ∃ nodes, h.send node a = (.queued, { h with nodes }) ∧
      Attached { h with nodes } node d { c with queue } link := by
  cases ha with
  | idle hnode hphase =>
    refine ⟨_, ?_, .idle (nodes_modifyNode hnode fun n =>
      { n with transport := .socket { c with queue } .idle false }) hphase⟩
    simp only [Host.send, hnode, hsend]
    rfl
  | @established number _ hnode hphase hlink =>
    refine ⟨_, ?_, .established (nodes_modifyNode hnode fun n =>
      { n with transport := .socket { c with queue } (.done (some number)) false }) hphase hlink⟩
    simp only [Host.send, hnode, hsend]
    rfl

/-- Opening a connection gives it an empty link, if the network accepts. -/
theorem connect (ha : h.Attached node d c link) (haccept : h.network.mode = .accept) :
    ∃ nodes links dialed, h.connect node = { h with nodes, links, dialed } ∧
      ((h.connect node).Attached node d c link ∧ c.phase = .established ∨
        link = .start "" 0 ∧ (h.connect node).Attached node d
          { c with phase := .established } (.start c.address h.network.capacity)) := by
  cases ha with
  | idle hnode hphase =>
    obtain ⟨endpoint, address, config, phase, writing, queue, inbox⟩ := c
    obtain rfl : phase = .connecting := hphase
    have hdial : ({ h with dialed := h.dialed ++ [address] }.dialEvent node .connected).nodes[node]? =
        some {
          dispatcher := d
          transport := .socket
            { endpoint, address, config, phase := .established, writing, queue, inbox }
            (.done none) false } :=
      nodes_modifyNode hnode _
    simp only [Host.connect, hnode, Option.map_some, dial, haccept]
    refine ⟨_, _, _, rfl, .inr ⟨trivial, .established (nodes_modifyNode hdial _) rfl ?_⟩⟩
    exact List.getElem?_concat_length
  | established hnode hphase hlink =>
    have hsame : h.connect node = h := by
      simp only [Host.connect, hnode, Option.map_some]
    rw [hsame]
    exact ⟨h.nodes, h.links, h.dialed, rfl, .inl ⟨.established hnode hphase hlink, hphase⟩⟩

/-- What happens between a connection and its link, as long as the connection does not end. -/
theorem withConversation (ha : h.Attached node d c link) (hphase : c.phase = .established)
    (f : Conversation → Conversation) {t : Conversation}
    (hf : f { dispatcher := d, connection := c, link } = t)
    (hafter : t.connection.phase = .established) :
    ∃ nodes links, h.withConversation node f = { h with nodes, links } ∧
      Attached { h with nodes, links } node t.dispatcher t.connection t.link := by
  obtain ⟨number, hnode, hlink⟩ := ha.exists_link hphase
  simp only [Host.withConversation, hnode, hlink, hf]
  refine ⟨_, _, rfl, .established (nodes_modifyNode hnode _) hafter ?_⟩
  obtain ⟨hlt, -⟩ := List.getElem?_eq_some_iff.1 hlink
  exact List.getElem?_set_self hlt

/-- The background work on an established connection writes and reads. -/
theorem converse_eq (ha : h.Attached node d c link) {number : Nat}
    (hnumber : h.linkOf? node = some number) :
    h.converse node number = h.withConversation node Conversation.run := by
  cases ha with
  | idle hnode _ => simp [linkOf?, hnode] at hnumber
  | established hnode hphase hlink =>
    simp only [linkOf?, hnode, Option.map_some, Option.some.injEq] at hnumber
    subst hnumber
    simp only [converse, Host.withConversation, hnode, hlink]
    rfl

/-- The background work opens a connection that has not been opened, and then writes and reads. -/
theorem driveConnection_eq (ha : h.Attached node d c link) (haccept : h.network.mode = .accept) :
    h.driveConnection node = (h.connect node).withConversation node Conversation.run := by
  obtain ⟨-, -, -, -, hconnect⟩ := ha.connect haccept
  cases ha with
  | idle hnode hphase =>
    have hdial : h.connect node = h.dial node c .idle := by
      simp only [Host.connect, hnode, Option.map_some]
    have hattached : (h.connect node).Attached node d { c with phase := .established }
        (.start c.address h.network.capacity) := by
      rcases hconnect with ⟨-, hestablished⟩ | ⟨-, hnew⟩
      · rw [hphase] at hestablished
        cases hestablished
      · exact hnew
    have hdrive : h.driveConnection node =
        match (h.connect node).nodes[node]?.map Node.transport with
        | some (.socket _ (.done (some link)) _) => (h.connect node).converse node link
        | _ => h.connect node := by
      simp only [driveConnection, hnode, Option.map_some, hphase, hdial]
      rfl
    -- The connection is established now, and has its link.
    obtain ⟨number, hnode', -⟩ := hattached.exists_link rfl
    have hnumber : (h.connect node).linkOf? node = some number := by
      simp only [linkOf?, hnode', Option.map_some]
    rw [hdrive, hnode', ← hattached.converse_eq hnumber]
    rfl
  | @established number _ hnode hphase hlink =>
    have hsame : h.connect node = h := by
      simp only [Host.connect, hnode, Option.map_some]
    have hnumber : h.linkOf? node = some number := by
      simp only [linkOf?, hnode, Option.map_some]
    rw [hsame, ← converse_eq (.established hnode hphase hlink) hnumber]
    simp only [driveConnection, hnode, Option.map_some, hphase]

/-- Until the connection is established nothing happens to it and nobody has its link. -/
theorem established_or (ha : h.Attached node d c link) :
    c.phase = .established ∨
      h.linkOf? node = none ∧ ∀ f : Conversation → Conversation, h.withConversation node f = h := by
  cases ha with
  | idle hnode _ =>
    refine .inr ⟨?_, fun f => ?_⟩
    · simp [linkOf?, hnode]
    · simp only [Host.withConversation, hnode]
  | established _ hphase _ => exact .inl hphase

/-- The link has the number under which others find it. -/
theorem getElem?_links {number : Nat} (ha : h.Attached node d c link)
    (hnumber : h.linkOf? node = some number) : h.links[number]? = some link := by
  cases ha with
  | idle hnode _ => simp [linkOf?, hnode] at hnumber
  | established hnode hphase hlink =>
    simp only [linkOf?, hnode, Option.map_some, Option.some.injEq] at hnumber
    rwa [← hnumber]

/-- The link may change. -/
theorem modifyLink {number : Nat} (ha : h.Attached node d c link)
    (hnumber : h.linkOf? node = some number) (f : Link → Link) :
    (h.modifyLink number f).Attached node d c (f link) := by
  cases ha with
  | idle hnode _ => simp [linkOf?, hnode] at hnumber
  | established hnode hphase hlink =>
    simp only [linkOf?, hnode, Option.map_some, Option.some.injEq] at hnumber
    subst hnumber
    refine .established hnode hphase ?_
    simp [Host.modifyLink, hlink]

end Attached

end Host

end RemoteCall
