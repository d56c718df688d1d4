import RemoteCall.Proofs.Host.Acts
import RemoteCall.Proofs.Transport.Ending
import RemoteCall.Proofs.Transport.Pieces
/-!
# Dispatchers with a connection

A dispatcher and its connection are in order (`Node.Wired`) when they are built, and every turn
keeps them in order as long as background work goes on. `Node.Passes` says what a turn may do to
both of them; `Host.passes_turn` shows that a turn does nothing else. What follows for runs is that
a connection that has ended stays as it is (`Host.run_of_ended`). What the background work does to
an established connection is a row of such turns (`Host.exists_events_converse`).
-/

namespace RemoteCall

/-! ## What may happen -/

/-- The connection of a transport, if it has one. -/
def Transport.connection? : Transport → Option Connection
  | socket c _ _ => some c
  | _ => none

theorem Transport.eq_socket_of_connection? {t : Transport} {c : Connection}
    (h : t.connection? = some c) : ∃ dial closing, t = .socket c dial closing := by
  cases t with
  | socket c dial closing =>
    cases h
    exact ⟨dial, closing, rfl⟩
  | _ => cases h

namespace Node

/-- The fault with which the connection of a dispatcher ends in an act, if it does. The transport
then fails all calls. -/
def fault? (n : Node) : Host.Act → Option CallError
  | .event event =>
    match n.transport with
    | .socket c _ _ =>
      if n.allows (.event event) then (c.step n.dispatcher.live event).2.fault else none
    | _ => none
  | _ => none

/-- There is a fault only in an event of a connection. -/
theorem exists_event_of_fault {n : Node} {a : Host.Act} {e : CallError} (h : n.fault? a = some e) :
    ∃ c dial closing event, n.transport = .socket c dial closing ∧ a = .event event ∧
      (c.step n.dispatcher.live event).2.fault = some e := by
  rw [fault?.eq_def] at h
  split at h
  next event =>
    split at h
    next c dial closing htransport =>
      split at h
      · exact ⟨c, dial, closing, event, htransport, rfl, h⟩
      · cases h
    next => cases h
  next => cases h

/-- What the stream of the connection takes in an act. -/
def output (n : Node) : Host.Act → Bytes
  | .event (.wrote count) =>
    match n.transport with
    | .socket c _ _ => if c.phase = .established then c.writing.take count else []
    | _ => []
  | _ => []

/-- A dispatcher has a connection, and everything is in order. -/
structure Wired (n : Node) (c : Connection) : Prop where
  /-- The transport is the connection. It is told of the drop of the dispatcher. -/
  transport_eq : ∃ dial closing, n.transport = .socket c dial closing ∧
    (closing = true → n.dispatcher.live = false)
  /-- The books are in order. -/
  kept : n.dispatcher.Kept
  /-- The connection goes to the endpoint of the dispatcher. -/
  endpoint_eq : c.endpoint = n.dispatcher.endpoint.toText
  /-- No call is outstanding after the end of the connection. -/
  ended : c.isOpen = false → n.dispatcher.calls.values = []

/-- What becomes of a dispatcher and its connection in an act with the given fault and output. -/
structure Passes (n : Node) (c : Connection) (fault? : Option CallError) (output : Bytes)
    (n' : Node) (c' : Connection) : Prop where
  /-- Everything is in order afterwards. -/
  wired : n'.Wired c'
  /-- What has happened to the dispatcher consists of moves. -/
  reaches : n.dispatcher.Reaches n'.dispatcher
  /-- Nothing happens to a connection that has ended. -/
  stays : c.isOpen = false → c' = c ∧ fault? = none ∧ output = []
  /-- A fault ends the connection. -/
  ends : fault?.isSome → c'.isOpen = false
  /-- As long as the dispatcher is there, only a fault ends the connection. -/
  faulted : c.isOpen = true → c'.isOpen = false → n.dispatcher.live = true → fault?.isSome

variable {n : Node} {c : Connection}

theorem Wired.passes_of_reaches (h : n.Wired c) {d' : Dispatcher}
    (hreaches : n.dispatcher.Reaches d')
    (hvalues : n.dispatcher.calls.values = [] → d'.calls.values = []) :
    n.Passes c none [] { n with dispatcher := d' } c where
  wired := by
    obtain ⟨dial, closing, htransport, htold⟩ := h.transport_eq
    refine ⟨⟨dial, closing, htransport, fun hclosing => ?_⟩, hreaches.kept h.kept, ?_,
      fun hended => hvalues (h.ended hended)⟩
    · exact hreaches.live_eq_false h.kept (htold hclosing)
    · rw [h.endpoint_eq, hreaches.endpoint_eq h.kept]
  reaches := hreaches
  stays _ := ⟨rfl, rfl, rfl⟩
  ends hfault := by cases hfault
  faulted hopen hended := by simp [hopen] at hended

theorem Wired.passes_drop (h : n.Wired c) :
    n.Passes c none [] { dispatcher := n.dispatcher.close, transport := n.transport.close } c := by
  have hreaches := n.dispatcher.reaches_close
  obtain ⟨dial, closing, htransport, -⟩ := h.transport_eq
  refine ⟨⟨⟨dial, true, by rw [htransport]; rfl, fun _ => rfl⟩, hreaches.kept h.kept, ?_, ?_⟩,
    hreaches, fun _ => ⟨rfl, rfl, rfl⟩, fun hfault => (by cases hfault), fun hopen hended => ?_⟩
  · rw [h.endpoint_eq, hreaches.endpoint_eq h.kept]
  · exact fun hended => n.dispatcher.narrows_close.values_eq_nil (h.ended hended)
  · simp [hopen] at hended

/-- Nothing is written after the end of the connection. -/
theorem Wired.output_eq_nil (h : n.Wired c) (hended : c.isOpen = false) (a : Host.Act) :
    n.output a = [] := by
  obtain ⟨dial, closing, htransport, -⟩ := h.transport_eq
  have hphase : c.phase = .ended := by simpa [Connection.isOpen] using hended
  rw [output.eq_def]
  split
  · simp [htransport, hphase]
  · rfl

/-- A dispatcher that was dropped has no outstanding calls. -/
theorem Wired.values_of_dead (h : n.Wired c) (hdead : n.dispatcher.live = false) :
    n.dispatcher.calls.values = [] := by
  obtain ⟨hs, hledger⟩ := h.kept
  exact hledger.orderly.closed hdead

theorem Wired.passes_event (h : n.Wired c) {event : Connection.Event}
    (hallows : n.allows (.event event) = true) :
    ∃ c', n.Passes c (n.fault? (.event event)) (n.output (.event event)) (n.happen event) c' := by
  obtain ⟨dial, closing, htransport, htold⟩ := h.transport_eq
  have hfault : n.fault? (.event event) = (c.step n.dispatcher.live event).2.fault := by
    rw [fault?, htransport]
    exact if_pos hallows
  have hhappen : n.happen event =
      { dispatcher := n.dispatcher.absorb (c.step n.dispatcher.live event).2
        transport := .socket (c.step n.dispatcher.live event).1 (.done none) closing } := by
    rw [happen, htransport]
  have hbecomes := c.becomes_step n.dispatcher.live event
  rw [hfault, hhappen]
  -- From here on it only matters what the connection becomes, not how.
  generalize c.step n.dispatcher.live event = result at hbecomes
  obtain ⟨c', effect⟩ := result
  have hreaches := n.dispatcher.reaches_absorb effect
  have hwired : c'.endpoint = c.endpoint →
      (c'.isOpen = false → (n.dispatcher.absorb effect).calls.values = []) →
      Wired { dispatcher := n.dispatcher.absorb effect
              transport := .socket c' (.done none) closing } c' := by
    intro hsame hover
    refine ⟨⟨_, closing, rfl, fun hclosing => ?_⟩, hreaches.kept h.kept, ?_, hover⟩
    · exact hreaches.live_eq_false h.kept (htold hclosing)
    · rw [hsame, h.endpoint_eq, hreaches.endpoint_eq h.kept]
  refine ⟨c', ?_⟩
  cases hbecomes with
  | stay hended =>
    exact ⟨hwired rfl fun _ => h.ended hended, hreaches,
      fun _ => ⟨rfl, rfl, h.output_eq_nil hended _⟩, by simp,
      fun hopen => absurd hopen (by simp [hended])⟩
  | goOn hopen hopen' hsame =>
    have hwired' := hwired hsame fun hended => absurd hended (by simp [hopen'])
    exact ⟨hwired', hreaches, fun hended => absurd hended (by simp [hopen]), by simp,
      fun _ hended => absurd hended (by simp [hopen'])⟩
  | fault hopen =>
    exact ⟨hwired rfl fun _ => h.kept.values_absorb_fault, hreaches,
      fun hended => absurd hended (by simp [hopen]), fun _ => rfl, fun _ _ _ => rfl⟩
  | quiet hopen hgone =>
    -- The connection is told to shut down only after the drop of its dispatcher.
    have hdead : n.dispatcher.live = false := by
      rcases hgone with rfl | hdead
      · exact htold (by simpa [allows, htransport] using hallows)
      · exact hdead
    exact ⟨hwired rfl fun _ => h.values_of_dead hdead, hreaches,
      fun hended => absurd hended (by simp [hopen]), by simp,
      fun _ _ hlive => absurd hlive (by simp [hdead])⟩

theorem allows_event {event : Connection.Event} (h : event ≠ .shutDown) :
    n.allows (.event event) = true := by
  cases event with
  | shutDown => exact absurd rfl h
  | _ => rfl

/-- There is neither a fault nor output unless an event happens. -/
theorem fault?_eq_none {a : Host.Act} (h : ∀ event, a = .event event → n.allows a = false) :
    n.fault? a = none ∧ n.output a = [] := by
  constructor
  · rw [fault?.eq_def]
    split
    next event =>
      split
      · exact if_neg (by simp [h event rfl])
      · rfl
    next => rfl
  · rw [output.eq_def]
    split
    · cases h _ rfl
    · rfl

/-! ## What acts do -/

/-- A call that is accepted by a dispatcher with a connection. -/
theorem Wired.passes_accept (hwired : n.Wired c) (hlive : n.dispatcher.live = true)
    {request : CallRequest} {a : Admission} {d : Dispatcher}
    (haccept : n.dispatcher.accept request = (.ok a, d)) (node : Nat) (s : Host.Surroundings) :
    ∃ c', n.Passes c none []
      { dispatcher := d.noteSend a.id (send { n with dispatcher := d } node s a).1
        transport := (send { n with dispatcher := d } node s a).2.1 } c' := by
  have haccepts := Dispatcher.accepts_of_accept haccept
  have hreaches := Dispatcher.reaches_of_accepts hlive haccepts
  obtain ⟨dial, closing, htransport, htold⟩ := hwired.transport_eq
  cases hsend : c.send a.envelope a.payload with
  | error e =>
    -- The call is registered and failed in one act.
    have hrejected : send { n with dispatcher := d } node s a = (.rejected e, n.transport, []) := by
      simp only [send, htransport, hsend]
    rw [hrejected]
    refine ⟨c, hwired.passes_of_reaches (hreaches.trans (d.reaches_noteSend a.id _)) ?_⟩
    intro hnone
    exact haccepts.values_take_error (hreaches.kept hwired.kept) hnone e
  | ok c' =>
    obtain ⟨hopen, hopen', hsame⟩ := Connection.isOpen_of_send hsend
    have hqueued : send { n with dispatcher := d } node s a =
        (.queued, .socket c' dial closing, []) := by
      simp only [send, htransport, hsend]
    rw [hqueued]
    refine ⟨c', ⟨⟨dial, closing, rfl, fun hclosing => ?_⟩, hreaches.kept hwired.kept, ?_, ?_⟩,
      hreaches, ?_, by simp, ?_⟩
    · exact hreaches.live_eq_false hwired.kept (htold hclosing)
    · rw [hsame, hwired.endpoint_eq]
      exact congrArg Endpoint.toText (hreaches.endpoint_eq hwired.kept).symm
    · exact fun hended => absurd hended (by simp [hopen'])
    · exact fun hended => absurd hended (by simp [hopen])
    · exact fun _ hended => absurd hended (by simp [hopen'])

/-- A dispatcher that has a connection is in order when it is built. -/
theorem wired_build {b : TransportBuilder} {e : Endpoint} {config : DispatcherConfig}
    {connections : ConnectionConfig} {transport : Transport}
    (hbuild : b.build true e connections = .ok transport) {c : Connection} {dial : Dial}
    {closing : Bool} (htransport : transport = .socket c dial closing) (systemId : UInt64) :
    Wired { dispatcher := .start systemId e config, transport } c := by
  subst htransport
  cases b with
  | socket =>
    rw [TransportBuilder.build] at hbuild
    split at hbuild
    · cases hbuild
    · cases hbuild
      exact ⟨⟨_, _, rfl, fun hclosing => by cases hclosing⟩,
        Dispatcher.kept_start systemId e config, rfl, fun hended => by cases hended⟩
  | _ => cases hbuild

end Node

namespace Host.Share

variable {x y : Share} {node : Nat} {s : Surroundings} {n : Node} {a : Act} {c : Connection}

/-- What becomes of a dispatcher and its connection in an act. -/
theorem Changes.passes (h : x.Changes node s n a y) (hwired : n.Wired c) :
    ∃ n' c', y.node = some n' ∧ n.Passes c (n.fault? a) (n.output a) n' c' := by
  cases h with
  | stay hquiet hnode _ _ =>
    rw [(Node.fault?_eq_none hquiet).1, (Node.fault?_eq_none hquiet).2]
    exact ⟨n, c, hnode, hwired.passes_of_reaches (.refl _) id⟩
  | take hquiet signal hnode _ _ =>
    have hnone : n.fault? a = none ∧ n.output a = [] :=
      Node.fault?_eq_none fun event hevent => absurd hevent (hquiet event)
    rw [hnone.1, hnone.2]
    exact ⟨_, c, hnode, hwired.passes_of_reaches (n.dispatcher.reaches_take signal)
      (n.dispatcher.narrows_take signal).values_eq_nil⟩
  | refuse haccept =>
    have hrefuses := Dispatcher.refuses_of_accept haccept
    refine ⟨_, c, rfl, hwired.passes_of_reaches (Dispatcher.reaches_of_refuses hrefuses) ?_⟩
    intro hnone
    cases hrefuses <;> exact hnone
  | accept hlive haccept =>
    obtain ⟨c', hpasses⟩ := hwired.passes_accept hlive haccept node s
    exact ⟨_, c', rfl, hpasses⟩
  | allocate => exact ⟨_, c, rfl, hwired.passes_of_reaches n.dispatcher.reaches_allocate id⟩
  | drop => exact ⟨_, c, rfl, hwired.passes_drop⟩
  | work worker =>
    exact ⟨_, c, rfl, hwired.passes_of_reaches (n.dispatcher.reaches_runWorker worker)
      (n.dispatcher.narrows_runWorker worker).values_eq_nil⟩
  | event hallows =>
    obtain ⟨c', hpasses⟩ := hwired.passes_event hallows
    exact ⟨_, c', rfl, hpasses⟩

/-- A dispatcher that has no connection does not get one. -/
theorem Changes.connection?_eq_none (h : x.Changes node s n a y)
    (hnone : n.transport.connection? = none) :
    ∃ n', y.node = some n' ∧ n'.transport.connection? = none := by
  -- A transport of another kind stays of its kind, whatever it is asked to do.
  have hnot : ∀ c dial closing, n.transport ≠ .socket c dial closing := by
    intro c dial closing hsocket
    rw [hsocket] at hnone
    cases hnone
  cases h with
  | stay _ hnode _ _ => exact ⟨n, hnode, hnone⟩
  | take _ signal hnode _ _ => exact ⟨_, hnode, hnone⟩
  | accept _ _ =>
    refine ⟨_, rfl, ?_⟩
    rw [Node.send]
    split
    · rfl
    · rfl
    next hsocket => exact absurd hsocket (hnot _ _ _)
    next =>
      split
      · rfl
      · split <;> rfl
  | drop =>
    refine ⟨_, rfl, ?_⟩
    cases hsocket : n.transport with
    | socket c dial closing => exact absurd hsocket (hnot _ _ _)
    | _ => rfl
  | event _ =>
    refine ⟨_, rfl, ?_⟩
    rw [Node.happen]
    split
    next hsocket => exact absurd hsocket (hnot _ _ _)
    next => exact hnone
  | _ => exact ⟨_, rfl, hnone⟩

end Host.Share

namespace Host

/-! ## Turns -/

/-- The act of a dispatcher in a turn, if there is one. -/
def Turn.actOf? (node : Nat) : Turn → Option Act
  | .act other a => if other = node then some a else none
  | _ => none

/-- A turn in which a dispatcher acts is that act. -/
theorem Turn.eq_of_actOf?_eq_some {node : Nat} {t : Turn} {a : Act} (h : t.actOf? node = some a) :
    t = .act node a := by
  cases t with
  | act other a' =>
    rw [actOf?] at h
    split at h
    next hother =>
      cases h
      rw [hother]
    next => cases h
  | _ => cases h

/-- The fault with which the connection of a dispatcher ends in a turn, if it does. -/
def faultIn (h : Host) (node : Nat) (t : Turn) : Option CallError :=
  match h.nodes[node]?, t.actOf? node with
  | some n, some a => n.fault? a
  | _, _ => none

/-- What the stream of the connection of a dispatcher takes in a turn. -/
def outputIn (h : Host) (node : Nat) (t : Turn) : Bytes :=
  match h.nodes[node]?, t.actOf? node with
  | some n, some a => n.output a
  | _, _ => []

/-- The faults of the connection of a dispatcher in a run. For each of them the transport fails all
calls once. -/
def faults (h : Host) (node : Nat) : List Turn → List CallError
  | [] => []
  | t :: turns => (h.faultIn node t).toList ++ (h.turn t).faults node turns

/-- What the stream of the connection of a dispatcher takes in a run. -/
def written (h : Host) (node : Nat) : List Turn → Bytes
  | [] => []
  | t :: turns => h.outputIn node t ++ (h.turn t).written node turns

theorem faults_append (h : Host) (node : Nat) (turns more : List Turn) :
    h.faults node (turns ++ more) = h.faults node turns ++ (h.run turns).faults node more :=
  collected_append (fun h => h.faults node) (fun h t => (h.faultIn node t).toList) (fun _ => rfl)
    (fun _ _ _ => rfl) h turns more

variable {h : Host} {node : Nat} {n : Node} {c : Connection}

/-- What an act makes of its dispatcher depends on the share of the dispatcher. -/
theorem nodes_act (hown : ∀ node, h.isOwned node = false) (node : Nat) (a : Act) :
    (h.act node a).nodes[node]? = ((h.share node).act node h.surroundings a).node :=
  congrArg Share.node (confined_act hown node a).share_eq

/-- A turn of somebody else leaves a dispatcher as it is, as long as background work goes on. -/
theorem nodes_turn (hown : ∀ node, h.isOwned node = false) (hnode : h.nodes[node]? = some n)
    {t : Turn} (ht : t ≠ .stop) :
    (h.turn t).nodes[node]? =
      match t.actOf? node with
      | some a => ((h.share node).act node h.surroundings a).node
      | none => some n := by
  have hshare : (h.share node).node = some n := hnode
  have hturn : (h.turn t).nodes[node]? = ((h.share node).turn node h.surroundings t).node :=
    congrArg Share.node (share_turn hown node t)
  rw [hturn]
  cases t with
  | build b e config connections =>
    -- A dispatcher that is built gets a number that no other has.
    obtain ⟨hlt, -⟩ := List.getElem?_eq_some_iff.1 hnode
    have hother : ¬(h.surroundings.running ∧ h.surroundings.size = node) :=
      fun hbuilt => absurd hbuilt.2 (Nat.ne_of_gt hlt)
    rw [Share.turn, if_neg hother]
    exact hshare
  | register e handler => exact hshare
  | unregister e => exact hshare
  | stop => exact absurd rfl ht
  | act other a =>
    rw [Share.turn, Turn.actOf?]
    by_cases hother : other = node
    · rw [if_pos hother, if_pos hother]
    · rw [if_neg hother, if_neg hother]
      exact hshare

/-- Acts of a dispatcher one after the other. -/
theorem nodes_run_acts {α : Type} (hown : ∀ node, h.isOwned node = false)
    (hnode : h.nodes[node]? = some n) {a : α → Act} {f : Node → α → Node} {xs : List α}
    (hact : ∀ x ∈ xs, ∀ (h : Host) (n : Node), (∀ node, h.isOwned node = false) →
      h.nodes[node]? = some n → (h.act node (a x)).nodes[node]? = some (f n x)) :
    (h.run (xs.map fun x => .act node (a x))).nodes[node]? = some (xs.foldl f n) := by
  induction xs generalizing h n with
  | nil => exact hnode
  | cons x xs ih =>
    exact ih (isOwned_turn hown (.act node (a x))) (hact x List.mem_cons_self h n hown hnode)
      fun y hy => hact y (List.mem_cons_of_mem x hy)

theorem nodes_event (hown : ∀ node, h.isOwned node = false) (hnode : h.nodes[node]? = some n)
    {event : Connection.Event} (hallows : n.allows (.event event) = true) :
    (h.act node (.event event)).nodes[node]? = some (n.happen event) := by
  have hshare : (h.share node).node = some n := hnode
  rw [nodes_act hown]
  simp [Share.act, hshare, hallows]

/-- What becomes of a dispatcher and its connection in a turn. -/
theorem passes_turn (hown : ∀ node, h.isOwned node = false) (hnode : h.nodes[node]? = some n)
    (hwired : n.Wired c) {t : Turn} (ht : t ≠ .stop) :
    ∃ n' c', (h.turn t).nodes[node]? = some n' ∧
      n.Passes c (h.faultIn node t) (h.outputIn node t) n' c' := by
  rw [nodes_turn hown hnode ht, faultIn, outputIn, hnode]
  cases t.actOf? node with
  | none => exact ⟨n, c, rfl, hwired.passes_of_reaches (.refl _) id⟩
  | some a =>
    have hshare : (h.share node).node = some n := hnode
    exact (Share.changes_act hshare node h.surroundings a).passes hwired

/-- There is a fault only in an event of the connection of the dispatcher. -/
theorem exists_event_of_faultIn {t : Turn} {e : CallError} (hfault : h.faultIn node t = some e) :
    ∃ n c dial closing event, h.nodes[node]? = some n ∧ n.transport = .socket c dial closing ∧
      t = .act node (.event event) ∧ (c.step n.dispatcher.live event).2.fault = some e := by
  rw [faultIn] at hfault
  split at hfault
  next n a hnode hact =>
    obtain ⟨c, dial, closing, event, hsocket, rfl, hstep⟩ := Node.exists_event_of_fault hfault
    exact ⟨n, c, dial, closing, event, hnode, hsocket, Turn.eq_of_actOf?_eq_some hact, hstep⟩
  next => cases hfault

/-- After the end of the connection there is no fault, and nothing is written. -/
theorem run_of_ended (hown : ∀ node, h.isOwned node = false) (hnode : h.nodes[node]? = some n)
    (hwired : n.Wired c) (hended : c.isOpen = false) {turns : List Turn}
    (hrunning : .stop ∉ turns) :
    ∃ n', (h.run turns).nodes[node]? = some n' ∧ n'.Wired c ∧
      n.dispatcher.Reaches n'.dispatcher ∧ h.faults node turns = [] ∧
      h.written node turns = [] := by
  induction turns generalizing h n with
  | nil => exact ⟨n, hnode, hwired, .refl _, rfl, rfl⟩
  | cons t turns ih =>
    have ht : t ≠ .stop := fun hstop => hrunning (hstop ▸ List.mem_cons_self)
    have hrest : .stop ∉ turns := fun hmem => hrunning (List.mem_cons_of_mem t hmem)
    obtain ⟨n₁, c₁, hnode₁, hpasses⟩ := passes_turn hown hnode hwired ht
    obtain ⟨rfl, hfault, houtput⟩ := hpasses.stays hended
    obtain ⟨n', hnode', hwired', hreaches, hfaults, hwritten⟩ :=
      ih (isOwned_turn hown t) hnode₁ hpasses.wired hrest
    refine ⟨n', hnode', hwired', hpasses.reaches.trans hreaches, ?_, ?_⟩
    · rw [faults, hfault, hfaults]
      rfl
    · rw [written, houtput, hwritten]
      rfl

section Runs

variable (factory : TransportFactory) (config : DispatcherConfig) (connections : ConnectionConfig)

/-- In every run in which background work goes on, a dispatcher that has a connection is in
order. -/
theorem wired_run {turns : List Turn} (hrunning : .stop ∉ turns)
    (hnode : ((start factory config connections).run turns).nodes[node]? = some n) {dial : Dial}
    {closing : Bool} (hsocket : n.transport = .socket c dial closing) : n.Wired c := by
  -- The induction also runs over dispatchers that have no connection, and never get one.
  have hinduction := share_induction factory config connections
    (fun _ x => ∀ n, x.node = some n →
      (∃ c, n.Wired c) ∨ n.transport.connection? = none) node turns ?_ ?_ ?_ ?_ n hnode
  · rcases hinduction with ⟨c', hwired⟩ | hnone
    · obtain ⟨dial', closing', htransport, -⟩ := hwired.transport_eq
      rw [hsocket] at htransport
      cases htransport
      exact hwired
    · rw [hsocket] at hnone
      cases hnone
  · intro ids n hn
    cases hn
  · intro ids systemId e config connections transport b hbuild n hn
    cases hn
    cases htransport : transport with
    | socket c dial closing =>
      refine .inl ⟨c, ?_⟩
      rw [← htransport]
      exact Node.wired_build hbuild htransport systemId
    | _ => exact .inr rfl
  · exact fun hstop => absurd hstop hrunning
  · intro ids x s a hx n' hn'
    cases hn : x.node with
    | none =>
      rw [Share.act, hn] at hn'
      rw [hn] at hn'
      cases hn'
    | some n =>
      have hchanges := Share.changes_act hn node s a
      rcases hx n hn with ⟨c, hwired⟩ | hnone
      · obtain ⟨m, c', hm, hpasses⟩ := hchanges.passes hwired
        obtain rfl : n' = m := Option.some.inj (hn'.symm.trans hm)
        exact .inl ⟨c', hpasses.wired⟩
      · obtain ⟨m, hm, hnone'⟩ := hchanges.connection?_eq_none hnone
        obtain rfl : n' = m := Option.some.inj (hn'.symm.trans hm)
        exact .inr hnone'

/-- A connection that has not ended has had no fault. -/
theorem faults_eq_nil_or_ended {turns : List Turn} (hrunning : .stop ∉ turns) (node : Nat) :
    (start factory config connections).faults node turns = [] ∨
      ∃ n c, ((start factory config connections).run turns).nodes[node]? = some n ∧ n.Wired c ∧
        c.isOpen = false := by
  induction turns using List.reverseRecOn with
  | nil => exact .inl rfl
  | append_singleton turns t ih =>
    have hbefore : .stop ∉ turns := fun hmem => hrunning (List.mem_append_left _ hmem)
    have ht : t ≠ .stop := fun hstop => hrunning (by simp [hstop])
    have hown := isOwned_run (isOwned_start factory config connections) turns
    rw [run_append, faults_append]
    rcases ih hbefore with hnone | ⟨n, c, hnode, hwired, hended⟩
    · rw [hnone, List.nil_append]
      cases hfault : ((start factory config connections).run turns).faultIn node t with
      | none =>
        refine .inl ?_
        rw [faults, hfault]
        rfl
      | some e =>
        -- The fault is that of a connection, which ends with it.
        refine .inr ?_
        obtain ⟨n, c, dial, closing, event, hnode, hsocket, -⟩ := exists_event_of_faultIn hfault
        have hwired := wired_run factory config connections hbefore hnode hsocket
        obtain ⟨n', c', hnode', hpasses⟩ := passes_turn hown hnode hwired ht
        exact ⟨n', c', hnode', hpasses.wired, hpasses.ends (by rw [hfault]; rfl)⟩
    · obtain ⟨n', c', hnode', hpasses⟩ := passes_turn hown hnode hwired ht
      obtain ⟨rfl, -⟩ := hpasses.stays hended
      exact .inr ⟨n', _, hnode', hpasses.wired, hended⟩

end Runs

end Host

/-! ## Background work -/

namespace Conversation

/-- Events, none of which is the drop of the dispatcher, lead from a dispatcher with its connection
to a conversation. -/
def Follows (t : Conversation) (n : Node) (closing : Bool) : Prop :=
  ∃ events : List Connection.Event, .shutDown ∉ events ∧ ∃ dial, events.foldl Node.happen n =
    { dispatcher := t.dispatcher, transport := .socket t.connection dial closing }

variable {t : Conversation} {n : Node} {closing : Bool}

theorem Follows.step (h : t.Follows n closing) {event : Connection.Event}
    (hevent : event ≠ .shutDown) : (t.step event).Follows n closing := by
  obtain ⟨events, hevents, dial, hfold⟩ := h
  refine ⟨events ++ [event], by simp [hevents, hevent.symm], .done none, ?_⟩
  rw [List.foldl_append, hfold]
  rfl

/-- Writing and reading is a row of events. -/
theorem Follows.run (h : t.Follows n closing) : t.run.Follows n closing := by
  refine run_of_pieces (P := (Follows · n closing)) (fun t size h => ?_) (fun t size h => ?_) h
  · -- What the link does to a piece matters only in so far as it is an event.
    have hlink : ∀ link, Follows { t with link } n closing := fun _ => h
    rw [writeSome]
    split
    · exact h.step (by simp)
    · split
      · exact (hlink _).step (by simp)
      · exact (hlink _).step (by simp)
  · have hlink : ∀ link, Follows { t with link } n closing := fun _ => h
    rw [readSome]
    split
    · exact (hlink _).step (by simp)
    · exact hlink _
    · exact (hlink _).step (by simp)
    · exact (hlink _).step (by simp)

end Conversation

namespace Host

variable {h : Host} {node : Nat} {n : Node} {c : Connection}

/-- What background work does to a dispatcher and its established connection, some events do. -/
theorem exists_events_converse (hown : ∀ i, h.isOwned i = false) {d : Dispatcher} {dial : Dial}
    {closing : Bool}
    (hnode : h.nodes[node]? = some { dispatcher := d, transport := .socket c dial closing })
    {link : Nat} {l : Link} (hlink : h.links[link]? = some l) :
    ∃ (events : List Connection.Event) (d' : Dispatcher) (c' : Connection) (dial' : Dial),
      (h.converse node link).nodes[node]? =
        some { dispatcher := d', transport := .socket c' dial closing } ∧
      (h.run (events.map fun event => .act node (.event event))).nodes[node]? =
        some { dispatcher := d', transport := .socket c' dial' closing } := by
  have hconverse : (h.converse node link).nodes[node]? =
      let t : Conversation := { dispatcher := d, connection := c, link := l }
      let t := if closing then t.step .shutDown else t.run
      some { dispatcher := t.dispatcher, transport := .socket t.connection dial closing } := by
    rw [converse, hnode, hlink]
    exact nodes_modifyNode hnode _
  rw [hconverse]
  cases closing with
  | true =>
    refine ⟨[.shutDown], _, _, .done none, rfl, ?_⟩
    exact nodes_event hown hnode rfl
  | false =>
    have hstart : Conversation.Follows { dispatcher := d, connection := c, link := l }
        { dispatcher := d, transport := .socket c dial false } false :=
      ⟨[], List.not_mem_nil, dial, rfl⟩
    obtain ⟨events, hevents, dial', hfold⟩ := hstart.run
    refine ⟨events, _, _, dial', rfl, ?_⟩
    rw [nodes_run_acts hown hnode fun event hevent h n hown hnode => ?_, hfold]
    · rfl
    · refine nodes_event hown hnode (Node.allows_event ?_)
      rintro rfl
      exact hevents hevent

end Host
end RemoteCall
