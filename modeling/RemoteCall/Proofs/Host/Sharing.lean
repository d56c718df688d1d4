import Mathlib.Data.Set.Card
import RemoteCall.Host.Directory
import RemoteCall.Proofs.Dispatch.Numbering
import RemoteCall.Proofs.Host.Isolation
/-!
# One dispatcher for an endpoint

Visitors of the directory ask for the dispatcher of an endpoint or take it out, in any order, and
dispatchers that are not shared are built in between. What the builders make is left open:
`Host.lookUp` is the case of the builders that the host knows. What a visit does to the directory is one of
the few moves of `Directory.Moves`, and what every move preserves is preserved by all visits
(`Host.visitAll_induction`).

The log of the visits says what the directory holds: the dispatcher of an endpoint is the one that
was returned for it and has not been taken out since (`Host.find?_eq_some_iff_holds`).

The main statement is `Host.one_dispatcher_per_endpoint`.
-/

namespace RemoteCall

namespace Host

/-! ## Visits -/

/-- A visit to the directory, or something that happens between two visits. -/
inductive Visit where
  /-- Somebody asks for the shared dispatcher of an endpoint. Given is what the builder for its scheme
  makes if it is asked, which need not be the same every time, or nothing if there is no such
  builder. -/
  | get (e : Endpoint) (made? : Option (Except CallError Transport))
  /-- Somebody takes the shared dispatcher of an endpoint out. -/
  | remove (e : Endpoint)
  /-- A dispatcher is built that is not shared. -/
  | create (e : Endpoint) (made : Except CallError Transport)
  /-- Somebody lets go of a dispatcher. -/
  | letGo (node : Nat)
  /-- Background work begins or ends, or the settings of dispatchers change. -/
  | arrange (running : Bool) (config : DispatcherConfig)

/-- What a visitor of the directory is told. -/
inductive Reply where
  /-- The dispatcher that somebody asked for. -/
  | got (e : Endpoint) (result : Except CallError Nat)
  /-- The dispatcher that was taken out. -/
  | removed (e : Endpoint) (result : Option Nat)
  /-- It was no visit to the directory. -/
  | other

/-- A visit, with the reply to it. -/
def visit (h : Host) : Visit → Reply × Host
  | .get e made? =>
    let (result, h) := h.lookUpWith e made?
    (.got e result, h)
  | .remove e =>
    let (result, h) := h.unshare e
    (.removed e result, h)
  | .create e made => (.other, (h.install e made).2)
  | .letGo node => (.other, h.reclaim node)
  | .arrange running config => (.other, { h with running, config })

/-- Several visits, with the replies to them. -/
def visitAll (h : Host) : List Visit → List Reply × Host
  | [] => ([], h)
  | v :: visits =>
    let (reply, h) := h.visit v
    let (replies, h) := h.visitAll visits
    (reply :: replies, h)

/-- Whether a dispatcher is begun in a visit. It has got its number then, even if it turns out that
there is no transport for it. -/
def begins (h : Host) : Visit → Bool
  | .get e made? => h.running && made?.isSome && !h.cache.contains e
  | .create _ _ => h.running
  | _ => false

/-- How many dispatchers are begun in several visits. -/
def begun (h : Host) : List Visit → Nat
  | [] => 0
  | v :: visits => (h.begins v).toNat + (h.visit v).2.begun visits

/-- The endpoints of the dispatchers, in order. -/
def endpoints (h : Host) : List Endpoint :=
  h.nodes.map fun n => n.dispatcher.endpoint

section Runs

variable (h : Host) (visits more : List Visit)

theorem visitAll_append :
    h.visitAll (visits ++ more) =
      ((h.visitAll visits).1 ++ ((h.visitAll visits).2.visitAll more).1,
        ((h.visitAll visits).2.visitAll more).2) := by
  induction visits generalizing h with
  | nil => rfl
  | cons v visits ih => simp [visitAll, ih]

theorem begun_append :
    h.begun (visits ++ more) = h.begun visits + (h.visitAll visits).2.begun more := by
  induction visits generalizing h with
  | nil => simp [begun, visitAll]
  | cons v visits ih => simp [begun, visitAll, ih, Nat.add_assoc]

variable {h visits}

/-- A reply in a log is the reply to one of the visits, and the replies before and after it are those
to the visits before and after. -/
theorem exists_visit_of_log {before after : List Reply} {reply : Reply}
    (hlog : (h.visitAll visits).1 = before ++ reply :: after) :
    ∃ first v last, (h.visitAll first).1 = before ∧ ((h.visitAll first).2.visit v).1 = reply ∧
      (((h.visitAll first).2.visit v).2.visitAll last).1 = after := by
  induction visits generalizing h before with
  | nil => simp [visitAll] at hlog
  | cons v visits ih =>
    cases before with
    | nil =>
      obtain ⟨hreply, hafter⟩ := List.cons.inj hlog
      exact ⟨[], v, visits, rfl, hreply, hafter⟩
    | cons reply' before =>
      obtain ⟨rfl, hrest⟩ := List.cons.inj hlog
      obtain ⟨first, v', last, rfl, hreply, hafter⟩ := ih hrest
      exact ⟨v :: first, v', last, rfl, hreply, hafter⟩

end Runs

end Host

/-! ## Moves of the directory -/

/-- What matters of a host for those who visit its directory. -/
@[ext]
structure Directory where
  /-- The number that the next dispatcher gets. -/
  next : UInt64
  /-- The numbers of the dispatchers that were built. -/
  systemIds : List UInt64
  /-- Their endpoints. -/
  endpoints : List Endpoint
  /-- The dispatchers that are shared, by endpoint. -/
  cache : Table Endpoint Nat

/-- The directory of a host. -/
def Host.directory (h : Host) : Directory :=
  { next := h.nextSystemId
    systemIds := h.systemIds
    endpoints := h.endpoints
    cache := h.cache }

namespace Directory

/-- A dispatcher is begun. -/
def begin (d : Directory) : Directory :=
  { d with next := d.next + 1 }

/-- A dispatcher is built. -/
def build (d : Directory) (e : Endpoint) : Directory :=
  { d.begin with systemIds := d.systemIds ++ [d.next], endpoints := d.endpoints ++ [e] }

/-- What a visit may do to the directory, with the reply to it and the number of dispatchers that are
begun. -/
inductive Moves (d : Directory) : Host.Reply → Nat → Directory → Prop
  /-- The dispatcher is there. -/
  | found {e : Endpoint} {node : Nat} (hfind : d.cache.find? e = some node) :
    d.Moves (.got e (.ok node)) 0 d
  /-- The dispatcher is not there, and no dispatcher is begun. -/
  | refused {e : Endpoint} {error : CallError} (hfind : d.cache.find? e = none) :
    d.Moves (.got e (.error error)) 0 d
  /-- The dispatcher is not there, and there is no transport for the one that is begun. -/
  | failed {e : Endpoint} {error : CallError} (hfind : d.cache.find? e = none) :
    d.Moves (.got e (.error error)) 1 d.begin
  /-- The dispatcher is not there, and is built. -/
  | built {e : Endpoint} (hfind : d.cache.find? e = none) :
    d.Moves (.got e (.ok d.endpoints.length)) 1
      { d.build e with cache := d.cache.replace e d.endpoints.length }
  /-- The dispatcher is there, and is taken out. -/
  | removed {e : Endpoint} {node : Nat} (hfind : d.cache.find? e = some node) :
    d.Moves (.removed e (some node)) 0 { d with cache := d.cache.erase e }
  /-- There is none to be taken out. -/
  | absent {e : Endpoint} (hfind : d.cache.find? e = none) : d.Moves (.removed e none) 0 d
  /-- Nothing happens to the directory. -/
  | stay : d.Moves .other 0 d
  /-- There is no transport for a dispatcher that was not to be shared. -/
  | abandoned : d.Moves .other 1 d.begin
  /-- A dispatcher is built that is not shared. -/
  | unshared {e : Endpoint} : d.Moves .other 1 (d.build e)

end Directory

namespace Host

/-- What comes of asking for the dispatcher of an endpoint. -/
inductive Finding (h : Host) (e : Endpoint) (made? : Option (Except CallError Transport)) :
    Except CallError Nat → Host → Prop
  /-- The dispatcher is there. -/
  | found {node : Nat} (hfind : h.cache.find? e = some node) : h.Finding e made? (.ok node) h
  /-- There is no builder for the scheme. -/
  | unknown (hfind : h.cache.find? e = none) (hmade : made? = none) :
    h.Finding e made? (.error (.failure (.unknownScheme e.scheme))) h
  /-- There is no background work. -/
  | idle {made : Except CallError Transport} (hfind : h.cache.find? e = none)
    (hmade : made? = some made) (hrunning : h.running = false) :
    h.Finding e made? (.error (.failure .noRuntime)) h
  /-- The builder refuses, after the number has been taken. -/
  | failed {error : CallError} (hfind : h.cache.find? e = none)
    (hmade : made? = some (.error error)) (hrunning : h.running = true) :
    h.Finding e made? (.error error) { h with nextSystemId := h.nextSystemId + 1 }
  /-- The dispatcher is built. -/
  | built {transport : Transport} (hfind : h.cache.find? e = none)
    (hmade : made? = some (.ok transport)) (hrunning : h.running = true) :
    h.Finding e made? (.ok h.nodes.length)
      { h.withDispatcher e transport with cache := h.cache.replace e h.nodes.length }

theorem finding_of_lookUpWith {h h' : Host} {e : Endpoint}
    {made? : Option (Except CallError Transport)} {result : Except CallError Nat}
    (hlook : h.lookUpWith e made? = (result, h')) : h.Finding e made? result h' := by
  rw [lookUpWith.eq_def] at hlook
  cases hfind : h.cache.find? e with
  | some node =>
    simp only [hfind] at hlook
    cases hlook
    exact .found hfind
  | none =>
    cases made? with
    | none =>
      simp only [hfind] at hlook
      cases hlook
      exact .unknown hfind rfl
    | some made =>
      simp only [hfind, install_eq] at hlook
      by_cases hrunning : h.running = true
      · rw [if_pos hrunning] at hlook
        cases made with
        | error error =>
          cases hlook
          exact .failed hfind rfl hrunning
        | ok transport =>
          cases hlook
          exact .built hfind rfl hrunning
      · rw [if_neg hrunning] at hlook
        cases hlook
        exact .idle hfind rfl (Bool.eq_false_of_not_eq_true hrunning)

theorem directory_withDispatcher (h : Host) (e : Endpoint) (transport : Transport) :
    (h.withDispatcher e transport).directory = h.directory.build e := by
  simp [withDispatcher, directory, Directory.build, Directory.begin, systemIds, endpoints,
    Dispatcher.start]

/-- Letting go of a dispatcher changes nothing in the directory. -/
theorem directory_reclaim (h : Host) (node : Nat) : (h.reclaim node).directory = h.directory := by
  have hmap {α : Type} (f : Node → α) {g : Node → Node} (hf : ∀ n, f (g n) = f n) :
      (h.nodes.modify node g).map f = h.nodes.map f := by
    apply List.ext_getElem?
    intro i
    rw [List.getElem?_map, List.getElem?_map, List.getElem?_modify]
    cases h.nodes[i]? with
    | none => rfl
    | some n => by_cases hi : node = i <;> simp [hi, hf]
  unfold reclaim
  split
  next => rfl
  next =>
    -- A dispatcher that is dropped stays in its place, with its number and its endpoint.
    apply Directory.ext
    · rfl
    · exact hmap _ fun n => n.dispatcher.narrows_close.systemId_eq
    · exact hmap _ fun n => n.dispatcher.narrows_close.endpoint_eq
    · rfl

/-- Every visit is a move of the directory. -/
theorem moves_visit (h : Host) (v : Visit) :
    h.directory.Moves (h.visit v).1 (h.begins v).toNat (h.visit v).2.directory := by
  have hlength : h.nodes.length = h.directory.endpoints.length := by simp [directory, endpoints]
  cases v with
  | get e made? =>
    rw [visit]
    rcases hlook : h.lookUpWith e made? with ⟨result, h'⟩
    simp only [begins, Table.contains]
    cases finding_of_lookUpWith hlook with
    | found hfind =>
      rw [hfind, Option.isSome_some, Bool.not_true, Bool.and_false]
      exact .found hfind
    | unknown hfind hmade =>
      rw [hmade, Option.isSome_none, Bool.and_false, Bool.false_and]
      exact .refused hfind
    | idle hfind hmade hrunning =>
      rw [hrunning, Bool.false_and, Bool.false_and]
      exact .refused hfind
    | failed hfind hmade hrunning =>
      rw [hfind, hmade, hrunning]
      exact .failed hfind
    | @built transport hfind hmade hrunning =>
      -- The dispatcher is the last one, and the next number is its own.
      have hbuilt := Directory.Moves.built (d := h.directory) hfind
      rw [← directory_withDispatcher h e transport, ← hlength] at hbuilt
      rw [hfind, hmade, hrunning]
      exact hbuilt
  | remove e =>
    simp only [visit, unshare, Table.remove?]
    cases hfind : h.cache.find? e with
    | none => exact .absent hfind
    | some node => exact .removed hfind
  | create e made =>
    simp only [visit, begins]
    rw [install_eq]
    by_cases hrunning : h.running = true
    · rw [if_pos hrunning, hrunning]
      cases made with
      | error error => exact .abandoned
      | ok transport =>
        rw [directory_withDispatcher]
        exact .unshared
    · rw [if_neg hrunning, Bool.eq_false_of_not_eq_true hrunning]
      exact .stay
  | letGo node =>
    rw [visit, directory_reclaim]
    exact .stay
  | arrange running config => exact .stay

/-- What every move of the directory preserves is preserved by all visits. -/
theorem visitAll_induction {P : List Reply → Nat → Directory → Prop} (h : Host)
    (hstart : P [] 0 h.directory)
    (hmove : ∀ {log begun d reply more d'}, P log begun d → d.Moves reply more d' →
      P (log ++ [reply]) (begun + more) d') (visits : List Visit) :
    P (h.visitAll visits).1 (h.begun visits) (h.visitAll visits).2.directory := by
  induction visits using List.reverseRecOn with
  | nil => exact hstart
  | append_singleton visits v ih =>
    rw [visitAll_append, begun_append]
    exact hmove ih ((h.visitAll visits).2.moves_visit v)

/-! ## What a log says -/

namespace Reply

/-- A log says that an endpoint has a dispatcher: it was returned for the endpoint, and none has been
taken out since. -/
def Holds (log : List Reply) (e : Endpoint) (node : Nat) : Prop :=
  ∃ before after, log = before ++ got e (.ok node) :: after ∧
    ∀ other, removed e (some other) ∉ after

variable {log : List Reply} {e : Endpoint} {node : Nat} {reply : Reply}

/-- The last reply returns the dispatcher, or it does not take one out. -/
theorem holds_concat_iff :
    Holds (log ++ [reply]) e node ↔
      reply = got e (.ok node) ∨ Holds log e node ∧ ∀ other, reply ≠ removed e (some other) := by
  constructor
  · rintro ⟨before, after, hlog, hafter⟩
    rcases List.eq_nil_or_concat after with rfl | ⟨after, last, rfl⟩
    · have hlast := (List.append_inj' hlog rfl).2
      exact .inl (List.singleton_inj.1 hlast)
    · rw [List.concat_eq_append] at hlog hafter
      rw [← List.cons_append, ← List.append_assoc] at hlog
      obtain ⟨hbefore, hlast⟩ := List.append_inj' hlog rfl
      refine .inr ⟨⟨before, after, hbefore, fun other hmem => ?_⟩, fun other hreply => ?_⟩
      · exact hafter other (List.mem_append_left _ hmem)
      · exact hafter other (List.mem_append_right _ (by rw [← hlast, hreply]; exact .head _))
  · rintro (rfl | ⟨⟨before, after, rfl, hafter⟩, hreply⟩)
    · exact ⟨log, [], rfl, fun other hmem => by cases hmem⟩
    · refine ⟨before, after ++ [reply], by simp, fun other hmem => ?_⟩
      rcases List.mem_append.1 hmem with hmem | hmem
      · exact hafter other hmem
      · exact hreply other (List.mem_singleton.1 hmem).symm

theorem Holds.mem (h : Holds log e node) : got e (.ok node) ∈ log := by
  obtain ⟨before, after, rfl, -⟩ := h
  exact List.mem_append_right _ List.mem_cons_self

end Reply

end Host

namespace Directory

variable {d d' : Directory} {log : List Host.Reply} {begun more : Nat} {reply : Host.Reply}
  {e : Endpoint} {node : Nat}

/-- The dispatchers stay where they are. -/
theorem Moves.endpoint_eq (hmoves : d.Moves reply more d') (hnode : d.endpoints[node]? = some e) :
    d'.endpoints[node]? = some e := by
  have hconcat (e' : Endpoint) : (d.endpoints ++ [e'])[node]? = some e := by
    obtain ⟨hlt, -⟩ := List.getElem?_eq_some_iff.1 hnode
    rw [List.getElem?_append_left hlt, hnode]
  cases hmoves with
  | built hfind => exact hconcat _
  | unshared => exact hconcat _
  | _ => exact hnode

/-- An endpoint has the dispatcher that the reply returns for it, or still the one that it had. -/
theorem Moves.find?_iff (hmoves : d.Moves reply more d') (e : Endpoint) (node : Nat) :
    d'.cache.find? e = some node ↔ reply = .got e (.ok node) ∨
      d.cache.find? e = some node ∧ ∀ other, reply ≠ .removed e (some other) := by
  cases hmoves with
  | found hfind => grind
  | built hfind =>
    rw [Table.find?_replace]
    grind
  | removed hfind =>
    rw [Table.find?_erase]
    grind
  | _ => simp [begin, build]

/-- After a dispatcher has been taken out there is none for the endpoint. -/
theorem Moves.find?_of_removed {other : Nat} (hmoves : d.Moves (.removed e (some other)) more d') :
    d'.cache.find? e = none := by
  apply Option.eq_none_iff_forall_ne_some.2
  intro node hfind
  rcases (hmoves.find?_iff e node).1 hfind with hreply | ⟨-, hkept⟩
  · cases hreply
  · exact hkept other rfl

/-- Whoever takes out the dispatcher of an endpoint gets the one that was there. -/
theorem Moves.eq_find?_of_removed {result : Option Nat}
    (hmoves : d.Moves (.removed e result) more d') : result = d.cache.find? e := by
  cases hmoves with
  | removed hfind => exact hfind.symm
  | absent hfind => exact hfind.symm

/-- Whoever asks for a dispatcher gets the one that was there, or else a new one. -/
theorem Moves.find?_or_of_got (hmoves : d.Moves (.got e (.ok node)) more d') :
    d.cache.find? e = some node ∨ d.cache.find? e = none ∧ node = d.endpoints.length := by
  cases hmoves with
  | found hfind => exact .inl hfind
  | built hfind => exact .inr ⟨hfind, rfl⟩

/-- The directory is as the log says, and so many dispatchers have been begun. -/
structure Records (d : Directory) (log : List Host.Reply) (begun : Nat) : Prop where
  /-- The dispatchers that are shared. -/
  find?_iff : ∀ e node, d.cache.find? e = some node ↔ Host.Reply.Holds log e node
  /-- Whoever asks gets a dispatcher of the endpoint. -/
  endpoint_eq : ∀ e node, .got e (.ok node) ∈ log → d.endpoints[node]? = some e
  /-- The numbers were given out in order. -/
  ascends : Ascends d.next begun d.systemIds

theorem Records.move (h : d.Records log begun) (hmoves : d.Moves reply more d') :
    d'.Records (log ++ [reply]) (begun + more) where
  find?_iff e node := by
    rw [hmoves.find?_iff, h.find?_iff, Host.Reply.holds_concat_iff]
  endpoint_eq e node hmem := by
    rcases List.mem_append.1 hmem with hold | hnew
    · exact hmoves.endpoint_eq (h.endpoint_eq e node hold)
    · obtain rfl := List.mem_singleton.1 hnew
      -- What was shared has been returned before, and what is new is the last.
      cases hmoves with
      | found hfind => exact h.endpoint_eq e node ((h.find?_iff e node).1 hfind).mem
      | built hfind => exact List.getElem?_concat_length
  ascends := by
    cases hmoves with
    | failed hfind => exact h.ascends.skip
    | abandoned => exact h.ascends.skip
    | built hfind => exact h.ascends.give
    | unshared => exact h.ascends.give
    | _ => exact h.ascends

/-- What a log says of an endpoint since there was no dispatcher for it, and so many dispatchers in
all. -/
structure Renews (d : Directory) (log : List Host.Reply) (e : Endpoint) (size : Nat) : Prop where
  size_le : size ≤ d.endpoints.length
  mem_of_find? : ∀ node, d.cache.find? e = some node → .got e (.ok node) ∈ log
  le_of_mem : ∀ node, .got e (.ok node) ∈ log → size ≤ node

theorem Renews.move {size : Nat} (h : d.Renews log e size) (hmoves : d.Moves reply more d') :
    d'.Renews (log ++ [reply]) e size where
  size_le := by
    apply Nat.le_trans h.size_le
    cases hmoves <;> simp [begin, build]
  mem_of_find? node hfind := by
    rcases (hmoves.find?_iff e node).1 hfind with rfl | ⟨hbefore, -⟩
    · exact List.mem_append_right _ (List.mem_singleton_self _)
    · exact List.mem_append_left _ (h.mem_of_find? node hbefore)
  le_of_mem node hmem := by
    rcases List.mem_append.1 hmem with hold | hnew
    · exact h.le_of_mem node hold
    · obtain rfl := List.mem_singleton.1 hnew
      cases hmoves with
      | found hfind => exact h.le_of_mem node (h.mem_of_find? node hfind)
      | built hfind => exact h.size_le

end Directory

namespace Host

section Log

variable {h : Host} {visits : List Visit} {before between after : List Reply} {reply : Reply}
  {e : Endpoint} {node : Nat}

theorem records_start (factory : TransportFactory) (config : DispatcherConfig)
    (connections : ConnectionConfig) :
    (start factory config connections).directory.Records [] 0 := by
  refine ⟨fun e node => ?_, fun e node hmem => ?_, .zero⟩
  · constructor
    · intro hfind
      cases hfind
    · intro hholds
      cases hholds.mem
  · cases hmem

/-- The directory is always as the log says. -/
theorem records_visitAll (hstart : h.directory.Records [] 0) (visits : List Visit) :
    (h.visitAll visits).2.directory.Records (h.visitAll visits).1 (h.begun visits) :=
  h.visitAll_induction (P := fun log begun d => d.Records log begun) hstart
    (fun hrecords hmoves => hrecords.move hmoves) visits

/-- Since there was no dispatcher for an endpoint, the log says whether there is one, and it is a new
one. -/
theorem renews_visitAll (hfind : h.cache.find? e = none) (visits : List Visit) :
    (h.visitAll visits).2.directory.Renews (h.visitAll visits).1 e h.endpoints.length := by
  refine h.visitAll_induction (P := fun log _ d => d.Renews log e h.endpoints.length) ⟨?_, ?_, ?_⟩
    (fun hrenews hmoves => hrenews.move hmoves) visits
  · exact Nat.le_refl _
  · intro node hnode
    cases hfind.symm.trans hnode
  · intro node hmem
    cases hmem

/-- Where a reply stands in the log, the directory moves from what the log has said before. -/
theorem exists_move_of_log (hstart : h.directory.Records [] 0)
    (hlog : (h.visitAll visits).1 = before ++ reply :: after) :
    ∃ (d : Directory) (h' : Host) (begun more : Nat) (last : List Visit),
      d.Records before begun ∧ d.Moves reply more h'.directory ∧
      h'.directory.Records (before ++ [reply]) (begun + more) ∧ (h'.visitAll last).1 = after := by
  obtain ⟨first, v, last, rfl, rfl, hafter⟩ := exists_visit_of_log hlog
  have hrecords := records_visitAll hstart first
  have hmoves := (h.visitAll first).2.moves_visit v
  exact ⟨_, _, _, _, last, hrecords, hmoves, hrecords.move hmoves, hafter⟩

/-- A dispatcher that is built comes after all that were returned before. -/
theorem lt_of_got (hstart : h.directory.Records [] 0)
    (hlog : (h.visitAll visits).1 = before ++ .got e (.ok node) :: after)
    (hnone : ∀ other, ¬Reply.Holds before e other) {e' : Endpoint} {other : Nat}
    (hother : .got e' (.ok other) ∈ before) : other < node := by
  obtain ⟨d, h', begun, more, last, hrecords, hmoves, -, -⟩ := exists_move_of_log hstart hlog
  rcases hmoves.find?_or_of_got with hfind | ⟨-, rfl⟩
  · exact absurd ((hrecords.find?_iff e node).1 hfind) (hnone node)
  · exact (List.getElem?_eq_some_iff.1 (hrecords.endpoint_eq e' other hother)).1

/-- Two visitors who ask for the same endpoint get the same dispatcher, unless somebody took it out
between them. -/
theorem eq_iff_not_removed (hstart : h.directory.Records [] 0) {node' : Nat}
    (hlog : (h.visitAll visits).1 =
      before ++ .got e (.ok node) :: (between ++ .got e (.ok node') :: after)) :
    node' = node ↔ ∀ other, .removed e (some other) ∉ between := by
  constructor
  · rintro rfl other hmem
    -- There was no dispatcher then, and so the second visitor has got a new one.
    obtain ⟨first, second, rfl⟩ := List.append_of_mem hmem
    have hremoved : (h.visitAll visits).1 = (before ++ .got e (.ok node') :: first) ++
        .removed e (some other) :: (second ++ .got e (.ok node') :: after) := by
      rw [hlog]
      simp
    obtain ⟨d, h', begun, more, last, -, hmoves, hrecords, hlast⟩ :=
      exists_move_of_log hstart hremoved
    have hrenews := renews_visitAll hmoves.find?_of_removed last
    have hnew := hrenews.le_of_mem node' (by rw [hlast]; simp)
    have hold := hrecords.endpoint_eq e node' (by simp)
    obtain ⟨hlt, -⟩ := List.getElem?_eq_some_iff.1 hold
    exact absurd hlt (Nat.not_lt.2 hnew)
  · intro hkept
    have hsecond : (h.visitAll visits).1 =
        (before ++ .got e (.ok node) :: between) ++ .got e (.ok node') :: after := by
      rw [hlog]
      simp
    obtain ⟨d, h', begun, more, last, hrecords, hmoves, -, -⟩ := exists_move_of_log hstart hsecond
    -- The dispatcher is still there when the second visitor comes.
    have hfind := (hrecords.find?_iff e node).2 ⟨before, between, rfl, hkept⟩
    rcases hmoves.find?_or_of_got with hfind' | ⟨hnone, -⟩
    · exact Option.some.inj (hfind'.symm.trans hfind)
    · cases hnone.symm.trans hfind

/-- Whoever takes out the dispatcher of an endpoint gets the one that the log tells of. -/
theorem removed_iff_holds (hstart : h.directory.Records [] 0) {result : Option Nat}
    (hlog : (h.visitAll visits).1 = before ++ .removed e result :: after) (node : Nat) :
    result = some node ↔ Reply.Holds before e node := by
  obtain ⟨d, h', begun, more, last, hrecords, hmoves, -, -⟩ := exists_move_of_log hstart hlog
  rw [hmoves.eq_find?_of_removed, hrecords.find?_iff]

/-- A dispatcher is taken out once. -/
theorem removed_eq_none (hstart : h.directory.Records [] 0) {result : Option Nat}
    (hlog : (h.visitAll visits).1 =
      before ++ .removed e (some node) :: (between ++ .removed e result :: after))
    (hnone : ∀ other, .got e (.ok other) ∉ between) : result = none := by
  obtain ⟨d, h', begun, more, last, -, hmoves, -, hlast⟩ := exists_move_of_log hstart hlog
  obtain ⟨first, v, rest, hfirst, hreply, -⟩ := exists_visit_of_log hlast
  have hrenews := renews_visitAll hmoves.find?_of_removed first
  have hmoves' := (h'.visitAll first).2.moves_visit v
  rw [hreply] at hmoves'
  rw [hmoves'.eq_find?_of_removed]
  -- A dispatcher that is there again would have been returned to somebody.
  apply Option.eq_none_iff_forall_ne_some.2
  intro other hfind
  apply hnone other
  rw [← hfirst]
  exact hrenews.mem_of_find? other hfind

/-- The directory has an entry for each endpoint that has a dispatcher. -/
theorem size_eq_ncard (hstart : h.directory.Records [] 0) (visits : List Visit) :
    (h.visitAll visits).2.cache.size =
      Set.ncard {e | ∃ node, Reply.Holds (h.visitAll visits).1 e node} := by
  have hrecords := records_visitAll hstart visits
  generalize (h.visitAll visits).2 = h' at *
  have hkeys : {e | ∃ node, Reply.Holds (h.visitAll visits).1 e node} =
      (h'.cache.keys.toFinset : Set Endpoint) := by
    rw [List.coe_toFinset]
    ext e
    exact (exists_congr fun node => hrecords.find?_iff e node).symm.trans
      (h'.cache.mem_keys_iff e).symm
  have hnodup : h'.cache.keys.Nodup := h'.cache.nodup
  rw [hkeys, Set.ncard_coe_finset, List.toFinset_card_of_nodup hnodup, Table.keys, List.length_map,
    Table.size]

end Log

/-! ## Attempts that fail -/

/-- Two hosts look the same to those who visit their directories. -/
structure Alike (h h' : Host) : Prop where
  cache_eq : h'.cache = h.cache
  length_eq : h'.nodes.length = h.nodes.length
  running_eq : h'.running = h.running

variable {h h' h'' : Host}

theorem Alike.symm (halike : h.Alike h') : h'.Alike h :=
  ⟨halike.cache_eq.symm, halike.length_eq.symm, halike.running_eq.symm⟩

theorem Alike.trans (halike : h.Alike h') (halike' : h'.Alike h'') : h.Alike h'' :=
  ⟨halike'.cache_eq.trans halike.cache_eq, halike'.length_eq.trans halike.length_eq,
    halike'.running_eq.trans halike.running_eq⟩

theorem alike_reclaim (h : Host) (node : Nat) : h.Alike (h.reclaim node) := by
  unfold reclaim
  split
  · exact ⟨rfl, rfl, rfl⟩
  · exact ⟨rfl, by simp [modifyNode], rfl⟩

theorem Alike.install (halike : h.Alike h') (e : Endpoint) (made : Except CallError Transport) :
    (h'.install e made).1 = (h.install e made).1 ∧
      (h.install e made).2.Alike (h'.install e made).2 := by
  rw [install_eq, install_eq]
  by_cases hrunning : h.running = true
  · rw [if_pos hrunning, if_pos (halike.running_eq.trans hrunning)]
    cases made with
    | error error => exact ⟨rfl, halike.cache_eq, halike.length_eq, halike.running_eq⟩
    | ok transport =>
      refine ⟨congrArg Except.ok halike.length_eq, halike.cache_eq, ?_, halike.running_eq⟩
      simp [withDispatcher, halike.length_eq]
  · rw [if_neg hrunning, if_neg (by rwa [halike.running_eq])]
    exact ⟨rfl, halike⟩

theorem Alike.lookUpWith (halike : h.Alike h') (e : Endpoint)
    (made? : Option (Except CallError Transport)) :
    (h'.lookUpWith e made?).1 = (h.lookUpWith e made?).1 ∧
      (h.lookUpWith e made?).2.Alike (h'.lookUpWith e made?).2 := by
  simp only [Host.lookUpWith, halike.cache_eq]
  cases h.cache.find? e with
  | some node => exact ⟨rfl, halike⟩
  | none =>
    cases made? with
    | none => exact ⟨rfl, halike⟩
    | some made =>
      obtain ⟨hresult, hafter⟩ := halike.install e made
      simp only
      generalize h.install e made = x at *
      generalize h'.install e made = x' at *
      obtain ⟨result, g⟩ := x
      obtain ⟨result', g'⟩ := x'
      -- Both attempts have the same result, and so both share it or neither does.
      obtain rfl : result' = result := hresult
      cases result' with
      | error error => exact ⟨rfl, hafter⟩
      | ok node =>
        refine ⟨rfl, ?_, hafter.length_eq, hafter.running_eq⟩
        simp only [show g'.cache = g.cache from hafter.cache_eq]

/-- A visit does not tell them apart, and leaves them alike. -/
theorem Alike.visit (halike : h.Alike h') (v : Visit) :
    (h'.visit v).1 = (h.visit v).1 ∧ (h.visit v).2.Alike (h'.visit v).2 := by
  cases v with
  | get e made? =>
    obtain ⟨hresult, hafter⟩ := halike.lookUpWith e made?
    exact ⟨congrArg (Reply.got e) hresult, hafter⟩
  | remove e =>
    simp only [Host.visit, unshare, Table.remove?, halike.cache_eq]
    cases h.cache.find? e with
    | none => exact ⟨rfl, halike⟩
    | some node => exact ⟨rfl, rfl, halike.length_eq, halike.running_eq⟩
  | create e made => exact ⟨rfl, (halike.install e made).2⟩
  | letGo node => exact ⟨rfl, (h.alike_reclaim node).symm.trans (halike.trans (h'.alike_reclaim node))⟩
  | arrange running config => exact ⟨rfl, halike.cache_eq, halike.length_eq, rfl⟩

/-- Whatever is done later, it has the same replies. -/
theorem Alike.visitAll_eq (halike : h.Alike h') (visits : List Visit) :
    (h'.visitAll visits).1 = (h.visitAll visits).1 := by
  induction visits generalizing h h' with
  | nil => rfl
  | cons v visits ih =>
    obtain ⟨hreply, hafter⟩ := halike.visit v
    exact congrArg₂ List.cons hreply (ih hafter)

/-- An attempt that fails says why, and nobody notices it later. -/
theorem lookUpWith_of_error {e : Endpoint} {made? : Option (Except CallError Transport)}
    {error : CallError} (hlook : h.lookUpWith e made? = (.error error, h')) :
    (made? = none ∧ error = .failure (.unknownScheme e.scheme) ∨
      made?.isSome ∧ h.running = false ∧ error = .failure .noRuntime ∨
      made? = some (.error error) ∧ h.running = true) ∧
    h'.cache = h.cache ∧ h'.nodes = h.nodes ∧ h.Alike h' := by
  cases finding_of_lookUpWith hlook with
  | unknown hfind hmade => exact ⟨.inl ⟨hmade, rfl⟩, rfl, rfl, rfl, rfl, rfl⟩
  | idle hfind hmade hrunning =>
    exact ⟨.inr (.inl ⟨by rw [hmade]; rfl, hrunning, rfl⟩), rfl, rfl, rfl, rfl, rfl⟩
  | failed hfind hmade hrunning =>
    exact ⟨.inr (.inr ⟨hmade, hrunning⟩), rfl, rfl, rfl, rfl, rfl⟩

/-- An attempt succeeds if the dispatcher is there, or if nothing hinders it from being built. -/
theorem lookUpWith_isOk_iff (h : Host) (e : Endpoint)
    (made? : Option (Except CallError Transport)) :
    (∃ node, (h.lookUpWith e made?).1 = .ok node) ↔
      (∃ node, h.cache.find? e = some node) ∨
        h.running = true ∧ ∃ transport, made? = some (.ok transport) := by
  rcases hlook : h.lookUpWith e made? with ⟨result, h'⟩
  cases finding_of_lookUpWith hlook with
  | @found node hfind => exact iff_of_true ⟨node, rfl⟩ (.inl ⟨node, hfind⟩)
  | built hfind hmade hrunning => exact iff_of_true ⟨_, rfl⟩ (.inr ⟨hrunning, _, hmade⟩)
  | unknown hfind hmade => simp [hfind, hmade]
  | idle hfind hmade hrunning => simp [hfind, hrunning]
  | failed hfind hmade hrunning => simp [hfind, hmade]

/-! ## One dispatcher for an endpoint -/

/-- The directory has one dispatcher for an endpoint. After any visits:

* a dispatcher that is shared, or was ever returned, is one of the endpoint it is shared or was
  returned for;
* a dispatcher that was built for a visitor comes after all that were returned before; in the order in
  which they were built the dispatchers have ascending numbers modulo `2 ^ 64`, none of which is
  larger than the number of dispatchers that were begun, so that they ascend as long as the counter
  has not wrapped around;
* two visitors who ask for the same endpoint get the same dispatcher exactly if nobody has taken it
  out between them;
* an attempt fails for one of three reasons, leaves the directory as it is, and whatever is done
  later has the replies that it would have had without it; every attempt succeeds for which the
  dispatcher is there, or which finds background work and a builder that makes a transport;
* whoever takes out the dispatcher of an endpoint gets the one that was returned last, if it has not
  been taken out since, so that it is taken out once;
* there are as many shared dispatchers as endpoints that have got one which has not been taken out
  since. -/
theorem one_dispatcher_per_endpoint (factory : TransportFactory) (config : DispatcherConfig)
    (connections : ConnectionConfig) (visits : List Visit) :
    let first := start factory config connections
    let log := (first.visitAll visits).1
    let h := (first.visitAll visits).2
    (∀ e node, h.cache.find? e = some node ∨ .got e (.ok node) ∈ log →
      ∃ n, h.nodes[node]? = some n ∧ n.dispatcher.endpoint = e) ∧
    (∀ e node before after, log = before ++ .got e (.ok node) :: after →
      (∀ other, ¬Reply.Holds before e other) →
      ∀ e' other, .got e' (.ok other) ∈ before → other < node) ∧
    (∃ numbers : List Nat, h.systemIds = numbers.map .ofNat ∧ numbers.Pairwise (· < ·) ∧
      ∀ m ∈ numbers, m ≤ first.begun visits) ∧
    (first.begun visits < 2 ^ 64 → h.systemIds.Pairwise (· < ·)) ∧
    (∀ e node node' before between after,
      log = before ++ .got e (.ok node) :: (between ++ .got e (.ok node') :: after) →
      (node' = node ↔ ∀ other, .removed e (some other) ∉ between)) ∧
    (∀ e made? error h', h.lookUpWith e made? = (.error error, h') →
      (made? = none ∧ error = .failure (.unknownScheme e.scheme) ∨
        made?.isSome ∧ h.running = false ∧ error = .failure .noRuntime ∨
        made? = some (.error error) ∧ h.running = true) ∧
      h'.cache = h.cache ∧ h'.nodes = h.nodes ∧
      ∀ later, (h'.visitAll later).1 = (h.visitAll later).1) ∧
    (∀ e made?, (∃ node, (h.lookUpWith e made?).1 = .ok node) ↔
      (∃ node, h.cache.find? e = some node) ∨
        h.running = true ∧ ∃ transport, made? = some (.ok transport)) ∧
    (∀ e result before after, log = before ++ .removed e result :: after →
      ∀ node, result = some node ↔ Reply.Holds before e node) ∧
    (∀ e node result before between after,
      log = before ++ .removed e (some node) :: (between ++ .removed e result :: after) →
      (∀ other, .got e (.ok other) ∉ between) → result = none) ∧
    h.cache.size = Set.ncard {e | ∃ node, Reply.Holds log e node} := by
  intro first log h
  have hstart := records_start factory config connections
  have hrecords : h.directory.Records log (first.begun visits) := records_visitAll hstart visits
  refine ⟨?_, ?_, hrecords.ascends.exists_numbers, hrecords.ascends.pairwise_lt, ?_, ?_,
    h.lookUpWith_isOk_iff, ?_, ?_, size_eq_ncard hstart visits⟩
  · intro e node hnode
    have hmem : .got e (.ok node) ∈ log := by
      rcases hnode with hfind | hmem
      · exact ((hrecords.find?_iff e node).1 hfind).mem
      · exact hmem
    have hendpoint : (h.nodes.map fun n => n.dispatcher.endpoint)[node]? = some e :=
      hrecords.endpoint_eq e node hmem
    rwa [List.getElem?_map, Option.map_eq_some_iff] at hendpoint
  · intro e node before after hlog hnone e' other hother
    exact lt_of_got hstart hlog hnone hother
  · intro e node node' before between after hlog
    exact eq_iff_not_removed hstart hlog
  · intro e made? error h' hlook
    obtain ⟨hreason, hcache, hnodes, halike⟩ := lookUpWith_of_error hlook
    exact ⟨hreason, hcache, hnodes, halike.visitAll_eq⟩
  · intro e result before after hlog
    exact removed_iff_holds hstart hlog
  · intro e node result before between after hlog
    exact removed_eq_none hstart hlog

/-- Two attempts that fail, a dispatcher that is shared, and a new one after it has been taken out. -/
theorem new_dispatcher_after_removal :
    let sums : Endpoint := { scheme := "null", host := "local", port := none, path := "Sums" }
    let clock : Endpoint := { scheme := "null", host := "local", port := none, path := "Clock" }
    let settings : DispatcherConfig := { completionWorkers := 1, maxOutstandingCalls := none }
    let refusal : CallError := .failure (.invalidEndpoint "refused")
    let visits : List Visit :=
      [.get sums none, .get sums (some (.error refusal)), .get sums (some (.ok .null)),
        .get clock (some (.ok .null)), .get sums (some (.ok .null)), .remove sums, .remove sums,
        .get sums (some (.ok .null))]
    let first := start .empty settings .default
    let log := (first.visitAll visits).1
    let h := (first.visitAll visits).2
    log = [.got sums (.error (.failure (.unknownScheme "null"))), .got sums (.error refusal),
      .got sums (.ok 0), .got clock (.ok 1), .got sums (.ok 0), .removed sums (some 0),
      .removed sums none, .got sums (.ok 2)] ∧
    h.systemIds = [2, 3, 4] ∧ h.systemIds.Pairwise (· < ·) ∧
    (0 = 0 ↔ ∀ other, .removed sums (some other) ∉ [Reply.got clock (.ok 1)]) ∧
    (2 = 0 ↔ ∀ other, .removed sums (some other) ∉
      [Reply.removed sums (some 0), .removed sums none]) ∧
    Set.ncard {e | ∃ node, Reply.Holds log e node} = 2 := by
  intro sums clock settings refusal visits first log h
  obtain ⟨-, -, -, hascend, hshare, -, -, -, -, hsize⟩ :=
    one_dispatcher_per_endpoint .empty settings .default visits
  have hagain := hshare sums 0 0 (log.take 2) [.got clock (.ok 1)] (log.drop 5) rfl
  have hanew := hshare sums 0 2 (log.take 4) [.removed sums (some 0), .removed sums none] [] rfl
  exact ⟨rfl, rfl, hascend (by decide), hagain, hanew, hsize.symm⟩

end Host

end RemoteCall
