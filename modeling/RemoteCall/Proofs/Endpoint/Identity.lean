import RemoteCall.Host.Calls
import RemoteCall.Proofs.Endpoint.Normal
import RemoteCall.Proofs.Host.Routes
import RemoteCall.Proofs.Host.Sharing
/-!
# What the text of an endpoint tells

Endpoints are told apart by their parts, but people see their texts. Two endpoints with one text have
one normal form, so they differ at most in how a host that is an IPv6 address is spelled
(`toText_eq_iff`). A second spelling of such a host is a second endpoint: it has a route and a
dispatcher of its own, and a request to it finds no handler that was registered under the first.

The main statement is `text_tells_all_but_spelling`: among the routes of a switchboard and among the
shared dispatchers of a directory, whatever was done before, only endpoints that spell one IPv6
address differently look alike, and the same holds for a route and an endpoint without one.
-/

namespace RemoteCall

namespace Endpoint

variable {e e' : Endpoint}

/-! ## Texts -/

/-- Two endpoints differ in how they spell the IPv6 address that is their host, and in nothing
else. -/
structure Respells (e e' : Endpoint) : Prop where
  /-- The spelling differs. -/
  host_ne : e.host ≠ e'.host
  /-- The address is the same. -/
  address : ∃ ip, e.ipv6? = some ip ∧ e'.ipv6? = some ip
  /-- The scheme is the same. -/
  scheme_eq : e.scheme = e'.scheme
  /-- The port is the same. -/
  port_eq : e.port = e'.port
  /-- The path is the same. -/
  path_eq : e.path = e'.path

/-- Endpoints are alike up to spelling exactly if they have one normal form. -/
theorem canonical_eq_iff : e.canonical = e'.canonical ↔ e = e' ∨ e.Respells e' := by
  constructor
  · intro h
    have hscheme := congrArg scheme h
    have hport := congrArg port h
    have hpath := congrArg path h
    rw [scheme_canonical, scheme_canonical] at hscheme
    rw [port_canonical, port_canonical] at hport
    rw [path_canonical, path_canonical] at hpath
    have hip : e.ipv6? = e'.ipv6? := by rw [← e.ipv6?_canonical, h, e'.ipv6?_canonical]
    cases hip' : e'.ipv6? with
    | none =>
      rw [hip'] at hip
      rw [canonical_of_bare hip, canonical_of_bare hip'] at h
      exact .inl h
    | some ip =>
      by_cases hhost : e.host = e'.host
      · obtain ⟨_, _, _, _⟩ := e
        cases hscheme
        cases hhost
        cases hport
        cases hpath
        exact .inl rfl
      · exact .inr ⟨hhost, ⟨ip, hip.trans hip', hip'⟩, hscheme, hport, hpath⟩
  · rintro (rfl | ⟨-, ⟨ip, hip, hip'⟩, hscheme, hport, hpath⟩)
    · rfl
    · rw [canonical_of_ipv6? hip, canonical_of_ipv6? hip', hscheme, hport, hpath]

/-- Legible endpoints have one text exactly if they are alike up to spelling. -/
theorem Legible.toText_eq_iff (h : e.Legible) (h' : e'.Legible) :
    e.toText = e'.toText ↔ e = e' ∨ e.Respells e' := by
  rw [← canonical_eq_iff]
  constructor
  · intro htext
    have hread : parse e.toText = .ok e'.canonical := htext ▸ h'.parse_toText
    exact Except.ok.inj (h.parse_toText.symm.trans hread)
  · intro hcanonical
    rw [← e.toText_canonical, hcanonical, e'.toText_canonical]

/-- How endpoints come about. -/
inductive Obtained : Endpoint → Prop
  /-- An endpoint is read. -/
  | read {s : String} {e : Endpoint} (h : parse s = .ok e) : e.Obtained
  /-- A service is named at the address of another. -/
  | service {e : Endpoint} (h : e.Obtained) (name : String) : (e.withService name).Obtained

theorem Obtained.legible (h : e.Obtained) : e.Legible := by
  induction h with
  | read h => exact legible_of_parse h
  | service _ name ih => exact ih.withService name

end Endpoint

/-! ## Routes and shared dispatchers -/

namespace Host

variable {h : Host} {r : Endpoint}

/-- Every route was registered in one of the turns. -/
theorem mem_turns_of_route {turns : List Turn} (hown : ∀ node, h.isOwned node = false)
    (hempty : h.switchboard = .empty) (hr : r ∈ (h.run turns).switchboard.keys) :
    ∃ handler, .register r handler ∈ turns := by
  obtain ⟨handler, hfind⟩ := ((h.run turns).switchboard.mem_keys_iff r).1 hr
  obtain ⟨before, after, rfl, -, -⟩ := (find?_run_iff hown hempty turns).1 hfind
  exact ⟨handler, List.mem_append_right _ List.mem_cons_self⟩

/-- Whoever gets a dispatcher has asked for it. -/
theorem mem_visits_of_got {visits : List Visit} {result : Except CallError Nat}
    (hgot : .got r result ∈ (h.visitAll visits).1) : ∃ made?, .get r made? ∈ visits := by
  induction visits generalizing h with
  | nil => cases hgot
  | cons v visits ih =>
    rcases List.mem_cons.1 hgot with hreply | hrest
    · cases v with
      | get e made? =>
        cases hreply
        exact ⟨made?, List.mem_cons_self⟩
      | remove e => cases hreply
      | create e made => cases hreply
      | letGo node => cases hreply
      | arrange running config => cases hreply
    · obtain ⟨made?, hmem⟩ := ih hrest
      exact ⟨made?, List.mem_cons_of_mem v hmem⟩

/-- Every endpoint that has a shared dispatcher was asked for in one of the visits. -/
theorem mem_visits_of_shared {visits : List Visit} (hstart : h.directory.Records [] 0)
    (hr : r ∈ (h.visitAll visits).2.cache.keys) : ∃ made?, .get r made? ∈ visits := by
  obtain ⟨node, hfind⟩ := ((h.visitAll visits).2.cache.mem_keys_iff r).1 hr
  have hholds := ((records_visitAll hstart visits).find?_iff r node).1 hfind
  exact mem_visits_of_got hholds.mem

/-- A request of an in-process dispatcher fails for want of a handler exactly if no handler is
registered at the endpoint, and the error names the endpoint. -/
theorem send_eq_endpointNotFound_iff {node : Nat} {n : Node} (hnode : h.nodes[node]? = some n)
    (htransport : n.transport = .inProcess) (a : Admission) (text : String) :
    (h.send node a).1 = .rejected (.failure (.endpointNotFound text)) ↔
      n.dispatcher.endpoint ∉ h.switchboard.keys ∧ n.dispatcher.endpoint.toText = text := by
  obtain ⟨dispatcher, transport⟩ := n
  subst htransport
  simp only [send, hnode]
  cases hfind : h.switchboard.find? dispatcher.endpoint with
  | none => simp [(h.switchboard.find?_eq_none_iff _).1 hfind]
  | some handler =>
    have hregistered := (h.switchboard.mem_keys_iff _).2 ⟨handler, hfind⟩
    cases hrunning : h.running <;> simp [hregistered]

end Host

/-- The text of an endpoint tells which endpoint it is, up to the spelling of a host that is an IPv6
address:

* two endpoints have one text exactly if they are the same endpoint or differ in this spelling;
* two routes of a switchboard have one text only if they are one route or differ in this spelling,
  whatever turns there were;
* an error that names an endpoint without a handler has the text of a registered route only if the
  two differ in this spelling;
* two endpoints with shared dispatchers have one text only if they are one endpoint or differ in this
  spelling, whatever visits there were. -/
theorem Endpoint.text_tells_all_but_spelling (factory : TransportFactory)
    (config : DispatcherConfig) (connections : ConnectionConfig) (turns : List Host.Turn)
    (visits : List Host.Visit)
    (hturns : ∀ e handler, .register e handler ∈ turns → e.Obtained)
    (hvisits : ∀ e made?, .get e made? ∈ visits → e.Obtained) :
    let first := Host.start factory config connections
    let h := first.run turns
    let directory := (first.visitAll visits).2
    (∀ e e' : Endpoint, e.Obtained → e'.Obtained →
      (e.toText = e'.toText ↔ e = e' ∨ e.Respells e')) ∧
    (∀ r ∈ h.switchboard.keys, ∀ r' ∈ h.switchboard.keys,
      r.toText = r'.toText → r = r' ∨ r.Respells r') ∧
    (∀ node n a text, h.nodes[node]? = some n → n.transport = .inProcess →
      n.dispatcher.endpoint.Obtained →
      (h.send node a).1 = .rejected (.failure (.endpointNotFound text)) →
      ∀ r ∈ h.switchboard.keys, r.toText = text → r.Respells n.dispatcher.endpoint) ∧
    (∀ r ∈ directory.cache.keys, ∀ r' ∈ directory.cache.keys,
      r.toText = r'.toText → r = r' ∨ r.Respells r') := by
  intro first h directory
  have htext : ∀ e e' : Endpoint, e.Obtained → e'.Obtained →
      (e.toText = e'.toText ↔ e = e' ∨ e.Respells e') := fun e e' he he' =>
    he.legible.toText_eq_iff he'.legible
  have hroute : ∀ r ∈ h.switchboard.keys, r.Obtained := fun r hr =>
    have ⟨handler, hmem⟩ :=
      Host.mem_turns_of_route (Host.isOwned_start factory config connections) rfl hr
    hturns r handler hmem
  have hshared : ∀ r ∈ directory.cache.keys, r.Obtained := fun r hr =>
    have ⟨made?, hmem⟩ :=
      Host.mem_visits_of_shared (Host.records_start factory config connections) hr
    hvisits r made? hmem
  refine ⟨htext, fun r hr r' hr' => (htext r r' (hroute r hr) (hroute r' hr')).1, ?_,
    fun r hr r' hr' => (htext r r' (hshared r hr) (hshared r' hr')).1⟩
  intro node n a text hnode htransport hobtained hrejected r hr hrtext
  obtain ⟨hmissing, hname⟩ := (Host.send_eq_endpointNotFound_iff hnode htransport a text).1 hrejected
  rcases (htext r _ (hroute r hr) hobtained).1 (hrtext.trans hname.symm) with rfl | hrespells
  · exact absurd hr hmissing
  · exact hrespells

/-- The loopback address, spelled with and without its zeros: a handler is registered at one
endpoint, a dispatcher is built for the other, and their texts are the same. -/
theorem Endpoint.loopback_route_is_respelled :
    let short : Endpoint := ⟨"inproc", "::1", none, "Echo"⟩
    let long : Endpoint := ⟨"inproc", "0:0:0:0:0:0:0:1", none, "Echo"⟩
    let turns : List Host.Turn :=
      [.register short fun _ _ => .drop, .build .inProcess long default default]
    let visits : List Host.Visit := [.get short (some (.ok .null)), .get long (some (.ok .null))]
    let h := (Host.start .empty default default).run turns
    let directory := ((Host.start .empty default default).visitAll visits).2
    (∀ e handler, .register e handler ∈ turns → e.Obtained) ∧
    (∀ e made?, .get e made? ∈ visits → e.Obtained) ∧
    (∀ a, (h.send 0 a).1 = .rejected (.failure (.endpointNotFound short.toText))) ∧
    h.switchboard.keys = [short] ∧ directory.cache.keys = [short, long] ∧ short.Respells long := by
  intro short long turns visits h directory
  have hshort : short.Obtained := .read (s := "inproc://[::1]/Echo") (by decide)
  have hlong : long.Obtained := .read (s := "inproc://[0:0:0:0:0:0:0:1]/Echo") (by decide)
  have hturns : ∀ e handler, .register e handler ∈ turns → e.Obtained := by
    intro e handler hmem
    obtain ⟨rfl, -⟩ : e = short ∧ _ := by simpa [turns] using hmem
    exact hshort
  have hvisits : ∀ e made?, .get e made? ∈ visits → e.Obtained := by
    intro e made? hmem
    rcases (by simpa [visits] using hmem : (e = short ∧ _) ∨ e = long ∧ _) with ⟨rfl, -⟩ | ⟨rfl, -⟩
    · exact hshort
    · exact hlong
  have hnode : h.nodes[0]? = some ⟨.start 1 long default, .inProcess⟩ := rfl
  have hsame : short.toText = long.toText := by decide
  have hrejected (a : Admission) :
      (h.send 0 a).1 = .rejected (.failure (.endpointNotFound short.toText)) :=
    (Host.send_eq_endpointNotFound_iff hnode rfl a _).2 ⟨by decide, hsame.symm⟩
  obtain ⟨-, -, hmissing, -⟩ :=
    text_tells_all_but_spelling .empty default default turns visits hturns hvisits
  have hroute : ∀ r ∈ h.switchboard.keys, r.toText = short.toText → r.Respells long :=
    hmissing 0 _ ⟨1, 0, .request 1 1 0, []⟩ _ hnode rfl hlong (hrejected _)
  exact ⟨hturns, hvisits, hrejected, rfl, rfl, hroute short (by decide) rfl⟩

/-- The text alone does not tell endpoints apart. The loopback address, spelled with and without its
zeros, is read as two endpoints with one text, and handlers can be registered at both. -/
theorem Endpoint.loopback_has_two_routes :
    let short : Endpoint := ⟨"inproc", "::1", none, "Echo"⟩
    let long : Endpoint := ⟨"inproc", "0:0:0:0:0:0:0:1", none, "Echo"⟩
    let turns : List Host.Turn :=
      [.register short fun _ _ => .drop, .register long fun _ _ => .drop]
    parse "inproc://[::1]/Echo" = .ok short ∧
    parse "inproc://[0:0:0:0:0:0:0:1]/Echo" = .ok long ∧
    short.toText = "inproc://[::1]/Echo" ∧ long.toText = "inproc://[::1]/Echo" ∧ short ≠ long ∧
    ((Host.start .empty default default).run turns).switchboard.keys = [short, long] ∧
    ¬∀ s s' e e', parse s = .ok e → parse s' = .ok e' → e.toText = e'.toText → e = e' := by
  intro short long turns
  have hshort : parse "inproc://[::1]/Echo" = .ok short := by decide
  have hlong : parse "inproc://[0:0:0:0:0:0:0:1]/Echo" = .ok long := by decide
  have hne : short ≠ long := by decide
  refine ⟨hshort, hlong, by decide, by decide, hne, rfl, fun hclaim => hne ?_⟩
  exact hclaim _ _ _ _ hshort hlong (by decide)

end RemoteCall
