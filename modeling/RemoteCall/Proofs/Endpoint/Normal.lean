import Mathlib
import RemoteCall.Endpoint
import RemoteCall.Proofs.Address.Canonical
/-!
# The normal form of an endpoint

The text of an endpoint has separators between its parts, and a reader finds each part again by the
first or the last separator of its kind. For this the parts must not contain the separators that are
looked for: a scheme has no colon, and a host has no slash. A host that is an IPv6 address has colons
of its own, but then it stands in brackets; any other host has a colon only in front of a port.
`Legible` collects these facts. They hold of every endpoint that was read (`legible_of_parse`) and of
the endpoints of all services at its address (`Legible.withService`).

What is read from the text of a legible endpoint is the same endpoint with its host in canonical form
(`Legible.parse_toText`), so writing and reading it once more changes nothing.
-/

namespace RemoteCall.Endpoint

open Address (IPv6 Literal)

variable {cs rest : List Char} {e : Endpoint}

/-! ## Separators -/

/-- A text is split at the first occurrence of a separator. -/
theorem span_separator {c : Char} (hcs : c ∉ cs) (rest : List Char) :
    (cs ++ c :: rest).takeWhile (· != c) = cs ∧ (cs ++ c :: rest).dropWhile (· != c) = c :: rest := by
  have hne : ∀ x ∈ cs, (x != c) = true := fun x hx => bne_iff_ne.2 fun h => hcs (h ▸ hx)
  rw [List.takeWhile_append_of_pos hne, List.dropWhile_append_of_pos hne]
  simp

/-- A scheme without colons ends where `://` begins. -/
theorem splitScheme_append (passed : List Char) (hcs : ':' ∉ cs) :
    splitScheme passed (cs ++ ':' :: '/' :: '/' :: rest) = some (passed.reverse ++ cs, rest) := by
  induction cs generalizing passed with
  | nil => simp [splitScheme]
  | cons c cs ih =>
    obtain ⟨hc, hcs⟩ : ':' ≠ c ∧ ':' ∉ cs := by simpa using hcs
    -- A character that is no colon cannot begin the separator, so it is passed.
    rw [List.cons_append, splitScheme.eq_2 _ _ _ fun rest hcolon => absurd hcolon hc.symm, ih _ hcs]
    simp

/-- Trimming leaves no slash in front. -/
theorem dropWhile_trimSlashes (cs : List Char) :
    (trimSlashes cs).dropWhile (· == '/') = trimSlashes cs := by
  have hfront : trimSlashes cs <+: cs.dropWhile (· == '/') := List.rdropWhile_prefix _ _
  cases htrim : trimSlashes cs with
  | nil => rfl
  | cons c ts =>
    rw [htrim] at hfront
    obtain ⟨more, hmore⟩ := hfront
    have hc := List.head?_dropWhile_not (· == '/') cs
    rw [← hmore] at hc
    exact List.dropWhile_cons_of_neg (by simpa using hc)

/-- Trimming a second time changes nothing. -/
theorem trimSlashes_trimSlashes (cs : List Char) :
    trimSlashes (trimSlashes cs) = trimSlashes cs :=
  calc trimSlashes (trimSlashes cs)
      = ((trimSlashes cs).dropWhile (· == '/')).rdropWhile (· == '/') := rfl
    _ = (trimSlashes cs).rdropWhile (· == '/') := by rw [dropWhile_trimSlashes]
    _ = trimSlashes cs := List.rdropWhile_idempotent _ _

/-! ## What was read -/

/-- A scheme in lower case has characters of a scheme. -/
theorem isSchemeChar_toLower {c : Char} (h : isSchemeChar c) : isSchemeChar c.toLower := by
  by_cases hupper : c.isUpper
  · simp [isSchemeChar, Char.isAlphanum, Char.isAlpha, hupper]
  · rwa [Char.toLower_eq_of_not_isUpper hupper]

/-- The parts of an endpoint can be told apart in its text. -/
structure Legible (e : Endpoint) : Prop where
  /-- The scheme is not empty. -/
  scheme_ne : e.scheme.toList ≠ []
  /-- The scheme has characters of a scheme, in lower case. -/
  scheme_chars : ∀ c ∈ e.scheme.toList, isSchemeChar c ∧ c.toLower = c
  /-- The host has no slash. -/
  slash_notMem : '/' ∉ e.host.toList
  /-- A host that is no IPv6 address does not begin with a bracket, and without a port it has no
  colon. -/
  bare : e.ipv6? = none → e.host.toList.head? ≠ some '[' ∧ (e.port = none → ':' ∉ e.host.toList)
  /-- The path has no slashes at its ends. -/
  path_trimmed : trimSlashes e.path.toList = e.path.toList

/-- A result that was changed was there before. -/
theorem exists_of_map_eq_ok {ε α β : Type} {f : α → β} {x : Except ε α} {b : β}
    (h : x.map f = .ok b) : ∃ a, x = .ok a ∧ f a = b := by
  cases x with
  | error _ => cases h
  | ok a => exact ⟨a, rfl, Except.ok.inj h⟩

/-- What is read from brackets: an address literal. -/
theorem parseBracketed_spec {authority host : List Char} {port : Option UInt16}
    (h : parseBracketed authority cs = .ok (host, port)) :
    host ⊆ cs ∧ (Literal.parse? host).isSome := by
  have hspec : cs.takeWhile (· != ']') = host ∧ (Literal.parse? host).isSome := by
    unfold parseBracketed at h
    dsimp only at h
    split at h
    · cases h
    · split at h
      next => cases h
      next hliteral _ =>
        cases h
        simp [hliteral]
      next hliteral _ =>
        obtain ⟨p, -, hp⟩ := exists_of_map_eq_ok h
        cases hp
        simp [hliteral]
      next => cases h
  obtain ⟨rfl, hliteral⟩ := hspec
  exact ⟨(List.takeWhile_prefix _).subset, hliteral⟩

/-- What is read without brackets: a text that ends where the port begins, if there is one. -/
theorem parseAuthority_of_head_ne {host : List Char} {port : Option UInt16}
    (hhead : cs.head? ≠ some '[') (h : parseAuthority cs = .ok (host, port)) :
    host <+: cs ∧ (port = none → ':' ∉ host) := by
  unfold parseAuthority at h
  split at h
  next inside => exact absurd rfl hhead
  next =>
    dsimp only at h
    split at h
    next hcolon =>
      cases h
      refine ⟨List.prefix_rfl, fun _ hmem => ?_⟩
      have hall := List.dropWhile_eq_nil_iff.1 hcolon ':' (List.mem_reverse.2 hmem)
      simp at hall
    next c back hcolon =>
      -- The text was read backwards, so what is left behind the last colon is the host in reverse.
      obtain ⟨p, -, hp⟩ := exists_of_map_eq_ok h
      cases hp
      have hsuffix : back <:+ cs.reverse :=
        (List.suffix_cons c back).trans (hcolon ▸ List.dropWhile_suffix _)
      exact ⟨by simpa using hsuffix.reverse, nofun⟩

/-- What is read as host and port: the host is an IPv6 address, or it does not begin with a bracket
and has no colon if there is no port. -/
theorem parseAuthority_spec {host : List Char} {port : Option UInt16}
    (h : parseAuthority cs = .ok (host, port)) :
    host ⊆ cs ∧
      ((∃ ip, Literal.parse? host = some (.v6 ip)) ∨
        host.head? ≠ some '[' ∧ (port = none → ':' ∉ host)) := by
  by_cases hhead : cs.head? = some '['
  · obtain ⟨inside, rfl⟩ : ∃ inside, cs = '[' :: inside := List.head?_eq_some_iff.1 hhead
    obtain ⟨hsubset, hsome⟩ := parseBracketed_spec h
    refine ⟨List.subset_cons_of_subset _ hsubset, ?_⟩
    obtain ⟨l, hl⟩ := Option.isSome_iff_exists.1 hsome
    cases l with
    | v6 ip => exact .inl ⟨ip, hl⟩
    | v4 ip =>
      -- The brackets around an IPv4 address are not written again, and are not needed.
      have hchars := Literal.isIPv4Char_of_parse? hl
      refine .inr ⟨fun hbracket => ?_, fun _ hcolon => ?_⟩
      · exact absurd (hchars '[' (List.mem_of_head? hbracket)) (by decide)
      · exact absurd (hchars ':' hcolon) (by decide)
  · obtain ⟨hbegin, hport⟩ := parseAuthority_of_head_ne hhead h
    refine ⟨hbegin.subset, .inr ⟨fun hbracket => hhead ?_, hport⟩⟩
    obtain ⟨after, rfl⟩ := hbegin
    rw [List.head?_append, hbracket]
    rfl

/-- The host is an IPv6 address exactly if it is read as one. -/
theorem ipv6?_eq_some_iff {ip : IPv6} :
    e.ipv6? = some ip ↔ Literal.parse? e.host.toList = some (.v6 ip) := by
  unfold ipv6?
  split <;> simp_all

/-- Every endpoint that was read is legible. -/
theorem legible_of_parse {s : String} (h : parse s = .ok e) : e.Legible := by
  unfold parse parseChars at h
  split at h
  · cases h
  next scheme rest _ =>
    split at h
    · cases h
    next hscheme =>
      simp only [Bool.or_eq_true, not_or, List.isEmpty_iff, Bool.not_eq_true', Bool.not_eq_false,
        List.all_eq_true] at hscheme
      obtain ⟨hne, hchars⟩ := hscheme
      obtain ⟨⟨host, port⟩, hauthority, rfl⟩ := exists_of_map_eq_ok h
      obtain ⟨hsubset, hhost⟩ := parseAuthority_spec hauthority
      have hslash : '/' ∉ host := fun hmem => by
        simpa using List.mem_takeWhile_imp (hsubset hmem)
      refine
        { scheme_ne := by simpa using hne
          scheme_chars := ?_
          slash_notMem := by simpa using hslash
          bare := fun hnone => ?_
          path_trimmed := by simpa using trimSlashes_trimSlashes _ }
      · intro c hc
        obtain ⟨c', hc', rfl⟩ : ∃ c' ∈ scheme, c'.toLower = c := by simpa using hc
        exact ⟨isSchemeChar_toLower (hchars c' hc'), Char.toLower_toLower_eq_toLower c'⟩
      · rcases hhost with ⟨ip, hip⟩ | hbare
        · rw [ipv6?_eq_some_iff.2 (by simpa using hip)] at hnone
          cases hnone
        · simpa using hbare

/-- The endpoint of another service at the address is legible too. -/
theorem Legible.withService (h : e.Legible) (service : String) : (e.withService service).Legible :=
  { h with path_trimmed := by simpa [Endpoint.withService] using trimSlashes_trimSlashes _ }

/-- So are the endpoints of services that are named one after the other. -/
theorem Legible.withServices (h : e.Legible) (services : List String) :
    (services.foldl Endpoint.withService e).Legible := by
  induction services generalizing e with
  | nil => exact h
  | cons service services ih => exact ih (h.withService service)

/-! ## The normal form -/

/-- The endpoint with a host that is an IPv6 address in canonical form. -/
def canonical (e : Endpoint) : Endpoint :=
  { e with host := (e.ipv6?.map IPv6.toText).getD e.host }

@[simp]
theorem scheme_canonical (e : Endpoint) : e.canonical.scheme = e.scheme := rfl

@[simp]
theorem port_canonical (e : Endpoint) : e.canonical.port = e.port := rfl

@[simp]
theorem path_canonical (e : Endpoint) : e.canonical.path = e.path := rfl

theorem canonical_of_ipv6? {ip : IPv6} (h : e.ipv6? = some ip) :
    e.canonical = { e with host := ip.toText } := by
  simp [canonical, h]

theorem canonical_of_bare (h : e.ipv6? = none) : e.canonical = e := by
  simp [canonical, h]

/-- The canonical form of an address is the same address. -/
@[simp]
theorem ipv6?_canonical (e : Endpoint) : e.canonical.ipv6? = e.ipv6? := by
  cases hip : e.ipv6? with
  | none => rw [canonical_of_bare hip, hip]
  | some ip =>
    rw [canonical_of_ipv6? hip, ipv6?_eq_some_iff]
    exact Literal.parse?_toText ip

@[simp]
theorem hostText_canonical (e : Endpoint) : e.canonical.hostText = e.hostText := by
  cases hip : e.ipv6? with
  | none => rw [canonical_of_bare hip]
  | some ip => simp [hostText, hip]

/-- A connection needs the same host and port. -/
@[simp]
theorem socketAddress?_canonical (e : Endpoint) :
    e.canonical.socketAddress? = e.socketAddress? := by
  simp [socketAddress?]

/-- The text has the host in canonical form already. -/
@[simp]
theorem toText_canonical (e : Endpoint) : e.canonical.toText = e.toText := by
  simp [toText, authority]

/-! ## What was written -/

/-- The port as it stands behind a host. -/
def portText : Option UInt16 → List Char
  | none => []
  | some port => ':' :: Nat.toDigits 10 port.toNat

/-- The text of host and port, character by character. -/
theorem toList_authority (e : Endpoint) :
    e.authority.toList = e.hostText.toList ++ portText e.port := by
  have hcolon (cs : List Char) : (toString ":").toList ++ cs = ':' :: cs := rfl
  have hhost : toString e.hostText = e.hostText := rfl
  cases hport : e.port with
  | none => simp [authority, socketAddress?, portText, hport]
  | some port =>
    simp [authority, socketAddress?, portText, hport, String.toList_append, hcolon, hhost]

/-- The text of an endpoint, character by character. -/
theorem toList_toText (e : Endpoint) :
    e.toText.toList =
      e.scheme.toList ++ ':' :: '/' :: '/' :: (e.authority.toList ++ '/' :: e.path.toList) := by
  have hcolon (cs : List Char) : (toString "://").toList ++ cs = ':' :: '/' :: '/' :: cs := rfl
  have hslash (cs : List Char) : (toString "/").toList ++ cs = '/' :: cs := rfl
  have hpart (part : String) : toString part = part := rfl
  simp [toText, String.toList_append, hcolon, hslash, hpart e.scheme, hpart e.authority,
    hpart e.path]

/-- A separator is no digit. -/
theorem notMem_toDigits {c : Char} (hc : c.isDigit = false) (n : Nat) : c ∉ Nat.toDigits 10 n := by
  intro hmem
  rw [Nat.isDigit_of_mem_toDigits (by decide) (by decide) hmem] at hc
  cases hc

/-- Nor does it occur in an address. -/
theorem notMem_toText {c : Char} (hc : Address.isLiteralChar c = false) (ip : IPv6) :
    c ∉ ip.toText.toList := by
  intro hmem
  rw [Literal.isLiteralChar_of_parse? (Literal.parse?_toText ip) c hmem] at hc
  cases hc

/-- A port that was written is read again. -/
theorem parsePort_toDigits (port : UInt16) : parsePort (Nat.toDigits 10 port.toNat) = .ok port := by
  rw [parsePort, Text.natural?_toDigits port.toNat_lt]
  simp

/-- A text without brackets and colons is a host. -/
theorem parseAuthority_plain {host : List Char} (hhead : host.head? ≠ some '[')
    (hcolon : ':' ∉ host) : parseAuthority host = .ok (host, none) := by
  have hback : host.reverse.dropWhile (· != ':') = [] := by
    rw [List.dropWhile_eq_nil_iff]
    intro c hc
    exact bne_iff_ne.2 fun h => hcolon (h ▸ List.mem_reverse.1 hc)
  unfold parseAuthority
  split
  next => exact absurd rfl hhead
  next => simp [hback]

/-- Behind the last colon stands the port, if no bracket stands in front. -/
theorem parseAuthority_colon {host port : List Char} (hhead : host.head? ≠ some '[')
    (hport : ':' ∉ port) :
    parseAuthority (host ++ ':' :: port) = (parsePort port).map fun p => (host, some p) := by
  -- An empty host has the colon where the bracket would be.
  have hfront : (host ++ ':' :: port).head? ≠ some '[' := by
    cases host with
    | nil => simp
    | cons c cs => simpa using hhead
  have hreverse : (host ++ ':' :: port).reverse = port.reverse ++ ':' :: host.reverse := by simp
  obtain ⟨htake, hdrop⟩ := span_separator (mt List.mem_reverse.1 hport) host.reverse
  unfold parseAuthority
  split
  next inside hinside => exact absurd (by rw [hinside]; rfl) hfront
  next => simp only [hreverse, htake, hdrop, List.reverse_reverse]

/-- A host without brackets is read again, with its port. -/
theorem parseAuthority_bare {host : List Char} {port : Option UInt16} (hhead : host.head? ≠ some '[')
    (hcolon : port = none → ':' ∉ host) :
    parseAuthority (host ++ portText port) = .ok (host, port) := by
  cases port with
  | none =>
    rw [portText, List.append_nil]
    exact parseAuthority_plain hhead (hcolon rfl)
  | some port =>
    -- No digit is a colon, so the last colon is the one in front of the port, whatever the host.
    rw [portText, parseAuthority_colon hhead (notMem_toDigits (by decide) port.toNat),
      parsePort_toDigits]
    rfl

/-- A host in brackets is read again, with its port. -/
theorem parseAuthority_bracketed (ip : IPv6) (port : Option UInt16) :
    parseAuthority ('[' :: (ip.toText.toList ++ ']' :: portText port)) =
      .ok (ip.toText.toList, port) := by
  have hbracket : ']' ∉ ip.toText.toList := notMem_toText (by decide) ip
  obtain ⟨htake, hdrop⟩ := span_separator hbracket (portText port)
  simp only [parseAuthority, parseBracketed, htake, hdrop, Literal.parse?_toText]
  cases port with
  | none => rfl
  | some port => simp [portText, parsePort_toDigits, Except.map]

/-- The host in the text of an IPv6 address is in brackets. -/
theorem toList_hostText {ip : IPv6} (h : e.ipv6? = some ip) :
    e.hostText.toList = '[' :: (ip.toText.toList ++ [']']) := by
  simp [hostText, h, String.toList_append]

/-- Host and port that were written are read again, the host in canonical form. -/
theorem Legible.parseAuthority_authority (h : e.Legible) :
    parseAuthority e.authority.toList = .ok (e.canonical.host.toList, e.port) := by
  rw [toList_authority]
  cases hip : e.ipv6? with
  | none =>
    obtain ⟨hhead, hcolon⟩ := h.bare hip
    rw [canonical_of_bare hip, ← parseAuthority_bare hhead hcolon, hostText, hip]
  | some ip =>
    rw [canonical_of_ipv6? hip, toList_hostText hip, ← parseAuthority_bracketed]
    simp

/-- The text of host and port ends in front of the slash. -/
theorem Legible.slash_notMem_authority (h : e.Legible) : '/' ∉ e.authority.toList := by
  have hhost : '/' ∉ e.hostText.toList := by
    cases hip : e.ipv6? with
    | none => simpa [hostText, hip] using h.slash_notMem
    | some ip => simpa [toList_hostText hip] using notMem_toText (by decide) ip
  have hport : '/' ∉ portText e.port := by
    cases e.port with
    | none => simp [portText]
    | some port => simpa [portText] using notMem_toDigits (by decide) port.toNat
  rw [toList_authority, List.mem_append]
  exact not_or.2 ⟨hhost, hport⟩

/-- What is read from the text of a legible endpoint is its normal form. -/
theorem Legible.parse_toText (h : e.Legible) : parse e.toText = .ok e.canonical := by
  have hcolon : ':' ∉ e.scheme.toList := fun hmem =>
    absurd (h.scheme_chars ':' hmem).1 (by decide)
  have hscheme : (e.scheme.toList.isEmpty || !e.scheme.toList.all isSchemeChar) = false := by
    simp only [Bool.or_eq_false_iff, Bool.not_eq_false', List.all_eq_true]
    exact ⟨by simpa using h.scheme_ne, fun c hc => (h.scheme_chars c hc).1⟩
  have hlower : e.scheme.toList.map Char.toLower = e.scheme.toList :=
    (List.map_congr_left fun c hc => (h.scheme_chars c hc).2).trans (List.map_id' _)
  obtain ⟨htake, hdrop⟩ := span_separator h.slash_notMem_authority e.path.toList
  rw [parse, parseChars, toList_toText, splitScheme_append [] hcolon]
  simp only [List.reverse_nil, List.nil_append, hscheme, htake, hdrop, List.drop_succ_cons,
    List.drop_zero, h.parseAuthority_authority, hlower, h.path_trimmed]
  simp [Except.map, canonical]

/-- The text of an endpoint that was read, or of any service at its address, can be read again.
Nothing is lost but the spelling of a host that is an IPv6 address: scheme, port, path, the address
to connect to and the text stay what they are, any other host stays as well, and an IPv6 address is
the same address in canonical form. What is read from the new text is the new endpoint itself. -/
theorem reading_normalizes (s : String) (e₀ : Endpoint) (services : List String)
    (h : parse s = .ok e₀) :
    let e := services.foldl withService e₀
    ∃ e', parse e.toText = .ok e' ∧
      e'.scheme = e.scheme ∧ e'.port = e.port ∧ e'.path = e.path ∧
      e'.socketAddress? = e.socketAddress? ∧ e'.toText = e.toText ∧
      (match e.ipv6? with
        | some ip => e'.host = ip.toText ∧ e'.ipv6? = some ip
        | none => e'.host = e.host) ∧
      parse e'.toText = .ok e' := by
  intro e
  have hread : parse e.toText = .ok e.canonical :=
    ((legible_of_parse h).withServices services).parse_toText
  refine ⟨e.canonical, hread, rfl, rfl, rfl, e.socketAddress?_canonical, e.toText_canonical, ?_, ?_⟩
  · cases hip : e.ipv6? with
    | none => exact congrArg host (canonical_of_bare hip)
    | some ip => exact ⟨congrArg host (canonical_of_ipv6? hip), e.ipv6?_canonical.trans hip⟩
  · rw [e.toText_canonical, hread]

/-- An address with all its zeros, under a second service name. -/
theorem loopback_is_normalized :
    let e₀ : Endpoint := ⟨"tcp", "0:0:0:0:0:0:0:1", some 80, "Echo"⟩
    parse "TCP://[0:0:0:0:0:0:0:1]:080//Echo/" = .ok e₀ ∧
      (["/Say/"].foldl withService e₀).toText = "tcp://[::1]:80/Say" ∧
      ∃ e', parse (["/Say/"].foldl withService e₀).toText = .ok e' ∧
        e'.scheme = "tcp" ∧ e'.host = "::1" ∧ e'.port = some 80 ∧ e'.path = "Say" ∧
        parse e'.toText = .ok e' := by
  intro e₀
  have hread : parse "TCP://[0:0:0:0:0:0:0:1]:080//Echo/" = .ok e₀ := by decide
  refine ⟨hread, by decide, ?_⟩
  obtain ⟨e', hparse, hscheme, hport, hpath, -, -, hhost, hagain⟩ :=
    reading_normalizes _ e₀ ["/Say/"] hread
  have hip : (["/Say/"].foldl withService e₀).ipv6? = some ⟨[0, 0, 0, 0, 0, 0, 0, 1], rfl⟩ := by
    decide
  rw [hip] at hhost
  exact ⟨e', hparse, hscheme, hhost.1.trans (by decide), hport, hpath, hagain⟩

end RemoteCall.Endpoint
