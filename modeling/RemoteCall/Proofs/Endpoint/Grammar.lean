import RemoteCall.Proofs.Endpoint.Authority
/-!
# The grammar of endpoints

An endpoint is written as a scheme, `://`, an authority, and a path behind a slash or none
(`EndpointText`). A text is read as an endpoint exactly if it can be taken apart in this way, and then
there is only one way (`parse_reads_one_grammar`).

The reader looks for the first `://` and for the first slash behind it. A scheme has no colon, so the
first `://` is the one behind the scheme; and an authority has no slash.
-/

namespace RemoteCall

/-! ## What is written -/

/-- An endpoint as it is written. -/
structure EndpointText where
  /-- The scheme. -/
  scheme : List Char
  /-- The authority. -/
  authority : AuthorityText
  /-- The path, without the slash in front of it. -/
  path : Option (List Char)

/-- What stands behind an authority. -/
def pathSuffix : Option (List Char) → List Char
  | none => []
  | some path => '/' :: path

/-- A scheme has a character, and has letters, digits, `+`, `-` and `.` only. -/
def IsScheme (cs : List Char) : Prop :=
  cs ≠ [] ∧ ∀ c ∈ cs, Endpoint.isSchemeChar c

namespace EndpointText

/-- The characters of an endpoint. -/
def text (t : EndpointText) : List Char :=
  t.scheme ++ ':' :: '/' :: '/' :: (t.authority.text ++ pathSuffix t.path)

/-- Scheme and authority are well formed, and the authority has no slash. -/
structure WellFormed (t : EndpointText) : Prop where
  /-- The scheme is one. -/
  scheme : IsScheme t.scheme
  /-- The authority has no slash. -/
  slash_notMem : '/' ∉ t.authority.text
  /-- The authority is one. -/
  authority : t.authority.WellFormed

/-- The endpoint that is written: the scheme in lower case, the host as it is, the number of the port,
and the path without the slashes at its ends. -/
structure Denotes (t : EndpointText) (e : Endpoint) : Prop where
  /-- The scheme in lower case. -/
  scheme : e.scheme = String.ofList (t.scheme.map Char.toLower)
  /-- The host as it is. -/
  host : e.host = String.ofList t.authority.host
  /-- The number of the port. -/
  port : e.port.map UInt16.toNat = t.authority.port.map PortText.value
  /-- The path is what is between slashes. -/
  path_eq : ∃ m n, t.path.getD [] = List.replicate m '/' ++ e.path.toList ++ List.replicate n '/'
  /-- It does not begin with a slash. -/
  path_head : e.path.toList.head? ≠ some '/'
  /-- It does not end with a slash. -/
  path_last : e.path.toList.getLast? ≠ some '/'

end EndpointText

namespace Endpoint

variable {cs rest : List Char}

/-! ## Separators -/

/-- Up to the first slash, a text is an authority, and behind it a path. -/
theorem exists_authority (rest : List Char) :
    ∃ authority path, '/' ∉ authority ∧ rest = authority ++ pathSuffix path := by
  by_cases hslash : '/' ∈ rest
  · obtain ⟨authority, path, rfl, hauthority⟩ := List.eq_append_cons_of_mem hslash
    exact ⟨authority, some path, hauthority, rfl⟩
  · exact ⟨rest, none, hslash, (List.append_nil rest).symm⟩

/-- An authority ends at the first slash. -/
theorem span_pathSuffix (hcs : '/' ∉ cs) (path : Option (List Char)) :
    (cs ++ pathSuffix path).takeWhile (· != '/') = cs ∧
      ((cs ++ pathSuffix path).dropWhile (· != '/')).drop 1 = path.getD [] := by
  cases path with
  | none =>
    have hne : ∀ c ∈ cs, (c != '/') = true := fun c hc => bne_iff_ne.2 fun h => hcs (h ▸ hc)
    rw [pathSuffix, List.append_nil, List.takeWhile_eq_self_iff.2 hne,
      List.dropWhile_eq_nil_iff.2 hne]
    exact ⟨rfl, rfl⟩
  | some path =>
    obtain ⟨htake, hdrop⟩ := span_separator hcs path
    exact ⟨htake, by rw [pathSuffix, hdrop]; rfl⟩

/-- The text before the first `://`, and the text after it. -/
def SplitsAt (scheme rest cs : List Char) : Prop :=
  cs = scheme ++ ':' :: '/' :: '/' :: rest ∧
    ∀ before after, cs = before ++ ':' :: '/' :: '/' :: after → scheme.length ≤ before.length

theorem SplitsAt.isInfix {scheme : List Char} (h : SplitsAt scheme rest cs) :
    [':', '/', '/'] <:+: cs :=
  ⟨scheme, rest, by rw [h.1]; simp⟩

/-- A text is split at the first `://`, if there is one. -/
theorem splitScheme_spec (passed cs : List Char) :
    match splitScheme passed cs with
    | some (front, rest) => ∃ scheme, front = passed.reverse ++ scheme ∧ SplitsAt scheme rest cs
    | none => ¬[':', '/', '/'] <:+: cs := by
  fun_induction splitScheme passed cs with
  | case1 passed rest => exact ⟨[], by simp, rfl, fun _ _ _ => Nat.zero_le _⟩
  | case2 passed c cs hnot ih =>
    cases hsplit : splitScheme (c :: passed) cs with
    | some found =>
      obtain ⟨front, rest⟩ := found
      rw [hsplit] at ih
      obtain ⟨scheme, rfl, rfl, hfirst⟩ := ih
      refine ⟨c :: scheme, by simp, rfl, fun before after h => ?_⟩
      -- The separator does not stand in front, so it stands behind the first character.
      cases before with
      | nil =>
        obtain ⟨rfl, hrest⟩ := List.cons.inj h
        exact absurd rfl (fun hc => hnot after hc hrest)
      | cons c' before =>
        exact Nat.succ_le_succ (hfirst before after (List.cons.inj h).2)
    | none =>
      rw [hsplit] at ih
      rw [List.infix_cons_iff, not_or]
      refine ⟨?_, ih⟩
      rintro ⟨after, h⟩
      obtain ⟨rfl, hrest⟩ := List.cons.inj h
      exact hnot after rfl hrest.symm
  | case3 passed => simp

/-- A scheme ends where the first `://` begins. -/
theorem splitScheme_of_isScheme {scheme : List Char} (h : IsScheme scheme) (rest : List Char) :
    splitScheme [] (scheme ++ ':' :: '/' :: '/' :: rest) = some (scheme, rest) :=
  splitScheme_append [] fun hmem => absurd (h.2 ':' hmem) (by decide)

end Endpoint

/-- What stands behind an authority tells the path. -/
theorem pathSuffix_injective : Function.Injective pathSuffix := by
  rintro (_ | p) (_ | q) h
  · rfl
  · cases h
  · cases h
  · rw [(List.cons.inj h).2]

/-- A text is an endpoint in at most one way. -/
theorem EndpointText.WellFormed.text_inj {t u : EndpointText} (ht : t.WellFormed)
    (hu : u.WellFormed) (h : t.text = u.text) : t = u := by
  have hcolon : ∀ {cs : List Char}, IsScheme cs → ':' ∉ cs := fun hcs hmem =>
    absurd (hcs.2 ':' hmem) (by decide)
  obtain ⟨scheme, authority, path⟩ := t
  obtain ⟨scheme', authority', path'⟩ := u
  obtain ⟨rfl, hrest⟩ := Endpoint.append_cons_inj_first (hcolon ht.scheme) (hcolon hu.scheme) h
  replace hrest : authority.text ++ pathSuffix path = authority'.text ++ pathSuffix path' := by
    simpa using hrest
  have hauthority : authority.text = authority'.text := by
    rw [← (Endpoint.span_pathSuffix ht.slash_notMem path).1, hrest]
    exact (Endpoint.span_pathSuffix hu.slash_notMem path').1
  obtain rfl : authority = authority' := ht.authority.text_inj hu.authority hauthority
  rw [pathSuffix_injective (List.append_cancel_left hrest)]

namespace Endpoint

variable {cs rest : List Char}

/-! ## Paths -/

/-- In front of what is left there are only slashes. -/
theorem exists_replicate_dropWhile (cs : List Char) :
    ∃ n, cs = List.replicate n '/' ++ cs.dropWhile (· == '/') := by
  induction cs with
  | nil => exact ⟨0, rfl⟩
  | cons c cs ih =>
    by_cases hc : c = '/'
    · obtain ⟨n, hn⟩ := ih
      refine ⟨n + 1, ?_⟩
      rw [List.dropWhile_cons_of_pos (by simp [hc]), List.replicate_succ, List.cons_append, ← hn, hc]
    · exact ⟨0, by rw [List.dropWhile_cons_of_neg (by simpa using hc)]; rfl⟩

/-- A text that does not begin with a slash is what is left. -/
theorem dropWhile_replicate_append (n : Nat) (hcs : cs.head? ≠ some '/') :
    (List.replicate n '/' ++ cs).dropWhile (· == '/') = cs := by
  rw [List.dropWhile_append_of_pos (by simp)]
  cases cs with
  | nil => rfl
  | cons c cs => exact List.dropWhile_cons_of_neg (by simpa using hcs)

/-- The trimmed text is what is between the slashes at the ends. -/
theorem trimSlashes_eq_iff {path : List Char} :
    trimSlashes cs = path ↔
      (∃ m n, cs = List.replicate m '/' ++ path ++ List.replicate n '/') ∧
        path.head? ≠ some '/' ∧ path.getLast? ≠ some '/' := by
  have hhead : ∀ cs : List Char, (cs.dropWhile (· == '/')).head? ≠ some '/' := by
    intro cs h
    have hnot := List.head?_dropWhile_not (· == '/') cs
    rw [h] at hnot
    cases hnot
  constructor
  · rintro rfl
    obtain ⟨m, hm⟩ := exists_replicate_dropWhile cs
    obtain ⟨n, hn⟩ := exists_replicate_dropWhile (cs.dropWhile (· == '/')).reverse
    refine ⟨⟨m, n, ?_⟩, ?_, ?_⟩
    · conv_lhs => rw [hm, ← (cs.dropWhile (· == '/')).reverse_reverse, hn]
      simp [trimSlashes]
    · rw [← dropWhile_trimSlashes]
      exact hhead _
    · rw [trimSlashes, List.getLast?_reverse]
      exact hhead _
  · rintro ⟨⟨m, n, rfl⟩, hfirst, hlast⟩
    rw [trimSlashes, List.append_assoc]
    cases path with
    | nil =>
      have hall :
          (List.replicate m '/' ++ ([] ++ List.replicate n '/')).dropWhile (· == '/') = [] := by
        simp
      rw [hall]
      rfl
    | cons c cs =>
      rw [dropWhile_replicate_append m (by simpa using hfirst), List.reverse_append,
        List.reverse_replicate, dropWhile_replicate_append n (by rwa [List.head?_reverse]),
        List.reverse_reverse]

/-! ## Endpoints -/

/-- Behind a scheme the authority and the path are read. -/
theorem parseChars_of_isScheme {scheme authority : List Char} (hscheme : IsScheme scheme)
    (hauthority : '/' ∉ authority) (path : Option (List Char)) :
    parseChars (scheme ++ ':' :: '/' :: '/' :: (authority ++ pathSuffix path)) =
      (parseAuthority authority).map fun (host, port) =>
        { scheme := String.ofList (scheme.map Char.toLower)
          host := String.ofList host
          port
          path := String.ofList (trimSlashes (path.getD [])) } := by
  obtain ⟨htake, hdrop⟩ := span_pathSuffix hauthority path
  have hgood : (scheme.isEmpty || !scheme.all isSchemeChar) = false := by
    simp only [Bool.or_eq_false_iff, Bool.not_eq_false', List.all_eq_true]
    exact ⟨by simpa using hscheme.1, hscheme.2⟩
  rw [parseChars, splitScheme_of_isScheme hscheme]
  simp only [hgood, Bool.false_eq_true, if_false, htake, hdrop]

/-- The text before the first `://` must be a scheme. -/
theorem parseChars_of_not_isScheme {scheme : List Char} (h : splitScheme [] cs = some (scheme, rest))
    (hscheme : ¬IsScheme scheme) :
    parseChars cs = .error (.invalidScheme (String.ofList scheme)) := by
  have hbad : (scheme.isEmpty || !scheme.all isSchemeChar) = true := by
    by_contra hgood
    simp only [Bool.or_eq_true, not_or, List.isEmpty_iff, Bool.not_eq_true', Bool.not_eq_false,
      List.all_eq_true] at hgood
    exact hscheme hgood
  rw [parseChars, h]
  simp only [hbad, if_true]

/-- A text has one of three shapes. -/
inductive Split (cs : List Char) : Prop
  /-- There is no `://`. -/
  | missing (hsplit : splitScheme [] cs = none) (h : ¬[':', '/', '/'] <:+: cs)
  /-- The text before the first `://` is no scheme. -/
  | invalid {scheme rest : List Char} (hsplit : splitScheme [] cs = some (scheme, rest))
    (h : SplitsAt scheme rest cs) (hscheme : ¬IsScheme scheme)
  /-- There are a scheme and an authority. -/
  | valid {scheme authority : List Char} (path : Option (List Char)) (hscheme : IsScheme scheme)
    (hauthority : '/' ∉ authority)
    (h : cs = scheme ++ ':' :: '/' :: '/' :: (authority ++ pathSuffix path))

theorem split (cs : List Char) : Split cs := by
  have hspec := splitScheme_spec [] cs
  cases hsplit : splitScheme [] cs with
  | none =>
    rw [hsplit] at hspec
    exact .missing hsplit hspec
  | some found =>
    obtain ⟨front, rest⟩ := found
    rw [hsplit] at hspec
    obtain ⟨scheme, hfront, h⟩ := hspec
    obtain rfl : front = scheme := hfront
    by_cases hscheme : IsScheme front
    · obtain ⟨authority, path, hauthority, rfl⟩ := exists_authority rest
      exact .valid path hscheme hauthority h.1
    · exact .invalid hsplit h hscheme

/-- A text is split at its first `://` in one way. -/
theorem SplitsAt.unique {scheme scheme' rest' : List Char} (h : SplitsAt scheme rest cs)
    (h' : SplitsAt scheme' rest' cs) : scheme = scheme' := by
  obtain ⟨htext, hfirst⟩ := h
  obtain ⟨htext', hfirst'⟩ := h'
  have hlength : scheme.length = scheme'.length :=
    Nat.le_antisymm (hfirst _ _ htext') (hfirst' _ _ htext)
  exact (List.append_inj (htext.symm.trans htext') hlength).1

/-- In front of a scheme there is no `://`. -/
theorem splitsAt_of_isScheme {scheme : List Char} (h : IsScheme scheme) (rest : List Char) :
    SplitsAt scheme rest (scheme ++ ':' :: '/' :: '/' :: rest) := by
  have hspec := splitScheme_spec [] (scheme ++ ':' :: '/' :: '/' :: rest)
  rw [splitScheme_of_isScheme h] at hspec
  obtain ⟨scheme', hscheme, hsplits⟩ := hspec
  replace hscheme : scheme = scheme' := hscheme
  subst hscheme
  exact hsplits

/-- What is read from an endpoint that is written is what is denoted. -/
theorem parseChars_text_eq_ok_iff {t : EndpointText} (h : t.WellFormed) {e : Endpoint} :
    parseChars t.text = .ok e ↔ t.Denotes e := by
  rw [EndpointText.text, parseChars_of_isScheme h.scheme h.slash_notMem]
  constructor
  · intro hread
    obtain ⟨⟨host, port⟩, hauthority, rfl⟩ := exists_of_map_eq_ok hread
    obtain ⟨a, hwell, htext, rfl, hport⟩ := parseAuthority_eq_ok_iff.1 hauthority
    obtain rfl : a = t.authority := hwell.text_inj h.authority htext
    obtain ⟨hpath, hhead, hlast⟩ := trimSlashes_eq_iff.1 (rfl : trimSlashes (t.path.getD []) = _)
    exact ⟨rfl, rfl, hport, by simpa using hpath, by simpa using hhead, by simpa using hlast⟩
  · rintro ⟨hscheme, hhost, hport, hpath, hhead, hlast⟩
    have hauthority : parseAuthority t.authority.text = .ok (t.authority.host, e.port) :=
      parseAuthority_eq_ok_iff.2 ⟨t.authority, h.authority, rfl, rfl, hport⟩
    rw [hauthority, trimSlashes_eq_iff.2 ⟨hpath, hhead, hlast⟩]
    show Except.ok (⟨String.ofList (t.scheme.map Char.toLower), String.ofList t.authority.host, e.port,
      String.ofList e.path.toList⟩ : Endpoint) = .ok e
    rw [← hscheme, ← hhost, String.ofList_toList]

/-- Behind a scheme, the authority decides whether reading fails, and how. -/
theorem parseChars_eq_error_iff {scheme authority : List Char} (hscheme : IsScheme scheme)
    (hauthority : '/' ∉ authority) (path : Option (List Char)) {err : ParseError} :
    parseChars (scheme ++ ':' :: '/' :: '/' :: (authority ++ pathSuffix path)) = .error err ↔
      Misfit authority err := by
  rw [parseChars_of_isScheme hscheme hauthority, map_eq_error_iff, parseAuthority_eq_error_iff]

/-- A text is read as an endpoint exactly if it is written as one, and denotes what is read. -/
theorem parseChars_eq_ok_iff {e : Endpoint} :
    parseChars cs = .ok e ↔ ∃ t : EndpointText, t.WellFormed ∧ t.text = cs ∧ t.Denotes e := by
  constructor
  · intro h
    cases split cs with
    | missing hsplit =>
      rw [parseChars, hsplit] at h
      cases h
    | invalid hsplit _ hscheme =>
      rw [parseChars_of_not_isScheme hsplit hscheme] at h
      cases h
    | @valid scheme authority path hscheme hauthority htext =>
      rw [htext, parseChars_of_isScheme hscheme hauthority] at h
      obtain ⟨⟨host, port⟩, hread, -⟩ := exists_of_map_eq_ok h
      obtain ⟨a, hwell, rfl, -, -⟩ := parseAuthority_eq_ok_iff.1 hread
      let t : EndpointText := ⟨scheme, a, path⟩
      have ht : t.WellFormed := ⟨hscheme, hauthority, hwell⟩
      rw [← parseChars_of_isScheme hscheme hauthority] at h
      exact ⟨t, ht, htext.symm, (parseChars_text_eq_ok_iff ht).1 h⟩
  · rintro ⟨t, ht, rfl, hdenotes⟩
    exact (parseChars_text_eq_ok_iff ht).2 hdenotes

/-- There is no `://` exactly if this is what is reported. -/
theorem parseChars_eq_missingScheme_iff :
    parseChars cs = .error .missingScheme ↔ ¬[':', '/', '/'] <:+: cs := by
  cases split cs with
  | missing hsplit h =>
    rw [parseChars, hsplit]
    exact iff_of_true rfl h
  | invalid hsplit h hscheme =>
    rw [parseChars_of_not_isScheme hsplit hscheme]
    exact iff_of_false (fun h => by cases h) (not_not.2 h.isInfix)
  | valid path hscheme hauthority htext =>
    rw [htext, parseChars_eq_error_iff hscheme hauthority]
    exact iff_of_false (fun h => by cases h) (not_not.2 (splitsAt_of_isScheme hscheme _).isInfix)

/-- The text before the first `://` is no scheme exactly if it is reported. -/
theorem parseChars_eq_invalidScheme_iff {scheme : String} :
    parseChars cs = .error (.invalidScheme scheme) ↔
      (∃ rest, SplitsAt scheme.toList rest cs) ∧ ¬IsScheme scheme.toList := by
  cases split cs with
  | missing hsplit h =>
    rw [parseChars, hsplit]
    refine iff_of_false (fun h => by cases h) ?_
    rintro ⟨⟨rest, hsplits⟩, -⟩
    exact h hsplits.isInfix
  | @invalid front rest hsplit h hscheme =>
    rw [parseChars_of_not_isScheme hsplit hscheme]
    constructor
    · intro heq
      cases heq
      rw [String.toList_ofList]
      exact ⟨⟨rest, h⟩, hscheme⟩
    · rintro ⟨⟨rest', hsplits⟩, -⟩
      rw [h.unique hsplits, String.ofList_toList]
  | valid path hscheme hauthority htext =>
    subst htext
    rw [parseChars_eq_error_iff hscheme hauthority]
    refine iff_of_false (fun h => by cases h) ?_
    rintro ⟨⟨rest, hsplits⟩, hnot⟩
    rw [hsplits.unique (splitsAt_of_isScheme hscheme _)] at hnot
    exact hnot hscheme

/-- Every text that is written as an endpoint denotes one. -/
theorem exists_denotes {t : EndpointText} (h : t.WellFormed) : ∃ e, t.Denotes e := by
  have hport : (t.authority.port.map fun N => UInt16.ofNat N.value).map UInt16.toNat =
      t.authority.port.map PortText.value := by
    rw [Option.map_map]
    refine Option.map_congr fun N hN => ?_
    exact UInt16.toNat_ofNat_of_lt' (Nat.lt_succ_of_le (h.authority.port N hN).value_le)
  obtain ⟨hpath, hhead, hlast⟩ := trimSlashes_eq_iff.1 (rfl : trimSlashes (t.path.getD []) = _)
  exact ⟨⟨_, _, _, String.ofList (trimSlashes (t.path.getD []))⟩, rfl, rfl, hport, by simpa using hpath,
    by simpa using hhead, by simpa using hlast⟩

/-- Endpoints are read by one grammar, and in one way.

* Reading succeeds exactly if the text is written as an endpoint, and what is read is what is denoted.
* There is at most one way to take a text apart.
* What is reported otherwise is the first of three things that is the case: there is no `://`, or the
  text before the first one is no scheme, or the authority behind the scheme does not fit. -/
theorem parse_reads_one_grammar (s : String) :
    ((∃ e, parse s = .ok e) ↔ ∃ t : EndpointText, t.WellFormed ∧ t.text = s.toList) ∧
      (∀ e, parse s = .ok e ↔
        ∃ t : EndpointText, t.WellFormed ∧ t.text = s.toList ∧ t.Denotes e) ∧
      (∀ t u : EndpointText, t.WellFormed → u.WellFormed →
        t.text = s.toList → u.text = s.toList → t = u) ∧
      (parse s = .error .missingScheme ↔ ¬[':', '/', '/'] <:+: s.toList) ∧
      (∀ scheme, parse s = .error (.invalidScheme scheme) ↔
        (∃ rest, SplitsAt scheme.toList rest s.toList) ∧ ¬IsScheme scheme.toList) ∧
      ∀ scheme authority path, IsScheme scheme → '/' ∉ authority →
        s.toList = scheme ++ ':' :: '/' :: '/' :: (authority ++ pathSuffix path) →
          ∀ err, parse s = .error err ↔ Misfit authority err := by
  refine ⟨⟨?_, ?_⟩, fun e => parseChars_eq_ok_iff, ?_, parseChars_eq_missingScheme_iff,
    fun scheme => parseChars_eq_invalidScheme_iff, ?_⟩
  · rintro ⟨e, h⟩
    obtain ⟨t, ht, htext, -⟩ := parseChars_eq_ok_iff.1 h
    exact ⟨t, ht, htext⟩
  · rintro ⟨t, ht, htext⟩
    obtain ⟨e, hdenotes⟩ := exists_denotes ht
    exact ⟨e, parseChars_eq_ok_iff.2 ⟨t, ht, htext, hdenotes⟩⟩
  · intro t u ht hu htext hutext
    exact ht.text_inj hu (htext.trans hutext.symm)
  · intro scheme authority path hscheme hauthority htext err
    rw [parse, htext]
    exact parseChars_eq_error_iff hscheme hauthority path

/-- An address with a port behind a plus sign is written in one way, and without the bracket that
closes it, it does not fit. -/
theorem loopback_is_written_in_one_way :
    let t : EndpointText :=
      ⟨"TCP".toList, .literal "::1".toList (some ⟨true, "080".toList⟩), some "/Echo/".toList⟩
    parse "TCP://[::1]:+080//Echo/" = .ok ⟨"tcp", "::1", some 80, "Echo"⟩ ∧
      (∀ u : EndpointText, u.WellFormed → u.text = "TCP://[::1]:+080//Echo/".toList → u = t) ∧
      parse "tcp://[::1/Echo" = .error (.invalidHost "[::1") := by
  intro t
  have ht : t.WellFormed :=
    { scheme := ⟨by decide, List.all_eq_true.1 rfl⟩
      slash_notMem := show '/' ∉ "[::1]:+080".toList by decide
      authority := ⟨Address.Literal.isSome_parse?_iff.1 (by decide), fun N hN => by
        cases hN
        exact ⟨by decide, List.all_eq_true.1 rfl, by decide⟩⟩ }
  have htext : t.text = "TCP://[::1]:+080//Echo/".toList := rfl
  obtain ⟨-, hok, hunique, -⟩ := parse_reads_one_grammar "TCP://[::1]:+080//Echo/"
  obtain ⟨-, -, -, -, -, herror⟩ := parse_reads_one_grammar "tcp://[::1/Echo"
  refine ⟨(hok _).2 ⟨t, ht, htext, rfl, rfl, rfl, ⟨1, 1, rfl⟩, by decide, by decide⟩, ?_, ?_⟩
  · intro u hu hutext
    exact hunique u t hu ht hutext htext
  · refine (herror "tcp".toList "[::1".toList (some "Echo".toList)
      ⟨by decide, List.all_eq_true.1 rfl⟩ (by decide) rfl _).2 (.host (by decide) ?_)
    rintro ⟨host, after, -, hbrackets, -⟩
    have hclosed : ']' ∈ "[::1".toList := by
      rw [hbrackets]
      simp
    exact absurd hclosed (by decide)

end Endpoint

end RemoteCall
