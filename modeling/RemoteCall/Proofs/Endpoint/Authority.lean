import RemoteCall.Proofs.Address.Grammar
import RemoteCall.Proofs.Endpoint.Normal
/-!
# The grammar of authorities

An authority is an address literal in brackets or a name, with a port behind a colon or none
(`AuthorityText`), and a port is a number in decimal, maybe behind a plus sign (`PortText`).

The reader looks for the first closing bracket and the last colon. For ports and for authorities there
is one statement on what is read and one on how reading fails: `parsePort_eq_ok_iff` and
`parsePort_eq_error_iff`, `parseAuthority_eq_ok_iff` and `parseAuthority_eq_error_iff`.
-/

namespace RemoteCall

open Address (IsLiteral Literal)

/-! ## What is written -/

/-- A port as it is written. -/
structure PortText where
  /-- Whether there is a plus sign. -/
  plus : Bool
  /-- The digits. -/
  digits : List Char

/-- An authority as it is written. -/
inductive AuthorityText where
  /-- An address literal in brackets, with a port or without. -/
  | literal (host : List Char) (port : Option PortText)
  /-- A name, with a port or without. -/
  | name (host : List Char) (port : Option PortText)

namespace PortText

/-- The characters of a port. -/
def text (N : PortText) : List Char :=
  if N.plus then '+' :: N.digits else N.digits

/-- The number that the digits denote. -/
def value (N : PortText) : Nat :=
  Text.ofDigits 10 (N.digits.map fun c => c.toNat - '0'.toNat)

/-- There is a digit, all digits are decimal, and the number is that of a port. -/
structure WellFormed (N : PortText) : Prop where
  /-- There is a digit. -/
  digits_ne : N.digits ≠ []
  /-- The digits are decimal. -/
  isDigit : ∀ c ∈ N.digits, c.isDigit
  /-- The number is that of a port. -/
  value_le : N.value ≤ 65535

end PortText

/-- What stands behind a host. -/
def portSuffix : Option PortText → List Char
  | none => []
  | some N => ':' :: N.text

namespace AuthorityText

/-- The characters of an authority. -/
def text : AuthorityText → List Char
  | literal host port => '[' :: (host ++ ']' :: portSuffix port)
  | name host port => host ++ portSuffix port

/-- The host, without brackets. -/
def host : AuthorityText → List Char
  | literal host _ => host
  | name host _ => host

/-- The port. -/
def port : AuthorityText → Option PortText
  | literal _ port => port
  | name _ port => port

/-- In brackets there is an address literal. A name does not begin with a bracket, and has no colon if
no port follows. -/
def WellFormed : AuthorityText → Prop
  | literal host port => IsLiteral host ∧ ∀ N ∈ port, N.WellFormed
  | name host port =>
    host.head? ≠ some '[' ∧ (port = none → ':' ∉ host) ∧ ∀ N ∈ port, N.WellFormed

end AuthorityText

namespace Endpoint

variable {cs : List Char}

/-! ## Separators -/

/-- A text is taken apart at the first occurrence of a separator in one way. -/
theorem append_cons_inj_first {c : Char} {xs xs' ys ys' : List Char} (hxs : c ∉ xs) (hxs' : c ∉ xs')
    (h : xs ++ c :: ys = xs' ++ c :: ys') : xs = xs' ∧ ys = ys' := by
  obtain ⟨htake, hdrop⟩ := span_separator hxs ys
  obtain ⟨htake', hdrop'⟩ := span_separator hxs' ys'
  rw [h] at htake hdrop
  exact ⟨htake.symm.trans htake', (List.cons.inj (hdrop.symm.trans hdrop')).2⟩

/-- The same holds for the last occurrence. -/
theorem append_cons_inj_last {c : Char} {xs xs' ys ys' : List Char} (hys : c ∉ ys) (hys' : c ∉ ys')
    (h : xs ++ c :: ys = xs' ++ c :: ys') : xs = xs' ∧ ys = ys' := by
  have hreverse : ys.reverse ++ c :: xs.reverse = ys'.reverse ++ c :: xs'.reverse := by
    simpa using congrArg List.reverse h
  obtain ⟨hback, hfront⟩ :=
    append_cons_inj_first (mt List.mem_reverse.1 hys) (mt List.mem_reverse.1 hys') hreverse
  exact ⟨List.reverse_injective hfront, List.reverse_injective hback⟩

/-- A text in which a separator occurs has a last occurrence of it. -/
theorem eq_append_cons_last {c : Char} (h : c ∈ cs) : ∃ xs ys, cs = xs ++ c :: ys ∧ c ∉ ys := by
  obtain ⟨ys, xs, hreverse, hys⟩ := List.eq_append_cons_of_mem (List.mem_reverse.2 h)
  refine ⟨xs.reverse, ys.reverse, ?_, mt List.mem_reverse.1 hys⟩
  rw [← cs.reverse_reverse, hreverse]
  simp

end Endpoint

/-! ## Ports -/

namespace PortText

variable {N N' : PortText} {cs : List Char}

/-- The port that is written with some characters. -/
def ofChars : List Char → PortText
  | '+' :: digits => ⟨true, digits⟩
  | digits => ⟨false, digits⟩

theorem text_ofChars (cs : List Char) : (ofChars cs).text = cs := by
  unfold ofChars
  split <;> rfl

/-- A digit is no plus sign, so the characters tell the port. -/
theorem WellFormed.ofChars_text (h : N.WellFormed) : ofChars N.text = N := by
  obtain ⟨plus, digits⟩ := N
  cases plus with
  | true => rfl
  | false =>
    show ofChars digits = ⟨false, digits⟩
    unfold ofChars
    split
    next digits' => exact absurd (h.isDigit '+' List.mem_cons_self) (by decide)
    next => rfl

theorem WellFormed.text_inj (h : N.WellFormed) (h' : N'.WellFormed) (htext : N.text = N'.text) :
    N = N' := by
  rw [← h.ofChars_text, htext, h'.ofChars_text]

/-- A character of a port is a digit or a plus sign. -/
theorem WellFormed.isDigit_or (h : N.WellFormed) {c : Char} (hc : c ∈ N.text) :
    c.isDigit ∨ c = '+' := by
  obtain ⟨plus, digits⟩ := N
  cases plus with
  | false => exact .inl (h.isDigit c hc)
  | true =>
    rcases List.mem_cons.1 hc with rfl | hc
    · exact .inr rfl
    · exact .inl (h.isDigit c hc)

/-- So a port has no colon. -/
theorem WellFormed.colon_notMem (h : N.WellFormed) : ':' ∉ N.text := fun hc =>
  (h.isDigit_or hc).elim (fun hdigit => absurd hdigit (by decide))
    fun hplus => absurd hplus (by decide)

/-- The values of decimal digits are counted from zero. -/
theorem filterMap_digit? {digits : List Char} (h : ∀ c ∈ digits, c.isDigit) :
    digits.filterMap (Text.digit? 10) = digits.map fun c => c.toNat - '0'.toNat := by
  induction digits with
  | nil => rfl
  | cons c cs ih =>
    obtain ⟨hc, hcs⟩ := List.forall_mem_cons.1 h
    rw [List.filterMap_cons_some (by rw [Text.digit?_ten, if_pos hc]), List.map_cons, ih hcs]

/-- Characters are read as a number exactly if they are those of a port. -/
theorem natural?_eq_some_iff {n : Nat} :
    Text.natural? UInt16.size cs = some n ↔ (ofChars cs).WellFormed ∧ (ofChars cs).value = n := by
  have hnatural : Text.natural? UInt16.size cs =
      if (ofChars cs).digits.isEmpty || !(ofChars cs).digits.all Char.isDigit then none
      else Text.decimalBelow? UInt16.size ((ofChars cs).digits.filterMap (Text.digit? 10)) := by
    cases cs with
    | nil => rfl
    | cons c cs =>
      by_cases hplus : c = '+'
      · subst hplus
        rfl
      · simp [Text.natural?, ofChars, hplus]
  rw [hnatural]
  split
  next hbad =>
    simp only [Bool.or_eq_true, List.isEmpty_iff, Bool.not_eq_true', ← Bool.not_eq_true,
      List.all_eq_true] at hbad
    refine iff_of_false (by simp) fun h => ?_
    exact hbad.elim h.1.digits_ne fun hdigits => hdigits h.1.isDigit
  next hgood =>
    simp only [Bool.or_eq_true, not_or, List.isEmpty_iff, Bool.not_eq_true', Bool.not_eq_false,
      List.all_eq_true] at hgood
    obtain ⟨hne, hdigits⟩ := hgood
    rw [filterMap_digit? hdigits, Text.decimalBelow?_eq (by decide), ← value]
    split
    next hlt =>
      have hwell : (ofChars cs).WellFormed := ⟨hne, hdigits, Nat.le_of_lt_succ hlt⟩
      simp [hwell]
    next hge => exact iff_of_false (by simp) fun h => hge (Nat.lt_succ_of_le h.1.value_le)

end PortText

/-- The characters of a port. -/
def IsPort (cs : List Char) : Prop :=
  ∃ N : PortText, N.WellFormed ∧ N.text = cs

namespace Endpoint

variable {cs : List Char}

/-- A port is read exactly if it is written, and the number is that of the digits. -/
theorem parsePort_eq_ok_iff {port : UInt16} :
    parsePort cs = .ok port ↔ ∃ N : PortText, N.WellFormed ∧ N.text = cs ∧ N.value = port.toNat := by
  rw [parsePort]
  constructor
  · intro h
    split at h
    next n hread =>
      cases h
      obtain ⟨hwell, rfl⟩ := PortText.natural?_eq_some_iff.1 hread
      refine ⟨_, hwell, PortText.text_ofChars cs, ?_⟩
      rw [UInt16.toNat_ofNat_of_lt' (Nat.lt_succ_of_le hwell.value_le)]
    next => cases h
  · rintro ⟨N, hwell, rfl, hvalue⟩
    have hread : Text.natural? UInt16.size N.text = some N.value :=
      PortText.natural?_eq_some_iff.2 ⟨hwell.ofChars_text.symm ▸ hwell, by rw [hwell.ofChars_text]⟩
    rw [hread, hvalue]
    exact congrArg Except.ok UInt16.ofNat_toNat

/-- Any other text is reported as it is. -/
theorem parsePort_eq_error_iff {err : ParseError} :
    parsePort cs = .error err ↔ err = .invalidPort (String.ofList cs) ∧ ¬IsPort cs := by
  cases hread : parsePort cs with
  | ok port =>
    obtain ⟨N, hwell, htext, -⟩ := parsePort_eq_ok_iff.1 hread
    exact iff_of_false (fun h => by cases h) fun h => h.2 ⟨N, hwell, htext⟩
  | error err' =>
    have herr : err' = .invalidPort (String.ofList cs) := by
      rw [parsePort] at hread
      split at hread <;> cases hread
      rfl
    have hnot : ¬IsPort cs := by
      rintro ⟨N, hwell, rfl⟩
      have hok : parsePort N.text = .ok (UInt16.ofNat N.value) :=
        parsePort_eq_ok_iff.2 ⟨N, hwell, rfl,
          (UInt16.toNat_ofNat_of_lt' (Nat.lt_succ_of_le hwell.value_le)).symm⟩
      rw [hok] at hread
      cases hread
    rw [herr]
    constructor
    · rintro h
      cases h
      exact ⟨rfl, hnot⟩
    · rintro ⟨rfl, -⟩
      rfl

/-! ## Authorities -/

/-- How an authority can fail to be one. -/
inductive Misfit (authority : List Char) : ParseError → Prop
  /-- There is a bracket in front, but not an address literal in brackets, with a colon or nothing
  behind them. -/
  | host (hopen : authority.head? = some '[')
    (hnot : ¬∃ host after, IsLiteral host ∧ authority = '[' :: (host ++ ']' :: after) ∧
      ∀ c ∈ after.head?, c = ':') :
    Misfit authority (.invalidHost (String.ofList authority))
  /-- There is an address literal in brackets in front of the colon, or there is no bracket in front
  and this is the last colon, but no port stands behind it. -/
  | port {front port : List Char} (htext : authority = front ++ ':' :: port)
    (hfront : (∃ host, IsLiteral host ∧ front = '[' :: (host ++ [']'])) ∨
      front.head? ≠ some '[' ∧ ':' ∉ port)
    (hport : ¬IsPort port) : Misfit authority (.invalidPort (String.ofList port))

/-- An address literal has no brackets and no slashes. -/
theorem notMem_of_isLiteral (h : IsLiteral cs) {c : Char} (hc : Address.isLiteralChar c = false) :
    c ∉ cs := by
  intro hmem
  obtain ⟨l, hl⟩ := Option.isSome_iff_exists.1 (Literal.isSome_parse?_iff.2 h)
  rw [Literal.isLiteralChar_of_parse? hl c hmem] at hc
  cases hc

/-- What is done behind the bracket that closes an address. -/
theorem parseBracketed_append (authority : List Char) (hcs : ']' ∉ cs) (after : List Char) :
    parseBracketed authority (cs ++ ']' :: after) =
      if (Literal.parse? cs).isSome then
        match after with
        | [] => .ok (cs, none)
        | ':' :: port => (parsePort port).map fun p => (cs, some p)
        | _ => .error (.invalidHost (String.ofList authority))
      else .error (.invalidHost (String.ofList authority)) := by
  obtain ⟨htake, hdrop⟩ := span_separator hcs after
  simp only [parseBracketed, htake, hdrop]
  cases Literal.parse? cs with
  | none => rfl
  | some l =>
    rw [if_pos (show (some l).isSome = true from rfl)]
    cases after with
    | nil => rfl
    | cons c port =>
      by_cases hc : c = ':'
      · subst hc
        rfl
      · simp [hc]

/-- No bracket closes the address. -/
theorem parseBracketed_of_notMem (authority : List Char) (hcs : ']' ∉ cs) :
    parseBracketed authority cs = .error (.invalidHost (String.ofList authority)) := by
  have hdrop : cs.dropWhile (· != ']') = [] := by
    rw [List.dropWhile_eq_nil_iff]
    intro c hc
    exact bne_iff_ne.2 fun h => hcs (h ▸ hc)
  simp only [parseBracketed, hdrop]

/-- The port behind a host is read with it. -/
theorem map_parsePort_eq_ok_iff {front host : List Char} {port : Option UInt16} :
    ((parsePort cs).map fun p => (front, some p)) = .ok (host, port) ↔
      host = front ∧ ∃ N : PortText, N.WellFormed ∧ N.text = cs ∧
        port.map UInt16.toNat = some N.value := by
  constructor
  · intro h
    obtain ⟨p, hp, hpair⟩ := exists_of_map_eq_ok h
    obtain ⟨rfl, rfl⟩ := Prod.mk.inj hpair
    obtain ⟨N, hwell, htext, hvalue⟩ := parsePort_eq_ok_iff.1 hp
    exact ⟨rfl, N, hwell, htext, congrArg some hvalue.symm⟩
  · rintro ⟨rfl, N, hwell, htext, hvalue⟩
    obtain ⟨p, rfl, hp⟩ := Option.map_eq_some_iff.1 hvalue
    rw [parsePort_eq_ok_iff.2 ⟨N, hwell, htext, hp.symm⟩]
    rfl

/-- An error stays when a result is changed. -/
theorem map_eq_error_iff {ε α β : Type} {f : α → β} {x : Except ε α} {err : ε} :
    x.map f = .error err ↔ x = .error err := by
  cases x <;> simp [Except.map]

/-- An authority has one of four shapes. -/
inductive Shape : List Char → Prop
  /-- A bracket is not closed. -/
  | unclosed {inside : List Char} (h : ']' ∉ inside) : Shape ('[' :: inside)
  /-- A bracket is closed. -/
  | closed {inside : List Char} (after : List Char) (h : ']' ∉ inside) :
    Shape ('[' :: (inside ++ ']' :: after))
  /-- There is no bracket in front, and no colon. -/
  | plain {host : List Char} (hhead : host.head? ≠ some '[') (hcolon : ':' ∉ host) : Shape host
  /-- There is no bracket in front, but there is a last colon. -/
  | colon {host port : List Char} (hhead : host.head? ≠ some '[') (hport : ':' ∉ port) :
    Shape (host ++ ':' :: port)

theorem shape (authority : List Char) : Shape authority := by
  by_cases hhead : authority.head? = some '['
  · obtain ⟨inside, rfl⟩ := List.head?_eq_some_iff.1 hhead
    by_cases hclosed : ']' ∈ inside
    · obtain ⟨host, after, rfl, hhost⟩ := List.eq_append_cons_of_mem hclosed
      exact .closed after hhost
    · exact .unclosed hclosed
  · by_cases hcolon : ':' ∈ authority
    · obtain ⟨host, port, rfl, hport⟩ := eq_append_cons_last hcolon
      refine .colon (fun h => hhead ?_) hport
      rw [List.head?_append, h]
      rfl
    · exact .plain hhead hcolon

/-- What is read as an authority is written as one, with its host and the number of its port. -/
theorem exists_text_of_parseAuthority {host : List Char} {port : Option UInt16}
    (h : parseAuthority cs = .ok (host, port)) :
    ∃ a : AuthorityText, a.WellFormed ∧ a.text = cs ∧ a.host = host ∧
      port.map UInt16.toNat = a.port.map PortText.value := by
  cases shape cs with
  | unclosed hclosed =>
    rw [parseAuthority, parseBracketed_of_notMem _ hclosed] at h
    cases h
  | @closed inside after hclosed =>
    rw [parseAuthority, parseBracketed_append _ hclosed] at h
    split at h
    next hliteral =>
      rw [Literal.isSome_parse?_iff] at hliteral
      split at h
      next =>
        cases h
        exact ⟨.literal host none, ⟨hliteral, by simp⟩, rfl, rfl, rfl⟩
      next port' =>
        obtain ⟨rfl, N, hwell, rfl, hvalue⟩ := map_parsePort_eq_ok_iff.1 h
        exact ⟨.literal host (some N), ⟨hliteral, by simpa using hwell⟩, rfl, rfl, hvalue⟩
      next => cases h
    next => cases h
  | plain hhead hcolon =>
    rw [parseAuthority_plain hhead hcolon] at h
    cases h
    exact ⟨.name cs none, ⟨hhead, fun _ => hcolon, by simp⟩, List.append_nil cs, rfl, rfl⟩
  | colon hhead hport =>
    rw [parseAuthority_colon hhead hport] at h
    obtain ⟨rfl, N, hwell, rfl, hvalue⟩ := map_parsePort_eq_ok_iff.1 h
    exact ⟨.name host (some N), ⟨hhead, by simp, by simpa using hwell⟩, rfl, rfl, hvalue⟩

/-- What is written as an authority is read as one. -/
theorem parseAuthority_text {a : AuthorityText} (hwell : a.WellFormed)
    {port : Option UInt16} (hport : port.map UInt16.toNat = a.port.map PortText.value) :
    parseAuthority a.text = .ok (a.host, port) := by
  cases a with
  | literal host' port' =>
    obtain ⟨hliteral, hwell⟩ := hwell
    have hbracket : ']' ∉ host' := notMem_of_isLiteral hliteral (by decide)
    show parseBracketed _ (host' ++ ']' :: portSuffix port') = .ok (host', port)
    rw [parseBracketed_append _ hbracket, if_pos (Literal.isSome_parse?_iff.2 hliteral)]
    cases port' with
    | none =>
      obtain rfl : port = none := Option.map_eq_none_iff.1 hport
      rfl
    | some N =>
      exact map_parsePort_eq_ok_iff.2 ⟨rfl, N, hwell N rfl, rfl, hport⟩
  | name host' port' =>
    obtain ⟨hhead, hcolon, hwell⟩ := hwell
    cases port' with
    | none =>
      obtain rfl : port = none := Option.map_eq_none_iff.1 hport
      show parseAuthority (host' ++ []) = .ok (host', none)
      rw [List.append_nil]
      exact parseAuthority_plain hhead (hcolon rfl)
    | some N =>
      show parseAuthority (host' ++ ':' :: N.text) = .ok (host', port)
      rw [parseAuthority_colon hhead (hwell N rfl).colon_notMem]
      exact map_parsePort_eq_ok_iff.2 ⟨rfl, N, hwell N rfl, rfl, hport⟩

/-- An authority is read exactly if it is written, with its host and the number of its port. -/
theorem parseAuthority_eq_ok_iff {host : List Char} {port : Option UInt16} :
    parseAuthority cs = .ok (host, port) ↔
      ∃ a : AuthorityText, a.WellFormed ∧ a.text = cs ∧ a.host = host ∧
        port.map UInt16.toNat = a.port.map PortText.value := by
  constructor
  · exact exists_text_of_parseAuthority
  · rintro ⟨a, hwell, rfl, rfl, hport⟩
    exact parseAuthority_text hwell hport

/-- When reading an authority fails, the error says how it does not fit. -/
theorem misfit_of_parseAuthority {err : ParseError} (h : parseAuthority cs = .error err) :
    Misfit cs err := by
  cases shape cs with
  | @unclosed inside hclosed =>
    rw [parseAuthority, parseBracketed_of_notMem _ hclosed] at h
    cases h
    refine .host rfl ?_
    rintro ⟨host, after, -, htext, -⟩
    exact hclosed (by simp [(List.cons.inj htext).2])
  | @closed inside after hclosed =>
    -- An address literal in these brackets would be what is inside them.
    have hinside : ∀ host after', IsLiteral host →
        '[' :: (inside ++ ']' :: after) = '[' :: (host ++ ']' :: after') →
          inside = host ∧ after = after' := fun host after' hliteral htext =>
      append_cons_inj_first hclosed (notMem_of_isLiteral hliteral (by decide))
        (List.cons.inj htext).2
    rw [parseAuthority, parseBracketed_append _ hclosed] at h
    split at h
    next hliteral =>
      split at h
      next => cases h
      next port =>
        obtain ⟨rfl, hport⟩ := parsePort_eq_error_iff.1 (map_eq_error_iff.1 h)
        refine .port ?_ (.inl ⟨inside, Literal.isSome_parse?_iff.1 hliteral, rfl⟩) hport
        simp
      next hnil hcolon =>
        cases h
        refine .host rfl ?_
        rintro ⟨host, after', hhost, htext, hafter⟩
        obtain ⟨rfl, rfl⟩ := hinside host after' hhost htext
        cases after with
        | nil => exact hnil rfl
        | cons c port =>
          obtain rfl : c = ':' := hafter c rfl
          exact hcolon port rfl
    next hliteral =>
      cases h
      refine .host rfl ?_
      rintro ⟨host, after', hhost, htext, -⟩
      obtain ⟨rfl, -⟩ := hinside host after' hhost htext
      exact hliteral (Literal.isSome_parse?_iff.2 hhost)
  | plain hhead hcolon =>
    rw [parseAuthority_plain hhead hcolon] at h
    cases h
  | colon hhead hport =>
    rw [parseAuthority_colon hhead hport] at h
    obtain ⟨rfl, hnot⟩ := parsePort_eq_error_iff.1 (map_eq_error_iff.1 h)
    exact .port rfl (.inr ⟨hhead, hport⟩) hnot

/-- An authority that does not fit is not read. -/
theorem Misfit.parseAuthority {err : ParseError} (h : Misfit cs err) :
    Endpoint.parseAuthority cs = .error err := by
  cases h with
  | host hopen hnot =>
    obtain ⟨inside, rfl⟩ := List.head?_eq_some_iff.1 hopen
    rw [Endpoint.parseAuthority]
    by_cases hclosed : ']' ∈ inside
    · obtain ⟨host, after, rfl, hhost⟩ := List.eq_append_cons_of_mem hclosed
      rw [parseBracketed_append _ hhost]
      split
      next hliteral =>
        rw [Literal.isSome_parse?_iff] at hliteral
        split
        next => exact absurd ⟨host, [], hliteral, rfl, by simp⟩ hnot
        next port => exact absurd ⟨host, ':' :: port, hliteral, rfl, by simp⟩ hnot
        next => rfl
      next => rfl
    · exact parseBracketed_of_notMem _ hclosed
  | @port front port htext hfront hport =>
    subst htext
    rcases hfront with ⟨host, hliteral, rfl⟩ | ⟨hhead, hcolon⟩
    · have hbracket : ']' ∉ host := notMem_of_isLiteral hliteral (by decide)
      have hauthority :
          '[' :: (host ++ [']']) ++ ':' :: port = '[' :: (host ++ ']' :: ':' :: port) := by
        simp
      rw [hauthority, Endpoint.parseAuthority, parseBracketed_append _ hbracket,
        if_pos (Literal.isSome_parse?_iff.2 hliteral)]
      exact map_eq_error_iff.2 (parsePort_eq_error_iff.2 ⟨rfl, hport⟩)
    · rw [parseAuthority_colon hhead hcolon]
      exact map_eq_error_iff.2 (parsePort_eq_error_iff.2 ⟨rfl, hport⟩)

/-- Reading an authority fails exactly if it is not one, and the error says what is wrong. -/
theorem parseAuthority_eq_error_iff {err : ParseError} :
    parseAuthority cs = .error err ↔ Misfit cs err :=
  ⟨misfit_of_parseAuthority, Misfit.parseAuthority⟩

end Endpoint

/-- What stands behind a host tells the port. -/
theorem portSuffix_inj {p q : Option PortText} (hp : ∀ N ∈ p, N.WellFormed)
    (hq : ∀ N ∈ q, N.WellFormed) (h : portSuffix p = portSuffix q) : p = q := by
  cases p with
  | none =>
    cases q with
    | none => rfl
    | some N => cases h
  | some N =>
    cases q with
    | none => cases h
    | some N' => rw [(hp N rfl).text_inj (hq N' rfl) (List.cons.inj h).2]

/-- The port of an authority is one. -/
theorem AuthorityText.WellFormed.port {a : AuthorityText} (h : a.WellFormed) :
    ∀ N ∈ a.port, N.WellFormed := by
  cases a with
  | literal host port => exact h.2
  | name host port => exact h.2.2

/-- The characters tell host and port. -/
theorem AuthorityText.WellFormed.text_inj {a b : AuthorityText} (ha : a.WellFormed)
    (hb : b.WellFormed) (h : a.text = b.text) : a = b := by
  -- A name has no bracket in front, also if it is empty.
  have hname : ∀ {host port},
      (name host port).WellFormed → (name host port).text.head? ≠ some '[' := by
    rintro host port ⟨hhead, -, -⟩
    cases host with
    | nil => cases port <;> simp [text, portSuffix]
    | cons c cs => simpa [text] using hhead
  cases a with
  | literal host port =>
    cases b with
    | literal host' port' =>
      obtain ⟨hliteral, hport⟩ := ha
      obtain ⟨hliteral', hport'⟩ := hb
      obtain ⟨rfl, hsuffix⟩ := Endpoint.append_cons_inj_first
        (Endpoint.notMem_of_isLiteral hliteral (by decide))
        (Endpoint.notMem_of_isLiteral hliteral' (by decide)) (List.cons.inj h).2
      rw [portSuffix_inj hport hport' hsuffix]
    | name host' port' => exact absurd (congrArg List.head? h).symm (hname hb)
  | name host port =>
    cases b with
    | literal host' port' => exact absurd (congrArg List.head? h) (hname ha)
    | name host' port' =>
      obtain ⟨-, hcolon, hport⟩ := ha
      obtain ⟨-, hcolon', hport'⟩ := hb
      replace h : host ++ portSuffix port = host' ++ portSuffix port' := h
      cases port with
      | none =>
        cases port' with
        | none => rw [List.append_cancel_right h]
        | some N' =>
          refine absurd ?_ (hcolon rfl)
          rw [portSuffix, List.append_nil] at h
          simp [h, portSuffix]
      | some N =>
        cases port' with
        | none =>
          refine absurd ?_ (hcolon' rfl)
          rw [portSuffix, portSuffix, List.append_nil] at h
          simp [← h]
        | some N' =>
          obtain ⟨rfl, htext⟩ := Endpoint.append_cons_inj_last (hport N rfl).colon_notMem
            (hport' N' rfl).colon_notMem h
          rw [(hport N rfl).text_inj (hport' N' rfl) htext]

end RemoteCall
