import RemoteCall.Proofs.Address.Canonical
/-!
# The grammar of address literals

Which texts are address literals, said without a reader.

* An IPv4 address has one text: its four numbers in decimal, with dots between them.
* A text of an IPv6 address has eight groups of one to four hexadecimal digits, with colons between
  them, where an IPv4 address may stand for the last two (`IPv6.Groups`). Or it has at most seven
  groups, and two colons for the others, which are zero (`IPv6.IsText`).

The reader accepts these texts and no others (`Literal.isSome_parse?_iff`). A reader of groups takes
as many as there are, and none is lost by this: after a group there is a colon or nothing, and after
two colons no group is read (`IPv6.Groups.readGroups`, `IPv6.readGroups_spec`).
-/

namespace RemoteCall.Address

open Text

/-! ## IPv4 -/

namespace IPv4

variable {cs rest : List Char}

/-- What is read as an octet is its numeral. -/
theorem readOctet_spec {b : UInt8} (h : readOctet cs = some (b, rest)) :
    cs = Nat.toDigits 10 b.toNat ++ rest ∧ Ends 10 rest := by
  unfold readOctet at h
  split at h
  next n rest' hread =>
    split at h
    next hn =>
      cases h
      obtain ⟨digits, rfl, hne, -, hdigits, hzero, rfl, hrest⟩ := readNumber_spec hread
      rw [UInt8.toNat_ofNat_of_lt' hn, toDigits_ofDigits hne hdigits (hzero rfl)]
      exact ⟨rfl, hrest⟩
    next => cases h
  next => cases h

/-- A dot is in front of every further octet. -/
theorem readDotOctet_spec {b : UInt8} (h : readDotOctet cs = some (b, rest)) :
    cs = '.' :: (Nat.toDigits 10 b.toNat ++ rest) ∧ Ends 10 rest := by
  unfold readDotOctet at h
  split at h
  next cs' =>
    obtain ⟨rfl, hrest⟩ := readOctet_spec h
    exact ⟨rfl, hrest⟩
  next => cases h

/-- What is read as an address is the text of the address. -/
theorem read_spec {ip : IPv4} (h : read cs = some (ip, rest)) : cs = ip.toText.toList ++ rest := by
  simp only [read, bind, Option.bind_eq_some_iff, Prod.exists] at h
  obtain ⟨a, cs₁, ha, b, cs₂, hb, c, cs₃, hc, d, cs₄, hd, hresult⟩ := h
  cases hresult
  rw [(readOctet_spec ha).1, (readDotOctet_spec hb).1, (readDotOctet_spec hc).1,
    (readDotOctet_spec hd).1, toList_toText]
  simp

/-- An address that was written is read again, if no digit follows. -/
theorem read_toText_append (ip : IPv4) (hrest : Ends 10 rest) :
    read (ip.toText.toList ++ rest) = some (ip, rest) := by
  have hdot (cs : List Char) : Ends 10 ('.' :: cs) := ends_cons rfl
  simp only [read, toList_toText, List.append_assoc, List.cons_append,
    readOctet_toDigits _ (hdot _), readDotOctet, readOctet_toDigits _ hrest, bind, Option.bind, pure]

end IPv4

/-! ## IPv6 -/

namespace IPv6

variable {cs rest : List Char} {room size : Nat} {dotted : Bool}

/-- Groups with colons between them, of which there is at least one. An IPv4 address stands for two
groups, and ends them. -/
inductive Groups : (size : Nat) → (dotted : Bool) → List Char → Prop
  /-- One group. -/
  | group {cs : List Char} (h : IsGroup cs) : Groups 1 false cs
  /-- An IPv4 address. -/
  | dotted (ip : IPv4) : Groups 2 true ip.toText.toList
  /-- A group in front of others. -/
  | cons {size : Nat} {dotted : Bool} {g cs : List Char} (h : IsGroup g)
    (more : Groups size dotted cs) : Groups (size + 1) dotted (g ++ ':' :: cs)

/-- Groups with colons between them, or no groups. -/
def Side (size : Nat) (dotted : Bool) (cs : List Char) : Prop :=
  (size = 0 ∧ dotted = false ∧ cs = []) ∨ Groups size dotted cs

/-- The texts of IPv6 addresses. -/
inductive IsText : List Char → Prop
  /-- All groups are there. -/
  | full {dotted : Bool} {cs : List Char} (h : Groups 8 dotted cs) : IsText cs
  /-- Two colons stand for one group or more. No IPv4 address is in front of them. -/
  | elided {m n : Nat} {dotted : Bool} {before after : List Char} (hbefore : Side m false before)
    (hafter : Side n dotted after) (hsize : m + n ≤ 7) : IsText (before ++ ':' :: ':' :: after)

/-! ### What was written is read -/

/-- A group is read, whatever its digits. -/
theorem exists_readGroup (hcs : IsGroup cs) (hrest : FollowsGroup rest) :
    ∃ g, readGroup (cs ++ rest) = some (g, rest) := by
  obtain ⟨hne, hlength, hdigits⟩ := hcs
  have hread : readNumber 16 4 true (cs ++ rest) = _ :=
    readNumber_append hne hlength hdigits nofun (hrest.ends rfl)
  exact ⟨_, by rw [readGroup, hread]⟩

/-- A group is read, and then those that follow it. -/
theorem exists_readGroups_group (room : Nat) (first : Bool) (hcs : IsGroup cs)
    (hrest : FollowsGroup rest) :
    ∃ g, readGroups (room + 1) first (separator first ++ (cs ++ rest)) =
      (g :: (readGroups room false rest).1, (readGroups room false rest).2) := by
  obtain ⟨g, hread⟩ := exists_readGroup hcs hrest
  refine ⟨g, ?_⟩
  rw [readGroups]
  simp only [readSeparated_append, read_v4_group hcs hrest, hread, ite_self]

theorem EndsGroups.followsGroup (h : EndsGroups rest) : FollowsGroup rest :=
  h.followsGroup_append []

/-- All groups are read, if there is room for them. -/
theorem Groups.readGroups (h : Groups size dotted cs) (hroom : size ≤ room) (hrest : EndsGroups rest)
    (first : Bool) :
    ∃ gs : List UInt16, gs.length = size ∧
      IPv6.readGroups room first (separator first ++ (cs ++ rest)) = (gs, dotted, rest) := by
  induction h generalizing room first with
  | group hgroup =>
    obtain ⟨room, rfl⟩ := Nat.exists_eq_add_one.2 hroom
    obtain ⟨g, hread⟩ := exists_readGroups_group room first hgroup hrest.followsGroup
    rw [readGroups_end room false hrest] at hread
    exact ⟨[g], rfl, hread⟩
  | dotted ip =>
    obtain ⟨room, rfl⟩ : ∃ n, room = n + 2 := Nat.exists_eq_add_of_le' hroom
    refine ⟨groupsOfIPv4 ip, rfl, ?_⟩
    rw [IPv6.readGroups, readSeparated_append,
      IPv4.read_toText_append ip (hrest.followsGroup.ends rfl), if_neg (Nat.succ_ne_zero room)]
  | @cons _ _ g cs hgroup more ih =>
    obtain ⟨room, rfl⟩ := Nat.exists_eq_add_one.2 (Nat.lt_of_lt_of_le (Nat.succ_pos _) hroom)
    obtain ⟨gs, hlength, hgs⟩ := ih (Nat.le_of_succ_le_succ hroom) false
    obtain ⟨g, hread⟩ := exists_readGroups_group room first hgroup (followsGroup_colon (cs ++ rest))
    rw [show ':' :: (cs ++ rest) = separator false ++ (cs ++ rest) from rfl, hgs] at hread
    refine ⟨g :: gs, by rw [List.length_cons, hlength], ?_⟩
    rw [List.append_assoc]
    exact hread

/-- The same holds where there may be no groups. -/
theorem Side.readGroups (h : Side size dotted cs) (hroom : size ≤ room) (hrest : EndsGroups rest) :
    ∃ gs : List UInt16, gs.length = size ∧
      IPv6.readGroups room true (cs ++ rest) = (gs, dotted, rest) := by
  rcases h with ⟨rfl, rfl, rfl⟩ | h
  · exact ⟨[], rfl, readGroups_end room true hrest⟩
  · exact h.readGroups hroom hrest true

/-- Every text of an IPv6 address is read. -/
theorem IsText.read (h : IsText cs) : ∃ ip, IPv6.read cs = some (ip, []) := by
  cases h with
  | @full dotted _ hgroups =>
    have hend : EndsGroups [] := .inl rfl
    obtain ⟨gs, hlength, hread⟩ := hgroups.readGroups (Nat.le_refl 8) hend true
    replace hread : IPv6.readGroups IPv6.size true cs = (gs, dotted, []) := by
      rw [← hread, List.append_nil]
      rfl
    refine ⟨⟨gs, hlength⟩, ?_⟩
    rw [IPv6.read, hread]
    simp only [if_pos (show gs.length = IPv6.size from hlength), ofGroups?, dif_pos hlength]
    rfl
  | @elided m n _ before after hbefore hafter hsize =>
    have hcolons : EndsGroups (':' :: ':' :: after) := .inr ⟨after, rfl⟩
    obtain ⟨gs, rfl, hread⟩ :=
      hbefore.readGroups (show m ≤ IPv6.size by rw [IPv6.size]; omega) hcolons
    obtain ⟨gs', rfl, hread'⟩ := hafter.readGroups
      (show n ≤ IPv6.size - (gs.length + 1) by rw [IPv6.size]; omega) (.inl rfl)
    rw [List.append_nil] at hread'
    -- As many zeros are filled in as groups are missing.
    have htotal :
        (gs ++ List.replicate (IPv6.size - gs.length - gs'.length) 0 ++ gs').length = 8 := by
      rw [List.length_append, List.length_append, List.length_replicate, IPv6.size]
      omega
    refine ⟨⟨_, htotal⟩, ?_⟩
    rw [IPv6.read, hread]
    simp only [if_neg (show ¬gs.length = IPv6.size by rw [IPv6.size]; omega), hread', ofGroups?,
      dif_pos htotal]
    rfl

/-! ### What is read was written so -/

/-- What is read at the place of a group stands behind the separator. -/
theorem readSeparated_spec {α : Type} {first : Bool} {read : List Char → Option (α × List Char)}
    {x : α} (h : readSeparated first read cs = some (x, rest)) :
    ∃ cs', cs = separator first ++ cs' ∧ read cs' = some (x, rest) := by
  cases first with
  | true => exact ⟨cs, rfl, h⟩
  | false =>
    simp only [readSeparated, Bool.false_eq_true, if_false] at h
    split at h
    next cs' => exact ⟨cs', rfl, h⟩
    next => cases h

/-- What is read as a group is one. -/
theorem readGroup_spec {g : UInt16} (h : readGroup cs = some (g, rest)) :
    ∃ digits, cs = digits ++ rest ∧ IsGroup digits := by
  unfold readGroup at h
  split at h
  next n rest' hread =>
    cases h
    obtain ⟨digits, rfl, hne, hlength, hdigits, -⟩ := readNumber_spec hread
    exact ⟨digits, rfl, hne, hlength, hdigits⟩
  next => cases h

/-- What is read as groups are groups, and there is room for them. -/
theorem readGroups_spec (room : Nat) (first : Bool) (cs : List Char) {gs : List UInt16}
    (h : readGroups room first cs = (gs, dotted, rest)) :
    gs.length ≤ room ∧
      ((gs = [] ∧ dotted = false ∧ rest = cs) ∨
        ∃ cs', cs = separator first ++ (cs' ++ rest) ∧ Groups gs.length dotted cs') := by
  induction room generalizing first cs gs with
  | zero =>
    cases h
    exact ⟨Nat.le_refl 0, .inl ⟨rfl, rfl, rfl⟩⟩
  | succ room ih =>
    rw [readGroups] at h
    split at h
    next ip rest' hread =>
      -- An IPv4 address ends the groups, and takes the room of two.
      split at hread
      next => cases hread
      next hroom =>
        cases h
        obtain ⟨cs', rfl, hip⟩ := readSeparated_spec hread
        refine ⟨show 2 ≤ room + 1 by omega, .inr ⟨ip.toText.toList, ?_, .dotted ip⟩⟩
        rw [IPv4.read_spec hip]
    next =>
      split at h
      next g rest' hread =>
        obtain ⟨cs', rfl, hg⟩ := readSeparated_spec hread
        obtain ⟨digits, rfl, hdigits⟩ := readGroup_spec hg
        cases hmore : readGroups room false rest' with
        | mk gs' more =>
          obtain ⟨dotted', rest''⟩ := more
          rw [hmore] at h
          cases h
          obtain ⟨hlength, hrest⟩ := ih false rest' hmore
          refine ⟨Nat.succ_le_succ hlength, .inr ?_⟩
          rcases hrest with ⟨rfl, rfl, rfl⟩ | ⟨cs', rfl, hgroups⟩
          · exact ⟨digits, rfl, .group hdigits⟩
          · refine ⟨digits ++ ':' :: cs', ?_, .cons hdigits hgroups⟩
            rw [List.append_assoc digits]
            rfl
      next =>
        cases h
        exact ⟨Nat.zero_le _, .inl ⟨rfl, rfl, rfl⟩⟩

/-- At the begin of a text no separator is needed. -/
theorem side_of_readGroups {gs : List UInt16} (h : readGroups room true cs = (gs, dotted, rest)) :
    gs.length ≤ room ∧ ∃ cs', cs = cs' ++ rest ∧ Side gs.length dotted cs' := by
  obtain ⟨hlength, ⟨rfl, rfl, rfl⟩ | ⟨cs', hcs, hgroups⟩⟩ := readGroups_spec room true cs h
  · exact ⟨hlength, [], rfl, .inl ⟨rfl, rfl, rfl⟩⟩
  · exact ⟨hlength, cs', hcs, .inr hgroups⟩

/-- Whatever is read as an IPv6 address is a text of one. -/
theorem isText_of_read {ip : IPv6} (h : read cs = some (ip, [])) : IsText cs := by
  unfold read at h
  cases hhead : readGroups size true cs with
  | mk head more =>
    obtain ⟨dotted, rest⟩ := more
    obtain ⟨hlength, before, rfl, hbefore⟩ := side_of_readGroups hhead
    rw [hhead] at h
    dsimp only at h
    split at h
    next hfull =>
      -- All eight groups have been read, and nothing is left.
      obtain ⟨_, -, hresult⟩ := Option.map_eq_some_iff.1 h
      obtain rfl : rest = [] := (Prod.mk.inj hresult).2
      rcases hbefore with ⟨hzero, -⟩ | hgroups
      · rw [hfull] at hzero
        cases hzero
      · rw [List.append_nil]
        rw [hfull] at hgroups
        exact .full hgroups
    next hfull =>
      split at h
      next => cases h
      next hdotted =>
        obtain rfl : dotted = false := by simpa using hdotted
        split at h
        next rest =>
          -- Two colons stand for at least one group that is left out.
          cases htail : readGroups (size - (head.length + 1)) true rest with
          | mk tail more =>
            obtain ⟨dotted, rest'⟩ := more
            obtain ⟨htlength, after, rfl, hafter⟩ := side_of_readGroups htail
            rw [htail] at h
            obtain ⟨_, -, hresult⟩ := Option.map_eq_some_iff.1 h
            obtain rfl : rest' = [] := (Prod.mk.inj hresult).2
            rw [List.append_nil]
            refine .elided hbefore hafter ?_
            rw [size] at hlength hfull htlength
            omega
        next => cases h

/-! ### No text of an IPv6 address begins like an IPv4 address -/

/-- Groups begin with one that is not followed by a dot, if they do not begin with an IPv4 address. -/
theorem Groups.read_v4 (h : Groups size dotted cs) (hdotted : dotted = false ∨ 2 < size)
    (hrest : EndsGroups rest) : IPv4.read (cs ++ rest) = none := by
  cases h with
  | group hgroup => exact read_v4_group hgroup hrest.followsGroup
  | dotted ip => rcases hdotted with hdotted | hdotted <;> simp at hdotted
  | cons hgroup more =>
    rw [List.append_assoc]
    exact read_v4_group hgroup (followsGroup_colon _)

theorem IsText.read_v4 (h : IsText cs) : IPv4.read cs = none := by
  cases h with
  | full hgroups =>
    rw [← List.append_nil cs]
    exact hgroups.read_v4 (.inr (by decide)) (.inl rfl)
  | @elided m n _ before after hbefore =>
    rcases hbefore with ⟨-, -, rfl⟩ | hgroups
    · rfl
    · exact hgroups.read_v4 (.inl rfl) (.inr ⟨after, rfl⟩)

end IPv6

/-! ## Literals -/

/-- The address literals: the texts of IPv4 and of IPv6 addresses. -/
def IsLiteral (cs : List Char) : Prop :=
  (∃ ip : IPv4, ip.toText.toList = cs) ∨ IPv6.IsText cs

/-- A text is read as an address exactly if it is an address literal. -/
theorem Literal.isSome_parse?_iff {cs : List Char} : (parse? cs).isSome ↔ IsLiteral cs := by
  constructor
  · intro h
    unfold parse? at h
    split at h
    next ip rest hread =>
      obtain rfl : rest = [] := by simpa using h
      exact .inl ⟨ip, by rw [IPv4.read_spec hread, List.append_nil]⟩
    next =>
      split at h
      next ip rest hread =>
        obtain rfl : rest = [] := by simpa using h
        exact .inr (IPv6.isText_of_read hread)
      next => cases h
  · rintro (⟨ip, rfl⟩ | h)
    · rw [parse?, IPv4.read_toText]
      rfl
    · obtain ⟨ip, hread⟩ := h.read
      rw [parse?, h.read_v4, hread]
      rfl

end RemoteCall.Address
