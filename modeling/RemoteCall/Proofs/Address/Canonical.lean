import Mathlib.Data.List.TakeWhile
import RemoteCall.Address.IPv6
import RemoteCall.Proofs.Text.Numeral
/-!
# Canonical address literals

The text of an address is read as the same address. For IPv4 this is a matter of the four numbers.
The text of an IPv6 address has one of three forms, and the reader finds its way through each:

* all eight groups, none of which is followed by a dot, so that no group is taken for the begin of an
  IPv4 address (`IPv6.read_v4_group`);
* the groups before and after a run of zero groups that is left out; the reader comes to the two
  colons with the groups before them, and fills in as many zeros as groups are missing
  (`IPv6.eq_append_longestZeroRun`);
* an IPv4 address after `::ffff:`, which stands for the last two groups.

The main statement is `Literal.parse?_toText`.
-/

namespace RemoteCall.Address

open Text

/-! ## IPv4 -/

namespace IPv4

/-- The text of an address, character by character. -/
theorem toList_toText (ip : IPv4) :
    ip.toText.toList =
      Nat.toDigits 10 ip.a.toNat ++ '.' :: (Nat.toDigits 10 ip.b.toNat ++
        '.' :: (Nat.toDigits 10 ip.c.toNat ++ '.' :: Nat.toDigits 10 ip.d.toNat)) := by
  have hdot (cs : List Char) : (toString ".").toList ++ cs = '.' :: cs := rfl
  simp [toText, String.toList_append, hdot]

/-- An octet that was written is read again. -/
theorem readOctet_toDigits (b : UInt8) {rest : List Char} (hrest : Ends 10 rest) :
    readOctet (Nat.toDigits 10 b.toNat ++ rest) = some (b, rest) := by
  have hb : b.toNat < 256 := b.toNat_lt
  have hread : readNumber 10 3 false (Nat.toDigits 10 b.toNat ++ rest) = some (b.toNat, rest) :=
    readNumber_toDigits (by decide) (by decide) (by decide) (by omega) false hrest
  simp [readOctet, hread, hb]

/-- An address that was written is read again. -/
theorem read_toText (ip : IPv4) : read ip.toText.toList = some (ip, []) := by
  have hdot (cs : List Char) : Ends 10 ('.' :: cs) := ends_cons rfl
  have hlast := readOctet_toDigits ip.d ends_nil
  rw [List.append_nil] at hlast
  simp only [read, toList_toText, readOctet_toDigits _ (hdot _), readDotOctet, hlast, bind,
    Option.bind, pure]

/-- Digits that are not followed by a dot begin no address. -/
theorem read_eq_none {cs : List Char}
    (h : (cs.dropWhile fun c => (digit? 10 c).isSome).head? ≠ some '.') : read cs = none := by
  have hdot : ∀ b rest, readOctet cs = some (b, rest) → readDotOctet rest = none := by
    intro b rest hread
    have hrest : cs.dropWhile (fun c => (digit? 10 c).isSome) = rest := by
      simp only [readOctet, readNumber] at hread
      grind
    rw [hrest] at h
    unfold readDotOctet
    split
    · simp at h
    · rfl
  unfold read
  cases hread : readOctet cs with
  | none => rfl
  | some found => simp [bind, hdot found.1 found.2 hread]

end IPv4

/-! ## IPv6 -/

namespace IPv6

/-- The text of a group. -/
def groupText (g : UInt16) : List Char :=
  Nat.toDigits 16 g.toNat

/-- The text of groups that follow another. -/
def groupsAfter (gs : List UInt16) : List Char :=
  gs.flatMap fun g => ':' :: groupText g

@[simp]
theorem toList_groupsText_nil : (groupsText []).toList = [] :=
  rfl

theorem toList_groupsText_cons (g : UInt16) (gs : List UInt16) :
    (groupsText (g :: gs)).toList = groupText g ++ groupsAfter gs := by
  have hlist : ∀ g gs, [':'].intercalate ((g :: gs).map groupText) =
      groupText g ++ groupsAfter gs := by
    intro g gs
    induction gs generalizing g with
    | nil => simp [groupsAfter, List.intercalate]
    | cons g' gs ih =>
      rw [List.map_cons, List.map_cons, List.intercalate_cons_cons, ← List.map_cons, ih]
      simp [groupsAfter]
  have htext : String.toList ∘ (fun g : UInt16 => String.ofList (Nat.toDigits 16 g.toNat)) =
      groupText := by
    funext g
    exact String.toList_ofList
  rw [groupsText, String.toList_intercalate, ← hlist, List.map_map, htext]
  rfl

/-- What can follow a group: nothing, or a colon. -/
def FollowsGroup (rest : List Char) : Prop :=
  ∀ c ∈ rest.head?, c = ':'

theorem followsGroup_nil : FollowsGroup [] :=
  nofun

theorem followsGroup_colon (rest : List Char) : FollowsGroup (':' :: rest) := by
  simp [FollowsGroup]

theorem FollowsGroup.ends {rest : List Char} (h : FollowsGroup rest) {base : Nat}
    (hbase : digit? base ':' = none) : Ends base rest := by
  intro c hc
  rw [h c hc, hbase]

variable {rest : List Char}

/-- A group that was written is read again. -/
theorem readGroup_groupText (g : UInt16) (hrest : FollowsGroup rest) :
    readGroup (groupText g ++ rest) = some (g, rest) := by
  have hg : g.toNat < 2 ^ 16 := g.toNat_lt
  have hread : readNumber 16 4 true (groupText g ++ rest) = some (g.toNat, rest) :=
    readNumber_toDigits (by decide) (by decide) (by decide) (by omega) true (hrest.ends rfl)
  simp [readGroup, hread]

/-- One to four hexadecimal digits, which is how a group can be written. -/
def IsGroup (cs : List Char) : Prop :=
  cs ≠ [] ∧ cs.length ≤ 4 ∧ ∀ c ∈ cs, (digit? 16 c).isSome

theorem isGroup_groupText (g : UInt16) : IsGroup (groupText g) := by
  refine ⟨Nat.toDigits_ne_nil, ?_,
    fun c hc => isSome_digit?_of_mem_toDigits (by decide) (by decide) hc⟩
  exact (Nat.length_toDigits_le_iff (by decide) (by decide)).2 g.toNat_lt

/-- A group is not taken for the begin of an IPv4 address. -/
theorem read_v4_group {cs : List Char} (hcs : IsGroup cs) (hrest : FollowsGroup rest) :
    IPv4.read (cs ++ rest) = none := by
  refine IPv4.read_eq_none fun hhead => ?_
  rw [List.dropWhile_append] at hhead
  split at hhead
  · -- All of the group is decimal, and a colon follows it, if anything.
    cases rest with
    | nil => cases hhead
    | cons c rest =>
      obtain rfl : c = ':' := hrest c rfl
      cases hhead
  next hdigits =>
    -- Some digit of the group is not decimal; in any case it is no dot.
    have hmem : '.' ∈ cs := by
      refine List.dropWhile_subset (fun c => (digit? 10 c).isSome) ?_
      obtain ⟨c, more, hmore⟩ := List.exists_cons_of_ne_nil (mt List.isEmpty_iff.2 hdigits)
      rw [hmore] at hhead ⊢
      obtain rfl : c = '.' := by simpa using hhead
      exact List.mem_cons_self
    exact absurd (hcs.2.2 '.' hmem) (by decide)

/-- The characters in front of a group. -/
def separator (first : Bool) : List Char :=
  if first then [] else [':']

/-- What stands at the place of a group is read after the separator. -/
theorem readSeparated_append {α : Type} (first : Bool) (read : List Char → Option (α × List Char))
    (cs : List Char) : readSeparated first read (separator first ++ cs) = read cs := by
  cases first <;> rfl

/-- One group is read, and then those that follow it. -/
theorem readGroups_group (room : Nat) (first : Bool) (g : UInt16) (hrest : FollowsGroup rest) :
    readGroups (room + 1) first (separator first ++ (groupText g ++ rest)) =
      (g :: (readGroups room false rest).1, (readGroups room false rest).2) := by
  rw [readGroups]
  simp only [readSeparated_append, read_v4_group (isGroup_groupText g) hrest,
    readGroup_groupText g hrest, ite_self]

/-- Where the groups end: at the end of the text, or at two colons. -/
def EndsGroups (rest : List Char) : Prop :=
  rest = [] ∨ ∃ more, rest = ':' :: ':' :: more

/-- Each group is followed by a colon or by nothing, also the last. -/
theorem EndsGroups.followsGroup_append (h : EndsGroups rest) (gs : List UInt16) :
    FollowsGroup (groupsAfter gs ++ rest) := by
  cases gs with
  | nil =>
    obtain rfl | ⟨more, rfl⟩ := h
    · exact followsGroup_nil
    · exact followsGroup_colon _
  | cons g gs => exact followsGroup_colon _

/-- No group is read where the groups end. -/
theorem readGroups_end (room : Nat) (first : Bool) (h : EndsGroups rest) :
    readGroups room first rest = ([], false, rest) := by
  have hv4 : readSeparated first IPv4.read rest = none := by
    obtain rfl | ⟨more, rfl⟩ := h <;> cases first <;> rfl
  have hgroup : readSeparated first readGroup rest = none := by
    obtain rfl | ⟨more, rfl⟩ := h <;> cases first <;> rfl
  cases room with
  | zero => rfl
  | succ room =>
    rw [readGroups]
    simp only [hv4, hgroup, ite_self]

/-- Groups that were written behind another are read again, if there is room for them. -/
theorem readGroups_groupsAfter (gs : List UInt16) {room : Nat} (hroom : gs.length ≤ room)
    (hrest : EndsGroups rest) :
    readGroups room false (groupsAfter gs ++ rest) = (gs, false, rest) := by
  induction gs generalizing room with
  | nil => exact readGroups_end room false hrest
  | cons g gs ih =>
    obtain ⟨room, rfl⟩ : ∃ n, room = n + 1 := Nat.exists_eq_add_one.2 (by simp at hroom; omega)
    have hread := readGroups_group room false g (hrest.followsGroup_append gs)
    rw [ih (by simpa using hroom)] at hread
    simpa [groupsAfter, separator] using hread

/-- Groups that were written are read again, if there is room for them. -/
theorem readGroups_groupsText (gs : List UInt16) {room : Nat} (hroom : gs.length ≤ room)
    (hrest : EndsGroups rest) :
    readGroups room true ((groupsText gs).toList ++ rest) = (gs, false, rest) := by
  cases gs with
  | nil => exact readGroups_end room true hrest
  | cons g gs =>
    obtain ⟨room, rfl⟩ : ∃ n, room = n + 1 := Nat.exists_eq_add_one.2 (by simp at hroom; omega)
    have hread := readGroups_group room true g (hrest.followsGroup_append gs)
    rw [readGroups_groupsAfter gs (by simpa using hroom) hrest] at hread
    rw [toList_groupsText_cons, List.append_assoc]
    exact hread

/-! ### The run that is left out -/

/-- The longest run of zeros is a run of zeros. -/
theorem longestZeroRun_le (groups : List UInt16) :
    (longestZeroRun groups).2 ≤
      ((groups.drop (longestZeroRun groups).1).takeWhile (· == 0)).length := by
  let IsRun (run : Nat × Nat) : Prop := run.2 ≤ ((groups.drop run.1).takeWhile (· == 0)).length
  refine List.foldlRecOn (motive := IsRun) (List.range groups.length) _ (Nat.zero_le _) ?_
  intro best hbest start _
  dsimp only
  split
  · exact Nat.le_refl _
  · exact hbest

/-- The groups are those before the run, the zeros of the run, and those after it. -/
theorem eq_append_longestZeroRun (groups : List UInt16) :
    let start := (longestZeroRun groups).1
    let length := (longestZeroRun groups).2
    groups = groups.take start ++ List.replicate length 0 ++ groups.drop (start + length) := by
  intro start length
  have hle : length ≤ ((groups.drop start).takeWhile (· == 0)).length := longestZeroRun_le groups
  have hprefix : (groups.drop start).takeWhile (· == 0) <+: groups.drop start :=
    List.takeWhile_prefix _
  have hzeros : (groups.drop start).take length = List.replicate length 0 := by
    rw [List.eq_replicate_iff, List.length_take]
    refine ⟨by have := hprefix.length_le; omega, fun g hg => ?_⟩
    -- What is taken is taken from the run.
    have htake : (groups.drop start).take length =
        ((groups.drop start).takeWhile (· == 0)).take length := by
      rw [List.prefix_iff_eq_take.1 hprefix, List.take_take, Nat.min_eq_left hle]
    rw [htake] at hg
    simpa using List.mem_takeWhile_imp (List.mem_of_mem_take hg)
  rw [← hzeros, ← List.drop_drop, List.append_assoc, List.take_append_drop, List.take_append_drop]

/-! ### Reading the three forms -/

/-- All eight groups are read. -/
theorem read_groups (ip : IPv6) : read (groupsText ip.groups).toList = some (ip, []) := by
  have hread : readGroups size true ((groupsText ip.groups).toList ++ []) =
      (ip.groups, false, []) := readGroups_groupsText ip.groups (Nat.le_of_eq ip.length_groups) (.inl rfl)
  rw [List.append_nil] at hread
  rw [read, hread]
  simp only [if_pos (show ip.groups.length = size from ip.length_groups), ofGroups?,
    dif_pos ip.length_groups]
  rfl

/-- The groups on both sides of the two colons are read, and as many zeros as are missing are filled
in between them. -/
theorem read_compressed (ip : IPv6) {before after : List UInt16} {length : Nat}
    (hlength : 1 < length)
    (hgroups : before ++ List.replicate length 0 ++ after = ip.groups) :
    read ((groupsText before).toList ++ ':' :: ':' :: (groupsText after).toList) =
      some (ip, []) := by
  have hsize : before.length + length + after.length = 8 := by
    rw [← ip.length_groups, ← hgroups, List.length_append, List.length_append,
      List.length_replicate]
  have hbefore := readGroups_groupsText before (show before.length ≤ size by rw [size]; omega)
    (.inr ⟨(groupsText after).toList, rfl⟩)
  have hafter : readGroups (size - (before.length + 1)) true ((groupsText after).toList ++ []) =
      (after, false, []) := readGroups_groupsText after (by rw [size]; omega) (.inl rfl)
  rw [List.append_nil] at hafter
  have hzeros : size - before.length - after.length = length := by rw [size]; omega
  rw [read, hbefore]
  simp only [if_neg (show ¬before.length = size by rw [size]; omega), hafter, hzeros, hgroups,
    ofGroups?, dif_pos ip.length_groups]
  rfl

/-- The two groups of an IPv4 address are those it was taken from. -/
theorem groupsOfIPv4_eq (g h : UInt16) :
    groupsOfIPv4 ⟨(g >>> 8).toUInt8, g.toUInt8, (h >>> 8).toUInt8, h.toUInt8⟩ = [g, h] := by
  have hgroup (g : UInt16) :
      UInt16.ofNat (256 * (g >>> 8).toUInt8.toNat + g.toUInt8.toNat) = g := by
    have hg : g.toNat < 2 ^ 16 := g.toNat_lt
    rw [← UInt16.toNat_inj]
    simp only [UInt16.toNat_ofNat', UInt16.toNat_toUInt8, UInt16.toNat_shiftRight,
      UInt16.reduceToNat, Nat.reduceMod, Nat.shiftRight_eq_div_pow]
    omega
  rw [groupsOfIPv4, hgroup, hgroup]

/-- An embedded IPv4 address stands for the last two groups. -/
theorem groups_eq_of_embedded {ip : IPv6} {v4 : IPv4} (h : ip.embedded? = some v4) :
    ip.groups = [0, 0, 0, 0, 0, 0xFFFF] ++ groupsOfIPv4 v4 := by
  unfold embedded? at h
  split at h
  next g k hgroups =>
    cases h
    rw [hgroups, groupsOfIPv4_eq]
    rfl
  next => cases h

/-- The IPv4 address is read as two groups, and the zeros in front are filled in. -/
theorem read_embedded {ip : IPv6} {v4 : IPv4} (h : ip.embedded? = some v4) :
    read ("::ffff:" ++ v4.toText).toList = some (ip, []) := by
  have htext : ("::ffff:" ++ v4.toText).toList =
      ':' :: ':' :: (groupText 0xFFFF ++ ':' :: v4.toText.toList) := by
    rw [String.toList_append]
    rfl
  have hbefore (rest : List Char) :
      readGroups size true (':' :: ':' :: rest) = ([], false, ':' :: ':' :: rest) :=
    readGroups_end size true (.inr ⟨rest, rfl⟩)
  have hv4 : readGroups 6 false (':' :: v4.toText.toList) = (groupsOfIPv4 v4, true, []) := by
    rw [readGroups]
    simp [readSeparated, IPv4.read_toText]
  have hafter : readGroups 7 true (groupText 0xFFFF ++ ':' :: v4.toText.toList) =
      (0xFFFF :: groupsOfIPv4 v4, true, []) := by
    have hread := readGroups_group 6 true 0xFFFF (followsGroup_colon v4.toText.toList)
    rwa [hv4] at hread
  have hgroups : [] ++ List.replicate 5 0 ++ 0xFFFF :: groupsOfIPv4 v4 = ip.groups :=
    (groups_eq_of_embedded h).symm
  have hlength : (0xFFFF :: groupsOfIPv4 v4).length = 3 := rfl
  rw [htext, read, hbefore]
  simp only [List.length_nil, size, Nat.reduceAdd, Nat.reduceSub, hafter, hlength, hgroups,
    ofGroups?, dif_pos ip.length_groups]
  rfl

/-! ### The canonical text -/

/-- The canonical text of an address is read as the address. -/
theorem read_toText (ip : IPv6) : read ip.toText.toList = some (ip, []) := by
  unfold toText
  cases hembedded : ip.embedded? with
  | some v4 => exact read_embedded hembedded
  | none =>
    dsimp only
    split
    next hlength =>
      have hread := read_compressed ip hlength (eq_append_longestZeroRun ip.groups).symm
      simpa [String.toList_append] using hread
    next => exact read_groups ip

/-- Groups that were written begin with no IPv4 address. -/
theorem read_v4_groupsText (gs : List UInt16) (hrest : EndsGroups rest) :
    IPv4.read ((groupsText gs).toList ++ rest) = none := by
  cases gs with
  | nil => obtain rfl | ⟨more, rfl⟩ := hrest <;> rfl
  | cons g gs =>
    rw [toList_groupsText_cons, List.append_assoc]
    exact read_v4_group (isGroup_groupText g) (hrest.followsGroup_append gs)

/-- Neither does the canonical text of an address. -/
theorem read_v4_toText (ip : IPv6) : IPv4.read ip.toText.toList = none := by
  unfold toText
  cases ip.embedded? with
  | some v4 =>
    rw [String.toList_append]
    rfl
  | none =>
    dsimp only
    split
    · rw [String.toList_append, String.toList_append, List.append_assoc]
      exact read_v4_groupsText _ (.inr ⟨_, rfl⟩)
    · have hread := read_v4_groupsText ip.groups (.inl rfl)
      rwa [List.append_nil] at hread

end IPv6

namespace Literal

/-- The canonical text of an IPv6 address is read as this address. -/
theorem parse?_toText (ip : IPv6) : parse? ip.toText.toList = some (.v6 ip) := by
  rw [parse?, IPv6.read_v4_toText, IPv6.read_toText]
  rfl

end Literal

/-! ## The characters of a literal -/

/-- A character of an IPv4 address. -/
def isIPv4Char (c : Char) : Bool :=
  (digit? 10 c).isSome || c == '.'

/-- A character of an address literal. -/
def isLiteralChar (c : Char) : Bool :=
  (digit? 16 c).isSome || c == ':' || c == '.'

/-- What stands in front of the rest has only characters of one kind. -/
def Skips (p : Char → Bool) (cs rest : List Char) : Prop :=
  ∃ front, cs = front ++ rest ∧ ∀ c ∈ front, p c

section Skips

variable {p q : Char → Bool} {cs rest rest' : List Char}

theorem Skips.refl (p : Char → Bool) (cs : List Char) : Skips p cs cs :=
  ⟨[], rfl, nofun⟩

theorem Skips.trans (h : Skips p cs rest) (h' : Skips p rest rest') : Skips p cs rest' := by
  obtain ⟨front, rfl, hfront⟩ := h
  obtain ⟨more, rfl, hmore⟩ := h'
  refine ⟨front ++ more, (List.append_assoc _ _ _).symm, fun c hc => ?_⟩
  exact (List.mem_append.1 hc).elim (hfront c) (hmore c)

theorem Skips.cons (h : Skips p cs rest) {c : Char} (hc : p c) : Skips p (c :: cs) rest := by
  obtain ⟨front, rfl, hfront⟩ := h
  exact ⟨c :: front, rfl, by simpa [hc] using hfront⟩

theorem Skips.mono (h : Skips p cs rest) (hpq : ∀ c, p c → q c) : Skips q cs rest := by
  obtain ⟨front, hcs, hfront⟩ := h
  exact ⟨front, hcs, fun c hc => hpq c (hfront c hc)⟩

/-- Reading a number skips digits. -/
theorem skips_readNumber {base width n : Nat} {zeros : Bool}
    (h : readNumber base width zeros cs = some (n, rest)) :
    Skips (fun c => (digit? base c).isSome) cs rest := by
  obtain ⟨digits, rfl, -, -, hdigits, -⟩ := readNumber_spec h
  exact ⟨digits, rfl, hdigits⟩

namespace IPv4

theorem skips_readOctet {b : UInt8} (h : readOctet cs = some (b, rest)) :
    Skips isIPv4Char cs rest := by
  unfold readOctet at h
  split at h
  next n rest' hread =>
    split at h
    · cases h
      exact (skips_readNumber hread).mono fun c hc => by simp [isIPv4Char, hc]
    · cases h
  next => cases h

theorem skips_readDotOctet {b : UInt8} (h : readDotOctet cs = some (b, rest)) :
    Skips isIPv4Char cs rest := by
  unfold readDotOctet at h
  split at h
  · exact (skips_readOctet h).cons rfl
  · cases h

/-- Reading an address skips characters of an address. -/
theorem skips_read {ip : IPv4} (h : read cs = some (ip, rest)) : Skips isIPv4Char cs rest := by
  simp only [read, bind, Option.bind_eq_some_iff, Prod.exists] at h
  obtain ⟨a, cs₁, ha, b, cs₂, hb, c, cs₃, hc, d, cs₄, hd, hresult⟩ := h
  cases hresult
  exact (skips_readOctet ha).trans ((skips_readDotOctet hb).trans
    ((skips_readDotOctet hc).trans (skips_readDotOctet hd)))

end IPv4

namespace IPv6

theorem skips_v4 {v4 : IPv4} (h : IPv4.read cs = some (v4, rest)) : Skips isLiteralChar cs rest := by
  refine (IPv4.skips_read h).mono fun c hc => ?_
  rw [isIPv4Char, digit?_eq_filter (by decide)] at hc
  cases hdigit : digit? 16 c with
  | none => simpa [isLiteralChar, hdigit] using Or.inr hc
  | some d => simp [isLiteralChar, hdigit]

theorem skips_readGroup {g : UInt16} (h : readGroup cs = some (g, rest)) :
    Skips isLiteralChar cs rest := by
  unfold readGroup at h
  split at h
  next n rest' hread =>
    cases h
    exact (skips_readNumber hread).mono fun c hc => by simp [isLiteralChar, hc]
  next => cases h

theorem skips_readSeparated {α : Type} {first : Bool} {read : List Char → Option (α × List Char)}
    (hread : ∀ cs x rest, read cs = some (x, rest) → Skips isLiteralChar cs rest) {x : α}
    (h : readSeparated first read cs = some (x, rest)) : Skips isLiteralChar cs rest := by
  unfold readSeparated at h
  split at h
  · exact hread _ _ _ h
  · split at h
    · exact (hread _ _ _ h).cons rfl
    · cases h

/-- Reading groups skips characters of an address. -/
theorem skips_readGroups (room : Nat) (first : Bool) (cs : List Char) :
    Skips isLiteralChar cs (readGroups room first cs).2.2 := by
  induction room generalizing first cs with
  | zero => exact .refl _ cs
  | succ room ih =>
    rw [readGroups]
    split
    next v4 rest hread =>
      split at hread
      · cases hread
      · exact skips_readSeparated (fun _ _ _ => skips_v4) hread
    next =>
      split
      next g rest hread =>
        exact (skips_readSeparated (fun _ _ _ => skips_readGroup) hread).trans (ih false rest)
      next => exact .refl _ cs

/-- Reading an address skips characters of an address. -/
theorem skips_read {ip : IPv6} (h : read cs = some (ip, rest)) : Skips isLiteralChar cs rest := by
  have hhead := skips_readGroups size true cs
  unfold read at h
  generalize readGroups size true cs = found at h hhead
  obtain ⟨head, dotted, rest₁⟩ := found
  dsimp only at h hhead
  split at h
  · obtain ⟨ip', -, hresult⟩ := Option.map_eq_some_iff.1 h
    cases hresult
    exact hhead
  · split at h
    · cases h
    · split at h
      next rest₂ =>
        obtain ⟨ip', -, hresult⟩ := Option.map_eq_some_iff.1 h
        cases hresult
        have htail := skips_readGroups (size - (head.length + 1)) true rest₂
        have hcolons : Skips isLiteralChar (':' :: ':' :: rest₂) rest₂ :=
          ((Skips.refl _ rest₂).cons rfl).cons rfl
        exact hhead.trans (hcolons.trans htail)
      next => cases h

end IPv6

end Skips

namespace Literal

variable {cs : List Char}

/-- An IPv4 literal has digits and dots only. -/
theorem isIPv4Char_of_parse? {ip : IPv4} (h : parse? cs = some (.v4 ip)) :
    ∀ c ∈ cs, isIPv4Char c := by
  unfold parse? at h
  split at h
  next v4 rest hread =>
    cases rest with
    | nil =>
      obtain ⟨front, rfl, hfront⟩ := IPv4.skips_read hread
      simpa using hfront
    | cons c rest => cases h
  next =>
    split at h
    next => split at h <;> cases h
    next => cases h

/-- A literal has digits, colons and dots only. -/
theorem isLiteralChar_of_parse? {l : Literal} (h : parse? cs = some l) :
    ∀ c ∈ cs, isLiteralChar c := by
  unfold parse? at h
  split at h
  next v4 rest hread =>
    cases rest with
    | nil =>
      obtain ⟨front, rfl, hfront⟩ := IPv6.skips_v4 hread
      simpa using hfront
    | cons c rest => cases h
  next =>
    split at h
    next v6 rest hread =>
      cases rest with
      | nil =>
        obtain ⟨front, rfl, hfront⟩ := IPv6.skips_read hread
        simpa using hfront
      | cons c rest => cases h
    next => cases h

end Literal

end RemoteCall.Address
