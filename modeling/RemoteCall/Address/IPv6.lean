import RemoteCall.Address.IPv4
/-!
# IPv6 addresses

Eight groups of sixteen bits, written in hexadecimal and separated by colons. A text may
leave out one run of zero groups, marked by two colons, and may write the last two groups as
an IPv4 address. The canonical text leaves out the longest run of at least two zero groups,
the first of them if there are several, and writes an address that embeds an IPv4 address
after `::ffff:` with dots.
-/

namespace RemoteCall.Address

/-- An IPv6 address. -/
structure IPv6 where
  /-- The groups, most significant first. -/
  groups : List UInt16
  /-- There are eight of them. -/
  length_groups : groups.length = 8
  deriving Repr, DecidableEq

namespace IPv6

/-- The number of groups of an address. -/
def size : Nat := 8

/-- Reads one group of at most four digits; leading zeros are allowed. -/
def readGroup (cs : List Char) : Option (UInt16 × List Char) :=
  match Text.readNumber 16 4 true cs with
  | some (n, rest) => some (UInt16.ofNat n, rest)
  | none => none

/-- Reads an item that stands after a colon, unless it is the first of its kind. -/
def readSeparated {α : Type} (first : Bool) (read : List Char → Option (α × List Char))
    (cs : List Char) : Option (α × List Char) :=
  if first then read cs
  else match cs with
    | ':' :: cs => read cs
    | _ => none

/-- The two groups that an IPv4 address stands for. -/
def groupsOfIPv4 (ip : IPv4) : List UInt16 :=
  [UInt16.ofNat (256 * ip.a.toNat + ip.b.toNat), UInt16.ofNat (256 * ip.c.toNat + ip.d.toNat)]

/-- Reads up to `room` groups separated by colons. An IPv4 address may stand for two groups
if there is room for both, and ends the groups; the flag tells whether one did. -/
def readGroups : (room : Nat) → (first : Bool) → List Char → List UInt16 × Bool × List Char
  | 0, _, cs => ([], false, cs)
  | room + 1, first, cs =>
    match if room = 0 then none else readSeparated first IPv4.read cs with
    | some (ip, rest) => (groupsOfIPv4 ip, true, rest)
    | none =>
      match readSeparated first readGroup cs with
      | some (g, rest) =>
        let (gs, dotted, rest) := readGroups room false rest
        (g :: gs, dotted, rest)
      | none => ([], false, cs)

/-- The address of a list of groups, if there are eight. -/
def ofGroups? (groups : List UInt16) : Option IPv6 :=
  if h : groups.length = 8 then some ⟨groups, h⟩ else none

/-- Reads an address from the front of a text: eight groups, or fewer with two colons in the
place of the zero groups left out, of which there must be at least one. -/
def read (cs : List Char) : Option (IPv6 × List Char) :=
  let (head, dotted, rest) := readGroups size true cs
  if head.length = size then (ofGroups? head).map (·, rest)
  else if dotted then none
  else match rest with
    | ':' :: ':' :: rest =>
      let (tail, _, rest) := readGroups (size - (head.length + 1)) true rest
      let zeros := List.replicate (size - head.length - tail.length) 0
      (ofGroups? (head ++ zeros ++ tail)).map (·, rest)
    | _ => none

/-- The start and length of the longest run of zero groups, the first if there are several. -/
def longestZeroRun (groups : List UInt16) : Nat × Nat :=
  (List.range groups.length).foldl
    (fun best start =>
      let length := ((groups.drop start).takeWhile (· == 0)).length
      if best.2 < length then (start, length) else best)
    (0, 0)

/-- Groups in hexadecimal, separated by colons. -/
def groupsText (groups : List UInt16) : String :=
  ":".intercalate (groups.map fun g => String.ofList (Nat.toDigits 16 g.toNat))

/-- The IPv4 address embedded in an address whose first six groups are those of `::ffff`. -/
def embedded? (ip : IPv6) : Option IPv4 :=
  match ip.groups with
  | [0, 0, 0, 0, 0, 0xFFFF, g, h] =>
    some ⟨(g >>> 8).toUInt8, g.toUInt8, (h >>> 8).toUInt8, h.toUInt8⟩
  | _ => none

/-- The canonical text of an address. -/
def toText (ip : IPv6) : String :=
  match ip.embedded? with
  | some v4 => "::ffff:" ++ v4.toText
  | none =>
    let (start, length) := longestZeroRun ip.groups
    if 1 < length then
      groupsText (ip.groups.take start) ++ "::" ++ groupsText (ip.groups.drop (start + length))
    else groupsText ip.groups

end IPv6

/-- An address literal of either kind. -/
inductive Literal where
  /-- An IPv4 address. -/
  | v4 (ip : IPv4)
  /-- An IPv6 address. -/
  | v6 (ip : IPv6)
  deriving Repr, DecidableEq

namespace Literal

/-- Reads a whole text as an address. -/
def parse? (cs : List Char) : Option Literal :=
  match IPv4.read cs with
  | some (ip, rest) => if rest.isEmpty then some (.v4 ip) else none
  | none =>
    match IPv6.read cs with
    | some (ip, rest) => if rest.isEmpty then some (.v6 ip) else none
    | none => none

end Literal

end RemoteCall.Address
