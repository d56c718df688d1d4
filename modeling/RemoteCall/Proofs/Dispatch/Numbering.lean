import Mathlib.Algebra.Ring.Nat
import Mathlib.Data.List.Nodup
/-!
# Numbers that are handed out

Dispatchers and calls are numbered by counters of 64 bits, which begin with one and wrap around in
silence. `HandsOut` says what a counter has handed out so far, and to whom the numbers have gone that
somebody remembers: no number has been given to two of them as long as the counter has not wrapped
around. `Ascends` also says in which order they have gone out.
-/

namespace RemoteCall

/-- A counter that hands out a number next has handed out so many, those given among them. -/
structure HandsOut (next : UInt64) (count : Nat) (given : List UInt64) : Prop where
  next_eq : next = .ofNat (count + 1)
  exists_lt : ∀ id ∈ given, ∃ m < count, id = .ofNat (m + 1)
  nodup : count ≤ 2 ^ 64 → given.Nodup

namespace HandsOut

variable {next : UInt64} {count : Nat} {given : List UInt64}

/-- A new counter. -/
theorem zero : HandsOut 1 0 [] :=
  ⟨rfl, nofun, fun _ => List.nodup_nil⟩

/-- The number after the next. -/
theorem succ_eq (h : HandsOut next count given) : next + 1 = .ofNat (count + 1 + 1) := by
  rw [h.next_eq, UInt64.ofNat_add (count + 1) 1]
  rfl

/-- A number is handed out, and nobody remembers it. -/
theorem skip (h : HandsOut next count given) : HandsOut (next + 1) (count + 1) given where
  next_eq := h.succ_eq
  exists_lt id hid := by
    obtain ⟨m, hm, heq⟩ := h.exists_lt id hid
    exact ⟨m, by omega, heq⟩
  nodup hlarge := h.nodup (by omega)

/-- A number is handed out. -/
theorem give (h : HandsOut next count given) :
    HandsOut (next + 1) (count + 1) (given ++ [next]) where
  next_eq := h.succ_eq
  exists_lt id hid := by
    rcases List.mem_append.1 hid with hold | hnew
    · obtain ⟨m, hm, heq⟩ := h.exists_lt id hold
      exact ⟨m, by omega, heq⟩
    · exact ⟨count, by omega, (List.mem_singleton.1 hnew).trans h.next_eq⟩
  nodup hlarge := by
    rw [List.nodup_append]
    refine ⟨h.nodup (by omega), List.nodup_singleton next, ?_⟩
    intro id hid id' hid' hsame
    -- The numbers before are smaller, and so they are different modulo `2 ^ 64`.
    obtain ⟨m, hm, heq⟩ := h.exists_lt id hid
    rw [List.mem_singleton.1 hid', heq, h.next_eq] at hsame
    have hmod := congrArg UInt64.toNat hsame
    rw [UInt64.toNat_ofNat', UInt64.toNat_ofNat'] at hmod
    omega

end HandsOut

/-- A counter that hands out a number next has handed out so many, those given among them and in
this order. Without the limit of 64 bits they would ascend. -/
structure Ascends (next : UInt64) (count : Nat) (given : List UInt64) : Prop where
  next_eq : next = .ofNat (count + 1)
  exists_numbers : ∃ numbers : List Nat, given = numbers.map .ofNat ∧
    numbers.Pairwise (· < ·) ∧ ∀ m ∈ numbers, m ≤ count

namespace Ascends

variable {next : UInt64} {count : Nat} {given : List UInt64}

/-- A new counter. -/
theorem zero : Ascends 1 0 [] :=
  ⟨rfl, [], rfl, .nil, nofun⟩

/-- A number is handed out, and nobody remembers it. -/
theorem skip (h : Ascends next count given) : Ascends (next + 1) (count + 1) given where
  next_eq := by
    rw [h.next_eq, UInt64.ofNat_add (count + 1) 1]
    rfl
  exists_numbers := by
    obtain ⟨numbers, hgiven, hlt, hle⟩ := h.exists_numbers
    exact ⟨numbers, hgiven, hlt, fun m hm => Nat.le_succ_of_le (hle m hm)⟩

/-- A number is handed out. -/
theorem give (h : Ascends next count given) :
    Ascends (next + 1) (count + 1) (given ++ [next]) where
  next_eq := h.skip.next_eq
  exists_numbers := by
    obtain ⟨numbers, rfl, hlt, hle⟩ := h.exists_numbers
    refine ⟨numbers ++ [count + 1], ?_, ?_, ?_⟩
    · rw [List.map_append, List.map_singleton, h.next_eq]
    · rw [List.pairwise_append]
      refine ⟨hlt, List.pairwise_singleton _ _, fun m hm m' hm' => ?_⟩
      rw [List.mem_singleton.1 hm']
      exact Nat.lt_succ_of_le (hle m hm)
    · intro m hm
      rcases List.mem_append.1 hm with hold | hnew
      · exact Nat.le_succ_of_le (hle m hold)
      · exact Nat.le_of_eq (List.mem_singleton.1 hnew)

/-- Some of the numbers have gone out in the same order. -/
theorem sublist (h : Ascends next count given) {some : List UInt64} (hsome : some.Sublist given) :
    Ascends next count some where
  next_eq := h.next_eq
  exists_numbers := by
    obtain ⟨numbers, rfl, hlt, hle⟩ := h.exists_numbers
    obtain ⟨some', hsome', rfl⟩ := List.sublist_map_iff.1 hsome
    exact ⟨some', rfl, hlt.sublist hsome', fun m hm => hle m (hsome'.subset hm)⟩

/-- As long as the counter has not wrapped around, the numbers ascend. -/
theorem pairwise_lt (h : Ascends next count given) (hcount : count < 2 ^ 64) :
    given.Pairwise (· < ·) := by
  obtain ⟨numbers, rfl, hlt, hle⟩ := h.exists_numbers
  rw [List.pairwise_map]
  refine hlt.imp_of_mem fun {m m'} hm hm' hless => ?_
  have hm := hle m hm
  have hm' := hle m' hm'
  rw [UInt64.lt_iff_toNat_lt, UInt64.toNat_ofNat', UInt64.toNat_ofNat']
  omega

end Ascends

end RemoteCall
