/-!
# Tables

A table maps keys to values. Its entries stand in the order of their insertion, and no key
occurs twice: a key that is present must be erased before it can be inserted again, unless
its value is replaced in place.
-/

namespace RemoteCall

/-- A finite map with its entries in order. -/
structure Table (κ α : Type) where
  /-- The entries. -/
  entries : List (κ × α)
  /-- No key occurs twice. -/
  nodup : (entries.map Prod.fst).Nodup

namespace Table

variable {κ α : Type} [DecidableEq κ]

/-- The table without entries. -/
def empty : Table κ α :=
  ⟨[], List.nodup_nil⟩

instance : Inhabited (Table κ α) := ⟨empty⟩

/-- The value of a key. -/
def find? (t : Table κ α) (k : κ) : Option α :=
  (t.entries.find? fun e => e.1 = k).map Prod.snd

/-- Whether a key is present. -/
def contains (t : Table κ α) (k : κ) : Bool :=
  (t.find? k).isSome

/-- The number of entries. -/
def size (t : Table κ α) : Nat :=
  t.entries.length

/-- Whether there are no entries. -/
def isEmpty (t : Table κ α) : Bool :=
  t.entries.isEmpty

/-- The keys, in order. -/
def keys (t : Table κ α) : List κ :=
  t.entries.map Prod.fst

/-- The values, in order. -/
def values (t : Table κ α) : List α :=
  t.entries.map Prod.snd

/-- A key without a value is not among the keys. -/
theorem find?_eq_none_iff (t : Table κ α) (k : κ) : t.find? k = none ↔ k ∉ t.keys := by
  simp only [find?, keys, Option.map_eq_none_iff, List.find?_eq_none, List.mem_map,
    decide_eq_true_eq]
  constructor
  · rintro h ⟨e, he, rfl⟩
    exact h e he rfl
  · intro h e he hk
    exact h ⟨e, he, hk⟩

/-- The table with one more entry, at the end. -/
def append (t : Table κ α) (k : κ) (x : α) (h : t.find? k = none) : Table κ α :=
  ⟨t.entries ++ [(k, x)], by
    have hk : k ∉ t.keys := (t.find?_eq_none_iff k).1 h
    rw [List.map_append, List.nodup_append]
    refine ⟨t.nodup, by simp, ?_⟩
    intro a ha b hb
    simp only [List.map_cons, List.map_nil, List.mem_singleton] at hb
    subst hb
    rintro rfl
    exact hk ha⟩

/-- The table with one more entry, unless the key is present. -/
def insert? (t : Table κ α) (k : κ) (x : α) : Option (Table κ α) :=
  match h : t.find? k with
  | none => some (t.append k x h)
  | some _ => none

/-- The table without the entry of a key. -/
def erase (t : Table κ α) (k : κ) : Table κ α :=
  ⟨t.entries.filter fun e => e.1 ≠ k,
    t.nodup.sublist (List.filter_sublist.map Prod.fst)⟩

/-- The value of a key, with the table without it; nothing if the key is not present. -/
def remove? (t : Table κ α) (k : κ) : Option (α × Table κ α) :=
  (t.find? k).map (·, t.erase k)

/-- The table in which a key has the given value, whatever it had before. -/
def replace (t : Table κ α) (k : κ) (x : α) : Table κ α :=
  (t.erase k).append k x (by
    rw [find?_eq_none_iff]
    simp only [keys, erase, List.mem_map, List.mem_filter]
    rintro ⟨e, ⟨_, he⟩, rfl⟩
    simp at he)

omit [DecidableEq κ] in
/-- Two entries with one key are the same entry. -/
theorem eq_of_mem_entries (t : Table κ α) {e f : κ × α} (he : e ∈ t.entries) (hf : f ∈ t.entries)
    (hkey : e.1 = f.1) : e = f := by
  obtain ⟨entries, hnodup⟩ := t
  dsimp only at he hf
  induction entries with
  | nil => cases he
  | cons g gs ih =>
    rw [List.map_cons, List.nodup_cons] at hnodup
    obtain ⟨hg, hgs⟩ := hnodup
    rcases List.mem_cons.1 he with rfl | he'
    · rcases List.mem_cons.1 hf with rfl | hf'
      · rfl
      · exact absurd (List.mem_map.2 ⟨f, hf', hkey.symm⟩) hg
    · rcases List.mem_cons.1 hf with rfl | hf'
      · exact absurd (List.mem_map.2 ⟨e, he', hkey⟩) hg
      · exact ih hgs he' hf'

/-- A key has a value exactly if the two form an entry. -/
theorem find?_eq_some_iff (t : Table κ α) (k : κ) (x : α) :
    t.find? k = some x ↔ (k, x) ∈ t.entries := by
  rw [find?, Option.map_eq_some_iff]
  constructor
  · rintro ⟨⟨k', x'⟩, hfind, rfl⟩
    have hkey : k' = k := by simpa using List.find?_some hfind
    subst hkey
    exact List.mem_of_find?_eq_some hfind
  · intro hmem
    cases hfind : t.entries.find? fun e => e.1 = k with
    | none => simpa using List.find?_eq_none.1 hfind _ hmem
    | some e =>
      have hkey : e.1 = k := by simpa using List.find?_some hfind
      have heq := t.eq_of_mem_entries (List.mem_of_find?_eq_some hfind) hmem hkey
      exact ⟨e, rfl, by rw [heq]⟩

/-- The keys are what has a value. -/
theorem mem_keys_iff (t : Table κ α) (k : κ) : k ∈ t.keys ↔ ∃ x, t.find? k = some x := by
  rw [← Option.ne_none_iff_exists', ne_eq, find?_eq_none_iff, Decidable.not_not]

/-- A key that is erased has no value, and the others keep theirs. -/
theorem find?_erase (t : Table κ α) (k k' : κ) :
    (t.erase k).find? k' = if k' = k then none else t.find? k' := by
  by_cases hk : k' = k
  · rw [if_pos hk, find?_eq_none_iff, keys, erase, List.mem_map]
    rintro ⟨e, he, rfl⟩
    simp [hk] at he
  · rw [if_neg hk]
    refine Option.ext fun x => ?_
    rw [find?_eq_some_iff, find?_eq_some_iff, erase, List.mem_filter]
    simp [hk]

/-- A key that is replaced has the new value, and the others keep theirs. -/
theorem find?_replace (t : Table κ α) (k k' : κ) (x : α) :
    (t.replace k x).find? k' = if k' = k then some x else t.find? k' := by
  refine Option.ext fun y => ?_
  rw [find?_eq_some_iff, replace, append, List.mem_append, ← find?_eq_some_iff, find?_erase,
    List.mem_singleton, Prod.mk.injEq]
  by_cases hk : k' = k
  · simp [hk, eq_comm]
  · simp [hk]

/-- Nothing is inserted exactly if the key is present. -/
theorem insert?_eq_none_iff (t : Table κ α) (k : κ) (x : α) :
    t.insert? k x = none ↔ k ∈ t.keys := by
  rw [insert?]
  split
  next h =>
    have hk := (t.find?_eq_none_iff k).1 h
    simp [hk]
  next y h =>
    rw [Table.find?_eq_some_iff] at h
    have hk : k ∈ t.keys := List.mem_map_of_mem h
    simp [hk]

/-- A key that is present cannot be inserted, and another gets its entry at the end. -/
theorem insert?_eq_some_iff (t u : Table κ α) (k : κ) (x : α) :
    t.insert? k x = some u ↔ k ∉ t.keys ∧ u.entries = t.entries ++ [(k, x)] := by
  rw [insert?]
  split
  next h =>
    have hk := (t.find?_eq_none_iff k).1 h
    constructor
    · intro hu
      cases hu
      exact ⟨hk, rfl⟩
    · rintro ⟨-, hu⟩
      obtain ⟨entries, _⟩ := u
      cases hu
      rfl
  next y h =>
    have hk : k ∈ t.keys := by
      rw [Table.find?_eq_some_iff] at h
      exact List.mem_map_of_mem h
    simp [hk]

end Table

end RemoteCall
