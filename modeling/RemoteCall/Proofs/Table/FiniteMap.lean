import Mathlib.Data.Finmap
import RemoteCall.Table
/-!
# Tables as finite maps

A table is a finite map whose entries stand in an order. `Table.toFinmap` forgets the order. Looking
up, inserting and erasing mean the same for the table and for the map, and the map has as many keys,
and the same values, as the table.
-/

namespace RemoteCall.Table

variable {κ α : Type} {t u : Table κ α} {k : κ} {x : α}

/-! ## The map of a table -/

/-- The entries, as pairs of the kind that a finite map has. -/
def pairs (t : Table κ α) : List ((_ : κ) × α) :=
  t.entries.map fun e => ⟨e.1, e.2⟩

theorem keys_pairs (t : Table κ α) : t.pairs.keys = t.keys := by
  rw [List.keys, pairs, List.map_map]
  rfl

theorem mem_pairs {p : (_ : κ) × α} : p ∈ t.pairs ↔ (p.1, p.2) ∈ t.entries := by
  obtain ⟨k, x⟩ := p
  simp [pairs]

/-- The finite map that a table stands for. -/
def toFinmap (t : Table κ α) : Finmap fun _ : κ => α :=
  ⟨t.pairs, by
    rw [Multiset.coe_nodupKeys, List.NodupKeys, keys_pairs]
    exact t.nodup⟩

theorem entries_toFinmap (t : Table κ α) : t.toFinmap.entries = t.pairs :=
  rfl

/-- There are as many keys as entries. -/
@[simp]
theorem card_keys_toFinmap (t : Table κ α) : t.toFinmap.keys.card = t.size := by
  show Multiset.card (Multiset.keys (t.pairs : Multiset ((_ : κ) × α))) = t.size
  rw [Multiset.coe_keys, Multiset.coe_card, keys_pairs, keys, List.length_map]
  rfl

/-- Without entries there are no keys. -/
theorem keys_toFinmap_eq_empty_iff : t.toFinmap.keys = ∅ ↔ t.isEmpty = true := by
  rw [← Finset.card_eq_zero, card_keys_toFinmap, size, List.length_eq_zero_iff, isEmpty,
    List.isEmpty_iff]

/-- The values of the map are those of the table. -/
@[simp]
theorem map_snd_toFinmap (t : Table κ α) :
    t.toFinmap.entries.map Sigma.snd = (t.values : Multiset α) := by
  rw [entries_toFinmap, Multiset.map_coe, pairs, List.map_map]
  rfl

/-! ## Operations -/

variable [DecidableEq κ]

@[simp]
theorem lookup_toFinmap (t : Table κ α) (k : κ) : t.toFinmap.lookup k = t.find? k := by
  refine Option.ext fun x => ?_
  rw [Finmap.lookup_eq_some_iff, find?_eq_some_iff, entries_toFinmap, Multiset.mem_coe, mem_pairs]

@[simp]
theorem mem_toFinmap : k ∈ t.toFinmap ↔ k ∈ t.keys := by
  rw [Finmap.mem_iff, mem_keys_iff, lookup_toFinmap]

@[simp]
theorem toFinmap_erase (t : Table κ α) (k : κ) : (t.erase k).toFinmap = t.toFinmap.erase k := by
  refine Finmap.ext_lookup fun k' => ?_
  rw [lookup_toFinmap, find?_erase]
  split
  next hk =>
    subst hk
    rw [Finmap.lookup_erase]
  next hk => rw [Finmap.lookup_erase_ne hk, lookup_toFinmap]

/-- A key that is inserted gets its value in the map as well. -/
theorem toFinmap_insert? (h : t.insert? k x = some u) : u.toFinmap = t.toFinmap.insert k x := by
  obtain ⟨hk, hentries⟩ := (t.insert?_eq_some_iff u k x).1 h
  refine Finmap.ext_lookup fun k' => Option.ext fun y => ?_
  rw [lookup_toFinmap, find?_eq_some_iff, hentries, List.mem_append, ← find?_eq_some_iff,
    List.mem_singleton, Prod.mk.injEq]
  by_cases hk' : k' = k
  · -- The key had no value before, so the new entry is the only one.
    subst hk'
    rw [Finmap.lookup_insert, (t.find?_eq_none_iff k').2 hk]
    simp [eq_comm]
  · rw [Finmap.lookup_insert_of_ne _ hk', lookup_toFinmap]
    simp [hk']

/-- The value of a key and the values without the key are all values. -/
theorem values_perm_of_find? (h : t.find? k = some x) : t.values.Perm (x :: (t.erase k).values) := by
  have hmem : (k, x) ∈ t.entries := (t.find?_eq_some_iff k x).1 h
  have hentries : t.entries.Perm ((k, x) :: (t.erase k).entries) := by
    apply (List.perm_ext_iff_of_nodup t.nodup.of_map _).2
    · intro e
      rw [List.mem_cons, erase, List.mem_filter, decide_eq_true_eq]
      constructor
      · intro he
        by_cases hk : e.1 = k
        · exact .inl (t.eq_of_mem_entries he hmem hk)
        · exact .inr ⟨he, hk⟩
      · rintro (rfl | ⟨he, -⟩)
        · exact hmem
        · exact he
    · refine List.nodup_cons.2 ⟨fun hk => ?_, (t.erase k).nodup.of_map⟩
      simp [erase] at hk
  exact hentries.map Prod.snd

end RemoteCall.Table
