import PoolFeed.Proofs.Data.SortedMap
import PoolFeed.Whitelist.Diff

/-!
# Keys of whitelists and of changes

A whitelist is known by its keys; a change between two whitelists names the keys of the one that
the other lacks, so that no key both comes and goes.

## Main statements

* `Whitelist.map_key_records` — the records of a whitelist have its keys, in order
* `Diff.mem_addedKeys`, `Diff.mem_removed` — what came and what went
-/

namespace PoolFeed

namespace Whitelist

variable {w : Whitelist} {k : String} {r : PoolRecord}

/-- **The records of a whitelist have its keys, in order.** -/
theorem map_key_records (w : Whitelist) : w.records.map (·.key) = w.keys := by
  show (w.items.entries.map (·.2)).map (·.key) = w.items.entries.map (·.1)
  rw [List.map_map]
  refine List.map_congr_left ?_
  rintro ⟨k, r⟩ he
  exact w.own_key k r ((Entries.find?_eq_some_iff w.items.sorted).mpr he)

theorem nodup_keys (w : Whitelist) : w.keys.Nodup := w.items.nodup_keys

theorem contains_eq_false_iff : w.contains k = false ↔ k ∉ w.keys :=
  SortedMap.contains_eq_false_iff

/-- Every key of a whitelist is the key of one of its records. -/
theorem exists_record_of_mem_keys (h : k ∈ w.keys) : ∃ r ∈ w.records, r.key = k := by
  rw [← map_key_records] at h
  obtain ⟨r, hr, hk⟩ := List.mem_map.mp h
  exact ⟨r, hr, hk⟩

/-- The keys of a whitelist are in normal spelling. -/
theorem normalizeKey_of_mem_keys (h : k ∈ w.keys) : normalizeKey k = k := by
  obtain ⟨r, -, rfl⟩ := exists_record_of_mem_keys h
  exact r.key_normal

end Whitelist

namespace Diff

variable {old new : Whitelist} {k : String} {r : PoolRecord}

theorem mem_added : r ∈ (between old new).added ↔ r ∈ new.records ∧ r.key ∉ old.keys := by
  rw [between, List.mem_filter, Bool.not_eq_true', Whitelist.contains_eq_false_iff]

/-- **The keys that came are those that only the new whitelist has.** -/
theorem mem_addedKeys : k ∈ (between old new).addedKeys ↔ k ∈ new.keys ∧ k ∉ old.keys := by
  rw [addedKeys, List.mem_map, ← Whitelist.map_key_records, List.mem_map]
  constructor
  · rintro ⟨r, hr, rfl⟩
    obtain ⟨hnew, hold⟩ := mem_added.mp hr
    exact ⟨⟨r, hnew, rfl⟩, hold⟩
  · rintro ⟨⟨r, hr, rfl⟩, hold⟩
    exact ⟨r, mem_added.mpr ⟨hr, hold⟩, rfl⟩

/-- **The keys that went are those that only the old whitelist has.** -/
theorem mem_removed : k ∈ (between old new).removed ↔ k ∈ old.keys ∧ k ∉ new.keys := by
  rw [between, List.mem_filter, Bool.not_eq_true', Whitelist.contains_eq_false_iff]

/-- No pool both comes and goes. -/
theorem notMem_removed (h : k ∈ (between old new).addedKeys) : k ∉ (between old new).removed :=
  fun hrem => (mem_addedKeys.mp h).2 (mem_removed.mp hrem).1

/-- No pool comes twice. -/
theorem nodup_addedKeys : (between old new).addedKeys.Nodup := by
  have hsub : (between old new).addedKeys.Sublist (new.records.map (·.key)) :=
    List.filter_sublist.map _
  exact hsub.nodup (new.map_key_records ▸ new.nodup_keys)

theorem added_eq_nil_iff : (between old new).added = [] ↔ ∀ k ∈ new.keys, k ∈ old.keys := by
  constructor
  · intro h k hk
    refine Classical.byContradiction fun hold => ?_
    have hmem := mem_addedKeys.mpr ⟨hk, hold⟩
    rw [addedKeys, h] at hmem
    cases hmem
  · intro h
    refine List.eq_nil_iff_forall_not_mem.mpr fun r hr => ?_
    obtain ⟨hnew, hold⟩ := mem_added.mp hr
    exact hold (h r.key (new.map_key_records ▸ List.mem_map_of_mem hnew))

theorem removed_eq_nil_iff : (between old new).removed = [] ↔ ∀ k ∈ old.keys, k ∈ new.keys := by
  constructor
  · intro h k hk
    refine Classical.byContradiction fun hnew => ?_
    have hmem := mem_removed.mpr ⟨hk, hnew⟩
    rw [h] at hmem
    cases hmem
  · intro h
    refine List.eq_nil_iff_forall_not_mem.mpr fun k hk => ?_
    obtain ⟨hold, hnew⟩ := mem_removed.mp hk
    exact hnew (h k hold)

/-- A change names no pool exactly when the whitelists have the same keys. -/
theorem eq_nil_iff_keys_eq :
    (between old new).added = [] ∧ (between old new).removed = [] ↔ old.keys = new.keys := by
  rw [added_eq_nil_iff, removed_eq_nil_iff]
  constructor
  · rintro ⟨hadd, hrem⟩
    exact SortedMap.keys_eq_of_mem_iff fun k => ⟨hrem k, hadd k⟩
  · intro h
    rw [h]
    exact ⟨fun _ hk => hk, fun _ hk => hk⟩

end Diff

end PoolFeed
