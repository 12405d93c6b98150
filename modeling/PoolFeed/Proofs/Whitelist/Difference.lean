import Mathlib.Order.Compare
import PoolFeed.Proofs.Whitelist.Stored

/-!
# Changes are exact

A change between two whitelists names what sets their keys apart and nothing else. Made to the keys
of the old whitelist it gives those of the new one, and changes that are made one after the other
give what the change from the first whitelist to the last one gives.

## Main statements

* `Diff.mem_applyTo` — the keys that a change makes of some keys
* `Diff.applyTo_between` — a change leads from the old keys to the new ones
* `Diff.size_add_length` — as many pools are gained as the whitelist grows
* `Diff.between_exact` — all of it
-/

namespace PoolFeed

namespace Whitelist

variable {v w : Whitelist} {k : String} {r : PoolRecord}

/-- The keys of a whitelist increase strictly. -/
theorem keys_increasing (w : Whitelist) : w.keys.Pairwise (· < ·) :=
  w.items.keys_sorted.imp compareOfLessAndEq_eq_lt.mp

theorem find?_eq_none_iff : w.find? k = none ↔ k ∉ w.keys := SortedMap.find?_eq_none_iff

theorem length_keys (w : Whitelist) : w.keys.length = w.size := List.length_map _

theorem sameKeys_iff : v.sameKeys w = true ↔ v.keys = w.keys := decide_eq_true_iff

end Whitelist

namespace Diff

variable {old new : Whitelist} {d : Diff} {keys : List String} {k : String}

/-! ## Sets of keys -/

theorem mem_keys_keySet : k ∈ (keySet keys).keys ↔ k ∈ keys := by
  rw [SortedMap.mem_keys, keySet, SortedMap.find?_ofList, Option.isSome_map, List.find?_isSome]
  simp

/-- **The keys that a change makes of some keys.** -/
theorem mem_applyTo : k ∈ d.applyTo keys ↔ k ∉ d.removed ∧ (k ∈ d.addedKeys ∨ k ∈ keys) := by
  have hadd : ∀ m : KeySet, k ∈ (d.addedKeys.foldl (fun s k => s.insert k ()) m).keys
      ↔ k ∈ d.addedKeys ∨ k ∈ m.keys := by
    intro m
    have hfold : k ∈ (d.addedKeys.foldl (fun s k => s.insert (id k) ()) m).keys
        ↔ k ∈ d.addedKeys.map id ∨ k ∈ m.keys :=
      SortedMap.mem_keys_foldl_insert id fun _ => ()
    rw [List.map_id] at hfold
    exact hfold
  simp only [applyTo]
  rw [SortedMap.mem_keys_foldl_erase, hadd, mem_keys_keySet]

/-- A change that makes the keys of a map lists them as the map does. -/
theorem applyTo_eq_keys {α : Type} {m : SortedMap String α}
    (h : ∀ k, k ∈ d.applyTo keys ↔ k ∈ m.keys) : d.applyTo keys = m.keys :=
  SortedMap.keys_eq_of_mem_iff h

/-! ## From one whitelist to another -/

/-- **A change leads from the old keys, listed in any way, to the new ones.** -/
theorem applyTo_between (h : ∀ k, k ∈ keys ↔ k ∈ old.keys) :
    (between old new).applyTo keys = new.keys := by
  refine applyTo_eq_keys fun k => ?_
  show _ ↔ k ∈ new.keys
  rw [mem_applyTo, mem_removed, mem_addedKeys, h]
  by_cases hold : k ∈ old.keys
  · simp [hold]
  · simp [hold]

/-- A change says nothing exactly if the keys stay the same. -/
theorem isEmpty_between_iff : (between old new).isEmpty = true ↔ old.keys = new.keys := by
  rw [← eq_nil_iff_keys_eq, isEmpty, Bool.and_eq_true, List.isEmpty_iff, List.isEmpty_iff]

/-- The keys that came, out of the keys of the new whitelist. -/
theorem addedKeys_between (old new : Whitelist) :
    (between old new).addedKeys = new.keys.filter (fun k => !old.contains k) := by
  rw [← Whitelist.map_key_records, List.filter_map]
  rfl

theorem addedKeys_increasing (old new : Whitelist) :
    (between old new).addedKeys.Pairwise (· < ·) := by
  rw [addedKeys_between]
  exact new.keys_increasing.filter _

theorem removed_increasing (old new : Whitelist) :
    (between old new).removed.Pairwise (· < ·) :=
  old.keys_increasing.filter _

/-- The keys that two whitelists share, out of the one or the other. -/
theorem length_shared (v w : Whitelist) :
    (v.keys.filter w.contains).length = (w.keys.filter v.contains).length := by
  refine List.Perm.length_eq ((List.perm_ext_iff_of_nodup ?_ ?_).mpr fun k => ?_)
  · exact v.nodup_keys.filter _
  · exact w.nodup_keys.filter _
  · have hv : v.contains k = true ↔ k ∈ v.keys := SortedMap.contains_eq_true_iff
    have hw : w.contains k = true ↔ k ∈ w.keys := SortedMap.contains_eq_true_iff
    rw [List.mem_filter, List.mem_filter, hv, hw, and_comm]

/-- **As many pools are gained as the whitelist grows.** -/
theorem size_add_length (old new : Whitelist) :
    old.size + (between old new).added.length = new.size + (between old new).removed.length := by
  have hadded : (between old new).added.length
      = (new.keys.filter (fun k => !old.contains k)).length := by
    rw [← addedKeys_between, addedKeys, List.length_map]
  have hremoved : (between old new).removed.length
      = (old.keys.filter (fun k => !new.contains k)).length := rfl
  have hold := List.length_eq_length_filter_add (l := old.keys) new.contains
  have hnew := List.length_eq_length_filter_add (l := new.keys) old.contains
  have hshared := length_shared old new
  rw [← old.length_keys, ← new.length_keys, hadded, hremoved]
  omega

/-! ## All of it -/

/-- What a change has to say to lead from one whitelist to another. -/
structure Exact (old new : Whitelist) (d : Diff) : Prop where
  /-- The records that came are those of the new whitelist, whose keys the old one lacks. -/
  added : ∀ r, r ∈ d.added ↔ new.find? r.key = some r ∧ old.find? r.key = none
  /-- The keys that went are those of the old whitelist that the new one lacks. -/
  removed : ∀ k, k ∈ d.removed ↔ (old.find? k).isSome ∧ new.find? k = none
  added_increasing : (d.added.map (·.key)).Pairwise (· < ·)
  removed_increasing : d.removed.Pairwise (· < ·)
  /-- No key both comes and goes. -/
  disjoint : ∀ r ∈ d.added, r.key ∉ d.removed
  /-- The old keys become the new ones, in whatever order and however often they are listed. -/
  applied : ∀ keys, (∀ k, k ∈ keys ↔ k ∈ old.keys) → d.applyTo keys = new.keys
  /-- The old keys stay as they are exactly if the change is empty. -/
  unchanged : d.applyTo old.keys = old.keys ↔ d.isEmpty = true
  /-- It is empty exactly if the whitelists are the same but for attributes. -/
  empty : d.isEmpty = true ↔ old.sameKeys new = true
  counted : old.size + d.added.length = new.size + d.removed.length
  /-- A change to a third whitelist, made behind it, leads there as well. -/
  composed : ∀ later keys, (∀ k, k ∈ keys ↔ k ∈ old.keys) →
    (between new later).applyTo (d.applyTo keys) = (between old later).applyTo keys

/-- **A change between two whitelists is exact, minimal and can be made in steps.** -/
theorem between_exact (old new : Whitelist) : Exact old new (between old new) := by
  refine
    { added := fun r => ?added
      removed := fun k => ?removed
      added_increasing := addedKeys_increasing old new
      removed_increasing := removed_increasing old new
      disjoint := fun r hr => notMem_removed (List.mem_map_of_mem hr)
      applied := fun keys => applyTo_between
      unchanged := ?unchanged
      empty := isEmpty_between_iff.trans Whitelist.sameKeys_iff.symm
      counted := size_add_length old new
      composed := fun later keys h => ?composed }
  case added =>
    have hrecord : r ∈ new.records ↔ new.find? r.key = some r := by
      rw [Whitelist.find?_eq_some_iff, and_iff_left rfl]
    rw [mem_added, hrecord, Whitelist.find?_eq_none_iff]
  case removed =>
    have hkey : k ∈ old.keys ↔ (old.find? k).isSome := SortedMap.mem_keys
    rw [mem_removed, hkey, Whitelist.find?_eq_none_iff]
  case unchanged =>
    rw [applyTo_between fun k => Iff.rfl, isEmpty_between_iff, eq_comm]
  case composed =>
    rw [applyTo_between h, applyTo_between fun k => Iff.rfl, applyTo_between h]

end Diff

end PoolFeed
