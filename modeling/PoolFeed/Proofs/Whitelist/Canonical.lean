import Mathlib.Data.List.Dedup
import PoolFeed.Proofs.Database.Agreement
import PoolFeed.Proofs.Database.OlderRows
import PoolFeed.Proofs.Whitelist.Difference
import PoolFeed.Proofs.Whitelist.Intake

/-!
# Whitelists are canonical

However a whitelist came about, every record stands under its own key, which is its address in
normal spelling. There is one record for each key that the spellings that went in come down to.

## Main statements

* `MemoryStore.mem_keys_itemsOf_foldl` — what is kept in memory under an id
* `Whitelist.Obtained.mem_keys_iff` — the keys of a whitelist, by what went in
* `Whitelist.Obtained.canonical` — a whitelist that can be obtained is canonical
-/

namespace PoolFeed

/-- A record that passed validation, and how its key was spelled. -/
inductive PoolRecord.Validated : PoolRecord → String → Prop
  | fresh {v : Json} {r : PoolRecord} {raw : String} (haddress : PoolRecord.address? v = some raw)
    (h : PoolRecord.ofJson v = .ok r) : Validated r raw
  | stored {key : String} {v : Json} {r : PoolRecord} (h : PoolRecord.ofStored key v = .ok r) :
    Validated r key

theorem PoolRecord.Validated.key_eq {r : PoolRecord} {s : String} (h : r.Validated s) :
    r.key = normalizeKey s := by
  cases h with
  | fresh haddress h =>
    obtain ⟨raw, hraw, hkey⟩ := (PoolRecord.ofJson_eq_ok_iff.mp h).address?
    rw [haddress] at hraw
    cases hraw
    exact hkey
  | stored h => exact PoolRecord.key_of_ofStored h

namespace Whitelist

theorem mem_keys_foldl_insertIfNew {rs : List PoolRecord} {w : Whitelist} {k : String} :
    k ∈ (rs.foldl insertIfNew w).keys ↔ k ∈ w.keys ∨ ∃ r ∈ rs, r.key = k := by
  have hsome : ∀ w : Whitelist, k ∈ w.keys ↔ (w.find? k).isSome := fun _ => SortedMap.mem_keys
  rw [hsome, hsome, find?_foldl_insertIfNew, Option.isSome_or, Bool.or_eq_true, List.find?_isSome]
  simp only [decide_eq_true_eq]

/-- The keys of a whitelist are those of its records. -/
theorem mem_keys_iff_exists_record {w : Whitelist} {k : String} :
    k ∈ w.keys ↔ ∃ r ∈ w.records, r.key = k := by
  rw [← map_key_records, List.mem_map]

end Whitelist

namespace MemoryStore

variable {m m' : MemoryStore} {chain k : String} {id : Int}

theorem itemsOf_congr (h : m.editions = m'.editions) (chain : String) (id : Int) :
    m.itemsOf chain id = m'.itemsOf chain id := by
  rw [itemsOf, itemsOf, editionsOf, editionsOf, h]

theorem latest?_of_loadLatest {x : Snapshot}
    (h : (SnapshotStore.loadLatest chain m).result = .ok (some x)) : m.latest? chain = some x := by
  rw [loadLatest_eq] at h
  split at h
  · cases h
  · exact Except.ok.inj h

/-- **Under an id, the keys of all snapshots are kept that were stored under it.** -/
theorem mem_keys_itemsOf_foldl (xs : List Snapshot) (m : MemoryStore) :
    k ∈ ((xs.foldl store m).itemsOf chain id).keys ↔ k ∈ (m.itemsOf chain id).keys
      ∨ ∃ x ∈ xs, (x.chain = chain ∧ x.snapshotId = id) ∧ k ∈ x.items.keys := by
  induction xs generalizing m with
  | nil => simp
  | cons x xs ih =>
    rw [List.foldl_cons, ih, List.exists_mem_cons_iff, ← or_assoc]
    refine or_congr_left ?_
    by_cases heq : x.chain = chain ∧ x.snapshotId = id
    · obtain ⟨rfl, rfl⟩ := heq
      rw [itemsOf_store, Whitelist.mem_keys_foldl_insertIfNew,
        ← Whitelist.mem_keys_iff_exists_record]
      simp
    · rw [itemsOf_store_of_ne heq]
      simp [heq]

end MemoryStore

namespace Whitelist

open Database (DatabaseStore)
open PoolRecord (address? Validated)

/-- The ways to obtain a whitelist, with the spellings of the keys that went in. -/
inductive Obtained : Whitelist → List String → Prop
  /-- From values that were taken in. -/
  | values {values : List Json} {w : Whitelist} (h : ofValues values = .ok w) :
    Obtained w (values.filterMap address?)
  /-- From a text that is an array of such values. -/
  | text {text : Text.Bytes} {values : List Json} {w : Whitelist}
    (hread : Json.readArray text = .ok values) (h : ofText text = .ok w) :
    Obtained w (values.filterMap address?)
  /-- By collecting records. -/
  | records {rs : List PoolRecord} {ss : List String} (h : List.Forall₂ Validated rs ss) :
    Obtained (ofRecords rs) ss
  /-- From a store in memory, whatever was stored in it. -/
  | memory {stored : List (Snapshot × List String)} {m : MemoryStore} {chain : String}
    {x : Snapshot} (hstored : ∀ e ∈ stored, Obtained e.1.items e.2)
    (hm : m.editions = ((stored.map (·.1)).foldl MemoryStore.store .empty).editions)
    (hload : (SnapshotStore.loadLatest chain m).result = .ok (some x)) :
    Obtained x.items
      ((stored.filter fun e => e.1.chain = chain ∧ e.1.snapshotId = x.snapshotId).flatMap (·.2))
  /-- From a store in a database, whatever rows it replies with. -/
  | database {α : Type} [Database.Server α] {s : DatabaseStore α} {chain : String} {x : Snapshot}
    {rows : List Database.Row} (hload : (s.loadLatest chain).result = .ok (some x))
    (hrows : ((DatabaseStore.findHead s.timeout chain s.connection).connection.execute s.timeout
      .zero (.selectPools chain x.snapshotId)).result = .ok rows) :
    Obtained x.items (rows.filterMap DatabaseStore.rowKey?)
  | insert {w : Whitelist} {ss : List String} {r : PoolRecord} {s : String} (h : Obtained w ss)
    (hr : r.Validated s) : Obtained (w.insert r) (s :: ss)
  | erase {w : Whitelist} {ss : List String} (h : Obtained w ss) (key : String) :
    Obtained (w.erase key) (ss.filter fun s => normalizeKey s ≠ key)

/-- A whitelist in normal form, made of keys that were spelled in some way. -/
structure Canonical (w : Whitelist) (spellings : List String) : Prop where
  /-- A record stands under its own key. -/
  own : ∀ k r, w.find? k = some r → r.key = k
  /-- Its attributes are an object, and the key is the address in it. -/
  addressed : ∀ k r, w.find? k = some r → ∃ fields, r.attributes = .object fields
    ∧ Entries.find? addressField fields = some (.string k)
  nonempty : ∀ k ∈ w.keys, k ≠ ""
  normal : ∀ k ∈ w.keys, normalizeKey k = k
  keys : ∀ k, k ∈ w.keys ↔ ∃ s ∈ spellings, normalizeKey s = k
  /-- There are as many records as there are different keys. -/
  size : w.size = (spellings.map normalizeKey).dedup.length

variable {w : Whitelist} {ss : List String} {k : String}

/-! ## Which keys there are -/

theorem mem_keys_of_ofValues {values : List Json} (h : ofValues values = .ok w) (k : String) :
    k ∈ w.keys ↔ ∃ s ∈ values.filterMap address?, normalizeKey s = k := by
  have heach : OneEach values w := by
    rcases ofValues_cases values with ⟨w', hw', heach⟩ | ⟨i, reason, herror, -⟩
    · rw [h] at hw'
      cases hw'
      exact heach
    · rw [h] at herror
      cases herror
  rw [heach.mem_keys_iff]
  simp only [entryKey?, Option.map_eq_some_iff, List.mem_filterMap]
  constructor
  · rintro ⟨v, hv, s, hs, hk⟩
    exact ⟨s, ⟨v, hv, hs⟩, hk⟩
  · rintro ⟨s, ⟨v, hv, hs⟩, hk⟩
    exact ⟨v, hv, s, hs, hk⟩

theorem mem_keys_of_validated {rs : List PoolRecord} (h : List.Forall₂ Validated rs ss)
    (k : String) : k ∈ (ofRecords rs).keys ↔ ∃ s ∈ ss, normalizeKey s = k := by
  have hkeys : rs.map (·.key) = ss.map normalizeKey := by
    induction h with
    | nil => rfl
    | cons hr _ ih => rw [List.map_cons, List.map_cons, ih, hr.key_eq]
  rw [mem_keys_ofRecords, ← List.mem_map, hkeys, List.mem_map]

theorem mem_keys_of_stored {stored : List (Snapshot × List String)} {chain : String} {id : Int}
    (h : ∀ e ∈ stored, ∀ k, k ∈ e.1.items.keys ↔ ∃ s ∈ e.2, normalizeKey s = k) :
    k ∈ (((stored.map (·.1)).foldl MemoryStore.store .empty).itemsOf chain id).keys
      ↔ ∃ s ∈ (stored.filter fun e => e.1.chain = chain ∧ e.1.snapshotId = id).flatMap (·.2),
        normalizeKey s = k := by
  have hempty : k ∉ (MemoryStore.empty.itemsOf chain id).keys := List.not_mem_nil
  rw [MemoryStore.mem_keys_itemsOf_foldl, or_iff_right hempty]
  simp only [List.mem_map, List.mem_flatMap, List.mem_filter, decide_eq_true_eq]
  constructor
  · rintro ⟨_, ⟨e, he, rfl⟩, hid, hk⟩
    obtain ⟨s, hs, hk⟩ := (h e he k).mp hk
    exact ⟨s, ⟨e, ⟨he, hid⟩, hs⟩, hk⟩
  · rintro ⟨s, ⟨e, ⟨he, hid⟩, hs⟩, hk⟩
    exact ⟨e.1, ⟨e, he, rfl⟩, hid, (h e he k).mpr ⟨s, hs, hk⟩⟩

/-- **The keys of a whitelist are those that went in, in normal spelling.** -/
theorem Obtained.mem_keys_iff (h : Obtained w ss) (k : String) :
    k ∈ w.keys ↔ ∃ s ∈ ss, normalizeKey s = k := by
  induction h generalizing k with
  | values h => exact mem_keys_of_ofValues h k
  | text hread h =>
    rw [ofText, hread] at h
    exact mem_keys_of_ofValues h k
  | records h => exact mem_keys_of_validated h k
  | memory hstored hm hload ih =>
    have hitems := (MemoryStore.latest?_eq_some (MemoryStore.latest?_of_loadLatest hload)).2.1
    rw [hitems, MemoryStore.itemsOf_congr hm]
    exact mem_keys_of_stored ih
  | database hload hrows =>
    obtain ⟨-, -, ⟨rows, rs, hrows', hrs, hitems⟩, -⟩ := DatabaseStore.loadLatest_eq_some hload
    rw [hrows] at hrows'
    cases hrows'
    rw [hitems]
    exact DatabaseStore.mem_keys_of_readPools hrs
  | @insert w ss r s h hr ih =>
    have hinsert : k ∈ (w.insert r).keys ↔ k = r.key ∨ k ∈ w.keys := SortedMap.mem_keys_insert
    rw [hinsert, ih, List.exists_mem_cons_iff, hr.key_eq, eq_comm]
  | @erase w ss h key ih =>
    have herase : k ∈ (w.erase key).keys ↔ k ≠ key ∧ k ∈ w.keys := SortedMap.mem_keys_erase
    rw [herase, ih]
    simp only [List.mem_filter, decide_eq_true_eq]
    constructor
    · rintro ⟨hne, s, hs, rfl⟩
      exact ⟨s, ⟨hs, hne⟩, rfl⟩
    · rintro ⟨s, ⟨hs, hne⟩, rfl⟩
      exact ⟨hne, s, hs, rfl⟩

/-! ## All of it -/

/-- There are as many records as there are different keys. -/
theorem size_eq_length_dedup (h : ∀ k, k ∈ w.keys ↔ ∃ s ∈ ss, normalizeKey s = k) :
    w.size = (ss.map normalizeKey).dedup.length := by
  have hperm : w.keys.Perm (ss.map normalizeKey).dedup := by
    refine (List.perm_ext_iff_of_nodup w.nodup_keys (List.nodup_dedup _)).mpr fun k => ?_
    rw [List.mem_dedup, List.mem_map, h]
  rw [← w.length_keys, hperm.length_eq]

/-- **A whitelist that can be obtained is canonical.** -/
theorem Obtained.canonical (h : Obtained w ss) : Canonical w ss where
  own := w.own_key
  addressed := by
    intro k r hr
    rw [← w.own_key k r hr]
    exact ⟨r.fields, rfl, r.address_eq⟩
  nonempty := by
    intro k hk
    obtain ⟨r, -, rfl⟩ := exists_record_of_mem_keys hk
    exact r.key_nonempty
  normal := fun _ => normalizeKey_of_mem_keys
  keys := h.mem_keys_iff
  size := size_eq_length_dedup h.mem_keys_iff

end Whitelist

end PoolFeed
