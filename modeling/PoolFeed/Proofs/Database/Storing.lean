import PoolFeed.Database.Store
import PoolFeed.Database.Tables
import PoolFeed.Proofs.Whitelist.Stored

/-!
# What storing a snapshot does to the tables

A snapshot is stored by bulk inserts of its pools and an insert of its head. Pools whose key is
taken are left out, so the rows under an id grow the way a whitelist grows to which records are
added where their keys are free. A stored snapshot is complete: its pools have a head, and no head
counts more pools than there are.

## Main statements

* `Tables.storing_eq` — the chunks do not matter: pools are inserted one by one, then the head
* `Tables.lists_storing` — the rows of an id are the records of a whitelist, before and after
* `Tables.complete_storing` — storing a snapshot leaves complete snapshots behind
-/

namespace PoolFeed.Database

/-- Whether a statement inserts rows. -/
def Statement.inserts : Statement → Bool
  | .insertPools _ => true
  | .insertHead .. => true
  | _ => false

/-- To store a snapshot, rows are inserted and nothing else is done. -/
theorem inserts_of_mem_writes {x : Snapshot} {s : Statement} (h : s ∈ DatabaseStore.writes x) :
    s.inserts = true := by
  rcases List.mem_append.mp h with h | h
  · obtain ⟨rows, -, rfl⟩ := List.mem_map.mp h
    rfl
  · rw [List.mem_singleton.mp h]
    rfl

/-- What is kept of a record beside its place: its key and its attributes. -/
def entry (r : PoolRecord) : String × Json := (r.key, r.attributes)

namespace Tables

variable {t : Tables} {chain : String} {id : Int} {r : PoolRow} {h : HeadRow} {x : Snapshot}
  {w : Whitelist}

/-- The pools under an id. -/
def rowsOf (t : Tables) (chain : String) (id : Int) : List PoolRow :=
  (t.poolsOf chain).filter (·.snapshotId = id)

theorem mem_rowsOf : r ∈ t.rowsOf chain id ↔ r ∈ t.pools ∧ r.chain = chain ∧ r.snapshotId = id := by
  rw [rowsOf, poolsOf, List.mem_filter, List.mem_filter, decide_eq_true_iff, decide_eq_true_iff,
    and_assoc]

/-! ## One row -/

/-- A key is taken if a pool under the same id has it. -/
theorem any_sameKey_iff :
    t.pools.any (·.sameKey r) = true ↔ r.key ∈ (t.rowsOf r.chain r.snapshotId).map (·.key) := by
  rw [List.any_eq_true, List.mem_map]
  constructor
  · rintro ⟨s, hs, hsame⟩
    simp only [PoolRow.sameKey, Bool.and_eq_true, decide_eq_true_eq] at hsame
    exact ⟨s, mem_rowsOf.mpr ⟨hs, hsame.1.1, hsame.2⟩, hsame.1.2⟩
  · rintro ⟨s, hs, hkey⟩
    obtain ⟨hs, hchain, hid⟩ := mem_rowsOf.mp hs
    refine ⟨s, hs, ?_⟩
    simp only [PoolRow.sameKey, Bool.and_eq_true, decide_eq_true_eq]
    exact ⟨⟨hchain, hkey⟩, hid⟩

/-- A pool joins those under its id unless its key is taken. -/
theorem rowsOf_addPool : (t.addPool r).rowsOf r.chain r.snapshotId
    = if r.key ∈ (t.rowsOf r.chain r.snapshotId).map (·.key) then t.rowsOf r.chain r.snapshotId
      else t.rowsOf r.chain r.snapshotId ++ [r] := by
  unfold addPool
  by_cases hkey : t.pools.any (·.sameKey r) = true
  · rw [if_pos hkey, if_pos (any_sameKey_iff.mp hkey)]
  · rw [if_neg hkey, if_neg fun hmem => hkey (any_sameKey_iff.mpr hmem)]
    simp [rowsOf, poolsOf]

theorem rowsOf_addPool_of_ne (hne : ¬ (r.chain = chain ∧ r.snapshotId = id)) :
    (t.addPool r).rowsOf chain id = t.rowsOf chain id := by
  unfold addPool
  split
  · rfl
  · by_cases hchain : r.chain = chain
    · have hid : ¬ r.snapshotId = id := fun hid => hne ⟨hchain, hid⟩
      simp [rowsOf, poolsOf, hid]
    · simp [rowsOf, poolsOf, hchain]

theorem rowsOf_addHead : (t.addHead h).rowsOf chain id = t.rowsOf chain id := by
  unfold addHead
  split <;> rfl

theorem heads_addPool : (t.addPool r).heads = t.heads := by
  unfold addPool
  split <;> rfl

theorem head?_addPool : (t.addPool r).head? chain id = t.head? chain id := by
  rw [head?, heads_addPool, head?]

theorem counters_addPool : (t.addPool r).counters = t.counters := by
  unfold addPool
  split <;> rfl

theorem counters_addHead : (t.addHead h).counters = t.counters := by
  unfold addHead
  split <;> rfl

/-- A head is found once it was inserted, unless there was one before. -/
theorem head?_addHead : (t.addHead h).head? chain id
    = (t.head? chain id).or (if h.chain = chain ∧ h.snapshotId = id then some h else none) := by
  unfold addHead
  split
  · next hold =>
    by_cases heq : h.chain = chain ∧ h.snapshotId = id
    · obtain ⟨rfl, rfl⟩ := heq
      obtain ⟨g, hg⟩ := Option.isSome_iff_exists.mp hold
      rw [hg]
      rfl
    · rw [if_neg heq, Option.or_none]
  · simp only [head?, List.find?_append, List.find?_cons, List.find?_nil]
    congr 1
    by_cases heq : h.chain = chain ∧ h.snapshotId = id
    · simp [heq]
    · rw [if_neg heq]
      split
      · next hc => simp at hc; exact absurd hc heq
      · rfl

/-! ## All rows of a snapshot -/

/-- The tables once a snapshot was stored in one go. -/
def storing (t : Tables) (x : Snapshot) : Tables :=
  (DatabaseStore.writes x).foldl (fun t s => (t.run s).2) t

/-- Inserts the row of a record. -/
def addRecord (t : Tables) (x : Snapshot) (r : PoolRecord) : Tables :=
  t.addPool (DatabaseStore.poolRow x r).stored

/-- Inserts the rows of records one by one. -/
def addRecords (t : Tables) (x : Snapshot) (rs : List PoolRecord) : Tables :=
  rs.foldl (·.addRecord x ·) t

/-- The head of a snapshot as it is stored. -/
def headOf (x : Snapshot) : HeadRow :=
  ⟨x.chain, x.snapshotId, x.items.size, x.publishedAt.toMicroseconds⟩

theorem foldl_run_insertPools (batches : List (List PoolRow)) (t : Tables) :
    (batches.map .insertPools).foldl (fun t s => (t.run s).2) t
      = batches.flatten.foldl (fun t r => t.addPool r.stored) t := by
  induction batches generalizing t with
  | nil => rfl
  | cons batch batches ih =>
    rw [List.map_cons, List.foldl_cons, ih, List.flatten_cons, List.foldl_append]
    rfl

/-- A record joins those under the id unless its key is taken. -/
theorem rowsOf_addRecord (t : Tables) (x : Snapshot) (r : PoolRecord) :
    (t.addRecord x r).rowsOf x.chain x.snapshotId
      = if r.key ∈ (t.rowsOf x.chain x.snapshotId).map (·.key) then
          t.rowsOf x.chain x.snapshotId
        else t.rowsOf x.chain x.snapshotId ++ [(DatabaseStore.poolRow x r).stored] :=
  rowsOf_addPool (r := (DatabaseStore.poolRow x r).stored)

/-- **Whatever the chunks, pools are inserted one by one, and then the head.** -/
theorem storing_eq (t : Tables) (x : Snapshot) :
    t.storing x = (t.addRecords x x.items.records).addHead (headOf x) := by
  have hsize : DatabaseStore.rowsPerInsert ≠ 0 := by decide
  have hchunks := flatten_chunks hsize (x.items.records.map (DatabaseStore.poolRow x))
  rw [storing, DatabaseStore.writes, List.foldl_append, foldl_run_insertPools, hchunks,
    List.foldl_map]
  rfl

theorem counters_addRecords (rs : List PoolRecord) (t : Tables) :
    (t.addRecords x rs).counters = t.counters := by
  induction rs generalizing t with
  | nil => rfl
  | cons r rs ih => exact (ih _).trans counters_addPool

theorem counters_storing : (t.storing x).counters = t.counters := by
  rw [storing_eq, counters_addHead, counters_addRecords]

theorem head?_addRecords (rs : List PoolRecord) (t : Tables) :
    (t.addRecords x rs).head? chain id = t.head? chain id := by
  induction rs generalizing t with
  | nil => rfl
  | cons r rs ih => exact (ih _).trans head?_addPool

/-- A stored snapshot has a head. The other heads are what they were. -/
theorem head?_storing : (t.storing x).head? chain id
    = (t.head? chain id).or
      (if x.chain = chain ∧ x.snapshotId = id then some (headOf x) else none) := by
  rw [storing_eq, head?_addHead, head?_addRecords]
  rfl

theorem rowsOf_addRecords_of_ne (hne : ¬ (x.chain = chain ∧ x.snapshotId = id))
    (rs : List PoolRecord) (t : Tables) :
    (t.addRecords x rs).rowsOf chain id = t.rowsOf chain id := by
  induction rs generalizing t with
  | nil => rfl
  | cons r rs ih => exact (ih _).trans (rowsOf_addPool_of_ne hne)

/-- Pools under other ids are what they were. -/
theorem rowsOf_storing_of_ne (hne : ¬ (x.chain = chain ∧ x.snapshotId = id)) :
    (t.storing x).rowsOf chain id = t.rowsOf chain id := by
  rw [storing_eq, rowsOf_addHead, rowsOf_addRecords_of_ne hne]

/-! ## Rows as whitelists -/

/-- The pools under an id are the records of a whitelist, in some order. -/
def Lists (t : Tables) (chain : String) (id : Int) (w : Whitelist) : Prop :=
  ∃ rs : List PoolRecord, rs.Perm w.records
    ∧ (t.rowsOf chain id).map (fun r => (r.key, r.attributes)) = rs.map entry

/-- A record is added exactly where the whitelist lacks its key. -/
theorem lists_addRecord (hlists : t.Lists x.chain x.snapshotId w) (r : PoolRecord) :
    (t.addRecord x r).Lists x.chain x.snapshotId (w.insertIfNew r) := by
  obtain ⟨rs, hperm, hrows⟩ := hlists
  have hkeys : (t.rowsOf x.chain x.snapshotId).map (·.key) = rs.map (·.key) := by
    have hfst := congrArg (List.map Prod.fst) hrows
    rw [List.map_map, List.map_map] at hfst
    exact hfst
  have htaken : r.key ∈ (t.rowsOf x.chain x.snapshotId).map (·.key) ↔ w.contains r.key = true := by
    rw [hkeys, (hperm.map _).mem_iff, Whitelist.map_key_records]
    exact SortedMap.contains_eq_true_iff.symm
  have hadd := t.rowsOf_addRecord x r
  unfold Whitelist.insertIfNew
  by_cases hold : w.contains r.key = true
  · rw [if_pos (htaken.mpr hold)] at hadd
    rw [if_pos hold]
    exact ⟨rs, hperm, (congrArg _ hadd).trans hrows⟩
  · rw [if_neg fun hmem => hold (htaken.mp hmem)] at hadd
    rw [if_neg hold]
    refine ⟨rs ++ [r], ?_, ?_⟩
    · have hfresh : r.key ∉ w.keys := fun hk => hold (SortedMap.contains_eq_true_iff.mpr hk)
      exact (List.perm_append_singleton r rs).trans ((hperm.cons r).trans
        (Whitelist.records_insert_perm hfresh).symm)
    · have hmap := congrArg (List.map fun r : PoolRow => (r.key, r.attributes)) hadd
      rw [List.map_append] at hmap
      rw [List.map_append, ← hrows]
      exact hmap

theorem lists_addRecords (rs : List PoolRecord) (hlists : t.Lists x.chain x.snapshotId w) :
    (t.addRecords x rs).Lists x.chain x.snapshotId (rs.foldl Whitelist.insertIfNew w) := by
  induction rs generalizing t w with
  | nil => exact hlists
  | cons r rs ih => exact ih (lists_addRecord hlists r)

/-- **Storing a snapshot adds its records where their keys are free.** -/
theorem lists_storing (hlists : t.Lists x.chain x.snapshotId w) :
    (t.storing x).Lists x.chain x.snapshotId
      (x.items.records.foldl Whitelist.insertIfNew w) := by
  rw [storing_eq, Lists, rowsOf_addHead]
  exact lists_addRecords _ hlists

/-! ## Complete snapshots -/

/-- No pool without its head, and no head without all the pools it counts. -/
structure Complete (t : Tables) : Prop where
  headed : ∀ r ∈ t.pools, (t.head? r.chain r.snapshotId).isSome
  counted : ∀ {chain id h}, t.head? chain id = some h → h.count ≤ (t.rowsOf chain id).length

theorem complete_empty : empty.Complete :=
  ⟨fun _ hr => absurd hr List.not_mem_nil, fun hh => by simp [head?, empty] at hh⟩

/-- Pools under an id stay there. -/
theorem rowsOf_prefix_addPool : t.rowsOf chain id <+: (t.addPool r).rowsOf chain id := by
  by_cases heq : r.chain = chain ∧ r.snapshotId = id
  · obtain ⟨rfl, rfl⟩ := heq
    rw [rowsOf_addPool]
    split
    · exact List.prefix_refl _
    · exact List.prefix_append _ _
  · rw [rowsOf_addPool_of_ne heq]

theorem rowsOf_prefix_addRecords (rs : List PoolRecord) (t : Tables) :
    t.rowsOf chain id <+: (t.addRecords x rs).rowsOf chain id := by
  induction rs generalizing t with
  | nil => exact List.prefix_refl _
  | cons r rs ih => exact rowsOf_prefix_addPool.trans (ih _)

/-- Every key that was to be inserted is there. -/
theorem key_mem_addRecords {rs : List PoolRecord} {r : PoolRecord} (hr : r ∈ rs) :
    r.key ∈ ((t.addRecords x rs).rowsOf x.chain x.snapshotId).map (·.key) := by
  induction rs generalizing t with
  | nil => cases hr
  | cons s rs ih =>
    rcases List.mem_cons.mp hr with rfl | hr
    · have hnow : r.key
          ∈ ((t.addRecord x r).rowsOf x.chain x.snapshotId).map (·.key) := by
        rw [rowsOf_addRecord]
        split
        · next hold => exact hold
        · rw [List.map_append]
          exact List.mem_append_right _ (List.mem_singleton_self _)
      exact ((rowsOf_prefix_addRecords rs _).map _).subset hnow
    · exact ih hr

/-- There are at least as many pools under an id as its snapshot has. -/
theorem size_le_rowsOf_storing :
    x.items.size ≤ ((t.storing x).rowsOf x.chain x.snapshotId).length := by
  have hsub : x.items.keys
      ⊆ ((t.storing x).rowsOf x.chain x.snapshotId).map (·.key) := by
    intro k hk
    obtain ⟨r, hr, rfl⟩ := Whitelist.exists_record_of_mem_keys hk
    rw [storing_eq, rowsOf_addHead]
    exact key_mem_addRecords hr
  have hle := (x.items.nodup_keys.subperm hsub).length_le
  rw [List.length_map] at hle
  exact (Nat.le_of_eq (List.length_map _).symm).trans hle

/-- **Storing a snapshot leaves complete snapshots behind.** -/
theorem complete_storing (hcomplete : t.Complete) : (t.storing x).Complete where
  headed := by
    intro r hr
    rw [head?_storing]
    by_cases heq : x.chain = r.chain ∧ x.snapshotId = r.snapshotId
    · rw [if_pos heq]
      cases t.head? r.chain r.snapshotId <;> rfl
    · have hold : r ∈ t.rowsOf r.chain r.snapshotId := by
        rw [← rowsOf_storing_of_ne heq]
        exact mem_rowsOf.mpr ⟨hr, rfl, rfl⟩
      obtain ⟨h, hh⟩ := Option.isSome_iff_exists.mp (hcomplete.headed r (mem_rowsOf.mp hold).1)
      rw [hh]
      rfl
  counted := by
    intro chain id h hh
    rw [head?_storing] at hh
    cases hold : t.head? chain id with
    | some g =>
      rw [hold] at hh
      cases hh
      have hfront : t.rowsOf chain id <+: (t.storing x).rowsOf chain id := by
        rw [storing_eq, rowsOf_addHead]
        exact rowsOf_prefix_addRecords _ t
      exact (hcomplete.counted hold).trans (Int.ofNat_le.mpr hfront.length_le)
    | none =>
      rw [hold, Option.none_or] at hh
      split at hh
      · next heq =>
        obtain ⟨rfl, rfl⟩ := heq
        cases hh
        exact Int.ofNat_le.mpr size_le_rowsOf_storing
      · cases hh

end Tables

end PoolFeed.Database
