import PoolFeed.Proofs.Data.SortedMap
import PoolFeed.Snapshot.Memory

/-!
# Ids and editions of a store in memory

The id a store hands out on top of the latest snapshot is above the ids of all editions of the
chain, so a snapshot stored under it becomes the latest and nothing stored before is touched.

## Main statements

* `MemoryStore.lt_nextId` — the next id is above those of all editions
* `MemoryStore.latest?_store` — a snapshot stored under a new id is the latest
* `MemoryStore.editionsOf_store` — storing it leaves all other editions as they are
* `MemoryStore.contents_store` — what storing any snapshot does to the whitelists stored
-/

namespace PoolFeed

namespace MemoryStore

variable {s : MemoryStore} {chain : String} {id : Int} {x : Snapshot}

/-- The last id given out for a chain, or zero. -/
def counter (s : MemoryStore) (chain : String) : Int := (s.counters.find? chain).getD 0

def latestId? (s : MemoryStore) (chain : String) : Option Int :=
  (s.latest? chain).map (·.snapshotId)

theorem latestId?_eq (s : MemoryStore) (chain : String) :
    s.latestId? chain = (s.editionsOf chain).last?.map (·.1) := by
  rw [latestId?, latest?, Option.map_map]
  rfl

/-- No edition has a larger id than the latest snapshot. -/
theorem le_latestId (h : id ∈ (s.editionsOf chain).keys) :
    ∃ last, s.latestId? chain = some last ∧ id ≤ last := by
  rw [latestId?_eq]
  cases hlast : (s.editionsOf chain).last? with
  | none =>
    rw [SortedMap.keys_eq_nil_of_last? hlast] at h
    cases h
  | some e =>
    obtain ⟨last, edition⟩ := e
    refine ⟨last, rfl, ?_⟩
    rcases SortedMap.lt_or_eq_of_last? hlast h with hlt | rfl
    · exact Int.le_of_lt (Int.compare_eq_lt.mp hlt)
    · exact Int.le_refl _

/-- **The next id is above those of all editions.** -/
theorem lt_nextId (h : id ∈ (s.editionsOf chain).keys) :
    id < s.nextId chain (s.latestId? chain) := by
  obtain ⟨last, hlast, hle⟩ := le_latestId h
  rw [hlast]
  show id < max _ last + 1
  omega

/-- Storing a snapshot leaves the editions of other chains as they are. -/
theorem editionsOf_store_of_ne (h : chain ≠ x.chain) :
    (s.store x).editionsOf chain = s.editionsOf chain := by
  show ((s.editions.insert x.chain _).find? chain).getD .empty = _
  rw [SortedMap.find?_insert, if_neg h]
  rfl

/-- Storing a snapshot under a new id leaves all other editions as they are. -/
theorem editionsOf_store (h : x.snapshotId ∉ (s.editionsOf x.chain).keys) (chain : String) :
    (s.store x).editionsOf chain
      = if chain = x.chain then (s.editionsOf x.chain).insert x.snapshotId ⟨x.items, x.publishedAt⟩
        else s.editionsOf chain := by
  have hnone : (s.editionsOf x.chain).find? x.snapshotId = none := SortedMap.find?_eq_none_iff.mpr h
  by_cases hchain : chain = x.chain
  · simp only [store]
    rw [hnone]
    show ((s.editions.insert x.chain _).find? chain).getD .empty = _
    rw [SortedMap.find?_insert, if_pos hchain, if_pos hchain]
    rfl
  · rw [if_neg hchain, editionsOf_store_of_ne hchain]

/-- Storing a snapshot under an id that is taken adds the pools that are missing. -/
theorem editionsOf_store_of_find? {old : Edition}
    (h : (s.editionsOf x.chain).find? x.snapshotId = some old) :
    (s.store x).editionsOf x.chain
      = (s.editionsOf x.chain).insert x.snapshotId (Edition.merge old ⟨x.items, x.publishedAt⟩) := by
  simp only [store]
  rw [h]
  show ((s.editions.insert x.chain _).find? x.chain).getD .empty = _
  rw [SortedMap.find?_insert, if_pos rfl]
  rfl

/-- **A snapshot stored under an id above all others is the latest.** -/
theorem latest?_store (h : ∀ id ∈ (s.editionsOf x.chain).keys, id < x.snapshotId) :
    (s.store x).latest? x.chain = some x := by
  have hfresh : x.snapshotId ∉ (s.editionsOf x.chain).keys :=
    fun hmem => Int.lt_irrefl _ (h _ hmem)
  have hlast : ((s.editionsOf x.chain).insert x.snapshotId ⟨x.items, x.publishedAt⟩).last?
      = some (x.snapshotId, ⟨x.items, x.publishedAt⟩) :=
    SortedMap.last?_insert fun id hid => Int.compare_eq_lt.mpr (h id hid)
  rw [latest?, editionsOf_store hfresh, if_pos rfl, hlast]
  rfl

end MemoryStore

/-! ## Contents -/

variable {α : Type} (view : Timestamp → α)

/-- The whitelist of an edition, and what a view shows of its time. -/
def Edition.seen (e : Edition) : Whitelist × α := (e.items, view e.publishedAt)

theorem Edition.seen_injective (h : Function.Injective view) :
    Function.Injective (Edition.seen view) := by
  intro e f heq
  obtain ⟨hitems, htime⟩ := Prod.mk.inj heq
  cases e
  cases f
  cases hitems
  cases h htime
  rfl

namespace MemoryStore

/-- What is seen of the editions of a chain, by id. -/
def contents (s : MemoryStore) (chain : String) : List (Int × Whitelist × α) :=
  (s.editionsOf chain).entries.map fun e => (e.1, e.2.seen view)

theorem find?_contents (s : MemoryStore) (chain : String) (id : Int) :
    Entries.find? id (s.contents view chain)
      = ((s.editionsOf chain).find? id).map (Edition.seen view) :=
  Entries.find?_map (Edition.seen view) id _

/-- The latest snapshot but for its time is the last of the contents. -/
theorem latest?_contents (s : MemoryStore) (chain : String) :
    (s.latest? chain).map (fun x => (x.snapshotId, x.items))
      = (s.contents view chain).getLast?.map fun e => (e.1, e.2.1) := by
  rw [latest?, contents, List.getLast?_map, Option.map_map, Option.map_map]
  rfl

/-- What is kept of a whitelist and its time where there may be some already. -/
def kept (new : Whitelist × α) : Option (Whitelist × α) → Whitelist × α
  | some old => (new.1.records.foldl Whitelist.insertIfNew old.1, old.2)
  | none => new

/-- The contents once a snapshot was stored. -/
theorem contents_store (s : MemoryStore) (x : Snapshot) (chain : String) :
    (s.store x).contents view chain
      = if chain = x.chain then
          Entries.insert x.snapshotId
            (kept (x.items, view x.publishedAt)
              (Entries.find? x.snapshotId (s.contents view x.chain)))
            (s.contents view x.chain)
        else s.contents view chain := by
  by_cases hchain : chain = x.chain
  · subst hchain
    rw [if_pos rfl, find?_contents]
    have hmap : ∀ e : Edition,
        ((s.editionsOf x.chain).insert x.snapshotId e).entries.map (fun e => (e.1, e.2.seen view))
          = Entries.insert x.snapshotId (e.seen view) (s.contents view x.chain) :=
      fun e => Entries.map_insert (Edition.seen view) x.snapshotId e _
    cases hold : (s.editionsOf x.chain).find? x.snapshotId with
    | none =>
      rw [contents, editionsOf_store (SortedMap.find?_eq_none_iff.mp hold), if_pos rfl]
      exact hmap _
    | some old =>
      rw [contents, editionsOf_store_of_find? hold]
      exact hmap _
  · rw [if_neg hchain, contents, editionsOf_store_of_ne hchain]
    rfl

theorem contents_congr {s s' : MemoryStore} {chain : String}
    (h : s.editionsOf chain = s'.editionsOf chain) :
    s.contents view chain = s'.contents view chain := by
  rw [contents, contents, h]

/-- Where a view shows times as they are, the contents are all that is stored. -/
theorem editionsOf_of_contents {s s' : MemoryStore} {chain : String}
    (hview : Function.Injective view) (h : s.contents view chain = s'.contents view chain) :
    s.editionsOf chain = s'.editionsOf chain := by
  refine SortedMap.ext_find? fun id => Option.map_injective (Edition.seen_injective view hview) ?_
  rw [← find?_contents, ← find?_contents, h]

end MemoryStore

end PoolFeed
