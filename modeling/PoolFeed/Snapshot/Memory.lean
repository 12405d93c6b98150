import PoolFeed.Snapshot.Basic

/-!
# A store in memory

Keeps snapshots for as long as it lives, and can be told to fail. What was stored is never changed:
appending to an id that is taken adds the pools that are missing and leaves the others alone.
-/

namespace PoolFeed

/-- The pools published under an id, and when they were published. -/
structure Edition where
  items : Whitelist
  publishedAt : Timestamp

/-- A store in memory. -/
structure MemoryStore where
  /-- The editions of each chain by id. -/
  editions : SortedMap String (SortedMap Int Edition)
  /-- The last id handed out for each chain. -/
  counters : SortedMap String Int
  loadsFail : Bool
  appendsFail : Bool

namespace MemoryStore

/-- A store without snapshots. -/
def empty : MemoryStore := ⟨.empty, .empty, false, false⟩

/-- Why a store fails that was told to. -/
def markedUnavailable : String := "memory store marked unavailable"

def editionsOf (s : MemoryStore) (chain : String) : SortedMap Int Edition :=
  (s.editions.find? chain).getD .empty

/-- The snapshot of a chain with the largest id. -/
def latest? (s : MemoryStore) (chain : String) : Option Snapshot :=
  (s.editionsOf chain).last?.map (fun (id, e) => ⟨chain, id, e.items, e.publishedAt⟩)

/-- The number of snapshots of a chain. -/
def count (s : MemoryStore) (chain : String) : Nat := (s.editionsOf chain).size

/-- The next id of a chain: above all that were handed out, and above the floor. -/
def nextId (s : MemoryStore) (chain : String) (floor : Option Int) : Int :=
  max ((s.counters.find? chain).getD 0) (floor.getD 0) + 1

/-- An edition with the pools of another that it lacks. -/
def Edition.merge (old new : Edition) : Edition :=
  { old with items := new.items.records.foldl Whitelist.insertIfNew old.items }

def store (s : MemoryStore) (snapshot : Snapshot) : MemoryStore :=
  let editions := s.editionsOf snapshot.chain
  let new : Edition := ⟨snapshot.items, snapshot.publishedAt⟩
  let kept :=
    match editions.find? snapshot.snapshotId with
    | some old => Edition.merge old new
    | none => new
  { s with
    editions := s.editions.insert snapshot.chain (editions.insert snapshot.snapshotId kept) }

instance : SnapshotStore MemoryStore where
  ensureSchema s := ⟨.ok (), s, []⟩
  loadLatest chain s :=
    if s.loadsFail then
      ⟨.error (.storeUnavailable StoreOperation.loadLatest markedUnavailable), s, []⟩
    else ⟨.ok (s.latest? chain), s, []⟩
  allocate chain floor s :=
    let id := s.nextId chain floor
    ⟨.ok id, { s with counters := s.counters.insert chain id }, []⟩
  append snapshot s :=
    if s.appendsFail then
      ⟨.error (.storeUnavailable StoreOperation.append markedUnavailable), s, []⟩
    else ⟨.ok (), s.store snapshot, []⟩

/-! ## What it answers -/

theorem loadLatest_eq (s : MemoryStore) (chain : String) : SnapshotStore.loadLatest chain s
    = if s.loadsFail then
        ⟨.error (.storeUnavailable StoreOperation.loadLatest markedUnavailable), s, []⟩
      else ⟨.ok (s.latest? chain), s, []⟩ := rfl

theorem append_eq (s : MemoryStore) (x : Snapshot) : SnapshotStore.append x s
    = if s.appendsFail then
        ⟨.error (.storeUnavailable StoreOperation.append markedUnavailable), s, []⟩
      else ⟨.ok (), s.store x, []⟩ := rfl

theorem loadLatest_of_works {s : MemoryStore} (h : s.loadsFail = false) (chain : String) :
    SnapshotStore.loadLatest chain s = ⟨.ok (s.latest? chain), s, []⟩ :=
  if_neg (Bool.eq_false_iff.mp h)

theorem append_of_works {s : MemoryStore} (h : s.appendsFail = false) (x : Snapshot) :
    SnapshotStore.append x s = ⟨.ok (), s.store x, []⟩ :=
  if_neg (Bool.eq_false_iff.mp h)

/-- Loading changes nothing. -/
theorem store_loadLatest (s : MemoryStore) (chain : String) :
    (SnapshotStore.loadLatest chain s).store = s := by
  rw [loadLatest_eq]
  split <;> rfl

end MemoryStore

end PoolFeed
