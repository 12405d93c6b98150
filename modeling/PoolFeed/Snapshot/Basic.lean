import PoolFeed.Event
import PoolFeed.Time.Timestamp
import PoolFeed.Whitelist.Basic

/-!
# Snapshots and their stores

A snapshot is the whitelist of a chain as it was published under an id. Stores keep snapshots, find
the latest one of a chain, and hand out ids.
-/

namespace PoolFeed

/-- What was published of a chain under an id. -/
structure Snapshot where
  chain : String
  snapshotId : Int
  items : Whitelist
  publishedAt : Timestamp

/-- What a store makes of a request, and how it is left behind. -/
structure Answer (σ α : Type) where
  result : Except SyncError α
  store : σ
  events : List Event

/-- What is asked of a store of snapshots. -/
class SnapshotStore (σ : Type) where
  /-- Makes the store ready to be used. -/
  ensureSchema : σ → Answer σ Unit
  /-- The snapshot of a chain with the largest id. -/
  loadLatest : String → σ → Answer σ (Option Snapshot)
  /-- An id that no snapshot of the chain had, above a floor. -/
  allocate : String → Option Int → σ → Answer σ Int
  /-- Keeps a snapshot. -/
  append : Snapshot → σ → Answer σ Unit

end PoolFeed
