import PoolFeed.Event
import PoolFeed.Message.Inbound
import PoolFeed.Whitelist.Diff

/-!
# Trackers

What a subscriber knows of one chain's whitelist from one channel. A tracker remembers the last
snapshot id and the kinds already applied at it; with these alone it tells new updates from old and
repeated ones.

Each channel has a tracker of its own: both channels carry every update, and one tracker fed by both
would take the second copy for a repeat.
-/

namespace PoolFeed

open Diff (KeySet)

/-- What is known of a chain from one channel. -/
structure Tracker where
  chain : String
  keys : KeySet
  /-- The pool objects, which the full channel carries. -/
  records : SortedMap String PoolRecord
  lastSnapshotId : Option Int
  /-- The kinds already applied at the last snapshot id. -/
  appliedKinds : List Kind

namespace Tracker

/-- A tracker that has seen nothing. -/
def new (chain : String) : Tracker := ⟨chain, .empty, .empty, none, []⟩

/-- The last snapshot id, if a message is older than it or a repeat at it. -/
def staleAt? (t : Tracker) (m : InboundMessage) : Option Int :=
  match t.lastSnapshotId with
  | some last =>
    if m.snapshotId < last ∨ (m.snapshotId = last ∧ m.kind ∈ t.appliedKinds) then some last
    else none
  | none => none

def remember (t : Tracker) (m : InboundMessage) : Tracker :=
  { t with
    lastSnapshotId := some m.snapshotId
    appliedKinds :=
      m.kind :: (if t.lastSnapshotId = some m.snapshotId then t.appliedKinds else []) }

/-- Adds pools. -/
def insert (t : Tracker) : InboundPools → Tracker
  | .keys ks => { t with keys := ks.foldl (fun s k => s.insert k ()) t.keys }
  | .records rs =>
    { t with
      keys := rs.foldl (fun s r => s.insert r.key ()) t.keys
      records := rs.foldl (fun s r => s.insert r.key r) t.records }

/-- Drops pools by key. -/
def remove (t : Tracker) (keys : List String) : Tracker :=
  { t with
    keys := keys.foldl (fun s k => s.erase k) t.keys
    records := keys.foldl (fun s k => s.erase k) t.records }

/-- What the kind of a message does with its pools. -/
def change (t : Tracker) (m : InboundMessage) : Tracker :=
  match m.kind with
  | .full => { t with keys := .empty, records := .empty }.insert m.pools
  | .add => t.insert m.pools
  | .remove => t.remove m.pools.keyList

/-- Applies a message, unless it is for another chain, old or a repeat. -/
def apply (t : Tracker) (m : InboundMessage) : ApplyOutcome × Tracker × List Event :=
  if m.chain ≠ t.chain then (.wrongChain, t, [])
  else
    match t.staleAt? m with
    | some last => (.stale last, t, [.droppedStale m.kind m.snapshotId t.chain last])
    | none => (.applied, (t.remember m).change m, [])

/-- Whether a key is tracked, in the spelling given. -/
def contains (t : Tracker) (key : String) : Bool := t.keys.contains key

/-- The record under a key, if it is known. -/
def find? (t : Tracker) (key : String) : Option PoolRecord := t.records.find? key

/-- The number of tracked keys. -/
def size (t : Tracker) : Nat := t.keys.size

end Tracker

end PoolFeed
