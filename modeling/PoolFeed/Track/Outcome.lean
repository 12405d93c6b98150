/-!
# What became of a message
-/

namespace PoolFeed

/-- What a tracker did with a message. -/
inductive ApplyOutcome where
  | applied
  /-- Older than what was applied, or a repeat of it. -/
  | stale (lastSnapshotId : Int)
  /-- Meant for another chain. -/
  | wrongChain
  deriving DecidableEq, Repr

/-- An outcome as it is written in the log. -/
def ApplyOutcome.title : ApplyOutcome → String
  | .applied => "Applied"
  | .stale last => s!"Stale \x7b last_snapshot_id: {last} \x7d"
  | .wrongChain => "WrongChain"

end PoolFeed
