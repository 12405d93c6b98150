import PoolFeed.Message.Topics

/-!
# Results and failures of sync cycles

What a cycle reports. Failures that may leave subscribers out of step with the store, or with each
other, call for a full resync.
-/

namespace PoolFeed

/-- How a cycle brought subscribers up to date. -/
inductive SyncMode where
  /-- The whole whitelist went out. -/
  | full
  /-- Only what changed went out. -/
  | differential
  deriving DecidableEq, Repr

def SyncMode.name : SyncMode → String
  | .full => "full"
  | .differential => "differential"

/-- What a cycle did. -/
structure UpdateResult where
  chain : String
  snapshotId : Int
  /-- The pools of the whitelist that was synced. -/
  total : Nat
  /-- The pools announced as new, none in full mode. -/
  added : Nat
  /-- The pools announced as gone, none in full mode. -/
  removed : Nat
  mode : SyncMode
  deriving DecidableEq, Repr

/-! ## Operations of a snapshot store, as failures name them -/

namespace StoreOperation

def ensureSchema : String := "ensure_schema"

def loadLatest : String := "load_latest"

def allocate : String := "allocate_snapshot_id"

def append : String := "append"

end StoreOperation

/-- Why a cycle failed. -/
inductive SyncError where
  /-- Nothing of an update was delivered. -/
  | transportUnavailable (subject reason : String)
  /-- The snapshot store could not be used. -/
  | storeUnavailable (operation reason : String)
  /-- One channel received an update, the other did not. -/
  | partialPublish (kind : Kind) (succeeded failed : Channel) (reason : String)
  /-- An entry of the whitelist is refused. -/
  | malformedInput (index : Nat) (reason : String)
  /-- The chain cannot be part of a subject. -/
  | invalidChain (chain reason : String)
  /-- Updates of the cycle were delivered before a later one failed. -/
  | incompleteCycle (published : List Kind) (source : SyncError)
  /-- Every update was delivered, but the snapshot was not stored. -/
  | snapshotNotPersisted (result : UpdateResult) (reason : String)
  deriving DecidableEq, Repr, Inhabited

namespace SyncError

def kindList (kinds : List Kind) : String :=
  "[" ++ ", ".intercalate (kinds.map Kind.title) ++ "]"

/-- The wording of a failure. -/
def message : SyncError → String
  | .transportUnavailable subject reason =>
    s!"transport unavailable publishing to {subject}: {reason}"
  | .storeUnavailable operation reason =>
    s!"snapshot store unavailable during {operation}: {reason}"
  | .partialPublish kind succeeded failed reason =>
    s!"partial publish of {kind.name} update: {succeeded.name} channel delivered, "
      ++ s!"{failed.name} channel failed: {reason}"
  | .malformedInput index reason => s!"malformed whitelist entry at index {index}: {reason}"
  | .invalidChain chain reason => s!"invalid chain name '{chain}': {reason}"
  | .incompleteCycle published source =>
    s!"cycle incomplete after publishing {kindList published}: {source.message}"
  | .snapshotNotPersisted result reason =>
    s!"published snapshot {result.snapshotId} for {result.chain} but failed to persist it: {reason}"

/-- The wordings of a failure and of the failures behind it, outermost first. -/
def causes : SyncError → List String
  | e@(.incompleteCycle _ source) => e.message :: source.causes
  | e => [e.message]

/--
Whether subscribers may now disagree with the store or with each other, so that the next cycle
should send everything.
-/
def requiresFullResync : SyncError → Bool
  | .partialPublish .. => true
  | .incompleteCycle .. => true
  | .snapshotNotPersisted .. => true
  | _ => false

end SyncError

end PoolFeed
