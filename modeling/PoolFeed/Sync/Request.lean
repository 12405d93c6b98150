import PoolFeed.Chain
import PoolFeed.Sync.Cycle
import PoolFeed.Whitelist.Ingest

/-!
# Sync requests

A request is turned down before anything is touched if its chain cannot be part of a subject or if
its pools are no whitelist.
-/

namespace PoolFeed

namespace SyncRequest

/-- Turns down a chain that cannot be part of a subject. -/
def check (request : SyncRequest) : Except SyncError Unit :=
  match ChainName.check request.chain with
  | .error e => .error (.invalidChain request.chain e.message)
  | .ok () => .ok ()

variable {σ τ : Type} [SnapshotStore σ] [Transport τ]

/-- Runs a cycle for a request that is not turned down. -/
def sync (request : SyncRequest) (p : Publisher) (w : World σ τ) : Cycle.Run σ τ :=
  match request.check with
  | .error e => ⟨.error e, w, []⟩
  | .ok () => Cycle.run p request w

end SyncRequest

/-- Runs a cycle for pools that have not been checked yet. -/
def syncValues {σ τ : Type} [SnapshotStore σ] [Transport τ] (chain : String) (values : List Json)
    (forceFull : Bool) (p : Publisher) (w : World σ τ) : Cycle.Run σ τ :=
  match Whitelist.ofValues values with
  | .error e => ⟨.error e, w, []⟩
  | .ok items => SyncRequest.sync ⟨chain, items, forceFull⟩ p w

end PoolFeed
