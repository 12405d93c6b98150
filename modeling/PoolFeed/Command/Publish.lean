import PoolFeed.Command.Action
import PoolFeed.Whitelist.Ingest

/-!
# Publishing a file

Publishes the whitelist of a file as the new state of a chain and stores it as a snapshot.
-/

namespace PoolFeed.Command

open Database (DatabaseStore Server)

variable {α τ : Type}

def readWhitelist (files : Files) (file : String) : Except Failure Whitelist :=
  match files file with
  | .error f =>
    .error ((Failure.ofMessage f.message).within s!"Failed to read whitelist file {file}")
  | .ok text =>
    match Whitelist.ofText text with
    | .error e => .error (e.failure.within s!"Invalid whitelist file {file}")
    | .ok items => .ok items

/-- What is printed of a cycle that succeeded. -/
def summary (result : UpdateResult) : String :=
  match result.mode with
  | .full => s!"  Full update: {result.total} pools"
  | .differential =>
    s!"  Differential update: +{result.added} -{result.removed} ({result.total} pools total)"

/-- Runs a cycle. A failure that calls for a full resync is reported. -/
def runCycle [Server α] [Transport τ] (request : SyncRequest) (p : Publisher)
    (w : World (DatabaseStore α) τ) : Action α τ UpdateResult := do
  let run := request.sync p w
  report run.events
  modify (fun progress =>
    { progress with
      connection := some run.world.store.connection
      broker := some run.world.transport })
  match run.outcome with
  | .ok result => return result
  | .error e =>
    if e.requiresFullResync then report [.resyncNeeded request.chain]
    throw (e.failure.within s!"Sync cycle for {request.chain} failed")

def publish [Server α] [Transport τ] (s : Settings) (x : Surroundings α τ) (chain file : String)
    (forceFull : Bool) : Action α τ Unit := do
  requireChain chain
  let items ← require (readWhitelist x.files file)
  report [.fileLoaded items.size chain file]
  let store ← openStore s x
  let (_, store) ← askStore SnapshotStore.ensureSchema store
  let broker ← openBroker s x
  let result ←
    runCycle ⟨chain, items, forceFull⟩ ⟨s.topics, s.publishTimeout⟩ ⟨store, broker, x.now⟩
  print s!"Published snapshot {result.snapshotId} for {chain}"
  print (summary result)

end PoolFeed.Command
