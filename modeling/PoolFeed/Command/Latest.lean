import PoolFeed.Command.Action

/-!
# Looking at what is stored

Shows the latest snapshot of a chain, and creates the tables that snapshots are stored in.
-/

namespace PoolFeed.Command

open Database (Server)

variable {α τ : Type} [Server α]

/-- The number of keys that are shown of a snapshot. -/
def shownKeys : Nat := 10

/-- A snapshot as it is printed. Only the first of its keys are shown. -/
def snapshotLines (s : Snapshot) : List String :=
  [s!"Chain:        {s.chain}", s!"Snapshot id:  {s.snapshotId}",
    s!"Published at: {s.publishedAt.textWithOffset}", s!"Pools:        {s.items.size}"]
  ++ (s.items.keys.take shownKeys).map (fun key => s!"  {key}")
  ++ (if shownKeys < s.items.size then [s!"  ... and {s.items.size - shownKeys} more"] else [])

/-- Shows the latest snapshot of a chain. -/
def latest (s : Settings) (x : Surroundings α τ) (chain : String) : Action α τ Unit := do
  requireChain chain
  let store ← openStore s x
  let (found, _) ← askStore (SnapshotStore.loadLatest chain) store
  match found with
  | none => print s!"No snapshot has been published for {chain} yet."
  | some snapshot => (snapshotLines snapshot).forM print

/-- Creates the tables of the store if they are missing. -/
def initSchema (s : Settings) (x : Surroundings α τ) : Action α τ Unit := do
  let store ← openStore s x
  let _ ← askStore SnapshotStore.ensureSchema store
  print "Snapshot schema is ready."

end PoolFeed.Command
