import PoolFeed.Database.Server

/-!
# What statements mean

The tables of the store, and a server that does with them what the statements say. A table holds at
most one row for each of its keys; a row whose key is taken is left out. A transaction that is
rolled back leaves the tables as they were when it began.

## Main statements

* `Tables.counter?_setCounter` — the counter of a chain is what was handed out last
-/

namespace PoolFeed.Database

/-- The head of a snapshot as it is stored. -/
structure HeadRow where
  chain : String
  snapshotId : Int
  count : Int
  publishedAt : Timestamp
  deriving DecidableEq, Repr

/-- The tables of the store. -/
structure Tables where
  pools : List PoolRow
  heads : List HeadRow
  /-- The last id that was handed out for each chain that has one. -/
  counters : List (String × Int)

/-- A pool's row with its time as the database keeps it. -/
def PoolRow.stored (r : PoolRow) : PoolRow := { r with publishedAt := r.publishedAt.toMicroseconds }

/-- Whether two rows have the same key. -/
def PoolRow.sameKey (r s : PoolRow) : Bool :=
  r.chain = s.chain && r.key = s.key && r.snapshotId = s.snapshotId

/-- The later of two points in time. -/
def later (s t : Timestamp) : Timestamp :=
  if s.seconds < t.seconds ∨ s.seconds = t.seconds ∧ s.nanoseconds < t.nanoseconds then t else s

namespace Tables

/-- Tables without rows. -/
def empty : Tables := ⟨[], [], []⟩

/-- Inserts a pool unless its key is taken. -/
def addPool (t : Tables) (r : PoolRow) : Tables :=
  if t.pools.any (·.sameKey r) then t else { t with pools := t.pools ++ [r] }

/-- The head of a snapshot. -/
def head? (t : Tables) (chain : String) (id : Int) : Option HeadRow :=
  t.heads.find? (fun h => h.chain = chain && h.snapshotId = id)

/-- Inserts a head unless its snapshot has one. -/
def addHead (t : Tables) (h : HeadRow) : Tables :=
  if (t.head? h.chain h.snapshotId).isSome then t else { t with heads := t.heads ++ [h] }

/-- The last id that was handed out for a chain. -/
def counter? (t : Tables) (chain : String) : Option Int := t.counters.lookup chain

/--
The id behind a floor and, if an id was handed out before, behind that. Ids have no bound here. A
database that keeps them in 64 bits refuses the statement where this is not below `2 ^ 63`.
-/
def nextId (t : Tables) (chain : String) (floor : Int) : Int :=
  match t.counter? chain with
  | some last => max last floor + 1
  | none => floor + 1

/-- Keeps an id as the last one of a chain. -/
def setCounter (t : Tables) (chain : String) (id : Int) : Tables :=
  { t with counters := (chain, id) :: t.counters.filter (·.1 ≠ chain) }

def poolsOf (t : Tables) (chain : String) : List PoolRow := t.pools.filter (·.chain = chain)

def latestHead? (t : Tables) (chain : String) : Option HeadRow := do
  let ids := (t.heads.filter (·.chain = chain)).map (·.snapshotId)
  t.head? chain (← ids.max?)

/-- The latest id among the pools of a chain, and the latest time of its pools. -/
def latestPools? (t : Tables) (chain : String) : Option (Int × Timestamp) := do
  let id ← ((t.poolsOf chain).map (·.snapshotId)).max?
  let times := ((t.poolsOf chain).filter (·.snapshotId = id)).map (·.publishedAt)
  match times with
  | [] => none
  | first :: rest => some (id, rest.foldl later first)

/-- What a statement finds in the tables and makes of them, transactions apart. -/
def run (t : Tables) : Statement → List Row × Tables
  | .selectHead chain =>
    ((t.latestHead? chain).toList.map (fun h => [.integer h.snapshotId, .time h.publishedAt]), t)
  | .selectHeadless chain =>
    ((t.latestPools? chain).toList.map (fun p => [.integer p.1, .time p.2]), t)
  | .selectPools chain id =>
    (((t.poolsOf chain).filter (·.snapshotId = id)).map
      (fun r => [.text r.key, .json r.attributes]), t)
  | .nextId chain floor =>
    ([[.integer (t.nextId chain floor)]], t.setCounter chain (t.nextId chain floor))
  | .insertPools rows => ([], rows.foldl (fun t r => t.addPool r.stored) t)
  | .insertHead chain id count publishedAt =>
    ([], t.addHead ⟨chain, id, count, publishedAt.toMicroseconds⟩)
  | _ => ([], t)

/-- The counter of a chain is what was handed out last, and other chains keep theirs. -/
theorem counter?_setCounter (t : Tables) (chain other : String) (id : Int) :
    (t.setCounter chain id).counter? other
      = if other = chain then some id else t.counter? other := by
  unfold counter? setCounter
  by_cases h : other = chain
  · simp [h]
  · have hne : (other == chain) = false := by simpa using h
    rw [if_neg h]
    simp only [List.lookup_cons, hne]
    induction t.counters with
    | nil => rfl
    | cons c rest ih =>
      by_cases hc : c.1 = chain
      · rw [List.filter_cons_of_neg (by simpa using hc), ih, List.lookup_cons]
        have : (other == c.1) = false := by simpa [hc] using h
        simp [this]
      · rw [List.filter_cons_of_pos (by simpa using hc)]
        rw [List.lookup_cons, List.lookup_cons, ih]

end Tables

/-- A server that keeps tables. -/
structure TableServer where
  tables : Tables
  /-- What the tables were when the transaction began that is under way. -/
  saved : Option Tables

namespace TableServer

/-- A server whose tables have no rows. -/
def new : TableServer := ⟨.empty, none⟩

/-- Does what a statement says. -/
def answer (s : TableServer) : Statement → List Row × TableServer
  | .startTransaction => ([], ⟨s.tables, some s.tables⟩)
  | .commit => ([], ⟨s.tables, none⟩)
  | .rollback => ([], ⟨s.saved.getD s.tables, none⟩)
  | statement =>
    let (rows, tables) := s.tables.run statement
    (rows, { s with tables })

instance : Server TableServer where
  answer statement s :=
    let (rows, s') := s.answer statement
    ⟨.rows rows, .zero, s'⟩

end TableServer

end PoolFeed.Database
