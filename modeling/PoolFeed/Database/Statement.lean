import PoolFeed.Json.Writer
import PoolFeed.Time.Timestamp

/-!
# Statements

Everything the store says to its database. The text of a statement holds placeholders, which are
numbered from one; the values for them travel beside the text. Points in time travel as the database
keeps them, to the microsecond.

## Main statements

* `Statement.parameters_insertPools` — a bulk insert binds five values for each of its rows
-/

namespace PoolFeed.Database

/-- A value of a column. -/
inductive Cell where
  | text (value : String)
  | integer (value : Int)
  | json (value : Json)
  | time (value : Timestamp)

/-- A row of a result. -/
abbrev Row := List Cell

/-- A pool of a snapshot as it is stored. -/
structure PoolRow where
  chain : String
  key : String
  attributes : Json
  snapshotId : Int
  publishedAt : Timestamp

/-- The values of a pool's row in the order of their columns. -/
def PoolRow.cells (r : PoolRow) : Row :=
  [.text r.chain, .text r.key, .json r.attributes, .integer r.snapshotId,
    .time r.publishedAt.toMicroseconds]

/-- What is said to the database. -/
inductive Statement where
  /-- No statement may run longer than so many milliseconds. -/
  | limitTime (milliseconds : Nat)
  /-- The tables are there from now on. -/
  | createTables
  | startTransaction
  | commit
  | rollback
  /-- The latest snapshot of a chain. -/
  | selectHead (chain : String)
  /-- The latest snapshot of a chain among those that have pools but no head. -/
  | selectHeadless (chain : String)
  | selectPools (chain : String) (snapshotId : Int)
  /-- The next id of a chain, above a floor. -/
  | nextId (chain : String) (floor : Int)
  /-- Pools, unless they are stored already. -/
  | insertPools (rows : List PoolRow)
  /-- The head of a snapshot, unless it is stored already. -/
  | insertHead (chain : String) (snapshotId count : Int) (publishedAt : Timestamp)

namespace Statement

/-- The tables and indexes of the store. -/
def schema : String :=
  "CREATE TABLE IF NOT EXISTS whitelist_snapshots ( id BIGSERIAL PRIMARY KEY, "
    ++ "chain TEXT NOT NULL, pool_address TEXT NOT NULL, pool_data JSONB NOT NULL, "
    ++ "published_at TIMESTAMPTZ NOT NULL DEFAULT NOW(), snapshot_id BIGINT NOT NULL, "
    ++ "UNIQUE (chain, pool_address, snapshot_id) ); "
    ++ "CREATE INDEX IF NOT EXISTS idx_whitelist_snapshots_chain_snapshot "
    ++ "ON whitelist_snapshots (chain, snapshot_id DESC); "
    ++ "CREATE INDEX IF NOT EXISTS idx_whitelist_snapshots_published_at "
    ++ "ON whitelist_snapshots (published_at DESC); "
    ++ "CREATE TABLE IF NOT EXISTS whitelist_snapshot_heads ( chain TEXT NOT NULL, "
    ++ "snapshot_id BIGINT NOT NULL, item_count BIGINT NOT NULL, "
    ++ "published_at TIMESTAMPTZ NOT NULL, PRIMARY KEY (chain, snapshot_id) ); "
    ++ "CREATE TABLE IF NOT EXISTS whitelist_snapshot_counters ( chain TEXT PRIMARY KEY, "
    ++ "last_id BIGINT NOT NULL );"

/-- The number of values a pool's row takes. -/
def valuesPerRow : Nat := 5

/-- The placeholder of the value with a number. -/
def placeholder (n : Nat) : String := "$" ++ toString n

/-- The placeholders of a row, given how many rows stand before it. -/
def rowPlaceholders (row : Nat) : List String :=
  (List.range' (row * valuesPerRow + 1) valuesPerRow).map placeholder

/-- The placeholders of so many rows, a pair of parentheses around each row. -/
def rowsText (rows : Nat) : String :=
  ", ".intercalate
    ((List.range rows).map (fun row => "(" ++ ", ".intercalate (rowPlaceholders row) ++ ")"))

/-- The text of a bulk insert of so many rows. -/
def insertPoolsText (rows : Nat) : String :=
  "INSERT INTO whitelist_snapshots (chain, pool_address, pool_data, snapshot_id, published_at) "
    ++ "VALUES " ++ rowsText rows
    ++ " ON CONFLICT (chain, pool_address, snapshot_id) DO NOTHING"

def text : Statement → String
  | .limitTime milliseconds => s!"SET statement_timeout = {milliseconds}"
  | .createTables => schema
  | .startTransaction => "START TRANSACTION"
  | .commit => "COMMIT"
  | .rollback => "ROLLBACK"
  | .selectHead _ =>
    "SELECT snapshot_id, published_at FROM whitelist_snapshot_heads WHERE chain = $1 "
      ++ "ORDER BY snapshot_id DESC LIMIT 1"
  | .selectHeadless _ =>
    "SELECT snapshot_id, MAX(published_at) FROM whitelist_snapshots WHERE chain = $1 "
      ++ "GROUP BY snapshot_id ORDER BY snapshot_id DESC LIMIT 1"
  | .selectPools _ _ =>
    "SELECT pool_address, pool_data FROM whitelist_snapshots "
      ++ "WHERE chain = $1 AND snapshot_id = $2"
  | .nextId _ _ =>
    "INSERT INTO whitelist_snapshot_counters (chain, last_id) VALUES ($1, $2::BIGINT + 1) "
      ++ "ON CONFLICT (chain) DO UPDATE "
      ++ "SET last_id = GREATEST(whitelist_snapshot_counters.last_id, $2::BIGINT) + 1 "
      ++ "RETURNING last_id"
  | .insertPools rows => insertPoolsText rows.length
  | .insertHead .. =>
    "INSERT INTO whitelist_snapshot_heads (chain, snapshot_id, item_count, published_at) "
      ++ "VALUES ($1, $2, $3, $4) ON CONFLICT (chain, snapshot_id) DO NOTHING"

/-- The values for the placeholders of a statement, in the order of their numbers. -/
def parameters : Statement → Row
  | .selectHead chain => [.text chain]
  | .selectHeadless chain => [.text chain]
  | .selectPools chain id => [.text chain, .integer id]
  | .nextId chain floor => [.text chain, .integer floor]
  | .insertPools rows => rows.flatMap PoolRow.cells
  | .insertHead chain id count publishedAt =>
    [.text chain, .integer id, .integer count, .time publishedAt.toMicroseconds]
  | _ => []

/-- Whether the server prepares a statement, and executes it when it is told to once more. -/
def isPrepared : Statement → Bool
  | .limitTime _ => false
  | .createTables => false
  | .startTransaction => false
  | .commit => false
  | .rollback => false
  | _ => true

/-- A bulk insert binds five values for each of its rows. -/
theorem parameters_insertPools (rows : List PoolRow) :
    (parameters (.insertPools rows)).length = valuesPerRow * rows.length := by
  simp only [parameters]
  induction rows with
  | nil => rfl
  | cons r rest ih =>
    simp only [List.flatMap_cons, List.length_append, List.length_cons, ih]
    simp only [PoolRow.cells, List.length_cons, List.length_nil, valuesPerRow]
    omega

end Statement

end PoolFeed.Database
