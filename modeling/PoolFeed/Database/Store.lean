import PoolFeed.Database.Connection
import PoolFeed.Json.Reader
import PoolFeed.Snapshot.Basic
import PoolFeed.Time.Reader

/-!
# A store in a database

Every snapshot has a head, so that an empty one is found too. Its pools are rows of their own, and
everything of a snapshot is written in one transaction. Pools without a head, which older
publishers wrote, are read all the same.

## Main statements

* `flatten_chunks` — cutting a list into chunks loses nothing
* `length_of_mem_chunks` — no chunk is empty, and none is longer than it may be
-/

namespace PoolFeed.Database

/-! ## Columns -/

def Cell.text? : Cell → Option String
  | .text s => some s
  | _ => none

/-- A cell as a whole number. -/
def Cell.integer? : Cell → Option Int
  | .integer n => some n
  | _ => none

/-- A cell as a JSON value, which may be on its way as text. -/
def Cell.json? : Cell → Option Json
  | .json v => some v
  | .text s => (Json.read (Text.bytesOf s)).toOption
  | _ => none

/-- A cell as a point in time, which may be on its way as text. -/
def Cell.time? : Cell → Option Timestamp
  | .time t => some t
  | .text s => (Timestamp.read s.toList).toOption.map Timestamp.toMicroseconds
  | _ => none

/--
A column of a row. No statement of the store has a cell of another type than is read from its
column. Such a cell is an error of the operation here; nothing would catch it.
-/
def Row.column (row : Row) (i : Nat) (read : Cell → Option β) : Except Fault β :=
  match row[i]?.bind read with
  | some b => .ok b
  | none => .error (.unreadable i)

/-! ## Chunks -/

/-- Cuts a list into chunks of a size, the last of which may be shorter. -/
def chunks (size : Nat) (xs : List β) : List (List β) :=
  if _h : xs = [] ∨ size = 0 then []
  else xs.take size :: chunks size (xs.drop size)
termination_by xs.length
decreasing_by
  have := List.length_pos_iff.mpr (fun he => _h (Or.inl he))
  have : size ≠ 0 := fun he => _h (Or.inr he)
  simp only [List.length_drop]
  omega

/-- Cutting a list into chunks loses nothing. -/
theorem flatten_chunks {size : Nat} (hs : size ≠ 0) (xs : List β) :
    (chunks size xs).flatten = xs := by
  fun_induction chunks size xs with
  | case1 xs h =>
    rcases h with h | h
    · simp [h]
    · exact absurd h hs
  | case2 xs h ih => simp [ih]

/-- No chunk is empty, and none is longer than it may be. -/
theorem length_of_mem_chunks {size : Nat} {xs chunk : List β} (h : chunk ∈ chunks size xs) :
    0 < chunk.length ∧ chunk.length ≤ size := by
  fun_induction chunks size xs with
  | case1 xs hx => simp at h
  | case2 xs hx ih =>
    rcases List.mem_cons.mp h with h | h
    · subst h
      have := List.length_pos_iff.mpr (fun he => hx (Or.inl he))
      have : size ≠ 0 := fun he => hx (Or.inr he)
      simp only [List.length_take]
      omega
    · exact ih h

/-! ## The store -/

/-- A store on a connection, whose operations have so much time each. -/
structure DatabaseStore (α : Type) where
  connection : Connection α
  timeout : Duration

namespace DatabaseStore

/-- The number of values that a statement may bind, with a margin. -/
def valueLimit : Nat := 65000

/-- The number of rows of a bulk insert. -/
def rowsPerInsert : Nat := max 1 (valueLimit / Statement.valuesPerRow)

def poolRow (s : Snapshot) (r : PoolRecord) : PoolRow :=
  ⟨s.chain, r.key, r.attributes, s.snapshotId, s.publishedAt⟩

/-- What is written to store a snapshot: its pools and then its head. -/
def writes (s : Snapshot) : List Statement :=
  (chunks rowsPerInsert (s.items.records.map (poolRow s))).map .insertPools
    ++ [.insertHead s.chain s.snapshotId s.items.size s.publishedAt]

def failure (operation : String) (limit : Duration) (f : Fault) : SyncError :=
  .storeUnavailable operation (f.message limit)

/-- The id and the time of a head. -/
def readHead (row : Row) : Except Fault (Int × Timestamp) := do
  let id ← Row.column row 0 Cell.integer?
  let publishedAt ← Row.column row 1 Cell.time?
  return (id, publishedAt)

def readPool (limit : Duration) (row : Row) : Except SyncError PoolRecord :=
  let columns := do
    let key ← Row.column row 0 Cell.text?
    let attributes ← Row.column row 1 Cell.json?
    return (key, attributes)
  match columns with
  | .error f => .error (failure StoreOperation.loadLatest limit f)
  | .ok (key, attributes) =>
    match PoolRecord.ofStored key attributes with
    | .error e => .error (.storeUnavailable StoreOperation.loadLatest e.message)
    | .ok r => .ok r

/-- The records of some rows, or the first of their failures. -/
def readPools (limit : Duration) : List Row → Except SyncError (List PoolRecord)
  | [] => .ok []
  | row :: rest =>
    match readPool limit row with
    | .error e => .error e
    | .ok r => (readPools limit rest).map (r :: ·)

variable {α : Type} [Server α]

/-- The head of the latest snapshot of a chain, which is looked for in two places. -/
def findHead (limit : Duration) (chain : String) (c : Connection α) :
    Execution α (Option (Int × Timestamp)) :=
  let e := c.queryOptional limit (.selectHead chain)
  match e.result with
  | .error f => ⟨.error f, e.used, e.connection⟩
  | .ok (some row) => ⟨(readHead row).map some, e.used, e.connection⟩
  | .ok none =>
    -- A snapshot without a head is still known by its pools.
    let e' := e.connection.queryOptional limit (.selectHeadless chain)
    match e'.result with
    | .error f => ⟨.error f, e'.used, e'.connection⟩
    | .ok (some row) => ⟨(readHead row).map some, e'.used, e'.connection⟩
    | .ok none => ⟨.ok none, e'.used, e'.connection⟩

def loadLatest (chain : String) (s : DatabaseStore α) :
    Answer (DatabaseStore α) (Option Snapshot) :=
  let fail (f : Fault) : SyncError := failure StoreOperation.loadLatest s.timeout f
  let e := findHead s.timeout chain s.connection
  match e.result with
  | .error f => ⟨.error (fail f), { s with connection := e.connection }, []⟩
  | .ok none => ⟨.ok none, { s with connection := e.connection }, [.nothingStored chain]⟩
  | .ok (some (id, publishedAt)) =>
    let e' := e.connection.execute s.timeout .zero (.selectPools chain id)
    let s' := { s with connection := e'.connection }
    match e'.result with
    | .error f => ⟨.error (fail f), s', []⟩
    | .ok rows =>
      match readPools s.timeout rows with
      | .error e => ⟨.error e, s', []⟩
      | .ok records =>
        let items := Whitelist.ofRecords records
        ⟨.ok (some ⟨chain, id, items, publishedAt⟩), s', [.loaded items.size id chain]⟩

/-- The next id of a chain. -/
def allocate (chain : String) (floor : Option Int) (s : DatabaseStore α) :
    Answer (DatabaseStore α) Int :=
  let e := s.connection.queryOne s.timeout (.nextId chain (floor.getD 0))
  let result := match e.result with
    | .error f => .error (failure StoreOperation.allocate s.timeout f)
    | .ok row =>
      match Row.column row 0 Cell.integer? with
      | .error f => .error (failure StoreOperation.allocate s.timeout f)
      | .ok id => .ok id
  ⟨result, { s with connection := e.connection }, []⟩

def append (snapshot : Snapshot) (s : DatabaseStore α) : Answer (DatabaseStore α) Unit :=
  let e := s.connection.transact s.timeout (writes snapshot)
  let s' := { s with connection := e.connection }
  match e.result with
  | .error f => ⟨.error (failure StoreOperation.append s.timeout f), s', []⟩
  | .ok () =>
    ⟨.ok (), s', [.stored snapshot.snapshotId snapshot.items.size snapshot.chain]⟩

/-- Creates the tables of the store if they are missing. -/
def ensureSchema (s : DatabaseStore α) : Answer (DatabaseStore α) Unit :=
  let e := s.connection.execute s.timeout .zero .createTables
  let s' := { s with connection := e.connection }
  match e.result with
  | .error f => ⟨.error (failure StoreOperation.ensureSchema s.timeout f), s', []⟩
  | .ok _ => ⟨.ok (), s', [.schemaVerified]⟩

instance : SnapshotStore (DatabaseStore α) := ⟨ensureSchema, loadLatest, allocate, append⟩

end DatabaseStore

end PoolFeed.Database
