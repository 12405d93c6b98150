import PoolFeed.Proofs.Database.Retrieval
import PoolFeed.Proofs.Database.Storing

/-!
# Operations on a database that does what statements say

A server that keeps tables accepts every statement at once. What a store makes of its operations is
then settled by the tables alone.

## Main statements

* `DatabaseStore.Keeps.allocate` — ids are counted
* `DatabaseStore.Keeps.append` — snapshots are stored
* `DatabaseStore.Keeps.loadLatest_of_head`, `DatabaseStore.Keeps.loadLatest_of_none` — what is found
-/

namespace PoolFeed.Database

namespace TableServer

variable {limit used : Duration} {ss : List Statement}

/-- A server that keeps tables accepts everything at once. -/
theorem acknowledged (h : used.nanoseconds < limit.nanoseconds) (ss : List Statement)
    (server : TableServer) : Acknowledged limit used ss server := by
  induction ss generalizing server with
  | nil => trivial
  | cons s ss ih => exact ⟨⟨_, rfl⟩, h, ih _⟩

theorem answer_of_isPrepared {s : Statement} (h : s.isPrepared = true) (server : TableServer) :
    Server.answer s server = ⟨.rows (server.tables.run s).1, .zero,
      { server with tables := (server.tables.run s).2 }⟩ := by
  cases s with
  | limitTime => cases h
  | createTables => cases h
  | startTransaction => cases h
  | commit => cases h
  | rollback => cases h
  | _ => rfl

theorem behind_inserts (h : ∀ s ∈ ss, s.inserts = true) (tables : Tables) (saved : Option Tables) :
    behind ss (⟨tables, saved⟩ : TableServer)
      = ⟨ss.foldl (fun t s => (t.run s).2) tables, saved⟩ := by
  induction ss generalizing tables with
  | nil => rfl
  | cons s ss ih =>
    have hprepared : s.isPrepared = true := by
      have hs := h s List.mem_cons_self
      cases s with
      | insertPools => rfl
      | insertHead => rfl
      | _ => cases hs
    rw [behind, answer_of_isPrepared hprepared, List.foldl_cons]
    exact ih (fun s hs => h s (List.mem_cons_of_mem _ hs)) _

/-- A transaction that stores a snapshot has nothing left to take back. -/
theorem behind_transaction (x : Snapshot) (server : TableServer) :
    behind (transaction (DatabaseStore.writes x)) server = ⟨server.tables.storing x, none⟩ := by
  have hinserts := behind_inserts (fun _ => inserts_of_mem_writes (x := x)) server.tables
    (some server.tables)
  rw [transaction, behind_append]
  exact congrArg (behind [.commit]) hinserts

end TableServer

/-- A store on a server that keeps some tables. -/
structure DatabaseStore.Keeps (s : DatabaseStore TableServer) (t : Tables) : Prop where
  up : s.connection.link = .up
  time : 0 < s.timeout.nanoseconds
  tables : s.connection.server.tables = t

namespace DatabaseStore.Keeps

variable {s : DatabaseStore TableServer} {t : Tables} {chain : String}

/-- What is asked for is done at once. -/
theorem execute (h : s.Keeps t) (statement : Statement) (hprepared : statement.isPrepared = true) :
    (s.connection.execute s.timeout .zero statement).result = .ok (t.run statement).1
      ∧ Keeps ⟨(s.connection.execute s.timeout .zero statement).connection, s.timeout⟩
        (t.run statement).2 := by
  have hack : Acknowledged s.timeout .zero [statement] s.connection.server :=
    TableServer.acknowledged h.time _ _
  obtain ⟨rows, hrows, hexecute⟩ := Connection.execute_of_acknowledged h.up hack
  rw [TableServer.answer_of_isPrepared hprepared] at hrows hexecute
  cases hrows
  rw [hexecute, ← h.tables]
  exact ⟨rfl, rfl, h.time, rfl⟩

/-- The next id is handed out and kept. -/
theorem allocate (h : s.Keeps t) (chain : String) (floor : Option Int) :
    (s.allocate chain floor).result = .ok (t.nextId chain (floor.getD 0))
      ∧ (s.allocate chain floor).store.Keeps
        (t.setCounter chain (t.nextId chain (floor.getD 0))) := by
  obtain ⟨hresult, hkeeps⟩ := h.execute (.nextId chain (floor.getD 0)) rfl
  refine ⟨?_, hkeeps⟩
  simp only [DatabaseStore.allocate, Connection.queryOne, Connection.queryOptional, hresult]
  rfl

/-- A snapshot is stored. -/
theorem append (h : s.Keeps t) (x : Snapshot) :
    (s.append x).result = .ok () ∧ (s.append x).store.Keeps (t.storing x) := by
  have hack : Acknowledged s.timeout .zero (transaction (writes x)) s.connection.server :=
    TableServer.acknowledged h.time _ _
  obtain ⟨hok, hstore⟩ := append_of_acknowledged h.up hack
  rw [hstore, TableServer.behind_transaction, h.tables]
  exact ⟨hok, rfl, h.time, rfl⟩

/-- Where there is a head, the latest one counts. -/
theorem loadLatest_of_head (h : s.Keeps t) {head : HeadRow} {w : Whitelist}
    (hhead : t.latestHead? chain = some head) (hlists : t.Lists chain head.snapshotId w) :
    (s.loadLatest chain).result
        = .ok (some ⟨chain, head.snapshotId, w, head.publishedAt⟩)
      ∧ (s.loadLatest chain).store.Keeps t := by
  obtain ⟨hresult, hkeeps⟩ := h.execute (.selectHead chain) rfl
  have hrow : (t.run (.selectHead chain)).1
      = [[.integer head.snapshotId, .time head.publishedAt]] := by
    rw [Tables.run, hhead]
    rfl
  have hfind : findHead s.timeout chain s.connection
      = ⟨.ok (some (head.snapshotId, head.publishedAt)),
        (s.connection.execute s.timeout .zero (.selectHead chain)).used,
        (s.connection.execute s.timeout .zero (.selectHead chain)).connection⟩ := by
    simp only [findHead, Connection.queryOptional, hresult, hrow]
    rfl
  obtain ⟨hpools, hkeeps'⟩ := hkeeps.execute (.selectPools chain head.snapshotId) rfl
  obtain ⟨rs, hperm, hrows⟩ := hlists
  have hpairs : (t.run (.selectPools chain head.snapshotId)).1 = rs.map pairRow := by
    have hcells := congrArg (List.map fun p : String × Json => [Cell.text p.1, Cell.json p.2]) hrows
    rw [List.map_map, List.map_map] at hcells
    exact hcells
  have hfound : ((findHead s.timeout chain s.connection).connection.execute s.timeout .zero
      (.selectPools chain head.snapshotId)).result = .ok (rs.map pairRow) := by
    rw [hfind]
    exact hpools.trans (congrArg _ hpairs)
  have hload := loadLatest_of_rows (congrArg Execution.result hfind) hfound (hperm.symm.map _)
  refine ⟨hload.1, ?_⟩
  rw [hload.2, hfind]
  exact hkeeps'

/-- Where there is neither a head nor a pool, nothing is found. -/
theorem loadLatest_of_none (h : s.Keeps t) (hhead : t.latestHead? chain = none)
    (hpools : t.poolsOf chain = []) :
    (s.loadLatest chain).result = .ok none ∧ (s.loadLatest chain).store.Keeps t := by
  obtain ⟨hresult, hkeeps⟩ := h.execute (.selectHead chain) rfl
  have hnoHead : (t.run (.selectHead chain)).1 = [] := by
    rw [Tables.run, hhead]
    rfl
  obtain ⟨hresult', hkeeps'⟩ := hkeeps.execute (.selectHeadless chain) rfl
  have hnoPools : (t.run (.selectHeadless chain)).1 = [] := by
    rw [Tables.run, Tables.latestPools?, hpools]
    rfl
  rw [hnoHead] at hresult
  have hresult'' : ((s.connection.execute s.timeout .zero (.selectHead chain)).connection.execute
      s.timeout .zero (.selectHeadless chain)).result = .ok [] :=
    hresult'.trans (congrArg _ hnoPools)
  simp only [DatabaseStore.loadLatest, findHead, Connection.queryOptional, hresult, hresult'']
  exact ⟨trivial, hkeeps'⟩

end DatabaseStore.Keeps

end PoolFeed.Database
