import PoolFeed.Proofs.Database.Operations
import PoolFeed.Proofs.Sync.Unchanged
import PoolFeed.Proofs.Whitelist.Records
import PoolFeed.Transport.Recording

/-!
# Rows of older publishers

Older publishers spelled the keys of their rows in their own way, left out addresses and wrote no
heads. Such rows are read like fresh pools, so that a cycle that finds rows of the pools that it is
to sync sends nothing.

## Main statements

* `DatabaseStore.map_key_of_readPools` — the keys of rows end up in normal spelling
* `DatabaseStore.Keeps.mem_keys_of_loadLatest` — the keys of what is found, in normal spelling
* `DatabaseStore.rows_read_alike` — stored rows and fresh pools are read alike
-/

namespace PoolFeed

/-- The keys of collected records are the keys of these records. -/
theorem Whitelist.mem_keys_ofRecords {rs : List PoolRecord} {k : String} :
    k ∈ (ofRecords rs).keys ↔ ∃ r ∈ rs, r.key = k := by
  have hkeys : k ∈ (ofRecords rs).keys ↔ ((ofRecords rs).find? k).isSome := SortedMap.mem_keys
  rw [hkeys, find?_ofRecords, List.find?_isSome]
  simp only [List.mem_reverse, decide_eq_true_eq]

namespace Database

/-- The record that a row is read as. -/
def PoolRow.ReadsAs (row : PoolRow) (r : PoolRecord) : Prop :=
  PoolRecord.ofStored row.key row.attributes = .ok r

namespace DatabaseStore

variable {limit : Duration} {row : Row} {rows : List Row} {r : PoolRecord} {rs : List PoolRecord}

/-! ## Reading rows -/

/-- The key of a row, as it is spelled. -/
def rowKey? (row : Row) : Option String := row[0]?.bind Cell.text?

/-- A row is read as a record if it has a key and attributes that are stored under the key. -/
theorem readPool_eq_ok_iff : readPool limit row = .ok r ↔ ∃ key attributes,
    rowKey? row = some key ∧ row[1]?.bind Cell.json? = some attributes
      ∧ PoolRecord.ofStored key attributes = .ok r := by
  constructor
  · intro h
    unfold readPool Row.column at h
    cases hkey : row[0]?.bind Cell.text? with
    | none =>
      rw [hkey] at h
      cases h
    | some key =>
      cases hattributes : row[1]?.bind Cell.json? with
      | none =>
        rw [hkey, hattributes] at h
        cases h
      | some attributes =>
        rw [hkey, hattributes] at h
        simp only [bind, pure, Except.bind, Except.pure] at h
        split at h
        · cases h
        · next s hstored =>
          cases h
          exact ⟨key, attributes, hkey, rfl, hstored⟩
  · rintro ⟨key, attributes, hkey, hattributes, hstored⟩
    rw [rowKey?] at hkey
    simp only [readPool, Row.column, hkey, hattributes, bind, pure, Except.bind, Except.pure,
      hstored]

/-- A row of a key and attributes is read as what is stored under the key. -/
theorem readPool_pair_iff {key : String} {attributes : Json} :
    readPool limit [.text key, .json attributes] = .ok r
      ↔ PoolRecord.ofStored key attributes = .ok r := by
  rw [readPool_eq_ok_iff]
  constructor
  · rintro ⟨_, _, hkey, hattributes, hstored⟩
    cases hkey
    cases hattributes
    exact hstored
  · intro hstored
    exact ⟨key, attributes, rfl, rfl, hstored⟩

/-- Rows of pools can be read exactly if each of them is a record. -/
theorem exists_readPools_iff {pools : List PoolRow} :
    (∃ rs, readPools limit (pools.map fun r => [.text r.key, .json r.attributes]) = .ok rs)
      ↔ ∀ row ∈ pools, ∃ r, row.ReadsAs r := by
  induction pools with
  | nil => exact ⟨fun _ => nofun, fun _ => ⟨[], rfl⟩⟩
  | cons row pools ih =>
    rw [List.forall_mem_cons, ← ih, List.map_cons]
    simp only [readPools_cons_eq_ok, readPool_pair_iff]
    constructor
    · rintro ⟨_, r, rs, hr, hrs, -⟩
      exact ⟨⟨r, hr⟩, rs, hrs⟩
    · rintro ⟨⟨r, hr⟩, rs, hrs⟩
      exact ⟨r :: rs, r, rs, hr, hrs, rfl⟩

/-- **Records that were read off rows have the keys of the rows, in normal spelling.** -/
theorem map_key_of_readPools (h : readPools limit rows = .ok rs) :
    rs.map (·.key) = (rows.filterMap rowKey?).map normalizeKey := by
  induction rows generalizing rs with
  | nil =>
    cases h
    rfl
  | cons row rows ih =>
    obtain ⟨r, rs', hr, hrs, rfl⟩ := readPools_cons_eq_ok.mp h
    obtain ⟨key, attributes, hkey, -, hstored⟩ := readPool_eq_ok_iff.mp hr
    rw [List.map_cons, List.filterMap_cons_some hkey, List.map_cons, ih hrs,
      PoolRecord.key_of_ofStored hstored]

/-- The keys of what is read off rows are those of the rows, in normal spelling. -/
theorem mem_keys_of_readPools (h : readPools limit rows = .ok rs) {k : String} :
    k ∈ (Whitelist.ofRecords rs).keys ↔ ∃ key ∈ rows.filterMap rowKey?, normalizeKey key = k := by
  rw [Whitelist.mem_keys_ofRecords, ← List.mem_map, map_key_of_readPools h, List.mem_map]

/-! ## What is found -/

section

variable {α : Type} [Server α] {s : DatabaseStore α} {chain : String} {x : Snapshot}

/-- **A snapshot that is found consists of the rows of a head, all of which are records.** -/
theorem loadLatest_eq_some (h : (s.loadLatest chain).result = .ok (some x)) :
    x.chain = chain
      ∧ (findHead s.timeout chain s.connection).result = .ok (some (x.snapshotId, x.publishedAt))
      ∧ (∃ rows rs, ((findHead s.timeout chain s.connection).connection.execute s.timeout .zero
          (.selectPools chain x.snapshotId)).result = .ok rows
        ∧ readPools s.timeout rows = .ok rs ∧ x.items = Whitelist.ofRecords rs)
      ∧ (s.loadLatest chain).store = { s with
        connection := ((findHead s.timeout chain s.connection).connection.execute s.timeout .zero
          (.selectPools chain x.snapshotId)).connection } := by
  unfold loadLatest at h ⊢
  dsimp only at h
  split at h
  · cases h
  · cases h
  · next id time hhead =>
    split at h
    · cases h
    · next rows hrows =>
      split at h
      · cases h
      · next rs hrs =>
        cases h
        refine ⟨rfl, hhead, ⟨rows, rs, hrows, hrs, rfl⟩, ?_⟩
        simp only [hhead, hrows, hrs]

end

namespace Keeps

variable {s : DatabaseStore TableServer} {t : Tables} {chain k : String} {x : Snapshot}

/-- To look for a head changes nothing. -/
theorem findHead (h : s.Keeps t) (chain : String) :
    Keeps ⟨(DatabaseStore.findHead s.timeout chain s.connection).connection, s.timeout⟩ t := by
  obtain ⟨-, hkeeps⟩ := h.execute (.selectHead chain) rfl
  obtain ⟨-, hkeeps'⟩ := hkeeps.execute (.selectHeadless chain) rfl
  unfold DatabaseStore.findHead
  dsimp only [Connection.queryOptional]
  split
  · exact hkeeps
  · exact hkeeps
  · split
    · exact hkeeps'
    · exact hkeeps'
    · exact hkeeps'

/-- What is found was read off the rows under its id, and nothing was changed. -/
theorem of_loadLatest (h : s.Keeps t) (hload : (s.loadLatest chain).result = .ok (some x)) :
    (∃ rs, x.items = Whitelist.ofRecords rs
        ∧ readPools s.timeout (t.run (.selectPools chain x.snapshotId)).1 = .ok rs)
      ∧ (s.loadLatest chain).store.Keeps t := by
  obtain ⟨-, -, ⟨rows, rs, hrows, hrs, hitems⟩, hstore⟩ := loadLatest_eq_some hload
  obtain ⟨hpools, hkeeps⟩ := (h.findHead chain).execute (.selectPools chain x.snapshotId) rfl
  rw [hpools] at hrows
  cases hrows
  rw [hstore]
  exact ⟨⟨rs, hitems, hrs⟩, hkeeps⟩

/-- **The keys of what is found are those of the rows, in normal spelling.** -/
theorem mem_keys_of_loadLatest (h : s.Keeps t)
    (hload : (s.loadLatest chain).result = .ok (some x)) :
    k ∈ x.items.keys ↔ ∃ row ∈ t.rowsOf chain x.snapshotId, normalizeKey row.key = k := by
  obtain ⟨⟨rs, hitems, hrs⟩, -⟩ := h.of_loadLatest hload
  have hkeys : (t.run (.selectPools chain x.snapshotId)).1.filterMap rowKey?
      = (t.rowsOf chain x.snapshotId).map (·.key) := by
    show List.filterMap rowKey? ((t.rowsOf chain x.snapshotId).map _) = _
    rw [List.filterMap_map]
    show List.filterMap (some ∘ PoolRow.key) _ = _
    rw [List.filterMap_eq_map]
  rw [hitems, mem_keys_of_readPools hrs, hkeys]
  simp only [List.mem_map, exists_exists_and_eq_and]

/-- **Pools without a head are found exactly if each of their rows is a record.** -/
theorem exists_loadLatest_iff (h : s.Keeps t) {id : Int} {time : Timestamp}
    (hhead : t.latestHead? chain = none) (hlatest : t.latestPools? chain = some (id, time)) :
    (∃ x, (s.loadLatest chain).result = .ok (some x))
      ↔ ∀ row ∈ t.rowsOf chain id, ∃ r, row.ReadsAs r := by
  have hfind : (DatabaseStore.findHead s.timeout chain s.connection).result
      = .ok (some (id, time)) := by
    obtain ⟨hresult, hkeeps⟩ := h.execute (.selectHead chain) rfl
    obtain ⟨hresult', -⟩ := hkeeps.execute (.selectHeadless chain) rfl
    have hnone : (t.run (.selectHead chain)).1 = [] := by
      rw [Tables.run, hhead]
      rfl
    have hrow : (t.run (.selectHeadless chain)).1 = [[.integer id, .time time]] := by
      rw [Tables.run, hlatest]
      rfl
    rw [hnone] at hresult
    have hfound := hresult'.trans (congrArg _ hrow)
    simp only [DatabaseStore.findHead, Connection.queryOptional, hresult, hfound]
    rfl
  obtain ⟨hpools, -⟩ := (h.findHead chain).execute (.selectPools chain id) rfl
  rw [← @exists_readPools_iff s.timeout]
  constructor
  · rintro ⟨x, hx⟩
    obtain ⟨-, hfind', ⟨rows, rs, hrows, hrs, -⟩, -⟩ := loadLatest_eq_some hx
    rw [hfind] at hfind'
    cases hfind'
    rw [hpools] at hrows
    cases hrows
    exact ⟨rs, hrs⟩
  · rintro ⟨rs, hrs⟩
    refine ⟨⟨chain, id, Whitelist.ofRecords rs, time⟩, ?_⟩
    simp only [loadLatest, hfind, hpools]
    rw [show readPools s.timeout (t.run (.selectPools chain id)).1 = .ok rs from hrs]

/-- **A cycle that finds rows of the pools that it is to sync sends nothing.** -/
theorem sync_of_rows {τ : Type} [Transport τ] {w : World (DatabaseStore TableServer) τ}
    {request : SyncRequest} (h : w.store.Keeps t) (p : Publisher)
    (hcheck : request.check = .ok ()) (hforce : request.forceFull = false)
    (hload : (w.store.loadLatest request.chain).result = .ok (some x))
    (hkeys : ∀ k, k ∈ request.items.keys
      ↔ ∃ row ∈ t.rowsOf request.chain x.snapshotId, normalizeKey row.key = k) :
    (request.sync p w).outcome
        = .ok (Cycle.unchangedResult request (t.nextId request.chain x.snapshotId))
      ∧ (request.sync p w).world.transport = w.transport := by
  have hsame : x.items.keys = request.items.keys := SortedMap.keys_eq_of_mem_iff fun k =>
    (h.mem_keys_of_loadLatest hload).trans (hkeys k).symm
  obtain ⟨-, hloaded⟩ := h.of_loadLatest hload
  obtain ⟨hid, hallocated⟩ := hloaded.allocate request.chain (some x.snapshotId)
  obtain ⟨hstored, -⟩ := hallocated.append
    ⟨request.chain, t.nextId request.chain x.snapshotId, request.items, w.now⟩
  exact request.sync_of_keys_eq p hcheck hforce hload hsame hid hstored

end Keeps

/-! ## Rows and fresh pools -/

open PoolRecord (ofJson ofStored StoredAddress)

/-- A value that is stored under a key is read like a fresh pool. -/
structure RowAlike (key : String) (v : Json) : Prop where
  /-- It has to be an object whose address, or else its key, is a text that names the pool. -/
  accepted : (∃ r, ofStored key v = .ok r) ↔ ∃ fields raw, v = .object fields
    ∧ StoredAddress key fields raw ∧ normalizeKey raw = normalizeKey key ∧ normalizeKey raw ≠ ""
  /-- The record is that of the object once it was completed with this address. -/
  completed : ∀ r, ofStored key v = .ok r → ∃ fields raw, v = .object fields
    ∧ StoredAddress key fields raw
    ∧ ofJson (.object (Entries.insert addressField (.string raw) fields)) = .ok r
  /-- No other field is touched. -/
  untouched : ∀ r fields, ofStored key v = .ok r → v = .object fields →
    ∀ name ≠ addressField, Entries.find? name r.fields = Entries.find? name fields
  /-- The record of a fresh pool is read back as it was, with all of its fields. -/
  kept : ∀ r, ofJson v = .ok r → ofStored r.key r.attributes = .ok r

/-- Rows in tables, whoever wrote them, lead to no message as long as the pools stay the same. -/
structure QuietUpgrade (t : Tables) : Prop where
  /-- Rows without a head are found exactly if each of them is a record. -/
  found : ∀ (s : DatabaseStore TableServer) chain id time, s.Keeps t →
    t.latestHead? chain = none → t.latestPools? chain = some (id, time) →
    ((∃ x, (s.loadLatest chain).result = .ok (some x))
      ↔ ∀ row ∈ t.rowsOf chain id, ∃ r, row.ReadsAs r)
  /--
  A cycle for the pools of the rows that were found, in whatever spelling, succeeds. It reports that
  nothing came and nothing went, and leaves the transport alone. The id that it takes is not
  bounded; in a database that keeps ids in 64 bits this is about ids below `2 ^ 63`.
  -/
  quiet : ∀ {τ : Type} [Transport τ] (w : World (DatabaseStore TableServer) τ) (p : Publisher)
    (chain : String) (fresh : Whitelist) (x : Snapshot), w.store.Keeps t →
    (SyncRequest.mk chain fresh false).check = .ok () →
    (w.store.loadLatest chain).result = .ok (some x) →
    (∀ k, k ∈ fresh.keys ↔ ∃ row ∈ t.rowsOf chain x.snapshotId, normalizeKey row.key = k) →
    ((SyncRequest.mk chain fresh false).sync p w).outcome
        = .ok ⟨chain, t.nextId chain x.snapshotId, fresh.size, 0, 0, .differential⟩
      ∧ ((SyncRequest.mk chain fresh false).sync p w).world.transport = w.transport

theorem rowAlike (key : String) (v : Json) : RowAlike key v where
  accepted := by
    constructor
    · rintro ⟨r, h⟩
      have hkey := PoolRecord.key_of_ofStored h
      obtain ⟨fields, raw, hv, hstored, hraw, -⟩ := PoolRecord.ofStored_eq_ok_iff.mp h
      refine ⟨fields, raw, hv, hstored, hraw, ?_⟩
      rw [hraw, ← hkey]
      exact r.key_nonempty
    · rintro ⟨fields, raw, rfl, hstored, hraw, hne⟩
      have hsound : PoolRecord.Sound (.object (Entries.insert addressField (.string raw) fields)) :=
        ⟨raw, PoolRecord.address?_object.mpr (PoolRecord.find?_address_insert raw fields), hne⟩
      obtain ⟨r, hr⟩ := PoolRecord.exists_ofJson_iff.mpr hsound
      exact ⟨r, PoolRecord.ofStored_eq_ok_iff.mpr ⟨fields, raw, rfl, hstored, hraw, hr⟩⟩
  completed := by
    intro r h
    obtain ⟨fields, raw, hv, hstored, -, hr⟩ := PoolRecord.ofStored_eq_ok_iff.mp h
    exact ⟨fields, raw, hv, hstored, hr⟩
  untouched := by
    rintro r fields h rfl name hname
    rw [Json.object.inj (PoolRecord.attributes_of_ofStored h), Entries.find?_insert, if_neg]
    rw [Std.LawfulEqOrd.compare_eq_iff_eq]
    exact hname
  kept := fun r _ => PoolRecord.ofStored_attributes r

/-- **Stored rows and fresh pools are read alike, so that no pool seems to have come or gone.** -/
theorem rows_read_alike (key : String) (v : Json) (t : Tables) :
    RowAlike key v ∧ QuietUpgrade t := by
  refine ⟨rowAlike key v, ?_⟩
  constructor
  case found =>
    intro s chain id time hkeeps hhead hlatest
    exact hkeeps.exists_loadLatest_iff hhead hlatest
  case quiet =>
    intro τ _ w p chain fresh x hkeeps hcheck hload hkeys
    exact hkeeps.sync_of_rows p hcheck rfl hload hkeys

/-! ### Two rows without a head -/

namespace Upgraded

/-- The first row lacks its address, the second spells it in another way than its key. -/
def older : Tables :=
  { Tables.empty with pools :=
      [⟨"ethereum", " 0xCd ", .object [], 7, ⟨0, 0⟩⟩,
        ⟨"ethereum", "0xAb", .object [(addressField, .string "0xAB\n")], 7, ⟨0, 0⟩⟩] }

def store : DatabaseStore TableServer := ⟨.new ⟨older, none⟩, .ofSeconds 30⟩

def one : PoolRecord := .bare "0xab" rfl (by decide)

def two : PoolRecord := .bare "0xcd" rfl (by decide)

/-- What the rows are read as. -/
def found : Snapshot := ⟨"ethereum", 7, .ofRecords [two, one], ⟨0, 0⟩⟩

/-- The same pools, one of which has got an attribute since. -/
def fresh : Whitelist :=
  .ofRecords [⟨"0xab", [(addressField, .string "0xab"), ("fee", .bool true)], rfl, by decide, rfl⟩,
    two]

def publisher : Publisher := ⟨default, Publisher.defaultTimeout⟩

def world : World (DatabaseStore TableServer) RecordingTransport :=
  ⟨store, RecordingTransport.new, ⟨0, 0⟩⟩

/-- The cycle takes the next id and reports two pools, none of which came or went. -/
theorem fresh_quiet :
    (SyncRequest.sync ⟨"ethereum", fresh, false⟩ publisher world).outcome
        = .ok ⟨"ethereum", 8, 2, 0, 0, .differential⟩
      ∧ (SyncRequest.sync ⟨"ethereum", fresh, false⟩ publisher world).world.transport
        = RecordingTransport.new := by
  obtain ⟨-, hquiet⟩ := rows_read_alike "" .null older
  have hkeeps : store.Keeps older := ⟨rfl, by decide, rfl⟩
  have hload : (store.loadLatest "ethereum").result = .ok (some found) := rfl
  have hkeys : found.items.keys = fresh.keys := rfl
  refine hquiet.quiet world publisher "ethereum" fresh found hkeeps rfl hload fun k => ?_
  rw [← hkeys]
  exact hkeeps.mem_keys_of_loadLatest hload

end Upgraded

end DatabaseStore

end Database

end PoolFeed
