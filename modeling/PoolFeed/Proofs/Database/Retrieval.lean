import PoolFeed.Proofs.Database.Acknowledgment
import PoolFeed.Proofs.Database.Placeholders
import PoolFeed.Proofs.Roundtrip.Messages
import PoolFeed.Proofs.Whitelist.Stored

/-!
# What is stored can be read back

A snapshot goes out in bulk inserts, which are followed by its head. Their rows are the rows of its
records, one after the other, with nothing lost and nothing doubled where one insert ends and the
next begins. The rows of a snapshot may be read back in any order.

## Main statements

* `DatabaseStore.readPools_perm` — rows in another order are records in another order
* `DatabaseStore.loadLatest_of_rows` — rows of the records of a whitelist are read as the whitelist
* `DatabaseStore.lossless` — what storing a snapshot says, and how it is read back
-/

namespace PoolFeed.Database

variable {β γ : Type}

theorem chunks_map (f : β → γ) (size : Nat) (xs : List β) :
    chunks size (xs.map f) = (chunks size xs).map (List.map f) := by
  fun_induction chunks size xs with
  | case1 xs h =>
    rw [chunks, dif_pos]
    · rfl
    · exact h.imp_left fun h => by rw [h]; rfl
  | case2 xs h ih =>
    rw [chunks, dif_neg, List.map_cons, List.map_take, ← ih, List.map_drop]
    exact fun hmap => h (hmap.imp_left List.map_eq_nil_iff.mp)

namespace DatabaseStore

variable {limit : Duration}

/-- The row of a record in the reply to a query for pools. -/
def pairRow (r : PoolRecord) : Row := [.text r.key, .json r.attributes]

/-! ## Reading -/

theorem readPool_pairRow (limit : Duration) (r : PoolRecord) :
    readPool limit (pairRow r) = .ok r := by
  have hcolumns : (do
      let key ← Row.column (pairRow r) 0 Cell.text?
      let attributes ← Row.column (pairRow r) 1 Cell.json?
      return (key, attributes) : Except Fault (String × Json)) = .ok (r.key, r.attributes) := rfl
  simp only [readPool, hcolumns, PoolRecord.ofStored_attributes]

theorem readPools_pairRows (limit : Duration) (rs : List PoolRecord) :
    readPools limit (rs.map pairRow) = .ok rs := by
  induction rs with
  | nil => rfl
  | cons r rs ih =>
    rw [List.map_cons, readPools]
    simp only [readPool_pairRow, ih]
    rfl

theorem readPools_cons_eq_ok {row : Row} {rows : List Row} {rs : List PoolRecord} :
    readPools limit (row :: rows) = .ok rs
      ↔ ∃ r rs', readPool limit row = .ok r ∧ readPools limit rows = .ok rs' ∧ rs = r :: rs' := by
  rw [readPools]
  constructor
  · intro h
    cases hr : readPool limit row with
    | error e =>
      rw [hr] at h
      cases h
    | ok r =>
      cases hrs : readPools limit rows with
      | error e =>
        rw [hr, hrs] at h
        cases h
      | ok rs' =>
        rw [hr, hrs] at h
        cases h
        exact ⟨r, rs', rfl, rfl, rfl⟩
  · rintro ⟨r, rs', hr, hrs, rfl⟩
    rw [hr, hrs]
    rfl

/-- **Rows in another order are records in another order.** -/
theorem readPools_perm {rows rows' : List Row} {rs : List PoolRecord} (hperm : rows.Perm rows')
    (h : readPools limit rows = .ok rs) :
    ∃ rs', readPools limit rows' = .ok rs' ∧ rs'.Perm rs := by
  induction hperm generalizing rs with
  | nil => exact ⟨rs, h, .refl _⟩
  | cons row _ ih =>
    obtain ⟨r, rest, hr, hrest, rfl⟩ := readPools_cons_eq_ok.mp h
    obtain ⟨rest', hrest', hperm'⟩ := ih hrest
    exact ⟨r :: rest', readPools_cons_eq_ok.mpr ⟨r, rest', hr, hrest', rfl⟩, hperm'.cons r⟩
  | swap row row' rows =>
    obtain ⟨r', rest, hr', hrest, rfl⟩ := readPools_cons_eq_ok.mp h
    obtain ⟨r, rest, hr, hrows, rfl⟩ := readPools_cons_eq_ok.mp hrest
    exact ⟨r :: r' :: rest, readPools_cons_eq_ok.mpr ⟨r, r' :: rest, hr,
      readPools_cons_eq_ok.mpr ⟨r', rest, hr', hrows, rfl⟩, rfl⟩, .swap _ _ _⟩
  | trans _ _ ih ih' =>
    obtain ⟨rs', h', hperm'⟩ := ih h
    obtain ⟨rs'', h'', hperm''⟩ := ih' h'
    exact ⟨rs'', h'', hperm''.trans hperm'⟩

variable {α : Type} [Server α] {s : DatabaseStore α} {x : Snapshot}

/-- **The rows of the records of a whitelist, in any order, are read as the whitelist.** -/
theorem loadLatest_of_rows {chain : String} {id : Int} {time : Timestamp} {rows : List Row}
    {w : Whitelist} (hhead : (findHead s.timeout chain s.connection).result = .ok (some (id, time)))
    (hpools : ((findHead s.timeout chain s.connection).connection.execute s.timeout .zero
      (.selectPools chain id)).result = .ok rows)
    (hrows : (w.records.map pairRow).Perm rows) :
    (s.loadLatest chain).result = .ok (some ⟨chain, id, w, time⟩)
      ∧ (s.loadLatest chain).store = { s with
        connection := ((findHead s.timeout chain s.connection).connection.execute s.timeout .zero
          (.selectPools chain id)).connection } := by
  obtain ⟨rs, hread, hperm⟩ := readPools_perm hrows (readPools_pairRows s.timeout w.records)
  simp only [loadLatest, hhead, hpools, hread, Whitelist.ofRecords_of_perm hperm]
  exact ⟨trivial, trivial⟩

/-! ## Writing -/

/-- The bulk insert of some records of a snapshot. -/
def insertOf (x : Snapshot) (rs : List PoolRecord) : Statement := .insertPools (rs.map (poolRow x))

/-- The records of a snapshot, insert by insert. -/
def batches (x : Snapshot) : List (List PoolRecord) := chunks rowsPerInsert x.items.records

theorem writes_eq (x : Snapshot) : writes x
    = (batches x).map (insertOf x)
      ++ [.insertHead x.chain x.snapshotId x.items.records.length x.publishedAt] := by
  rw [writes, chunks_map, List.map_map, batches, Whitelist.size, SortedMap.size, Whitelist.records,
    SortedMap.values, List.length_map]
  rfl

/-- An operation that is acknowledged says all that is to be written, and succeeds. -/
theorem append_of_acknowledged (hup : s.connection.link = .up)
    (h : Acknowledged s.timeout .zero (transaction (writes x)) s.connection.server) :
    (s.append x).result = .ok ()
      ∧ (s.append x).store = ⟨⟨behind (transaction (writes x)) s.connection.server, .up,
        s.connection.sent ++ transaction (writes x)⟩, s.timeout⟩ := by
  obtain ⟨hok, hconn⟩ := Connection.transact_of_acknowledged hup h
  simp only [append, hok, hconn]
  exact ⟨trivial, trivial⟩

/-! ## Both -/

/-- Nothing of a snapshot is lost between writing it and reading it. -/
structure Lossless (x : Snapshot) : Prop where
  /-- The inserts hold the records of the snapshot. -/
  records : (batches x).flatten = x.items.records
  /-- Every record is there once. -/
  once : ((batches x).flatten.map (·.key)).Nodup
  chunked : ∀ rs ∈ batches x, 0 < rs.length ∧ rs.length ≤ 13000
  /-- The placeholders of an insert count up from one, without a gap. -/
  numbered : ∀ rs ∈ batches x, (insertOf x rs).placeholders = List.range' 1 (5 * rs.length)
  /-- There are five of them in each row. -/
  rowwise : ∀ rs ∈ batches x, (insertOf x rs).placeholderRows
    = (List.range rs.length).map fun i => List.range' (5 * i + 1) 5
  valued : ∀ rs ∈ batches x,
    (insertOf x rs).parameters.length = 5 * rs.length ∧ 5 * rs.length ≤ 65535
  /-- The values that stand in for the placeholders of a row are those of its record. -/
  bound : ∀ rs ∈ batches x, (insertOf x rs).valueRows
    = rs.map fun r => [some (.text x.chain), some (.text r.key), some (.json r.attributes),
      some (.integer x.snapshotId), some (.time x.publishedAt.toMicroseconds)]
  /-- The head follows all inserts, with the number of records. -/
  said : transaction (writes x) = .startTransaction :: (batches x).map (insertOf x)
    ++ [.insertHead x.chain x.snapshotId x.items.records.length x.publishedAt, .commit]
  /-- All this is said if nothing goes wrong. -/
  sent : ∀ {α : Type} [Server α] (s : DatabaseStore α), s.connection.link = .up →
    Acknowledged s.timeout .zero (transaction (writes x)) s.connection.server →
    (s.append x).result = .ok ()
      ∧ (s.append x).store.connection.sent = s.connection.sent ++ transaction (writes x)
  /--
  Rows with the keys and attributes of these records, in any order, are read as the whitelist that
  was stored.
  -/
  read : ∀ {α : Type} [Server α] (s : DatabaseStore α) (rows : List Row) (time : Timestamp),
    (findHead s.timeout x.chain s.connection).result = .ok (some (x.snapshotId, time)) →
    ((findHead s.timeout x.chain s.connection).connection.execute s.timeout .zero
      (.selectPools x.chain x.snapshotId)).result = .ok rows →
    ((batches x).flatten.map fun r => [.text r.key, .json r.attributes]).Perm rows →
    (s.loadLatest x.chain).result = .ok (some ⟨x.chain, x.snapshotId, x.items, time⟩)

/-- **What storing a snapshot says, and how it is read back.** -/
theorem lossless (x : Snapshot) : Lossless x := by
  have hrecords : (batches x).flatten = x.items.records := flatten_chunks (by decide) _
  have hchunked : ∀ rs ∈ batches x, 0 < rs.length ∧ rs.length ≤ 13000 := fun _ hrs =>
    length_of_mem_chunks hrs
  refine
    { records := hrecords
      once := hrecords ▸ x.items.nodup_map_key_records
      chunked := hchunked
      numbered := ?numbered
      rowwise := ?rowwise
      valued := ?valued
      bound := ?bound
      said := ?said
      sent := ?sent
      read := ?read }
  case numbered =>
    intro rs _
    rw [insertOf, Statement.placeholders_insertPools, List.length_map]
    rfl
  case rowwise =>
    intro rs _
    rw [insertOf, Statement.placeholderRows_insertPools, List.length_map]
    refine List.map_congr_left fun i _ => ?_
    rw [Statement.rowNumbers, Nat.mul_comm]
    rfl
  case valued =>
    intro rs hrs
    have hle := (hchunked rs hrs).2
    rw [insertOf, Statement.parameters_insertPools, List.length_map]
    exact ⟨rfl, by omega⟩
  case bound =>
    intro rs _
    rw [insertOf, Statement.valueRows_insertPools, List.map_map]
    rfl
  case said =>
    rw [transaction, writes_eq, List.cons_append, List.cons_append, List.append_assoc]
    rfl
  case sent =>
    intro α _ s hup hack
    obtain ⟨hok, hstore⟩ := append_of_acknowledged hup hack
    exact ⟨hok, by rw [hstore]⟩
  case read =>
    intro α _ s rows time hhead hpools hperm
    rw [hrecords] at hperm
    exact (loadLatest_of_rows hhead hpools hperm).1

/-! ### Two pools, read in the other order -/

namespace Swapped

def one : PoolRecord := .bare "0x03" rfl (by decide)

def two : PoolRecord := .bare "0x04" rfl (by decide)

def snapshot : Snapshot := ⟨"ethereum", 3, (Whitelist.empty.insert one).insert two, ⟨0, 0⟩⟩

/-- A store whose server has a head ready, and the two pools the wrong way round. -/
def store : DatabaseStore Script :=
  ⟨.new ⟨[.rows [[.integer 3, .time ⟨0, 0⟩]], .rows [pairRow two, pairRow one]]⟩, .ofSeconds 30⟩

/-- The pools are read as the whitelist that they were stored as. -/
theorem loadLatest_swapped : (store.loadLatest "ethereum").result = .ok (some snapshot) :=
  (lossless snapshot).read store [pairRow two, pairRow one] ⟨0, 0⟩ rfl rfl
    (by rw [(lossless snapshot).records]; exact .swap _ _ _)

end Swapped

end DatabaseStore

end PoolFeed.Database
