import PoolFeed.Proofs.Database.Operations
import PoolFeed.Proofs.Snapshot.Memory

/-!
# The store in memory and the store in a database

Both stores are asked the same things, each of them starting without snapshots, and the database
does what the statements say. They find the same snapshots, whatever was stored under whichever ids.
The ids that they hand out are the same as well, except that the database starts at the first floor
of a chain even where that is below zero, while the store in memory never hands out an id below one.

## Main statements

* `StoreCall.mirrors_ask` — a call keeps the stores alike, and tells when their replies are the same
* `StoreCall.replies_eq_iff` — which of the replies are the same
-/

namespace PoolFeed

open Database

/-! ## Calls and replies -/

/-- What is asked of a store of snapshots. -/
inductive StoreCall where
  | allocate (chain : String) (floor : Option Int)
  | append (snapshot : Snapshot)
  | loadLatest (chain : String)

/-- What a store replies, the times of snapshots apart. -/
inductive StoreReply where
  | id (id : Int)
  | stored
  | latest (found : Option (Int × Whitelist))

namespace StoreCall

variable {σ : Type} [SnapshotStore σ]

/-- What a store replies, and how it is left behind. -/
def ask (s : σ) : StoreCall → Except SyncError StoreReply × σ
  | .allocate chain floor =>
    let a := SnapshotStore.allocate chain floor s
    (a.result.map .id, a.store)
  | .append snapshot =>
    let a := SnapshotStore.append snapshot s
    (a.result.map fun _ => .stored, a.store)
  | .loadLatest chain =>
    let a := SnapshotStore.loadLatest chain s
    (a.result.map fun found => .latest (found.map fun x => (x.snapshotId, x.items)), a.store)

/-- What a store replies to calls that are made one after the other. -/
def replies (s : σ) : List StoreCall → List (Except SyncError StoreReply)
  | [] => []
  | call :: calls => (call.ask s).1 :: replies (call.ask s).2 calls

/-- The floors that the ids of a chain were asked for with, one for each id. -/
def floorsOf (chain : String) (calls : List StoreCall) : List Int :=
  calls.filterMap fun
    | .allocate chain' floor => if chain' = chain then some (floor.getD 0) else none
    | _ => none

/-- One of the floors is not below the number of floors in front of it. -/
def CaughtUp (floors : List Int) : Prop := ∃ (i : Nat) (f : Int), floors[i]? = some f ∧ i ≤ f

theorem floorsOf_append (chain : String) (calls calls' : List StoreCall) :
    floorsOf chain (calls ++ calls') = floorsOf chain calls ++ floorsOf chain calls' :=
  List.filterMap_append

theorem not_caughtUp_nil : ¬ CaughtUp [] := by
  rintro ⟨i, f, hf, -⟩
  cases hf

theorem caughtUp_concat {floors : List Int} {floor : Int} :
    CaughtUp (floors ++ [floor]) ↔ CaughtUp floors ∨ (floors.length : Int) ≤ floor := by
  constructor
  · rintro ⟨i, f, hf, hle⟩
    rcases Nat.lt_trichotomy i floors.length with hi | rfl | hi
    · rw [List.getElem?_append_left hi] at hf
      exact .inl ⟨i, f, hf, hle⟩
    · rw [List.getElem?_concat_length] at hf
      cases hf
      exact .inr hle
    · rw [List.getElem?_eq_none (by rw [List.length_append]; exact hi)] at hf
      cases hf
  · rintro (⟨i, f, hf, hle⟩ | hle)
    · have hi : i < floors.length := (List.getElem?_eq_some_iff.mp hf).1
      exact ⟨i, f, (List.getElem?_append_left hi).trans hf, hle⟩
    · exact ⟨floors.length, floor, List.getElem?_concat_length, hle⟩

/-! ## Counters -/

/--
What the counters of a chain have come to once its ids were asked for with some floors. The store in
memory is ahead of the database as long as the latter counts from a floor below zero.
-/
def Counted (floors : List Int) (inDatabase : Option Int) (inMemory : Int) : Prop :=
  match inDatabase with
  | none => floors = [] ∧ inMemory = 0
  | some last =>
    inMemory = max (floors.length : Int) last ∧ (floors.length ≤ last ↔ CaughtUp floors)

/-- One more id: the counters are the same from the moment on at which a floor has caught up. -/
theorem counted_nextId {floors : List Int} {t : Tables} {chain : String} {counter : Int}
    (h : Counted floors (t.counter? chain) counter) (floor : Int) :
    Counted (floors ++ [floor]) (some (t.nextId chain floor)) (max counter floor + 1)
      ∧ (t.nextId chain floor = max counter floor + 1 ↔ CaughtUp (floors ++ [floor])) := by
  have hlength : ((floors ++ [floor]).length : Int) = floors.length + 1 := by simp
  simp only [Counted, caughtUp_concat, hlength]
  cases hcounter : t.counter? chain with
  | none =>
    have hnext : t.nextId chain floor = floor + 1 := by rw [Tables.nextId, hcounter]
    rw [hcounter] at h
    obtain ⟨rfl, rfl⟩ := h
    have hnil : CaughtUp [] ↔ False := iff_of_false not_caughtUp_nil id
    simp only [hnext, hnil, List.length_nil, Nat.cast_zero, false_or]
    omega
  | some last =>
    have hnext : t.nextId chain floor = max last floor + 1 := by rw [Tables.nextId, hcounter]
    rw [hcounter] at h
    obtain ⟨rfl, hcaught⟩ := h
    simp only [hnext, ← hcaught]
    omega

end StoreCall

/-! ## What a store in memory holds -/

namespace MemoryStore

variable {m : MemoryStore} {x : Snapshot} {chain : String} {id : Int}

/-- What is stored of a snapshot, the empty whitelist if nothing is. -/
def itemsOf (m : MemoryStore) (chain : String) (id : Int) : Whitelist :=
  (((m.editionsOf chain).find? id).map (·.items)).getD .empty

/-- Records are added to what is stored where their keys are free. -/
theorem exists_editionsOf_store (m : MemoryStore) (x : Snapshot) :
    ∃ e : Edition, (m.store x).editionsOf x.chain = (m.editionsOf x.chain).insert x.snapshotId e
      ∧ e.items = x.items.records.foldl Whitelist.insertIfNew (m.itemsOf x.chain x.snapshotId) := by
  cases hold : (m.editionsOf x.chain).find? x.snapshotId with
  | some old =>
    refine ⟨_, editionsOf_store_of_find? hold, ?_⟩
    rw [itemsOf, hold]
    rfl
  | none =>
    have hstore := editionsOf_store (SortedMap.find?_eq_none_iff.mp hold) x.chain
    rw [if_pos rfl] at hstore
    refine ⟨_, hstore, Whitelist.ext_find? fun k => ?_⟩
    rw [Whitelist.find?_foldl_insertIfNew, Whitelist.find?_records, itemsOf, hold]
    rfl

theorem itemsOf_store (m : MemoryStore) (x : Snapshot) :
    (m.store x).itemsOf x.chain x.snapshotId
      = x.items.records.foldl Whitelist.insertIfNew (m.itemsOf x.chain x.snapshotId) := by
  obtain ⟨e, hstore, hitems⟩ := m.exists_editionsOf_store x
  rw [itemsOf, hstore, SortedMap.find?_insert, if_pos rfl, ← hitems]
  rfl

theorem itemsOf_store_of_ne (hne : ¬ (x.chain = chain ∧ x.snapshotId = id)) :
    (m.store x).itemsOf chain id = m.itemsOf chain id := by
  by_cases hchain : x.chain = chain
  · subst hchain
    obtain ⟨e, hstore, -⟩ := m.exists_editionsOf_store x
    rw [itemsOf, hstore, SortedMap.find?_insert, if_neg fun hid => hne ⟨rfl, hid.symm⟩]
    rfl
  · rw [itemsOf, editionsOf_store_of_ne (Ne.symm hchain)]
    rfl

theorem mem_keys_editionsOf_store : id ∈ ((m.store x).editionsOf chain).keys
    ↔ (x.chain = chain ∧ x.snapshotId = id) ∨ id ∈ (m.editionsOf chain).keys := by
  by_cases hchain : x.chain = chain
  · subst hchain
    obtain ⟨e, hstore, -⟩ := m.exists_editionsOf_store x
    rw [hstore, SortedMap.mem_keys_insert, eq_comm]
    exact or_congr_left ⟨fun hid => ⟨rfl, hid⟩, And.right⟩
  · rw [editionsOf_store_of_ne (Ne.symm hchain)]
    exact ⟨.inr, fun h => h.resolve_left fun heq => hchain heq.1⟩

/-- The latest snapshot is stored, and no snapshot of its chain has a larger id. -/
theorem latest?_eq_some {y : Snapshot} (h : m.latest? chain = some y) :
    y.snapshotId ∈ (m.editionsOf chain).keys ∧ y.items = m.itemsOf chain y.snapshotId
      ∧ ∀ id ∈ (m.editionsOf chain).keys, id ≤ y.snapshotId := by
  have hlatest : m.latestId? chain = some y.snapshotId := by rw [latestId?, h]; rfl
  obtain ⟨⟨id, e⟩, hlast, rfl⟩ := Option.map_eq_some_iff.mp h
  have hmem : (id, e) ∈ (m.editionsOf chain).entries := List.mem_of_getLast? hlast
  refine ⟨List.mem_map_of_mem hmem, ?_, fun id' hid' => ?_⟩
  · have hfind : (m.editionsOf chain).find? id = some e :=
      (Entries.find?_eq_some_iff (m.editionsOf chain).sorted).mpr hmem
    rw [itemsOf, hfind]
    rfl
  · obtain ⟨last, hlast', hle⟩ := le_latestId hid'
    rw [hlatest] at hlast'
    cases hlast'
    exact hle

theorem keys_of_latest?_eq_none (h : m.latest? chain = none) : (m.editionsOf chain).keys = [] :=
  SortedMap.keys_eq_nil_of_last? (Option.map_eq_none_iff.mp h)

end MemoryStore

/-! ## Stores alike -/

/-- Tables and a store in memory hold the same snapshots. -/
structure SameSnapshots (t : Tables) (m : MemoryStore) : Prop where
  heads : ∀ {chain id}, (t.head? chain id).isSome ↔ id ∈ (m.editionsOf chain).keys
  lists : ∀ {chain id}, t.Lists chain id (m.itemsOf chain id)

namespace SameSnapshots

variable {t t' : Tables} {m : MemoryStore} {chain : String} {x : Snapshot}

theorem empty : SameSnapshots .empty .empty where
  heads := ⟨nofun, nofun⟩
  lists := ⟨[], .refl _, rfl⟩

/-- **Storing a snapshot keeps the snapshots alike.** -/
theorem store (h : SameSnapshots t m) (x : Snapshot) : SameSnapshots (t.storing x) (m.store x) where
  heads := by
    intro chain id
    rw [MemoryStore.mem_keys_editionsOf_store, ← h.heads, Tables.head?_storing, Option.isSome_or,
      Bool.or_eq_true]
    by_cases heq : x.chain = chain ∧ x.snapshotId = id
    · simp [heq]
    · simp [heq]
  lists := by
    intro chain id
    by_cases heq : x.chain = chain ∧ x.snapshotId = id
    · obtain ⟨rfl, rfl⟩ := heq
      rw [MemoryStore.itemsOf_store]
      exact Tables.lists_storing h.lists
    · rw [MemoryStore.itemsOf_store_of_ne heq, Tables.Lists, Tables.rowsOf_storing_of_ne heq]
      exact h.lists

theorem mem_ids {id : Int} : id ∈ (t.heads.filter (·.chain = chain)).map (·.snapshotId)
    ↔ (t.head? chain id).isSome := by
  rw [Tables.head?, List.find?_isSome, List.mem_map]
  simp only [List.mem_filter, Bool.and_eq_true, decide_eq_true_eq, and_assoc]

/-- The latest head is that of the latest snapshot. -/
theorem latestHead?_eq_some (h : SameSnapshots t m) {y : Snapshot} (hy : m.latest? chain = some y) :
    ∃ head, t.latestHead? chain = some head ∧ head.snapshotId = y.snapshotId := by
  obtain ⟨hmem, -, hle⟩ := MemoryStore.latest?_eq_some hy
  obtain ⟨head, hhead⟩ := Option.isSome_iff_exists.mp (h.heads.mpr hmem)
  have hmax : ((t.heads.filter (·.chain = chain)).map (·.snapshotId)).max? = some y.snapshotId :=
    List.max?_eq_some_iff.mpr ⟨mem_ids.mpr (h.heads.mpr hmem),
      fun id hid => hle id (h.heads.mp (mem_ids.mp hid))⟩
  refine ⟨head, ?_, ?_⟩
  · rw [Tables.latestHead?, hmax]
    exact hhead
  · have hfound := List.find?_some hhead
    simp only [Bool.and_eq_true, decide_eq_true_eq] at hfound
    exact hfound.2

/-- Where no snapshot is stored there is neither a head nor a pool. -/
theorem latestHead?_eq_none (h : SameSnapshots t m) (hnone : m.latest? chain = none) :
    t.latestHead? chain = none ∧ t.poolsOf chain = [] := by
  have hkeys := MemoryStore.keys_of_latest?_eq_none hnone
  have hids : (t.heads.filter (·.chain = chain)).map (·.snapshotId) = [] :=
    List.eq_nil_iff_forall_not_mem.mpr fun id hid => by
      have hmem := h.heads.mp (mem_ids.mp hid)
      rw [hkeys] at hmem
      cases hmem
  refine ⟨by rw [Tables.latestHead?, hids]; rfl, List.eq_nil_iff_forall_not_mem.mpr fun r hr => ?_⟩
  have hempty : m.itemsOf chain r.snapshotId = .empty := by
    have hfind : (m.editionsOf chain).find? r.snapshotId = none :=
      SortedMap.find?_eq_none_iff.mpr (by rw [hkeys]; exact List.not_mem_nil)
    rw [MemoryStore.itemsOf, hfind]
    rfl
  have hlists : t.Lists chain r.snapshotId (m.itemsOf chain r.snapshotId) := h.lists
  -- Pools without a head would be those of a snapshot that is not stored.
  rw [hempty] at hlists
  obtain ⟨rs, hperm, hrows⟩ := hlists
  have hrs : rs = [] := hperm.eq_nil
  rw [hrs, List.map_nil, List.map_eq_nil_iff] at hrows
  have hmem : r ∈ t.rowsOf chain r.snapshotId := by
    rw [Tables.rowsOf, List.mem_filter]
    exact ⟨hr, decide_eq_true rfl⟩
  rw [hrows] at hmem
  cases hmem

end SameSnapshots

namespace StoreCall

/-- The stores once some calls were made to both of them. -/
structure Mirrors (calls : List StoreCall) (t : Tables) (d : DatabaseStore TableServer)
    (m : MemoryStore) : Prop where
  keeps : d.Keeps t
  snapshots : SameSnapshots t m
  counters : ∀ chain, Counted (floorsOf chain calls) (t.counter? chain) (m.counter chain)
  loads : m.loadsFail = false
  appends : m.appendsFail = false

/-- Stores to which no call was made yet. -/
theorem mirrors_new {limit : Duration} (h : 0 < limit.nanoseconds) :
    Mirrors [] .empty ⟨.new .new, limit⟩ .empty :=
  ⟨⟨rfl, h, rfl⟩, .empty, fun _ => ⟨rfl, rfl⟩, rfl, rfl⟩

/-- The replies to the last of some calls are the same unless it asks for an id, and no floor of its
chain has caught up. -/
def Agrees (calls : List StoreCall) (call : StoreCall) : Prop :=
  ∀ chain floor, call = .allocate chain floor → CaughtUp (floorsOf chain (calls ++ [call]))

variable {calls : List StoreCall} {t : Tables} {d : DatabaseStore TableServer} {m : MemoryStore}

theorem mirrors_allocate (h : Mirrors calls t d m) (chain : String) (floor : Option Int) :
    let call : StoreCall := .allocate chain floor
    (∃ t', Mirrors (calls ++ [call]) t' (call.ask d).2 (call.ask m).2)
      ∧ ∃ v v', (call.ask d).1 = .ok v ∧ (call.ask m).1 = .ok v'
        ∧ (v = v' ↔ Agrees calls call) := by
  intro call
  obtain ⟨hresult, hkeeps⟩ := h.keeps.allocate chain floor
  have hfloors : floorsOf chain (calls ++ [call]) = floorsOf chain calls ++ [floor.getD 0] := by
    rw [floorsOf_append]
    simp [call, floorsOf]
  obtain ⟨hcounted, hsame⟩ := counted_nextId (h.counters chain) (floor.getD 0)
  refine ⟨⟨_, hkeeps, ⟨h.snapshots.heads, h.snapshots.lists⟩, fun other => ?_, h.loads, h.appends⟩,
    _, _, congrArg (Except.map StoreReply.id) hresult, rfl, ?_⟩
  · have hmemory : MemoryStore.counter (call.ask m).2 other
        = if other = chain then max (m.counter chain) (floor.getD 0) + 1 else m.counter other := by
      show ((m.counters.insert chain _).find? other).getD 0 = _
      rw [SortedMap.find?_insert]
      split <;> rfl
    rw [Tables.counter?_setCounter, hmemory]
    by_cases hother : other = chain
    · subst hother
      rw [if_pos rfl, if_pos rfl, hfloors]
      exact hcounted
    · have hothers : floorsOf other (calls ++ [call]) = floorsOf other calls := by
        rw [floorsOf_append]
        simp [call, floorsOf, Ne.symm hother]
      rw [if_neg hother, if_neg hother, hothers]
      exact h.counters other
  · rw [StoreReply.id.injEq, Agrees]
    constructor
    · intro heq other floor' hcall
      obtain ⟨rfl, -⟩ := StoreCall.allocate.inj hcall
      rw [hfloors]
      exact hsame.mp heq
    · intro hagrees
      exact hsame.mpr (hfloors ▸ hagrees chain floor rfl)

theorem mirrors_append (h : Mirrors calls t d m) (x : Snapshot) :
    let call : StoreCall := .append x
    Mirrors (calls ++ [call]) (t.storing x) (call.ask d).2 (call.ask m).2
      ∧ (call.ask d).1 = .ok .stored ∧ (call.ask m).1 = .ok .stored := by
  intro call
  obtain ⟨hresult, hkeeps⟩ := h.keeps.append x
  have hanswer := MemoryStore.append_of_works h.appends x
  have hmemory : call.ask m = (.ok .stored, m.store x) := by
    simp only [call, ask, hanswer]
    rfl
  refine ⟨⟨hkeeps, ?_, fun chain => ?_, ?_, ?_⟩, congrArg (Except.map _) hresult, by rw [hmemory]⟩
  · rw [hmemory]
    exact h.snapshots.store x
  · rw [floorsOf_append, Tables.counter?, Tables.counters_storing, hmemory]
    show Counted (floorsOf chain calls ++ []) _ _
    rw [List.append_nil]
    exact h.counters chain
  · rw [hmemory]
    exact h.loads
  · rw [hmemory]
    exact h.appends

theorem mirrors_loadLatest (h : Mirrors calls t d m) (chain : String) :
    let call : StoreCall := .loadLatest chain
    Mirrors (calls ++ [call]) t (call.ask d).2 (call.ask m).2
      ∧ ∃ v, (call.ask d).1 = .ok v ∧ (call.ask m).1 = .ok v := by
  intro call
  have hanswer := MemoryStore.loadLatest_of_works h.loads chain
  have hmemory : call.ask m
      = (.ok (.latest ((m.latest? chain).map fun x => (x.snapshotId, x.items))), m) := by
    simp only [call, ask, hanswer]
    rfl
  have hfloors : ∀ other, floorsOf other (calls ++ [call]) = floorsOf other calls := by
    intro other
    rw [floorsOf_append]
    exact List.append_nil _
  have hdatabase : (call.ask d).2.Keeps t
      ∧ (call.ask d).1
        = .ok (.latest ((m.latest? chain).map fun x => (x.snapshotId, x.items))) := by
    cases hlatest : m.latest? chain with
    | none =>
      obtain ⟨hhead, hpools⟩ := h.snapshots.latestHead?_eq_none hlatest
      obtain ⟨hresult, hkeeps⟩ := h.keeps.loadLatest_of_none hhead hpools
      exact ⟨hkeeps, congrArg (Except.map _) hresult⟩
    | some y =>
      obtain ⟨head, hhead, hid⟩ := h.snapshots.latestHead?_eq_some hlatest
      have hitems := (MemoryStore.latest?_eq_some hlatest).2.1
      have hlists : t.Lists chain head.snapshotId y.items := by
        rw [hid, hitems]
        exact h.snapshots.lists
      obtain ⟨hresult, hkeeps⟩ := h.keeps.loadLatest_of_head hhead hlists
      refine ⟨hkeeps, (congrArg (Except.map _) hresult).trans ?_⟩
      show Except.ok (StoreReply.latest (some (head.snapshotId, y.items))) = _
      rw [hid]
      rfl
  rw [hmemory]
  exact ⟨⟨hdatabase.1, h.snapshots, fun other => (hfloors other).symm ▸ h.counters other, h.loads,
    h.appends⟩, _, hdatabase.2, rfl⟩

/-- **A call keeps the stores alike, and both reply. Only ids can differ.** -/
theorem mirrors_ask (h : Mirrors calls t d m) (call : StoreCall) :
    (∃ t', Mirrors (calls ++ [call]) t' (call.ask d).2 (call.ask m).2)
      ∧ ∃ v v', (call.ask d).1 = .ok v ∧ (call.ask m).1 = .ok v'
        ∧ (v = v' ↔ Agrees calls call) := by
  cases call with
  | allocate chain floor => exact mirrors_allocate h chain floor
  | append x =>
    obtain ⟨hnext, hd, hm⟩ := mirrors_append h x
    exact ⟨⟨_, hnext⟩, _, _, hd, hm, iff_of_true rfl nofun⟩
  | loadLatest chain =>
    obtain ⟨hnext, v, hd, hm⟩ := mirrors_loadLatest h chain
    exact ⟨⟨_, hnext⟩, _, _, hd, hm, iff_of_true rfl nofun⟩

/-- Some calls, made behind others. -/
theorem replies_of_mirrors {past : List StoreCall} (h : Mirrors past t d m) {call : StoreCall}
    {i : Nat} (hcall : calls[i]? = some call) :
    ∃ v v', (replies d calls)[i]? = some (.ok v) ∧ (replies m calls)[i]? = some (.ok v')
      ∧ (v = v' ↔ Agrees (past ++ calls.take i) call) := by
  induction calls generalizing past t d m i with
  | nil => cases hcall
  | cons first calls ih =>
    obtain ⟨⟨t', hnext⟩, v, v', hd, hm, hagrees⟩ := mirrors_ask h first
    cases i with
    | zero =>
      cases hcall
      rw [List.take_zero, List.append_nil]
      exact ⟨v, v', congrArg some hd, congrArg some hm, hagrees⟩
    | succ i =>
      have hrest := ih hnext hcall
      rw [List.append_assoc] at hrest
      exact hrest

/-- A store on a server whose tables have no rows. -/
def database (limit : Duration) : DatabaseStore TableServer := ⟨.new .new, limit⟩

/--
**Both stores reply to every call, and the replies are the same but for some ids.** The ids that a
call is handed out are the same exactly if its own floor, or one of the floors that the ids of its
chain were asked for with before, is not below the number of ids that the chain had by then.
-/
theorem replies_eq_iff {limit : Duration} (hlimit : 0 < limit.nanoseconds)
    (calls : List StoreCall) {i : Nat} {call : StoreCall} (hcall : calls[i]? = some call) :
    ∃ v v', (replies (database limit) calls)[i]? = some (.ok v)
      ∧ (replies MemoryStore.empty calls)[i]? = some (.ok v')
      ∧ (v = v' ↔ ∀ chain floor, call = .allocate chain floor →
        CaughtUp (floorsOf chain (calls.take i ++ [call]))) :=
  replies_of_mirrors (mirrors_new hlimit) hcall

/-! ### A first floor below zero -/

namespace BelowZero

def history : List StoreCall :=
  [.allocate "ethereum" (some (-5)), .allocate "ethereum" (some 7)]

/-- The store in memory counts from zero, the database from the floor. -/
theorem first_ids_differ :
    (replies (database (.ofSeconds 30)) history)[0]? = some (.ok (.id (-4)))
      ∧ (replies MemoryStore.empty history)[0]? = some (.ok (.id 1)) :=
  ⟨rfl, rfl⟩

/-- A floor that is above all ids makes up for it. -/
theorem second_ids_agree : 0 < (Duration.ofSeconds 30).nanoseconds
    ∧ ∃ v, (replies (database (.ofSeconds 30)) history)[1]? = some (.ok v)
      ∧ (replies MemoryStore.empty history)[1]? = some (.ok v) := by
  have hlimit : 0 < (Duration.ofSeconds 30).nanoseconds := by decide
  obtain ⟨v, v', hd, hm, hagrees⟩ := replies_eq_iff hlimit history (i := 1) rfl
  have hsame : v = v' := hagrees.mpr fun chain floor hcall => by
    obtain ⟨rfl, -⟩ := StoreCall.allocate.inj hcall
    exact ⟨1, 7, rfl, by decide⟩
  exact ⟨hlimit, v, hd, hsame ▸ hm⟩

end BelowZero

end StoreCall

end PoolFeed
