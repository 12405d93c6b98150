import PoolFeed.Proofs.Database.Agreement

/-!
# The first write wins

A store in memory is used in any way: snapshots are appended to it under any ids, ids are asked for,
snapshots are loaded, and it is told to fail or to work again. An edition is then made up of the
snapshots that were appended under its id, each of which adds the pools that none before it had. So
nothing that was stored is ever changed or taken away, and the order of appends matters under one
and the same id alone.

## Main statements

* `MemoryStore.edition?_store` — what storing a snapshot does to an edition
* `MemoryStore.edition?_after` — an edition is made up of what was appended under its id
* `MemoryStore.store_comm` — snapshots stored under different ids may change places
* `MemoryStore.first_write_wins` — what a store holds after any use
-/

namespace PoolFeed

/-! ## Editions -/

/-- The snapshots of an id. -/
def Snapshot.under (chain : String) (id : Int) (xs : List Snapshot) : List Snapshot :=
  xs.filter fun x => x.chain = chain ∧ x.snapshotId = id

theorem Snapshot.mem_under {chain : String} {id : Int} {xs : List Snapshot} {x : Snapshot} :
    x ∈ under chain id xs ↔ x ∈ xs ∧ x.chain = chain ∧ x.snapshotId = id := by
  rw [under, List.mem_filter, decide_eq_true_iff]

theorem Snapshot.under_append (chain : String) (id : Int) (xs ys : List Snapshot) :
    under chain id (xs ++ ys) = under chain id xs ++ under chain id ys :=
  List.filter_append xs ys

theorem Snapshot.under_singleton (chain : String) (id : Int) (x : Snapshot) :
    under chain id [x] = if x.chain = chain ∧ x.snapshotId = id then [x] else [] := by
  simp [under, List.filter_cons]

namespace Edition

/-- An edition, or none, and a snapshot stored under its id. -/
def joined (e : Option Edition) (x : Snapshot) : Edition :=
  match e with
  | some old => MemoryStore.Edition.merge old ⟨x.items, x.publishedAt⟩
  | none => ⟨x.items, x.publishedAt⟩

/-- An edition, or none, and several snapshots stored under its id. -/
def compiled (e : Option Edition) (xs : List Snapshot) : Option Edition :=
  xs.foldl (fun e x => some (joined e x)) e

theorem compiled_append (e : Option Edition) (xs ys : List Snapshot) :
    compiled e (xs ++ ys) = compiled (compiled e xs) ys :=
  List.foldl_append

theorem find?_joined (e : Option Edition) (x : Snapshot) (key : String) :
    (joined e x).items.find? key = (e.bind (·.items.find? key)).or (x.items.find? key) := by
  cases e with
  | none => rfl
  | some old =>
    show (x.items.records.foldl Whitelist.insertIfNew old.items).find? key = _
    rw [Whitelist.find?_foldl_insertIfNew, Whitelist.find?_records]
    rfl

/-- **Of several records of a key, the one that was stored first is found.** -/
theorem find?_compiled (e : Option Edition) (xs : List Snapshot) (key : String) :
    (compiled e xs).bind (·.items.find? key)
      = (e.bind (·.items.find? key)).or (xs.findSome? (·.items.find? key)) := by
  induction xs generalizing e with
  | nil => exact Option.or_none.symm
  | cons x xs ih =>
    have hcons : compiled e (x :: xs) = compiled (some (joined e x)) xs := rfl
    rw [hcons, ih, Option.bind_some, find?_joined, Option.or_assoc, List.findSome?_cons]
    cases x.items.find? key <;> rfl

/-- **Of several times, the first is kept.** -/
theorem publishedAt_compiled (e : Option Edition) (xs : List Snapshot) :
    (compiled e xs).map (·.publishedAt)
      = (e.map (·.publishedAt)).or (xs.head?.map (·.publishedAt)) := by
  induction xs generalizing e with
  | nil => exact Option.or_none.symm
  | cons x xs ih =>
    have hcons : compiled e (x :: xs) = compiled (some (joined e x)) xs := rfl
    rw [hcons, ih]
    cases e <;> rfl

theorem isSome_compiled (e : Option Edition) (xs : List Snapshot) :
    (compiled e xs).isSome = (e.isSome || xs.head?.isSome) := by
  have htimes := congrArg Option.isSome (publishedAt_compiled e xs)
  rw [Option.isSome_or, Option.isSome_map, Option.isSome_map, Option.isSome_map] at htimes
  exact htimes

/-- Storing again what is there already changes nothing. -/
theorem joined_eq_self {e : Edition} {x : Snapshot}
    (h : ∀ key, (x.items.find? key).isSome → (e.items.find? key).isSome) :
    joined (some e) x = e := by
  have hitems : (joined (some e) x).items = e.items := by
    refine Whitelist.ext_find? fun key => ?_
    rw [find?_joined, Option.bind_some]
    cases hnew : x.items.find? key with
    | none => exact Option.or_none
    | some r => exact Option.or_of_isSome (h key (by rw [hnew]; rfl))
  exact congrArg (fun items => (⟨items, e.publishedAt⟩ : Edition)) hitems

end Edition

namespace MemoryStore

open PoolFeed.Edition (joined compiled)
open Snapshot (under)

variable {s s' : MemoryStore} {chain : String} {id : Int} {x y : Snapshot}

/-- What is stored under an id. -/
def edition? (s : MemoryStore) (chain : String) (id : Int) : Option Edition :=
  (s.editionsOf chain).find? id

/-- The record that is stored under an id and a key. -/
def record? (s : MemoryStore) (chain : String) (id : Int) (key : String) : Option PoolRecord :=
  (s.edition? chain id).bind (·.items.find? key)

def publishedAt? (s : MemoryStore) (chain : String) (id : Int) : Option Timestamp :=
  (s.edition? chain id).map (·.publishedAt)

/-- **What storing a snapshot does to an edition.** -/
theorem edition?_store (s : MemoryStore) (x : Snapshot) (chain : String) (id : Int) :
    (s.store x).edition? chain id = if x.chain = chain ∧ x.snapshotId = id
      then some (joined (s.edition? chain id) x) else s.edition? chain id := by
  by_cases heq : x.chain = chain ∧ x.snapshotId = id
  · obtain ⟨rfl, rfl⟩ := heq
    rw [if_pos ⟨rfl, rfl⟩, edition?]
    cases hold : s.edition? x.chain x.snapshotId with
    | none =>
      rw [editionsOf_store (SortedMap.find?_eq_none_iff.mp hold), if_pos rfl,
        SortedMap.find?_insert, if_pos rfl]
      rfl
    | some old =>
      rw [editionsOf_store_of_find? hold, SortedMap.find?_insert, if_pos rfl]
      rfl
  · rw [if_neg heq, edition?]
    by_cases hchain : x.chain = chain
    · subst hchain
      obtain ⟨e, hstore, -⟩ := s.exists_editionsOf_store x
      rw [hstore, SortedMap.find?_insert, if_neg fun hid => heq ⟨rfl, hid.symm⟩]
      rfl
    · rw [editionsOf_store_of_ne (Ne.symm hchain)]
      rfl

theorem contains_editions_store (s : MemoryStore) (x : Snapshot) (chain : String) :
    (s.store x).editions.contains chain
      = (decide (chain = x.chain) || s.editions.contains chain) := by
  show ((s.editions.insert x.chain _).find? chain).isSome = _
  rw [SortedMap.find?_insert]
  by_cases hchain : chain = x.chain
  · simp [hchain]
  · simp [hchain, SortedMap.contains]

theorem contains_editions_of_edition? (h : (s.edition? chain id).isSome) :
    s.editions.contains chain = true := by
  by_contra hnot
  have hnone : s.editions.find? chain = none := Option.not_isSome_iff_eq_none.mp hnot
  rw [edition?, editionsOf, hnone] at h
  cases h

/-- Stores with the same editions are the same, if they know of the same chains. -/
theorem ext_edition? (hcounters : s.counters = s'.counters) (hloads : s.loadsFail = s'.loadsFail)
    (happends : s.appendsFail = s'.appendsFail)
    (hchains : ∀ chain, s.editions.contains chain = s'.editions.contains chain)
    (h : ∀ chain id, s.edition? chain id = s'.edition? chain id) : s = s' := by
  have heditions : s.editions = s'.editions := by
    refine SortedMap.ext_find? fun chain => ?_
    have hof : s.editionsOf chain = s'.editionsOf chain := SortedMap.ext_find? (h chain)
    have hknown := hchains chain
    unfold editionsOf at hof
    unfold SortedMap.contains at hknown
    cases hold : s.editions.find? chain with
    | none =>
      rw [hold] at hknown
      exact (Option.not_isSome_iff_eq_none.mp (by rw [← hknown]; exact Bool.false_ne_true)).symm
    | some m =>
      rw [hold] at hknown hof
      obtain ⟨m', hm'⟩ := Option.isSome_iff_exists.mp hknown.symm
      rw [hm'] at hof ⊢
      exact congrArg some hof
  cases s
  cases s'
  cases hcounters
  cases hloads
  cases happends
  cases heditions
  rfl

/-- **Snapshots stored under different ids may change places.** -/
theorem store_comm (h : ¬ (x.chain = y.chain ∧ x.snapshotId = y.snapshotId)) (s : MemoryStore) :
    (s.store x).store y = (s.store y).store x := by
  refine ext_edition? rfl rfl rfl (fun chain => ?_) fun chain id => ?_
  · simp only [contains_editions_store]
    exact Bool.or_left_comm _ _ _
  · simp only [edition?_store]
    by_cases hx : x.chain = chain ∧ x.snapshotId = id
    · have hy : ¬ (y.chain = chain ∧ y.snapshotId = id) := fun hy =>
        h ⟨hx.1.trans hy.1.symm, hx.2.trans hy.2.symm⟩
      rw [if_neg hy, if_pos hx, if_pos hx, if_neg hy]
    · rw [if_neg hx, if_neg hx]

/-- **Storing a snapshot changes nothing if its pools are there already.** -/
theorem store_eq_self {e : Edition} (he : s.edition? x.chain x.snapshotId = some e)
    (h : ∀ key, (x.items.find? key).isSome → (e.items.find? key).isSome) : s.store x = s := by
  refine ext_edition? rfl rfl rfl (fun chain => ?_) fun chain id => ?_
  · rw [contains_editions_store]
    by_cases hchain : chain = x.chain
    · have hknown := contains_editions_of_edition? (by rw [he]; rfl :
        (s.edition? x.chain x.snapshotId).isSome)
      rw [hchain, hknown, Bool.or_true]
    · rw [decide_eq_false hchain, Bool.false_or]
  · rw [edition?_store]
    split
    · next heq =>
      obtain ⟨rfl, rfl⟩ := heq
      rw [he, Edition.joined_eq_self h]
    · rfl

/-! ## The latest edition -/

/-- The latest snapshot is the edition with the largest id. -/
theorem latest?_cases (s : MemoryStore) (chain : String) :
    (s.latest? chain = none ∧ ∀ id, s.edition? chain id = none)
      ∨ ∃ y, s.latest? chain = some y ∧ y.chain = chain
        ∧ s.edition? chain y.snapshotId = some ⟨y.items, y.publishedAt⟩
        ∧ ∀ id, (s.edition? chain id).isSome → id ≤ y.snapshotId := by
  cases hlatest : s.latest? chain with
  | none =>
    refine Or.inl ⟨rfl, fun id => SortedMap.find?_eq_none_iff.mpr ?_⟩
    rw [keys_of_latest?_eq_none hlatest]
    exact List.not_mem_nil
  | some y =>
    have hle := (latest?_eq_some hlatest).2.2
    obtain ⟨⟨id, e⟩, hlast, rfl⟩ := Option.map_eq_some_iff.mp hlatest
    refine Or.inr ⟨_, rfl, rfl, ?_, fun id' hid' => hle id' (SortedMap.mem_keys.mpr hid')⟩
    exact (Entries.find?_eq_some_iff (s.editionsOf chain).sorted).mpr (List.mem_of_getLast? hlast)

/-! ## Uses of a store -/

/-- What may be done to a store in memory. -/
inductive Use where
  | call (call : StoreCall)
  /-- Tells it whether to fail at loading. -/
  | failLoads (on : Bool)
  /-- Tells it whether to fail at appending. -/
  | failAppends (on : Bool)

namespace Use

/-- The store behind a use. -/
def apply (s : MemoryStore) : Use → MemoryStore
  | .call c => (c.ask s).2
  | .failLoads on => { s with loadsFail := on }
  | .failAppends on => { s with appendsFail := on }

/-- The snapshot that was appended, if one was and the store did not fail. -/
def appended? (s : MemoryStore) : Use → Option Snapshot
  | .call (.append x) => (SnapshotStore.append x s).result.toOption.map fun _ => x
  | _ => none

end Use

/-- The store behind several uses. -/
def after (s : MemoryStore) (uses : List Use) : MemoryStore := uses.foldl Use.apply s

/-- The snapshots that were appended with success, in order. -/
def appended (s : MemoryStore) : List Use → List Snapshot
  | [] => []
  | u :: uses => (u.appended? s).toList ++ appended (u.apply s) uses

/-- An append fails and changes nothing, or the snapshot is stored. -/
theorem append_cases (s : MemoryStore) (x : Snapshot) :
    (s.appendsFail = true ∧ ∃ e, SnapshotStore.append x s = ⟨.error e, s, []⟩)
      ∨ (s.appendsFail = false ∧ SnapshotStore.append x s = ⟨.ok (), s.store x, []⟩) := by
  cases hfail : s.appendsFail with
  | true => exact Or.inl ⟨rfl, _, if_pos hfail⟩
  | false => exact Or.inr ⟨rfl, append_of_works hfail x⟩

/-- One use adds to an edition what it appended. -/
theorem edition?_apply (s : MemoryStore) (u : Use) (chain : String) (id : Int) :
    (u.apply s).edition? chain id
      = compiled (s.edition? chain id) (under chain id (u.appended? s).toList) := by
  cases u with
  | failLoads on => rfl
  | failAppends on => rfl
  | call c =>
    cases c with
    | allocate chain' floor => rfl
    | loadLatest chain' =>
      show (SnapshotStore.loadLatest chain' s).store.edition? chain id = _
      rw [store_loadLatest]
      rfl
    | append x =>
      show (SnapshotStore.append x s).store.edition? chain id = _
      rcases s.append_cases x with ⟨-, e, hanswer⟩ | ⟨-, hanswer⟩
      · simp only [Use.appended?, hanswer]
        rfl
      · simp only [Use.appended?, hanswer]
        show (s.store x).edition? chain id = compiled _ (under chain id [x])
        rw [edition?_store, Snapshot.under_singleton]
        split <;> rfl

/-- **An edition is made up of what was appended under its id.** -/
theorem edition?_after (s : MemoryStore) (uses : List Use) (chain : String) (id : Int) :
    (s.after uses).edition? chain id
      = compiled (s.edition? chain id) (under chain id (s.appended uses)) := by
  induction uses generalizing s with
  | nil => rfl
  | cons u uses ih =>
    have hcons : s.after (u :: uses) = (u.apply s).after uses := rfl
    rw [hcons, ih, edition?_apply, appended, Snapshot.under_append, Edition.compiled_append]

theorem record?_after (s : MemoryStore) (uses : List Use) (chain : String) (id : Int)
    (key : String) : (s.after uses).record? chain id key
      = (s.record? chain id key).or
        ((under chain id (s.appended uses)).findSome? (·.items.find? key)) := by
  rw [record?, edition?_after, Edition.find?_compiled]
  rfl

theorem publishedAt?_after (s : MemoryStore) (uses : List Use) (chain : String) (id : Int) :
    (s.after uses).publishedAt? chain id
      = (s.publishedAt? chain id).or
        ((under chain id (s.appended uses)).head?.map (·.publishedAt)) := by
  rw [publishedAt?, edition?_after, Edition.publishedAt_compiled]
  rfl

/-- The ids that are stored are those under which something was appended. -/
theorem isSome_edition?_after {uses : List Use} :
    ((empty.after uses).edition? chain id).isSome
      ↔ ∃ x ∈ empty.appended uses, x.chain = chain ∧ x.snapshotId = id := by
  have hempty : (empty.edition? chain id).isSome = false := rfl
  rw [edition?_after, Edition.isSome_compiled, hempty, Bool.false_or, List.isSome_head?,
    ← List.length_pos_iff, List.length_pos_iff_exists_mem]
  simp only [Snapshot.mem_under]

theorem mem_keys_itemsOf {key : String} :
    key ∈ (s.itemsOf chain id).keys ↔ (s.record? chain id key).isSome := by
  have hkeys : key ∈ (s.itemsOf chain id).keys ↔ ((s.itemsOf chain id).find? key).isSome :=
    SortedMap.mem_keys
  rw [hkeys, itemsOf, record?, edition?]
  cases (s.editionsOf chain).find? id <;> rfl

/-! ## What a store holds -/

/-- What is known of a store to which some snapshots were appended with success. -/
structure AppendOnly (s : MemoryStore) (xs : List Snapshot) : Prop where
  /-- A record is that of the first append that carried its key. -/
  record : ∀ chain id key,
    s.record? chain id key = (under chain id xs).findSome? (·.items.find? key)
  /-- It is never changed or removed, whatever the store is used for. -/
  kept : ∀ uses chain id key r, s.record? chain id key = some r →
    (s.after uses).record? chain id key = some r
  /-- The time of an id is that of its first append. -/
  time : ∀ chain id, s.publishedAt? chain id = (under chain id xs).head?.map (·.publishedAt)
  timeKept : ∀ uses chain id t, s.publishedAt? chain id = some t →
    (s.after uses).publishedAt? chain id = some t
  /-- The keys of an id are those of all its appends. -/
  keys : ∀ chain id key,
    key ∈ (s.itemsOf chain id).keys ↔ ∃ x ∈ under chain id xs, key ∈ x.items.keys
  /-- The edition with the largest id is loaded, whether it has pools or not. -/
  latest : s.loadsFail = false → ∀ chain, (∃ x ∈ xs, x.chain = chain) →
    ∃ y, (SnapshotStore.loadLatest chain s).result = .ok (some y) ∧ y.chain = chain
      ∧ (∃ x ∈ xs, x.chain = chain ∧ x.snapshotId = y.snapshotId)
      ∧ (∀ x ∈ xs, x.chain = chain → x.snapshotId ≤ y.snapshotId)
      ∧ s.edition? chain y.snapshotId = some ⟨y.items, y.publishedAt⟩
  /-- Nothing is loaded exactly if nothing was appended to the chain. -/
  none : s.loadsFail = false → ∀ chain,
    (SnapshotStore.loadLatest chain s).result = .ok .none ↔ ∀ x ∈ xs, x.chain ≠ chain
  /-- Repeating an append changes nothing. -/
  repeated : ∀ x ∈ xs, (SnapshotStore.append x s).store = s
  /-- An append that fails changes nothing. -/
  failed : ∀ x e, (SnapshotStore.append x s).result = .error e →
    (SnapshotStore.append x s).store = s
  /-- Appends under different ids leave the same behind in either order, and fail alike. -/
  commute : ∀ x y : Snapshot, ¬ (x.chain = y.chain ∧ x.snapshotId = y.snapshotId) →
    (SnapshotStore.append y (SnapshotStore.append x s).store).store
        = (SnapshotStore.append x (SnapshotStore.append y s).store).store
      ∧ (SnapshotStore.append y (SnapshotStore.append x s).store).result
        = (SnapshotStore.append y s).result

/-- A snapshot that was appended is there with all its keys. -/
theorem append_eq_self {uses : List Use} (h : x ∈ empty.appended uses) :
    (SnapshotStore.append x (empty.after uses)).store = empty.after uses := by
  rcases (empty.after uses).append_cases x with ⟨-, e, hanswer⟩ | ⟨-, hanswer⟩
  · rw [hanswer]
  · rw [hanswer]
    obtain ⟨e, he⟩ := Option.isSome_iff_exists.mp (isSome_edition?_after.mpr ⟨x, h, rfl, rfl⟩)
    refine store_eq_self he fun key hkey => ?_
    have hrecord : (empty.after uses).record? x.chain x.snapshotId key = e.items.find? key := by
      rw [record?, he, Option.bind_some]
    rw [← hrecord, record?_after, Option.isSome_or, List.findSome?_isSome_iff.mpr
      ⟨x, Snapshot.mem_under.mpr ⟨h, rfl, rfl⟩, hkey⟩, Bool.or_true]

/-- Appends under different ids may change places. -/
theorem append_comm (h : ¬ (x.chain = y.chain ∧ x.snapshotId = y.snapshotId)) (s : MemoryStore) :
    (SnapshotStore.append y (SnapshotStore.append x s).store).store
        = (SnapshotStore.append x (SnapshotStore.append y s).store).store
      ∧ (SnapshotStore.append y (SnapshotStore.append x s).store).result
        = (SnapshotStore.append y s).result := by
  rcases s.append_cases x with ⟨hfail, e, hx⟩ | ⟨hworks, hx⟩
  · rcases s.append_cases y with ⟨-, e', hy⟩ | ⟨hworks, -⟩
    · simp only [hx, hy]
      trivial
    · rw [hfail] at hworks
      cases hworks
  · have hsecond (y z : Snapshot) :
        SnapshotStore.append z (s.store y) = ⟨.ok (), (s.store y).store z, []⟩ :=
      append_of_works (s := s.store y) hworks z
    rw [hx, append_of_works hworks y, hsecond, hsecond]
    exact ⟨store_comm h s, rfl⟩

/--
**The first write wins.** Whatever a store in memory is used for, a record is that of the first
successful append under its id that carried its key, and the time of an id that of the first one.
Nothing stored is changed or removed later, what is loaded is the edition with the largest id,
repeated and failed appends change nothing, and appends under different ids may change places.
-/
theorem first_write_wins (uses : List Use) : AppendOnly (empty.after uses) (empty.appended uses)
    where
  record chain id key := record?_after empty uses chain id key
  kept uses' chain id key r h := by
    rw [record?_after, h]
    rfl
  time chain id := publishedAt?_after empty uses chain id
  timeKept uses' chain id t h := by
    rw [publishedAt?_after, h]
    rfl
  keys chain id key := by
    have hkeys : ∀ x : Snapshot, key ∈ x.items.keys ↔ (x.items.find? key).isSome :=
      fun _ => SortedMap.mem_keys
    have hempty : empty.record? chain id key = .none := rfl
    rw [mem_keys_itemsOf, record?_after, hempty, Option.none_or, List.findSome?_isSome_iff]
    simp only [hkeys]
  latest hloads chain := by
    rintro ⟨x, hx, hchain⟩
    rcases (empty.after uses).latest?_cases chain with ⟨-, hnone⟩ | ⟨y, hy, hof, hedition, hle⟩
    · have hsome := isSome_edition?_after.mpr ⟨x, hx, hchain, rfl⟩
      rw [hnone] at hsome
      cases hsome
    · refine ⟨y, ?_, hof, ?_, ?_, hedition⟩
      · rw [loadLatest_of_works hloads, hy]
      · exact isSome_edition?_after.mp (by rw [hedition]; rfl)
      · exact fun x' hx' hchain' => hle _ (isSome_edition?_after.mpr ⟨x', hx', hchain', rfl⟩)
  none hloads chain := by
    rw [loadLatest_of_works hloads, Except.ok.injEq]
    rcases (empty.after uses).latest?_cases chain with ⟨hnone, hids⟩ | ⟨y, hy, -, hedition, -⟩
    · refine iff_of_true hnone fun x hx hchain => ?_
      have hsome := isSome_edition?_after.mpr ⟨x, hx, hchain, rfl⟩
      rw [hids] at hsome
      cases hsome
    · rw [hy]
      refine iff_of_false nofun fun hne => ?_
      obtain ⟨x, hx, hchain, -⟩ := isSome_edition?_after.mp (by rw [hedition]; rfl :
        ((empty.after uses).edition? chain y.snapshotId).isSome)
      exact hne x hx hchain
  repeated x hx := append_eq_self hx
  failed x e h := by
    rcases (empty.after uses).append_cases x with ⟨-, e', hanswer⟩ | ⟨-, hanswer⟩
    · rw [hanswer]
    · rw [hanswer] at h
      cases h
  commute x y h := append_comm h _

end MemoryStore

end PoolFeed
