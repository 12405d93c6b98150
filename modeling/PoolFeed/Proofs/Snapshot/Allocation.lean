import PoolFeed.Proofs.Snapshot.FirstWrite

/-!
# Ids that are handed out

A store in memory is used in any way, and asked for ids of any chains above any floors, or none.
Each id is then above its floor and above all ids that the chain was given before, none is below
one, and the ids of a chain follow from the floors that were asked for it: nothing else that the
store is used for has a say in them.

## Main statements

* `MemoryStore.counter_lt_of_mem` — an id is above all those that were handed out before
* `MemoryStore.ids_eq` — the ids of a chain, from the floors that were asked for it
* `MemoryStore.allocates_in_order` — what is known of the ids a store hands out in any use
-/

namespace PoolFeed.MemoryStore

/-- An id that was handed out. -/
structure Allocation where
  chain : String
  /-- What the id was to be above, if anything. -/
  floor : Option Int
  id : Int

variable {s : MemoryStore} {u : Use} {uses : List Use} {chain : String} {a : Allocation}

/-! ## One use -/

namespace Use

/-- The chain and the floor of a request for an id. -/
def request? : Use → Option (String × Option Int)
  | .call (.allocate chain floor) => some (chain, floor)
  | _ => none

/-- The id that a use asks for and is given. -/
def allocation? (s : MemoryStore) : Use → Option Allocation
  | .call (.allocate chain floor) =>
    (SnapshotStore.allocate chain floor s).result.toOption.map fun id => ⟨chain, floor, id⟩
  | _ => none

/-- Every request is granted, with the next id. -/
theorem allocation?_eq (s : MemoryStore) (u : Use) :
    u.allocation? s = u.request?.map fun r => ⟨r.1, r.2, s.nextId r.1 r.2⟩ := by
  rcases u with (⟨chain, floor⟩ | x | chain) | on | on <;> rfl

end Use

/-- **Only a request for an id of a chain moves its counter**, and it moves it to that id. -/
theorem counter_apply (s : MemoryStore) (u : Use) (chain : String) :
    (u.apply s).counter chain
      = (u.allocation? s).elim (s.counter chain)
        fun a => if a.chain = chain then a.id else s.counter chain := by
  rcases u with (⟨chain', floor⟩ | x | chain') | on | on
  · show ((s.counters.insert chain' (s.nextId chain' floor)).find? chain).getD 0 = _
    rw [SortedMap.find?_insert, Use.allocation?_eq]
    by_cases hchain : chain = chain'
    · simp [Use.request?, hchain]
    · simp [Use.request?, hchain, Ne.symm hchain, counter]
  · show (SnapshotStore.append x s).store.counter chain = _
    rcases s.append_cases x with ⟨-, e, hanswer⟩ | ⟨-, hanswer⟩ <;> rw [hanswer] <;> rfl
  · show (SnapshotStore.loadLatest chain' s).store.counter chain = _
    rw [store_loadLatest]
    rfl
  · rfl
  · rfl

/-- The next id is above the last one and above its floor. -/
theorem lt_of_allocation? (h : u.allocation? s = some a) :
    s.counter a.chain < a.id ∧ a.floor.getD 0 < a.id := by
  rw [Use.allocation?_eq, Option.map_eq_some_iff] at h
  obtain ⟨⟨chain, floor⟩, -, rfl⟩ := h
  show s.counter chain < max (s.counter chain) (floor.getD 0) + 1
    ∧ floor.getD 0 < max (s.counter chain) (floor.getD 0) + 1
  omega

theorem counter_apply_of_allocation? (h : u.allocation? s = some a) :
    (u.apply s).counter a.chain = a.id := by
  simp [counter_apply, h]

theorem counter_le_apply (s : MemoryStore) (u : Use) (chain : String) :
    s.counter chain ≤ (u.apply s).counter chain := by
  rw [counter_apply]
  cases h : u.allocation? s with
  | none => simp
  | some a =>
    by_cases hchain : a.chain = chain
    · subst hchain
      simpa using Int.le_of_lt (lt_of_allocation? h).1
    · simp [hchain]

/-! ## Several uses -/

/-- The ids that are handed out, in order. -/
def allocations (s : MemoryStore) : List Use → List Allocation
  | [] => []
  | u :: uses => (u.allocation? s).toList ++ allocations (u.apply s) uses

/-- The ids that are handed out for a chain. -/
def idsOf (s : MemoryStore) (chain : String) (uses : List Use) : List Int :=
  ((s.allocations uses).filter (·.chain = chain)).map (·.id)

/-- The floors of the requests for ids of a chain. -/
def floorsOf (chain : String) (uses : List Use) : List (Option Int) :=
  ((uses.filterMap Use.request?).filter (·.1 = chain)).map (·.2)

/-- The ids of a chain whose last id is known, from the floors that are asked for. -/
def idsAbove (last : Int) : List (Option Int) → List Int
  | [] => []
  | floor :: floors =>
    let id := max last (floor.getD 0) + 1
    id :: idsAbove id floors

theorem request_of_allocations (s : MemoryStore) (uses : List Use) :
    (s.allocations uses).map (fun a => (a.chain, a.floor)) = uses.filterMap Use.request? := by
  induction uses generalizing s with
  | nil => rfl
  | cons u uses ih =>
    rw [allocations, List.map_append, ih, Use.allocation?_eq]
    cases h : u.request? with
    | none => simp [h]
    | some r => simp [h]

/-- **An id is above all those that were handed out before.** -/
theorem counter_lt_of_mem (h : a ∈ s.allocations uses) : s.counter a.chain < a.id := by
  induction uses generalizing s with
  | nil => cases h
  | cons u uses ih =>
    rcases List.mem_append.mp h with hnow | hlater
    · exact (lt_of_allocation? (Option.mem_toList.mp hnow)).1
    · exact Int.lt_of_le_of_lt (counter_le_apply s u a.chain) (ih hlater)

theorem floor_lt_of_mem (h : a ∈ s.allocations uses) : a.floor.getD 0 < a.id := by
  induction uses generalizing s with
  | nil => cases h
  | cons u uses ih =>
    rcases List.mem_append.mp h with hnow | hlater
    · exact (lt_of_allocation? (Option.mem_toList.mp hnow)).2
    · exact ih hlater

theorem allocations_increasing (s : MemoryStore) (uses : List Use) :
    (s.allocations uses).Pairwise fun a b => a.chain = b.chain → a.id < b.id := by
  induction uses generalizing s with
  | nil => exact List.Pairwise.nil
  | cons u uses ih =>
    rw [allocations]
    cases h : u.allocation? s with
    | none => exact ih _
    | some a =>
      refine List.Pairwise.cons (fun b hb hchain => ?_) (ih _)
      rw [← counter_apply_of_allocation? h, hchain]
      exact counter_lt_of_mem hb

/-- **The ids of a chain follow from the floors that were asked for it.** -/
theorem ids_eq (s : MemoryStore) (chain : String) (uses : List Use) :
    s.idsOf chain uses = idsAbove (s.counter chain) (floorsOf chain uses) := by
  induction uses generalizing s with
  | nil => rfl
  | cons u uses ih =>
    have hcons : s.idsOf chain (u :: uses)
        = ((u.allocation? s).toList.filter (·.chain = chain)).map (·.id)
          ++ (u.apply s).idsOf chain uses := by
      simp [idsOf, allocations]
    rw [hcons, ih, counter_apply, Use.allocation?_eq]
    cases h : u.request? with
    | none => simp [floorsOf, h]
    | some r =>
      by_cases hchain : r.1 = chain
      · subst hchain
        simp [floorsOf, h, idsAbove, nextId, counter]
      · simp [floorsOf, h, hchain]

/-! ## What a store hands out -/

/-- What is known of the ids that a new store hands out in some uses. -/
structure AllocatesInOrder (uses : List Use) : Prop where
  /-- Every request for an id is granted, in order. -/
  granted : (empty.allocations uses).map (fun a => (a.chain, a.floor)) = uses.filterMap Use.request?
  /-- An id is above the floor it was asked for. -/
  aboveFloor : ∀ a ∈ empty.allocations uses, ∀ f, a.floor = some f → f < a.id
  positive : ∀ a ∈ empty.allocations uses, 1 ≤ a.id
  /-- An id is above all that its chain was given before. -/
  increasing : (empty.allocations uses).Pairwise fun a b => a.chain = b.chain → a.id < b.id
  /-- Uses that ask for the same floors of a chain are given the same ids for it. -/
  determined : ∀ chain uses', floorsOf chain uses = floorsOf chain uses' →
    empty.idsOf chain uses = empty.idsOf chain uses'

/--
**Ids are handed out in order.** Whatever a store in memory is used for, every request for an id is
granted. Its id is above its floor, above every id that was handed out for the chain before, and not
below one, and it depends on the requests for its own chain alone.
-/
theorem allocates_in_order (uses : List Use) : AllocatesInOrder uses where
  granted := request_of_allocations empty uses
  aboveFloor a ha f hf := by
    have hlt := floor_lt_of_mem ha
    rwa [hf] at hlt
  positive a ha := counter_lt_of_mem ha
  increasing := allocations_increasing empty uses
  determined chain uses' h := by rw [ids_eq, ids_eq, h]

end PoolFeed.MemoryStore
