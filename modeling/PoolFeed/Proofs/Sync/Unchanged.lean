import PoolFeed.Proofs.Sync.Changes
import PoolFeed.Proofs.Sync.Steps
import PoolFeed.Sync.Request

/-!
# Cycles that find nothing to change

Over any store and any transport, a cycle that finds the keys that it is to sync sends nothing. It
takes an id and stores its whitelist all the same.

## Main statements

* `Cycle.reaches_append_of_keys_eq` — such a cycle comes to store its snapshot without sending
* `SyncRequest.sync_of_keys_eq` — what it reports
-/

namespace PoolFeed

namespace Cycle

variable {σ τ : Type} [SnapshotStore σ] [Transport τ] {p : Publisher} {request : SyncRequest}
  {w : World σ τ} {x : Snapshot} {id : Int}

/-- What a cycle reports that finds nothing to change. -/
def unchangedResult (request : SyncRequest) (id : Int) : UpdateResult :=
  ⟨request.chain, id, request.items.size, 0, 0, .differential⟩

theorem plannedResult_of_keys_eq (hkeys : x.items.keys = request.items.keys) :
    plannedResult request (some x) id = unchangedResult request id := by
  obtain ⟨hadded, hremoved⟩ := Diff.eq_nil_iff_keys_eq.mpr hkeys
  simp only [plannedResult, hadded, hremoved]
  rfl

omit [Transport τ] in
/-- The step behind a load that found the keys that are to be synced. -/
theorem stepAllocate_of_keys_eq (hforce : request.forceFull = false)
    (hkeys : x.items.keys = request.items.keys)
    (halloc : (SnapshotStore.allocate request.chain (some x.snapshotId) w.store).result
      = .ok id) :
    (stepAllocate request (some x) w).next = .append (unchangedResult request id) w.now
      ∧ (stepAllocate request (some x) w).world = { w with
        store := (SnapshotStore.allocate request.chain (some x.snapshotId) w.store).store } := by
  have hbase : base? request (some x) = some x := by
    rw [base?, hforce]
    rfl
  have hmessages : messages ⟨request.chain, id, w.now⟩ request.items (some x) = [] :=
    Diff.changeMessages_eq_nil_iff.mpr hkeys
  simp only [stepAllocate, Option.map_some, halloc, hbase, hmessages,
    plannedResult_of_keys_eq hkeys]
  exact ⟨rfl, trivial⟩

/-- **A cycle that finds the keys that it is to sync sends nothing before it stores them.** -/
theorem reaches_append_of_keys_eq (hforce : request.forceFull = false)
    (hload : (SnapshotStore.loadLatest request.chain w.store).result = .ok (some x))
    (hkeys : x.items.keys = request.items.keys)
    (halloc : (SnapshotStore.allocate request.chain (some x.snapshotId)
      (SnapshotStore.loadLatest request.chain w.store).store).result = .ok id) :
    Reaches p request w
      { w with store := (SnapshotStore.allocate request.chain (some x.snapshotId)
          (SnapshotStore.loadLatest request.chain w.store).store).store }
      (.append (unchangedResult request id) w.now) := by
  have hloaded : Reaches p request w
      { w with store := (SnapshotStore.loadLatest request.chain w.store).store }
      (.allocate (some x)) := by
    have hstep := (Reaches.load : Reaches p request w w .load).step
    simp only [step, stepLoad, hload] at hstep
    exact hstep
  have hstep := hloaded.step
  obtain ⟨hnext, hworld⟩ := stepAllocate_of_keys_eq (w := { w with
    store := (SnapshotStore.loadLatest request.chain w.store).store }) hforce hkeys halloc
  simp only [step] at hstep
  rw [hnext, hworld] at hstep
  exact hstep

end Cycle

/-- **A request for the keys that are stored sends nothing, and reports that nothing changed.** -/
theorem SyncRequest.sync_of_keys_eq {σ τ : Type} [SnapshotStore σ] [Transport τ]
    {request : SyncRequest} {w : World σ τ} {x : Snapshot} {id : Int} (p : Publisher)
    (hcheck : request.check = .ok ()) (hforce : request.forceFull = false)
    (hload : (SnapshotStore.loadLatest request.chain w.store).result = .ok (some x))
    (hkeys : x.items.keys = request.items.keys)
    (halloc : (SnapshotStore.allocate request.chain (some x.snapshotId)
      (SnapshotStore.loadLatest request.chain w.store).store).result = .ok id)
    (happend : (SnapshotStore.append ⟨request.chain, id, request.items, w.now⟩
      (SnapshotStore.allocate request.chain (some x.snapshotId)
        (SnapshotStore.loadLatest request.chain w.store).store).store).result = .ok ()) :
    (request.sync p w).outcome = .ok (Cycle.unchangedResult request id)
      ∧ (request.sync p w).world.transport = w.transport := by
  have hreaches := Cycle.reaches_append_of_keys_eq (p := p) hforce hload hkeys halloc
  obtain ⟨houtcome, hworld⟩ := hreaches.run_eq
  rw [sync, hcheck]
  constructor
  · exact houtcome.trans (Cycle.runFrom_append_of_ok happend)
  · exact (congrArg World.transport hworld).trans Cycle.runFrom_append_transport

end PoolFeed
