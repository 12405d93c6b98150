import PoolFeed.Sync.Cycle

/-!
# Cycles step by step

A whole cycle over any store and any transport is its steps in a row: wherever they lead, the rest
of the cycle is run from there.

## Main statements

* `Cycle.runFrom_step` — a run is a step and a run behind it
* `Cycle.Reaches.run_eq` — a whole cycle ends like the rest of it from any point that it reaches
* `Cycle.Reaches.runFrom` — a cycle comes to the end of its run
* `Cycle.runFrom_append_of_error` — how a cycle ends whose snapshot is not stored
-/

namespace PoolFeed.Cycle

variable {σ τ : Type} [SnapshotStore σ] [Transport τ] {p : Publisher} {request : SyncRequest}
  {w w' : World σ τ} {c : Cycle}

theorem runFrom_of_outcome {outcome : Except SyncError UpdateResult}
    (h : c.outcome? = some outcome) : runFrom p request w' c = ⟨outcome, w', []⟩ := by
  rw [runFrom]
  split
  · next h' =>
    rw [h] at h'
    cases h'
    rfl
  · next h' => rw [h] at h'; cases h'

/-- **A run is a step and a run behind it.** -/
theorem runFrom_step (h : c.outcome? = none) :
    (runFrom p request w' c).outcome
        = (runFrom p request (step p request w' c).world (step p request w' c).next).outcome
      ∧ (runFrom p request w' c).world
        = (runFrom p request (step p request w' c).world (step p request w' c).next).world := by
  rw [runFrom]
  split
  · next h' => rw [h] at h'; cases h'
  · exact ⟨rfl, rfl⟩

/-- A cycle that has ended stays as it is. -/
theorem step_of_outcome {outcome : Except SyncError UpdateResult} (h : c.outcome? = some outcome) :
    (step p request w' c).world = w' ∧ (step p request w' c).next = c := by
  cases c with
  | done => exact ⟨rfl, rfl⟩
  | load => cases h
  | allocate => cases h
  | send => cases h
  | append => cases h

/-- The points to which a cycle comes that starts in a world. -/
inductive Reaches (p : Publisher) (request : SyncRequest) (w : World σ τ) : World σ τ → Cycle → Prop
  | load : Reaches p request w w .load
  | step {w' : World σ τ} {c : Cycle} (h : Reaches p request w w' c) :
    Reaches p request w (step p request w' c).world (step p request w' c).next

/-- **A whole cycle ends like the rest of it from any point that it reaches.** -/
theorem Reaches.run_eq (h : Reaches p request w w' c) :
    (run p request w).outcome = (runFrom p request w' c).outcome
      ∧ (run p request w).world = (runFrom p request w' c).world := by
  induction h with
  | load => exact ⟨rfl, rfl⟩
  | @step w' c h ih =>
    cases hout : c.outcome? with
    | some outcome =>
      rw [(step_of_outcome hout).1, (step_of_outcome hout).2]
      exact ih
    | none => exact ⟨ih.1.trans (runFrom_step hout).1, ih.2.trans (runFrom_step hout).2⟩

/-- A cycle comes to the end of its run. -/
theorem Reaches.runFrom {w' : World σ τ} {c : Cycle}
    (h : Reaches p request w w' c) :
    Reaches p request w (runFrom p request w' c).world
      (.done (runFrom p request w' c).outcome) := by
  cases hout : c.outcome? with
  | some outcome =>
    rw [runFrom_of_outcome hout]
    cases c with
    | done =>
      cases hout
      exact h
    | load => cases hout
    | allocate => cases hout
    | send => cases hout
    | append => cases hout
  | none =>
    have hlt := step_rank_lt p request w' c hout
    rw [(runFrom_step hout).1, (runFrom_step hout).2]
    exact h.step.runFrom
termination_by c.rank

/-! ## The last step -/

variable {result : UpdateResult} {time : Timestamp}

theorem runFrom_append_transport :
    (runFrom p request w' (.append result time)).world.transport = w'.transport := by
  have hdone : ∃ outcome, (step p request w' (.append result time)).next = .done outcome := by
    simp only [step, stepAppend]
    split
    · exact ⟨_, rfl⟩
    · exact ⟨_, rfl⟩
  obtain ⟨outcome, hnext⟩ := hdone
  rw [(runFrom_step rfl).2, runFrom_of_outcome (congrArg outcome? hnext)]
  simp only [step, stepAppend]
  split <;> rfl

/-- A cycle whose snapshot is stored ends well. -/
theorem runFrom_append_of_ok
    (h : (SnapshotStore.append ⟨request.chain, result.snapshotId, request.items, time⟩
      w'.store).result = .ok ()) :
    (runFrom p request w' (.append result time)).outcome = .ok result := by
  have hnext : (step p request w' (.append result time)).next = .done (.ok result) := by
    simp only [step, stepAppend, h]
  rw [(runFrom_step rfl).1, runFrom_of_outcome (congrArg outcome? hnext)]

/-- A cycle whose snapshot is not stored reports what it published. -/
theorem runFrom_append_of_error {e : SyncError}
    (h : (SnapshotStore.append ⟨request.chain, result.snapshotId, request.items, time⟩
      w'.store).result = .error e) :
    (runFrom p request w' (.append result time)).outcome
      = .error (.snapshotNotPersisted result e.message) := by
  have hnext : (step p request w' (.append result time)).next
      = .done (.error (.snapshotNotPersisted result e.message)) := by
    simp only [step, stepAppend, h]
  rw [(runFrom_step rfl).1, runFrom_of_outcome (congrArg outcome? hnext)]

end PoolFeed.Cycle
