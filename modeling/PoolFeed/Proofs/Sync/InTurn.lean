import PoolFeed.Proofs.Sync.Acquisition
import PoolFeed.Proofs.Sync.Alike

/-!
# A call and its cycle in turn

Calls may run one after the other, each from what those in front of it have left. A call that runs
beside others keeps to the cycle that it would run in its turn: it is as far as that cycle after
some steps, and comes to the same. The chain cannot tell the difference.

## Main statements

* `Coordinator.InTurn.load` — a call that is given the lock of its chain is where its cycle begins
* `Coordinator.InTurn.stepped` — a step keeps a call to its cycle in turn
* `Coordinator.InTurn.released`, `Coordinator.InTurn.alike_of_released` — what it comes to
* `Coordinator.InTurn.unmoved`, `Coordinator.InTurn.unmoved_after` — calls of other chains go
  unnoticed
-/

namespace PoolFeed

namespace Cycle

variable {p : Publisher} {request : SyncRequest} {w : Bench} {c : Cycle}

/-- A cycle leaves alone from which payload on everything is refused. -/
theorem failAfter_step (p : Publisher) (request : SyncRequest) (w : Bench) (c : Cycle) :
    (step p request w c).world.transport.failAfter = w.transport.failAfter := by
  cases c with
  | load => rfl
  | allocate => rfl
  | send s =>
    show (p.send s.current s.channel w.transport).transport.failAfter = _
    rcases p.send_cases s.current s.channel w.transport with ⟨-, htransport⟩ | ⟨_, -, htransport⟩
    · rw [htransport]
      rfl
    · rw [htransport]
  | append result time =>
    simp only [step, stepAppend]
    split <;> rfl
  | done => rfl

theorem walk_concat (p : Publisher) (request : SyncRequest) (n : Nat) (w : Bench) (c : Cycle) :
    walk p request (n + 1) w c
      = ((step p request (walk p request n w c).1 (walk p request n w c).2).world,
        (step p request (walk p request n w c).1 (walk p request n w c).2).next) := by
  induction n generalizing w c with
  | zero => rfl
  | succ n ih =>
    rw [walk, ih]
    rfl

theorem now_walk (p : Publisher) (request : SyncRequest) (n : Nat) (w : Bench) (c : Cycle) :
    (walk p request n w c).1.now = w.now := by
  induction n with
  | zero => rfl
  | succ n ih => rw [walk_concat, now_step, ih]

/-- Whether a cycle has taken its id. -/
def hasId : Cycle → Bool
  | .load => false
  | .allocate _ => false
  | _ => true

theorem hasId_sendAll (result : UpdateResult) (time : Timestamp) (delivered : List Kind)
    (ms : List ChangeMessage) : (sendAll result time delivered ms).hasId = true := by
  cases ms <;> rfl

/-- A cycle takes its id once. -/
theorem hasId_step (h : c.hasId = true ∨ ∃ previous, c = .allocate previous) :
    (step p request w c).next.hasId = true := by
  cases c with
  | load =>
    rcases h with h | ⟨previous, h⟩
    · cases h
    · cases h
  | allocate previous =>
    simp only [step, stepAllocate]
    split
    · rfl
    · exact hasId_sendAll ..
  | send s =>
    simp only [step, stepSend]
    split
    · rfl
    · unfold sent
      split
      · rfl
      · exact hasId_sendAll ..
  | append result time =>
    simp only [step, stepAppend]
    split <;> rfl
  | done => rfl

end Cycle

/-- Whether the call has taken its id, if it needed one. -/
def Phase.hasId (phase : Phase) : Bool := phase.cycle?.any Cycle.hasId || phase.result?.isSome

theorem Phase.hasId_of_cycle? {phase : Phase} {cycle : Cycle} (h : phase.cycle? = some cycle) :
    phase.hasId = cycle.hasId := by
  rw [hasId, h, result?_of_cycle? h]
  exact Bool.or_false _

namespace Phase

theorem exists_of_takesId {phase : Phase} (h : phase.takesId = true) :
    ∃ lock previous, phase = .running lock (.allocate previous) := by
  unfold takesId at h
  split at h
  · exact ⟨_, _, rfl⟩
  · cases h

/-- A call that is about to take its id does not have one. -/
theorem hasId_of_takesId {phase : Phase} (h : phase.takesId = true) : phase.hasId = false := by
  obtain ⟨lock, previous, rfl⟩ := exists_of_takesId h
  rfl

end Phase

theorem SyncRequest.failAfter_sync (p : Publisher) (request : SyncRequest) (w : Bench) :
    (request.sync p w).world.transport.failAfter = w.transport.failAfter := by
  cases hcheck : request.check with
  | error e =>
    simp only [sync, hcheck]
  | ok =>
    rw [sync_of_check hcheck]
    obtain ⟨sent, htransport, -⟩ := (Cycle.run_exit p request w).accounts
    rw [htransport]
    rfl

namespace Coordinator

/-! ## One after the other -/

/--
What calls lead to that run one after the other in some order, each when the clock shows a time of
its own.
-/
def serial (p : Publisher) (requests : List SyncRequest) (times : Nat → Timestamp) (w : Bench)
    (order : List Nat) : Bench :=
  order.foldl
    (fun w i => (requests[i]?.map fun r => (r.sync p { w with now := times i }).world).getD w) w

/-- What a call finds that runs behind those of some order. -/
def found (p : Publisher) (requests : List SyncRequest) (times : Nat → Timestamp) (w : Bench)
    (order : List Nat) (i : Nat) : Bench :=
  { serial p requests times w order with now := times i }

variable {p : Publisher} {requests : List SyncRequest} {times : Nat → Timestamp} {w : Bench}
  {order : List Nat} {i : Nat} {request : SyncRequest}

theorem serial_concat (h : requests[i]? = some request) :
    serial p requests times w (order ++ [i])
      = (request.sync p (found p requests times w order i)).world := by
  rw [serial, List.foldl_append]
  simp only [List.foldl_cons, List.foldl_nil, h, Option.map_some, Option.getD_some]
  rfl

theorem failAfter_serial (p : Publisher) (requests : List SyncRequest) (times : Nat → Timestamp)
    (w : Bench) (order : List Nat) :
    (serial p requests times w order).transport.failAfter = w.transport.failAfter := by
  induction order generalizing w with
  | nil => rfl
  | cons i order ih =>
    rw [serial, List.foldl_cons]
    refine (ih _).trans ?_
    cases requests[i]? with
    | none => rfl
    | some r => exact SyncRequest.failAfter_sync ..

/-! ## A call and its cycle in turn -/

/--
What a call has done that was given the lock of its chain, next to its cycle run from what it would
find in its turn. The calls in front of it and the call itself come to `after` if run in turn.
-/
structure InTurn (p : Publisher) (call : Call) (before w after : Bench) : Prop where
  begun : call.phase.cycle?.isSome ∨ call.phase.result?.isSome
  /-- Its cycle has gone some steps. -/
  underWay : ∀ {cycle : Cycle}, call.phase.cycle? = some cycle → ∃ n,
    Cycle.Alike id call.request.chain cycle (Cycle.walk p call.request n before .load).2
      ∧ Bench.Alike id p.topics call.request.chain w
        (Cycle.walk p call.request n before .load).1
  /-- The chain will not tell what the cycle leads to from what is there after it in turn. -/
  follows : call.phase.cycle?.isSome → ∀ {x : Bench},
    Bench.Alike id p.topics call.request.chain x (call.request.sync p before).world →
      Bench.Alike id p.topics call.request.chain x after
  /-- It has come to what it comes to in turn. -/
  ended : ∀ {outcome : Except SyncError UpdateResult}, call.phase.result? = some outcome →
    outcome = (call.request.sync p before).outcome

namespace InTurn

variable {phase phase' : Phase} {call : Call} {before after w' after' : Bench}

theorem congr (h : InTurn p ⟨request, phase⟩ before w after) (hcycle : phase'.cycle? = phase.cycle?)
    (hresult : phase'.result? = phase.result?) : InTurn p ⟨request, phase'⟩ before w after where
  begun := by
    show phase'.cycle?.isSome ∨ phase'.result?.isSome
    rw [hcycle, hresult]
    exact h.begun
  underWay := fun hc => h.underWay (hcycle.symm.trans hc)
  follows := fun hc => h.follows (hcycle ▸ hc)
  ended := fun ho => h.ended (hresult.symm.trans ho)

/-- A call without a cycle does not depend on what is there. -/
theorem of_cycle?_eq_none (h : InTurn p call before w after) (hnone : call.phase.cycle? = none) :
    InTurn p call before w' after' where
  begun := h.begun
  underWay := fun hc => absurd (hnone.symm.trans hc) nofun
  follows := fun hc => by
    rw [hnone] at hc
    cases hc
  ended := h.ended

/-- A call does not notice that others run beside it. -/
theorem unmoved (h : InTurn p call before w after)
    (hw : Bench.Unmoved p.topics call.request.chain w w') (hnone : w.transport.failAfter = none) :
    InTurn p call before w' after where
  begun := h.begun
  underWay := by
    intro cycle hc
    obtain ⟨n, hcycle, hworld⟩ := h.underWay hc
    exact ⟨n, hcycle, hworld.of_unmoved_left hw hnone⟩
  follows := h.follows
  ended := h.ended

/-- Nor would it notice if they ran after it. -/
theorem unmoved_after (h : InTurn p call before w after)
    (hafter : Bench.Unmoved p.topics call.request.chain after after')
    (hnone : after.transport.failAfter = none) : InTurn p call before w after' where
  begun := h.begun
  underWay := h.underWay
  follows := fun hc _ hx => (h.follows hc hx).of_unmoved_right hafter hnone
  ended := h.ended

theorem now (h : InTurn p call before w after) (time : Timestamp) :
    InTurn p call before { w with now := time } after where
  begun := h.begun
  underWay := by
    intro cycle hc
    obtain ⟨n, hcycle, hworld⟩ := h.underWay hc
    exact ⟨n, hcycle, hworld.now time _⟩
  follows := h.follows
  ended := h.ended

/-- A call that is given the lock of its chain is where its cycle begins. -/
theorem load {time : Timestamp} (h : Bench.Alike id p.topics request.chain w after)
    (hload : phase.cycle? = some .load) :
    InTurn p ⟨request, phase⟩ { after with now := time } w
      (request.sync p { after with now := time }).world where
  begun := Or.inl (Option.isSome_of_eq_some hload)
  underWay := by
    intro cycle hc
    have heq : Cycle.load = cycle := Option.some.inj (hload.symm.trans hc)
    rw [← heq]
    exact ⟨0, .load, h.now w.now time⟩
  follows := fun _ _ hx => hx
  ended := fun ho => absurd ((Phase.result?_of_cycle? hload).symm.trans ho) nofun

/-- **A step keeps a call to its cycle in turn**, if it takes its id at the time meant for it. -/
theorem stepped {cycle : Cycle} (h : InTurn p ⟨request, phase⟩ before w after)
    (hcycle : phase.cycle? = some cycle)
    (hnow : ∀ previous, cycle = .allocate previous → w.now = before.now)
    (hnext : phase'.cycle? = some (cycle.step p request w).next) :
    InTurn p ⟨request, phase'⟩ before (cycle.step p request w).world after where
  begun := Or.inl (Option.isSome_of_eq_some hnext)
  underWay := by
    intro next hc
    have heq : (cycle.step p request w).next = next := Option.some.inj (hnext.symm.trans hc)
    obtain ⟨n, halike, hworld⟩ := h.underWay hcycle
    obtain ⟨hworld', halike'⟩ := halike.step hworld fun previous hallocate =>
      (hnow previous hallocate).trans (Cycle.now_walk p request n before .load).symm
    refine ⟨n + 1, ?_⟩
    rw [← heq, Cycle.walk_concat]
    exact ⟨halike', hworld'⟩
  follows := fun _ => h.follows (Option.isSome_of_eq_some hcycle)
  ended := fun ho => absurd ((Phase.result?_of_cycle? hnext).symm.trans ho) nofun

section Released

variable {cycle : Cycle} {outcome : Except SyncError UpdateResult}
  (h : InTurn p ⟨request, phase⟩ before w after) (hcheck : request.check = .ok ())
  (hcycle : phase.cycle? = some cycle) (hout : cycle.outcome? = some outcome)
include h hcheck hcycle hout

/-- A cycle that has ended is the whole cycle that runs in turn. -/
theorem sync_of_ended : outcome = (request.sync p before).outcome
    ∧ Bench.Alike id p.topics request.chain w (request.sync p before).world := by
  obtain ⟨n, halike, hworld⟩ := h.underWay hcycle
  have hend : (Cycle.walk p request n before .load).2.outcome? = some outcome :=
    halike.outcome?.symm.trans hout
  obtain ⟨houtcome, hrun⟩ := Cycle.runFrom_of_walk hend
  rw [SyncRequest.sync_of_check hcheck]
  exact ⟨houtcome.symm, hrun ▸ hworld⟩

/-- **A call that gives back its lock came to what it comes to in turn.** -/
theorem released (hnone : phase'.cycle? = none) (hresult : phase'.result? = some outcome) :
    InTurn p ⟨request, phase'⟩ before w' after := by
  have hended : InTurn p ⟨request, phase'⟩ before w after :=
    { begun := Or.inr (Option.isSome_of_eq_some hresult)
      underWay := fun hc => absurd (hnone.symm.trans hc) nofun
      follows := fun hc => absurd hc (by simp [hnone])
      ended := by
        intro o ho
        rw [← Option.some.inj (hresult.symm.trans ho)]
        exact (h.sync_of_ended hcheck hcycle hout).1 }
  exact hended.of_cycle?_eq_none hnone

/-- So has the chain. -/
theorem alike_of_released : Bench.Alike id p.topics request.chain w after :=
  h.follows (Option.isSome_of_eq_some hcycle) (h.sync_of_ended hcheck hcycle hout).2

end Released

end InTurn

end Coordinator

end PoolFeed
