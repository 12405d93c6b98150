import Mathlib.Data.List.Nodup
import PoolFeed.Proofs.Sync.Exclusion

/-!
# The order in which locks are given out

A call begins its cycle when it is given the lock of its chain, and from then on its cycle is under
way until the call has come to something. Seen like this, the moves of a call are few: most of them
leave its cycle as it is.

## Main statements

* `Coordinator.Move.exists_effect` — what a move means for the cycle of its call
* `Coordinator.Run.enlisted` — the calls that were given a lock are those that have begun, each once
-/

namespace PoolFeed

namespace Phase

variable {phase : Phase} {cycle : Cycle}

/-- A call whose cycle is under way has not come to anything yet. -/
theorem result?_of_cycle? (h : phase.cycle? = some cycle) : phase.result? = none := by
  cases phase with
  | running => rfl
  | resting => rfl
  | _ => cases h

theorem ne_entering_of_cycle? (h : phase.cycle? = some cycle) : phase ≠ .entering := by
  rintro rfl
  cases h

end Phase

/-- Whether a call was given the lock of its chain. -/
def Call.HasBegun (call : Call) : Prop :=
  call.request.check = .ok () ∧ (call.phase.cycle?.isSome ∨ call.phase.result?.isSome)

namespace Coordinator

variable {σ τ : Type} {c c' : Coordinator σ τ} {i : Nat} {request : SyncRequest}
  {phase phase' : Phase} {taken order : List Nat} {world : World σ τ}

/-! ## Calls that have begun -/

/-- A call behind a move is the one that moved or one of those before. -/
theorem getElem?_cases {j : Nat} {call : Call} (hcall : c.calls[i]? = some ⟨request, phase⟩)
    (hcalls : c'.calls = (c.setPhase i phase').calls) (h : c'.calls[j]? = some call) :
    j = i ∧ call = ⟨request, phase'⟩ ∨ j ≠ i ∧ c.calls[j]? = some call := by
  rw [hcalls] at h
  exact getElem?_setPhase_cases hcall h

theorem getElem?_self (hcall : c.calls[i]? = some ⟨request, phase⟩)
    (hcalls : c'.calls = (c.setPhase i phase').calls) : c'.calls[i]? = some ⟨request, phase'⟩ := by
  rw [hcalls]
  exact getElem?_setPhase_self hcall phase'

theorem getElem?_of_ne {j : Nat} (hcalls : c'.calls = (c.setPhase i phase').calls) (hne : j ≠ i) :
    c'.calls[j]? = c.calls[j]? := by
  rw [hcalls]
  exact getElem?_setPhase_of_ne hne phase'

/-- What the calls that were given a lock have to do with what has become of the calls. -/
structure Enlisted (order : List Nat) (c : Coordinator σ τ) : Prop where
  nodup : order.Nodup
  /-- They are the calls that have begun. -/
  mem_iff : ∀ {i : Nat}, i ∈ order ↔ ∃ call, c.calls[i]? = some call ∧ call.HasBegun
  /-- A call that has been looked at was let through, or it was turned down. -/
  checked : ∀ {i : Nat} {call : Call}, c.calls[i]? = some call →
    call.phase = .entering ∨ call.request.check = .ok ()
      ∨ ∃ e, call.request.check = .error e ∧ call.phase.result? = some (.error e)

namespace Enlisted

theorem new (p : Publisher) (w : World σ τ) (requests : List SyncRequest) :
    Enlisted [] (Coordinator.new p w requests) := by
  refine ⟨.nil, ?_, fun hcall => Or.inl (phase_of_new hcall)⟩
  intro i
  refine ⟨nofun, ?_⟩
  rintro ⟨call, hcall, -, hbegun⟩
  rw [phase_of_new hcall] at hbegun
  rcases hbegun with hcycle | hresult
  · cases hcycle
  · cases hresult

variable (h : Enlisted order c) (hcall : c.calls[i]? = some ⟨request, phase⟩)
include h hcall

/-- A call with a cycle was let through. -/
theorem check_of_cycle? {cycle : Cycle} (hcycle : phase.cycle? = some cycle) :
    request.check = .ok () := by
  rcases h.checked hcall with hentering | hok | ⟨e, -, hresult⟩
  · exact absurd hentering (Phase.ne_entering_of_cycle? hcycle)
  · exact hok
  · exact absurd ((Phase.result?_of_cycle? hcycle).symm.trans hresult) nofun

/-- So was a call that waits for a lock. -/
theorem check_of_lock? {lock : Nat} (hlock : phase.lock? = some lock)
    (hnone : phase.result? = none) : request.check = .ok () := by
  rcases h.checked hcall with hentering | hok | ⟨e, -, hresult⟩
  · have hentering : phase = .entering := hentering
    rw [hentering] at hlock
    cases hlock
  · exact hok
  · exact absurd (hnone.symm.trans hresult) nofun

theorem mem_of_cycle? {cycle : Cycle} (hcycle : phase.cycle? = some cycle) : i ∈ order := by
  exact h.mem_iff.mpr
    ⟨_, hcall, h.check_of_cycle? hcall hcycle, Or.inl (Option.isSome_of_eq_some hcycle)⟩

end Enlisted

variable [SnapshotStore σ] [Transport τ]

/-! ## Effects -/

/--
What a move of a call in some phase means for its cycle: the phase that the call comes to, the calls
that are given a lock, and the world that is left.
-/
inductive Effect (c : Coordinator σ τ) (i : Nat) (request : SyncRequest) (phase : Phase) :
    Phase → List Nat → World σ τ → Prop
  | same {phase' : Phase} (hstays : phase.takesId = false) (hcycle : phase'.cycle? = phase.cycle?)
    (hresult : phase'.result? = phase.result?)
    (hcheck : phase = .entering → request.check = .ok ()) :
    Effect c i request phase phase' [] c.world
  | refused {e : SyncError} (hentering : phase = .entering) (hcheck : request.check = .error e) :
    Effect c i request phase (.finished (.error e)) [] c.world
  | acquired {phase' : Phase} {lock : Nat} (hlock : phase.lock? = some lock)
    (hcycle : phase.cycle? = none) (hresult : phase.result? = none)
    (hfree : ∀ call ∈ c.calls, call.phase.held? ≠ some lock)
    (hload : phase'.cycle? = some .load) :
    Effect c i request phase phase' [i] c.world
  | stepped {phase' : Phase} {lock : Nat} {cycle : Cycle} (hphase : phase = .running lock cycle)
    (hnext : phase'.cycle? = some (cycle.step c.publisher request c.world).next) :
    Effect c i request phase phase' [] (cycle.step c.publisher request c.world).world
  | released {phase' : Phase} {cycle : Cycle} {outcome : Except SyncError UpdateResult}
    (hcycle : phase.cycle? = some cycle) (hout : cycle.outcome? = some outcome)
    (hnone : phase'.cycle? = none) (hresult : phase'.result? = some outcome) :
    Effect c i request phase phase' [] c.world

/-- **What a move means for the cycle of its call.** No other call is touched. -/
theorem Move.exists_effect (h : Move c i request phase taken c') : ∃ phase',
    Effect c i request phase phase' taken c'.world ∧ c'.calls = (c.setPhase i phase').calls := by
  cases h with
  | refuse hcheck => exact ⟨_, .refused rfl hcheck, rfl⟩
  | enter hcheck =>
    unfold Coordinator.enter
    split
    · exact ⟨.waiting _ _, .same rfl rfl rfl fun _ => hcheck, rfl⟩
    · exact ⟨.waiting _ _, .same rfl rfl rfl fun _ => hcheck, rfl⟩
  | acquire hfree => exact ⟨_, .acquired rfl rfl rfl hfree rfl, rfl⟩
  | @advance lock cycle =>
    obtain ⟨events, phase', heq, -, hnext⟩ := c.advance_eq i request lock cycle
    rw [heq]
    exact ⟨phase', .stepped rfl hnext, rfl⟩
  | wake => exact ⟨.running _ _, .same rfl rfl rfl nofun, rfl⟩
  | release hout => exact ⟨_, .released rfl hout rfl rfl, rfl⟩
  | leave =>
    unfold Coordinator.leave
    simp only
    split
    · exact ⟨.finished _, .same rfl rfl rfl nofun, rfl⟩
    · exact ⟨.finished _, .same rfl rfl rfl nofun, rfl⟩

namespace Enlisted

variable (h : Enlisted order c) (hcall : c.calls[i]? = some ⟨request, phase⟩)
include h hcall

/-- What has been found of a call that moved is kept. -/
theorem checked_of_effect (heffect : Effect c i request phase phase' taken world) :
    phase' = .entering ∨ request.check = .ok ()
      ∨ ∃ e, request.check = .error e ∧ phase'.result? = some (.error e) := by
  have hold := h.checked hcall
  cases heffect with
  | same _ hcycle hresult hcheck =>
    rcases hold with hentering | hok | ⟨e, he, hfound⟩
    · exact Or.inr (Or.inl (hcheck hentering))
    · exact Or.inr (Or.inl hok)
    · exact Or.inr (Or.inr ⟨e, he, hresult.trans hfound⟩)
  | refused _ hcheck => exact Or.inr (Or.inr ⟨_, hcheck, rfl⟩)
  | acquired hlock _ hresult => exact Or.inr (Or.inl (h.check_of_lock? hcall hlock hresult))
  | stepped hphase => exact Or.inr (Or.inl (h.check_of_cycle? hcall (congrArg Phase.cycle? hphase)))
  | released hcycle => exact Or.inr (Or.inl (h.check_of_cycle? hcall hcycle))

/-- A call begins by being given a lock and in no other way. -/
theorem hasBegun_iff (heffect : Effect c i request phase phase' taken world) :
    Call.HasBegun ⟨request, phase'⟩ ↔ i ∈ taken ∨ Call.HasBegun ⟨request, phase⟩ := by
  cases heffect with
  | same _ hcycle hresult =>
    simp only [Call.HasBegun, hcycle, hresult, List.not_mem_nil, false_or]
  | refused hentering hcheck =>
    simp [Call.HasBegun, hcheck]
  | acquired hlock hcycle hresult _ hload =>
    have hok := h.check_of_lock? hcall hlock hresult
    simp [Call.HasBegun, hok, hload]
  | @stepped _ _ cycle hphase hnext =>
    have hcycle : phase.cycle? = some cycle := congrArg Phase.cycle? hphase
    have hok := h.check_of_cycle? hcall hcycle
    simp [Call.HasBegun, hok, hcycle, hnext]
  | released hcycle hout hnone hresult =>
    have hok := h.check_of_cycle? hcall hcycle
    simp [Call.HasBegun, hok, hcycle, hresult]

/-- A call is given a lock once. -/
theorem notMem_of_taken (heffect : Effect c i request phase phase' taken world) :
    taken = [] ∨ taken = [i] ∧ i ∉ order := by
  cases heffect with
  | acquired hlock hcycle hresult =>
    refine Or.inr ⟨rfl, fun hmem => ?_⟩
    obtain ⟨call, hcall', -, hbegun⟩ := h.mem_iff.mp hmem
    rw [hcall] at hcall'
    cases hcall'
    simp [hcycle, hresult] at hbegun
  | _ => exact Or.inl rfl

theorem effect (heffect : Effect c i request phase phase' taken world)
    (hcalls : c'.calls = (c.setPhase i phase').calls) : Enlisted (order ++ taken) c' where
  nodup := by
    rcases h.notMem_of_taken hcall heffect with rfl | ⟨rfl, hnew⟩
    · rw [List.append_nil]
      exact h.nodup
    · rw [← List.concat_eq_append]
      exact h.nodup.concat hnew
  mem_iff := by
    intro j
    have htaken : j ∈ taken → j = i := by
      rcases h.notMem_of_taken hcall heffect with rfl | ⟨rfl, -⟩
      · exact fun hj => absurd hj List.not_mem_nil
      · exact List.mem_singleton.mp
    rw [List.mem_append, h.mem_iff]
    by_cases hj : j = i
    · subst hj
      rw [hcall, getElem?_self hcall hcalls]
      simpa [or_comm] using (h.hasBegun_iff hcall heffect).symm
    · rw [getElem?_of_ne hcalls hj, or_iff_left (fun hmem => hj (htaken hmem))]
  checked := by
    intro j call hj
    rcases getElem?_cases hcall hcalls hj with ⟨-, rfl⟩ | ⟨-, hj'⟩
    · exact h.checked_of_effect hcall heffect
    · exact h.checked hj'

end Enlisted

/-- **The calls that were given a lock are those that have begun, each once.** -/
theorem Run.enlisted {p : Publisher} {w : World σ τ} {requests : List SyncRequest}
    {dates : Nat → Option Timestamp} (h : Run p w requests order dates c) : Enlisted order c := by
  refine h.invariant (P := fun order _ c => Enlisted order c) (.new p w requests) ?_
    fun _ _ hc => ⟨hc.nodup, hc.mem_iff, hc.checked⟩
  intro _ _ _ _ _ _ _ _ _ hc hcall hmove
  obtain ⟨phase', heffect, hcalls⟩ := hmove.exists_effect
  exact hc.effect hcall heffect hcalls

end Coordinator

end PoolFeed
