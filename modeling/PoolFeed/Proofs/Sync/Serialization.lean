import PoolFeed.Proofs.Sync.InTurn
import PoolFeed.Proofs.Sync.Session

/-!
# Calls side by side and one after the other

Calls that sync at the same time take turns within a chain, so what a chain sees of them is what it
would see if the calls ran one after the other, in the order in which they were given a lock, each
at the time that the clock showed when it took its id. A call that is not done yet is as far as it
would be after some steps of its cycle.

Nothing of this holds for a transport that refuses everything from some number of payloads on while
calls of several chains run: that number is reached earlier or later in a cycle, as the payloads of
the other chains come in.

## Main statements

* `Coordinator.Serialized.effect` — a move keeps every call of a chain to its cycle in turn
* `Coordinator.Settled.effect` — a move settles when a call runs in turn, once it takes its id
* `Coordinator.Run.serializable` — calls side by side come to what they come to in turn
-/

namespace PoolFeed

namespace Coordinator

variable {p : Publisher} {requests : List SyncRequest} {times : Nat → Timestamp} {w : Bench}
  {order : List Nat} {dates : Nat → Option Timestamp} {i : Nat} {request : SyncRequest}

/-! ## The calls of a chain in turn -/

/-- What the calls of a chain have done, next to what they come to one after the other. -/
structure Serialized (p : Publisher) (requests : List SyncRequest) (times : Nat → Timestamp)
    (w : Bench) (chain : String) (order : List Nat)
    (c : Coordinator MemoryStore RecordingTransport) : Prop where
  inTurn : ∀ {front back : List Nat} {i : Nat} {call : Call}, order = front ++ i :: back →
    c.calls[i]? = some call → call.request.chain = chain →
      InTurn p call (found p requests times w front i) c.world (serial p requests times w order)
  /-- While no cycle of the chain is under way, the chain is as it is after all of them in turn. -/
  idle : (∀ {i : Nat} {call : Call}, c.calls[i]? = some call → call.request.chain = chain →
      call.phase.cycle? = none) →
    Bench.Alike id p.topics chain c.world (serial p requests times w order)

/-- A place in a list with one more entry: the last one, or one of those before. -/
theorem split_concat {α : Type u} {l front back : List α} {a b : α}
    (h : l ++ [a] = front ++ b :: back) :
    front = l ∧ b = a ∨ ∃ back', l = front ++ b :: back' := by
  rcases List.eq_nil_or_concat back with rfl | ⟨back', x, rfl⟩
  · obtain ⟨hfront, hlast⟩ := List.append_inj' h rfl
    cases hlast
    exact Or.inl ⟨hfront.symm, rfl⟩
  · rw [List.concat_eq_append, ← List.cons_append, ← List.append_assoc] at h
    exact Or.inr ⟨back', (List.append_inj' h rfl).1⟩

variable {c c' : Coordinator MemoryStore RecordingTransport} {phase phase' : Phase}
  {taken : List Nat} {world : Bench} {chain : String}

/-! ## What a run leaves alone -/

namespace Run

theorem failAfter_eq (h : Run p w requests order dates c) :
    c.world.transport.failAfter = w.transport.failAfter := by
  refine h.invariant (P := fun _ _ c => c.world.transport.failAfter = w.transport.failAfter)
    rfl ?_ ?_
  · intro _ _ c c' _ _ _ _ _ hc _ hmove
    obtain ⟨phase', heffect, -⟩ := hmove.exists_effect
    generalize c'.world = world at heffect ⊢
    cases heffect with
    | stepped => exact (Cycle.failAfter_step ..).trans hc
    | _ => exact hc
  · intro _ _ _ _ _ hc
    exact hc

/-- The cycle of a call has messages of its own chain only. -/
theorem ofChain (h : Run p w requests order dates c) : ∀ {i : Nat} {call : Call} {cycle : Cycle},
    c.calls[i]? = some call → call.phase.cycle? = some cycle →
      cycle.OfChain call.request.chain := by
  refine h.invariant (P := fun _ _ c => ∀ {i : Nat} {call : Call} {cycle : Cycle},
    c.calls[i]? = some call → call.phase.cycle? = some cycle → cycle.OfChain call.request.chain)
    ?_ ?_ fun _ _ hc => hc
  · intro i call cycle hcall hcycle
    rw [phase_of_new hcall] at hcycle
    cases hcycle
  · intro _ _ c c' i request phase _ _ hc hcall hmove j call next hj hnext
    obtain ⟨phase', heffect, hcalls⟩ := hmove.exists_effect
    rcases getElem?_cases hcall hcalls hj with ⟨-, rfl⟩ | ⟨-, hj'⟩
    · have hnext : phase'.cycle? = some next := hnext
      have hold : ∀ {cycle : Cycle}, phase.cycle? = some cycle → cycle.OfChain request.chain :=
        fun hcycle => hc hcall hcycle
      generalize c'.world = world at heffect
      cases heffect with
      | same _ hcycle => exact hold (hcycle.symm.trans hnext)
      | refused => cases hnext
      | acquired _ _ _ _ hload =>
        rw [hload] at hnext
        cases hnext
        trivial
      | stepped hphase hstep =>
        rw [hstep] at hnext
        cases hnext
        exact (hold (congrArg Phase.cycle? hphase)).step c.world
      | released _ _ hnone =>
        rw [hnone] at hnext
        cases hnext
    · exact hc hj' hnext

/-- What is asked by a call. -/
theorem getElem?_requests (h : Run p w requests order dates c)
    (hcall : c.calls[i]? = some ⟨request, phase⟩) : requests[i]? = some request := by
  rw [← h.kept.2, List.getElem?_map, hcall]
  rfl

end Run

/-! ## Moves of calls in turn -/

namespace Serialized

/-- A chain does not notice what calls of other chains do, if nobody counts payloads. -/
theorem effect_of_ne (hrun : Run p w requests order dates c)
    (hnone : w.transport.failAfter = none) (h : Serialized p requests times w chain order c)
    (hcall : c.calls[i]? = some ⟨request, phase⟩) (hchain : chain ≠ request.chain)
    (heffect : Effect c i request phase phase' taken world) (hworld : c'.world = world)
    (hcalls : c'.calls = (c.setPhase i phase').calls) :
    Serialized p requests times w chain (order ++ taken) c' := by
  have hlimit : c.world.transport.failAfter = none := hrun.failAfter_eq.trans hnone
  have hlimit' : (serial p requests times w order).transport.failAfter = none :=
    (failAfter_serial p requests times w order).trans hnone
  have hmoved : Bench.Unmoved p.topics chain c.world c'.world := by
    rw [hworld]
    cases heffect with
    | stepped hphase =>
      have hcycle := congrArg Phase.cycle? hphase
      rw [hrun.kept.1]
      exact Cycle.unmoved_step (hrun.ofChain hcall hcycle) hchain c.world
    | _ => exact .refl p.topics chain c.world
  have hafter : Bench.Unmoved p.topics chain (serial p requests times w order)
      (serial p requests times w (order ++ taken)) := by
    rcases hrun.enlisted.notMem_of_taken hcall heffect with rfl | ⟨rfl, -⟩
    · rw [List.append_nil]
      exact .refl p.topics chain _
    · rw [serial_concat (hrun.getElem?_requests hcall)]
      exact (SyncRequest.unmoved_sync hchain (found p requests times w order i)).of_now
  refine ⟨?_, ?_⟩
  · intro front back j call hsplit hj hjchain
    rcases getElem?_cases hcall hcalls hj with ⟨-, rfl⟩ | ⟨hne, hj'⟩
    · exact absurd hjchain.symm hchain
    · obtain ⟨back', hsplit'⟩ : ∃ back', order = front ++ j :: back' := by
        rcases hrun.enlisted.notMem_of_taken hcall heffect with rfl | ⟨rfl, -⟩
        · exact ⟨back, by rw [← hsplit, List.append_nil]⟩
        · rcases split_concat hsplit with ⟨-, rfl⟩ | hsplit'
          · exact absurd rfl hne
          · exact hsplit'
      have hin := h.inTurn hsplit' hj' hjchain
      rw [← hjchain] at hmoved hafter
      exact (hin.unmoved hmoved hlimit).unmoved_after hafter hlimit'
  · intro hidle
    refine ((h.idle ?_).of_unmoved_left hmoved hlimit).of_unmoved_right hafter hlimit'
    intro j call hj hjchain
    have hne : j ≠ i := by
      rintro rfl
      rw [hcall] at hj
      cases hj
      exact hchain hjchain.symm
    exact hidle ((getElem?_of_ne hcalls hne).trans hj) hjchain

/-- Calls keep to their cycles in turn if each of them does, the one that moved and the others. -/
theorem inTurn_of_moved (h : Serialized p requests times w chain order c)
    (hcall : c.calls[i]? = some ⟨request, phase⟩)
    (hcalls : c'.calls = (c.setPhase i phase').calls)
    (hself : ∀ {front back : List Nat} {after : Bench}, order = front ++ i :: back →
      InTurn p ⟨request, phase⟩ (found p requests times w front i) c.world after →
        InTurn p ⟨request, phase'⟩ (found p requests times w front i) c'.world after)
    (hothers : ∀ {j : Nat} {call : Call} {before after : Bench}, j ≠ i → c.calls[j]? = some call →
      call.request.chain = chain → InTurn p call before c.world after →
        InTurn p call before c'.world after)
    {front back : List Nat} {j : Nat} {call : Call} (hsplit : order = front ++ j :: back)
    (hj : c'.calls[j]? = some call) (hjchain : call.request.chain = chain) :
    InTurn p call (found p requests times w front j) c'.world
      (serial p requests times w order) := by
  rcases getElem?_cases hcall hcalls hj with ⟨rfl, rfl⟩ | ⟨hne, hj'⟩
  · exact hself hsplit (h.inTurn hsplit hcall hjchain)
  · exact hothers hne hj' hjchain (h.inTurn hsplit hj' hjchain)

/-- Before a move that ends with no cycle under way there was none, except for that of the call. -/
theorem idle_before (hcall : c.calls[i]? = some ⟨request, phase⟩)
    (hcalls : c'.calls = (c.setPhase i phase').calls) (hself : phase.cycle? = none)
    (hidle : ∀ {j : Nat} {call : Call}, c'.calls[j]? = some call → call.request.chain = chain →
      call.phase.cycle? = none) {j : Nat} {call : Call} (hj : c.calls[j]? = some call)
    (hjchain : call.request.chain = chain) : call.phase.cycle? = none := by
  by_cases hne : j = i
  · subst hne
    rw [hcall] at hj
    cases hj
    exact hself
  · exact hidle ((getElem?_of_ne hcalls hne).trans hj) hjchain

section Self

variable (hrun : Run p w requests order dates c)
  (h : Serialized p requests times w request.chain order c)
  (hcall : c.calls[i]? = some ⟨request, phase⟩) (hcalls : c'.calls = (c.setPhase i phase').calls)
include hrun h hcall hcalls

omit hrun in
/-- A move that leaves the cycle of its call as it is, and the world too. -/
theorem still (hworld : c'.world = c.world) (hcycle : phase'.cycle? = phase.cycle?)
    (hself : ∀ {before after : Bench}, InTurn p ⟨request, phase⟩ before c.world after →
      InTurn p ⟨request, phase'⟩ before c.world after) :
    Serialized p requests times w request.chain order c' := by
  refine ⟨h.inTurn_of_moved hcall hcalls ?_ ?_, ?_⟩
  · intro _ _ _ _ hin
    rw [hworld]
    exact hself hin
  · intro _ _ _ _ _ _ _ hin
    rwa [hworld]
  · intro hidle
    rw [hworld]
    have hnone : phase'.cycle? = none := hidle (getElem?_self hcall hcalls) rfl
    exact h.idle (idle_before hcall hcalls (hcycle.symm.trans hnone) hidle)

/-- A call that is given the lock finds the chain as the calls in front of it leave it in turn. -/
theorem acquired {lock : Nat} (hworld : c'.world = c.world) (hlock : phase.lock? = some lock)
    (hcycle : phase.cycle? = none) (hresult : phase.result? = none)
    (hfree : ∀ call ∈ c.calls, call.phase.held? ≠ some lock)
    (hload : phase'.cycle? = some .load) :
    Serialized p requests times w request.chain (order ++ [i]) c' := by
  have hmoved := getElem?_self hcall hcalls
  have hnone : ∀ {j : Nat} {call : Call}, c.calls[j]? = some call →
      call.request.chain = request.chain → call.phase.cycle? = none := by
    intro j call hj hjchain
    have hheld := hrun.guarded.held?_eq_none_of_free hcall hlock hfree hj hjchain
    rw [← Option.not_isSome_iff_eq_none, Phase.isSome_cycle?, hheld]
    exact Bool.false_ne_true
  refine ⟨?_, ?_⟩
  · intro front back j call hsplit hj hjchain
    rw [hworld]
    rcases split_concat hsplit with ⟨rfl, rfl⟩ | ⟨back', hsplit'⟩
    · rw [hmoved] at hj
      cases hj
      rw [serial_concat (hrun.getElem?_requests hcall)]
      exact .load (h.idle hnone) hload
    · rcases getElem?_cases hcall hcalls hj with ⟨rfl, rfl⟩ | ⟨-, hj'⟩
      · -- A call that has not begun has no place yet.
        have hbegun := (h.inTurn hsplit' hcall rfl).begun
        simp [hcycle, hresult] at hbegun
      · exact (h.inTurn hsplit' hj' hjchain).of_cycle?_eq_none (hnone hj' hjchain)
  · intro hidle
    have hnone' : phase'.cycle? = none := hidle hmoved rfl
    exact absurd (hnone'.symm.trans hload) nofun

omit h hcalls in
/-- While the cycle of a call is under way, no other one of the chain is. -/
theorem cycle?_eq_none_of_ne (hcycle : phase.cycle?.isSome) {j : Nat} {call : Call} (hne : j ≠ i)
    (hj : c.calls[j]? = some call) (hjchain : call.request.chain = request.chain) :
    call.phase.cycle? = none := by
  by_contra hsome
  refine hne (hrun.guarded.eq_of_held hj hcall hjchain ?_ ?_)
  · rw [← Phase.isSome_cycle?]
    exact Option.isSome_iff_ne_none.mpr hsome
  · rw [← Phase.isSome_cycle?]
    exact hcycle

/-- A step of a cycle is one of the cycle in turn, if the id is taken at the time meant for it. -/
theorem stepped {cycle : Cycle} (hworld : c'.world = (cycle.step p request c.world).world)
    (hcycle : phase.cycle? = some cycle)
    (hclock : ∀ previous, cycle = .allocate previous → c.world.now = times i)
    (hnext : phase'.cycle? = some (cycle.step p request c.world).next) :
    Serialized p requests times w request.chain order c' := by
  refine ⟨h.inTurn_of_moved hcall hcalls ?_ ?_, ?_⟩
  · intro front _ _ _ hin
    rw [hworld]
    exact hin.stepped hcycle hclock hnext
  · intro j call _ _ hne hj hjchain hin
    have hsome := Option.isSome_of_eq_some hcycle
    exact hin.of_cycle?_eq_none (cycle?_eq_none_of_ne hrun hcall hsome hne hj hjchain)
  · intro hidle
    have hnone : phase'.cycle? = none := hidle (getElem?_self hcall hcalls) rfl
    exact absurd (hnone.symm.trans hnext) nofun

/-- A call that gives back the lock leaves the chain as the calls up to it leave it in turn. -/
theorem released {cycle : Cycle} {outcome : Except SyncError UpdateResult}
    (hworld : c'.world = c.world) (hcycle : phase.cycle? = some cycle)
    (hout : cycle.outcome? = some outcome) (hnone : phase'.cycle? = none)
    (hresult : phase'.result? = some outcome) :
    Serialized p requests times w request.chain order c' := by
  have hcheck := hrun.enlisted.check_of_cycle? hcall hcycle
  refine ⟨h.inTurn_of_moved hcall hcalls ?_ ?_, ?_⟩
  · intro _ _ _ _ hin
    exact hin.released hcheck hcycle hout hnone hresult
  · intro _ _ _ _ _ _ _ hin
    rwa [hworld]
  · intro _
    rw [hworld]
    obtain ⟨front, back, hsplit⟩ := List.append_of_mem (hrun.enlisted.mem_of_cycle? hcall hcycle)
    exact (h.inTurn hsplit hcall rfl).alike_of_released hcheck hcycle hout

/-- **A move of a call of the chain** keeps all of them to their cycles in turn. -/
theorem effect_of_self (heffect : Effect c i request phase phase' taken world)
    (hworld : c'.world = world) (hclock : phase.takesId = true → c.world.now = times i) :
    Serialized p requests times w request.chain (order ++ taken) c' := by
  cases heffect with
  | same _ hcycle hresult =>
    rw [List.append_nil]
    exact h.still hcall hcalls hworld hcycle fun hin => hin.congr hcycle hresult
  | refused hentering =>
    rw [List.append_nil]
    subst hentering
    refine h.still hcall hcalls hworld rfl fun hin => ?_
    rcases hin.begun with hcycle | hresult
    · cases hcycle
    · cases hresult
  | acquired hlock hcycle hresult hfree hload =>
    exact h.acquired hrun hcall hcalls hworld hlock hcycle hresult hfree hload
  | stepped hphase hnext =>
    rw [List.append_nil]
    rw [hrun.kept.1] at hworld hnext
    subst hphase
    refine h.stepped hrun hcall hcalls hworld rfl ?_ hnext
    rintro previous rfl
    exact hclock rfl
  | released hcycle hout hnone hresult =>
    rw [List.append_nil]
    exact h.released hrun hcall hcalls hworld hcycle hout hnone hresult

end Self

theorem new (p : Publisher) (requests : List SyncRequest) (times : Nat → Timestamp) (w : Bench)
    (chain : String) : Serialized p requests times w chain [] (.new p w requests) where
  inTurn := by
    intro front back i call hsplit
    exact absurd hsplit.symm (List.append_ne_nil_of_right_ne_nil front (List.cons_ne_nil i back))
  idle := fun _ => .refl id p.topics chain w

theorem pass (h : Serialized p requests times w chain order c) (now : Timestamp)
    (clock : Duration) : Serialized p requests times w chain order
      { c with world := { c.world with now }, clock } where
  inTurn := fun hsplit hcall hchain => (h.inTurn hsplit hcall hchain).now now
  idle := fun hidle => (h.idle hidle).now now _

end Serialized

/--
Whether payloads that are counted are all of one chain: if the transport refuses everything from
some number of payloads on, the calls are all of the chain.
-/
def CountsAlone (w : Bench) (requests : List SyncRequest) (chain : String) : Prop :=
  w.transport.failAfter = none ∨ ∀ r ∈ requests, r.chain = chain

/-- **A move keeps every call of a chain to its cycle run in turn.** -/
theorem Serialized.effect (hrun : Run p w requests order dates c)
    (hcount : CountsAlone w requests chain)
    (h : Serialized p requests times w chain order c)
    (hcall : c.calls[i]? = some ⟨request, phase⟩)
    (heffect : Effect c i request phase phase' taken c'.world)
    (hcalls : c'.calls = (c.setPhase i phase').calls)
    (hclock : phase.takesId = true → c.world.now = times i) :
    Serialized p requests times w chain (order ++ taken) c' := by
  by_cases hchain : chain = request.chain
  · subst hchain
    exact h.effect_of_self hrun hcall hcalls heffect rfl hclock
  · have hnone : w.transport.failAfter = none :=
      hcount.resolve_right fun hall =>
        hchain (hall request (List.mem_of_getElem? (hrun.getElem?_requests hcall))).symm
    exact h.effect_of_ne hrun hnone hcall hchain heffect rfl hcalls

/-! ## The times at which ids are taken -/

/-- A call that has taken its id will not take another one. -/
theorem Effect.hasId (h : Effect c i request phase phase' taken world) (hid : phase.hasId = true) :
    phase'.hasId = true := by
  cases h with
  | same _ hcycle hresult =>
    rw [Phase.hasId, hcycle, hresult]
    exact hid
  | refused => rfl
  | acquired _ hcycle hresult =>
    rw [Phase.hasId, hcycle, hresult] at hid
    cases hid
  | stepped hphase hnext =>
    rw [Phase.hasId_of_cycle? (congrArg Phase.cycle? hphase)] at hid
    rw [Phase.hasId_of_cycle? hnext]
    exact Cycle.hasId_step (Or.inl hid)
  | released _ _ _ hresult =>
    rw [Phase.hasId, hresult]
    exact Bool.or_true _

/-- A call that takes its id by a move has it behind the move. -/
theorem Effect.hasId_of_takesId (h : Effect c i request phase phase' taken world)
    (htakes : phase.takesId = true) : phase'.hasId = true := by
  obtain ⟨lock, previous, rfl⟩ := Phase.exists_of_takesId htakes
  cases h with
  | same hstays => cases hstays
  | refused hentering => cases hentering
  | acquired _ hcycle => cases hcycle
  | stepped hphase hnext =>
    cases hphase
    rw [Phase.hasId_of_cycle? hnext]
    exact Cycle.hasId_step (Or.inr ⟨previous, rfl⟩)
  | released hcycle hout =>
    cases hcycle
    cases hout

/-- Whether some times are those at which calls took their ids, for the calls that have. -/
def OnDate (dates : Nat → Option Timestamp) (times : Nat → Timestamp) : Prop :=
  ∀ {i : Nat} {t : Timestamp}, dates i = some t → times i = t

/-- One more date leaves the times of the others as they are. -/
theorem OnDate.of_update {t : Timestamp} (h : OnDate (Function.update dates i (some t)) times)
    (hopen : dates i = none) : OnDate dates times := by
  intro j s hs
  have hji : j ≠ i := by
    rintro rfl
    rw [hopen] at hs
    cases hs
  exact h ((Function.update_of_ne hji ..).trans hs)

/--
The times at which calls have taken their ids are settled, and the calls keep to their cycles in
turn at these times, whatever the other times will be.
-/
structure Settled (p : Publisher) (requests : List SyncRequest) (w : Bench)
    (dates : Nat → Option Timestamp) (order : List Nat)
    (c : Coordinator MemoryStore RecordingTransport) : Prop where
  hasId : ∀ {i : Nat} {call : Call} {t : Timestamp}, dates i = some t → c.calls[i]? = some call →
    call.phase.hasId = true
  serialized : ∀ {times : Nat → Timestamp}, OnDate dates times → ∀ {chain : String},
    CountsAlone w requests chain → Serialized p requests times w chain order c

/-- **A move settles the time of its call if it takes its id.** -/
theorem Settled.effect (h : Settled p requests w dates order c)
    (hrun : Run p w requests order dates c) (hcall : c.calls[i]? = some ⟨request, phase⟩)
    (heffect : Effect c i request phase phase' taken c'.world)
    (hcalls : c'.calls = (c.setPhase i phase').calls) :
    Settled p requests w (c.dated i dates) (order ++ taken) c' := by
  have hkept : ∀ {j : Nat} {call : Call} {t : Timestamp}, dates j = some t →
      c'.calls[j]? = some call → call.phase.hasId = true := by
    intro j call t ht hj
    rcases getElem?_cases hcall hcalls hj with ⟨rfl, rfl⟩ | ⟨-, hj'⟩
    · exact heffect.hasId (h.hasId ht hcall)
    · exact h.hasId ht hj'
  rw [dated_eq hcall]
  by_cases htakes : phase.takesId = true
  · have hbefore : phase.hasId = false := Phase.hasId_of_takesId htakes
    have hopen : dates i = none := by
      cases ht : dates i with
      | none => rfl
      | some t => exact absurd (hbefore.symm.trans (h.hasId ht hcall)) Bool.false_ne_true
    rw [if_pos htakes]
    refine ⟨?_, ?_⟩
    · intro j call t ht hj
      by_cases hji : j = i
      · subst hji
        rw [getElem?_self hcall hcalls] at hj
        cases hj
        exact heffect.hasId_of_takesId htakes
      · rw [Function.update_of_ne hji] at ht
        exact hkept ht hj
    · intro times htimes chain hcount
      have hold := h.serialized (htimes.of_update hopen) hcount
      exact hold.effect hrun hcount hcall heffect hcalls fun _ =>
        (htimes (Function.update_self ..)).symm
  · rw [if_neg htakes]
    refine ⟨hkept, ?_⟩
    intro times htimes chain hcount
    exact (h.serialized htimes hcount).effect hrun hcount hcall heffect hcalls
      fun hnow => absurd hnow htakes

/-- Every run settles the times at which its calls took their ids. -/
theorem Run.settled (h : Run p w requests order dates c) :
    Settled p requests w dates order c := by
  refine h.invariant (P := fun order dates c => Settled p requests w dates order c) ?_ ?_ ?_
  · exact ⟨nofun, fun _ _ _ => .new ..⟩
  · intro _ _ _ _ _ _ _ _ hrun hsettled hcall hmove
    obtain ⟨phase', heffect, hcalls⟩ := hmove.exists_effect
    exact hsettled.effect hrun hcall heffect hcalls
  · intro _ _ _ now clock hsettled
    exact ⟨hsettled.hasId,
      fun htimes _ hcount => (hsettled.serialized htimes hcount).pass now clock⟩

/-! ## Runs -/

/--
What calls side by side come to, next to the calls that were given a lock, one after the other in
that order. Call `i` of the order runs when the clock shows `times i`.
-/
structure Serializable (p : Publisher) (w : Bench) (requests : List SyncRequest)
    (times : Nat → Timestamp) (order : List Nat)
    (c : Coordinator MemoryStore RecordingTransport) : Prop where
  /-- Of the calls of a chain, one at most is between taking and giving back a lock. -/
  exclusive : ∀ {i j : Nat} {a b : Call}, c.calls[i]? = some a → c.calls[j]? = some b →
    a.request.chain = b.request.chain → a.phase.held?.isSome → b.phase.held?.isSome → i = j
  /-- Calls of a chain refer to the same lock, whether they wait for it, hold it or gave it back. -/
  shared : ∀ {i j : Nat} {a b : Call} {lock lock' : Nat}, c.calls[i]? = some a →
    c.calls[j]? = some b → a.request.chain = b.request.chain → a.phase.lock? = some lock →
      b.phase.lock? = some lock' → lock = lock'
  /-- A call is given a lock once. -/
  nodup : order.Nodup
  /-- The calls that were given a lock are those that have begun. -/
  mem_iff : ∀ {i : Nat}, i ∈ order ↔ ∃ call, c.calls[i]? = some call ∧ call.HasBegun
  /-- A call that was turned down comes to just that. -/
  refused : ∀ {i : Nat} {call : Call} {e : SyncError} {outcome : Except SyncError UpdateResult},
    c.calls[i]? = some call → call.request.check = .error e → call.phase.result? = some outcome →
      outcome = .error e
  /-- Any other call comes to what it comes to in turn. -/
  outcomes : ∀ {chain : String}, CountsAlone w requests chain → ∀ {front back : List Nat} {i : Nat}
    {call : Call} {outcome : Except SyncError UpdateResult}, order = front ++ i :: back →
      c.calls[i]? = some call → call.request.chain = chain → call.phase.result? = some outcome →
        outcome = (call.request.sync p (found p requests times w front i)).outcome
  /-- While a call holds the lock of its chain, the chain is as after some steps of it in turn. -/
  underWay : ∀ {chain : String}, CountsAlone w requests chain → ∀ {front back : List Nat} {i : Nat}
    {call : Call}, order = front ++ i :: back → c.calls[i]? = some call →
      call.request.chain = chain → call.phase.held?.isSome → ∃ n,
        Bench.Same p.topics chain c.world
          (Cycle.walk p call.request n (found p requests times w front i) .load).1
  /-- While no call of a chain holds a lock, the chain is as it is after all of them in turn. -/
  idle : ∀ {chain : String}, CountsAlone w requests chain →
    (∀ {i : Nat} {call : Call}, c.calls[i]? = some call → call.request.chain = chain →
      call.phase.held? = none) →
    Bench.Same p.topics chain c.world (serial p requests times w order)

/--
**Calls side by side come to what they come to one after the other**, in the order in which they
were given the lock of their chain, each at the time at which it took its id. At no time does a
chain have two calls that hold a lock, or two locks.
-/
theorem Run.serializable (h : Run p w requests order dates c) {times : Nat → Timestamp}
    (htimes : OnDate dates times) : Serializable p w requests times order c := by
  have hguarded := h.guarded
  have hlisted := h.enlisted
  have hserialized : ∀ {chain : String}, CountsAlone w requests chain →
      Serialized p requests times w chain order c := h.settled.serialized htimes
  refine
    { exclusive := fun ha hb hchain => hguarded.eq_of_held ha hb hchain
      shared := ?_
      nodup := hlisted.nodup
      mem_iff := hlisted.mem_iff
      refused := ?_
      outcomes := fun hcount _ _ _ _ _ hsplit hcall hchain hresult =>
        ((hserialized hcount).inTurn hsplit hcall hchain).ended hresult
      underWay := ?_
      idle := ?_ }
  · intro i j a b lock lock' ha hb hchain hlock hlock'
    have hfind := hguarded.listed ha hlock
    rw [hchain, hguarded.listed hb hlock'] at hfind
    exact (Option.some.inj hfind).symm
  · intro i call e outcome hcall hcheck hresult
    rcases hlisted.checked hcall with hentering | hok | ⟨e', he', hrefused⟩
    · rw [hentering] at hresult
      cases hresult
    · rw [hcheck] at hok
      cases hok
    · rw [hcheck] at he'
      cases he'
      exact Option.some.inj (hresult.symm.trans hrefused)
  · intro chain hcount front back i call hsplit hcall hchain hheld
    rw [← Phase.isSome_cycle?] at hheld
    obtain ⟨cycle, hcycle⟩ := Option.isSome_iff_exists.mp hheld
    subst hchain
    obtain ⟨n, -, hworld⟩ := ((hserialized hcount).inTurn hsplit hcall rfl).underWay hcycle
    exact ⟨n, hworld.toAgrees.same Function.injective_id⟩
  · intro chain hcount hidle
    refine ((hserialized hcount).idle ?_).toAgrees.same Function.injective_id
    intro i call hcall hchain
    rw [← Option.not_isSome_iff_eq_none, Phase.isSome_cycle?, hidle hcall hchain]
    exact Bool.false_ne_true

/-! ## Moves in a row -/

/-- Moves of some calls in a row, with the calls that are given a lock and take their ids. -/
def follow? : List Nat → List Nat × (Nat → Option Timestamp) ×
    Coordinator MemoryStore RecordingTransport → Option (List Nat × (Nat → Option Timestamp) ×
      Coordinator MemoryStore RecordingTransport)
  | [], reached => some reached
  | i :: moves, (order, dates, c) =>
    match c.step? i with
    | some c' => follow? moves (order ++ c.granted i, c.dated i dates, c')
    | none => none

theorem Run.follow {moves order' : List Nat} {dates' : Nat → Option Timestamp}
    (h : Run p w requests order dates c)
    (hmoves : follow? moves (order, dates, c) = some (order', dates', c')) :
    Run p w requests order' dates' c' := by
  induction moves generalizing order dates c with
  | nil =>
    cases hmoves
    exact h
  | cons i moves ih =>
    unfold follow? at hmoves
    split at hmoves
    · next d hstep => exact ih (h.move hstep) hmoves
    · cases hmoves

/-! ## Two calls of a chain -/

namespace SideBySide

def empty : Bench := ⟨.empty, .new, ⟨0, 0⟩⟩

/-- Two whitelists for a chain, to be synced at the same time. -/
def rivals : List SyncRequest :=
  [⟨"base", Whitelist.empty.insert Sample.one, false⟩,
    ⟨"base", Whitelist.empty.insert Sample.two, false⟩]

/-- The first call takes its id after a second, and the other one after two. -/
def idDates : Nat → Option Timestamp :=
  Function.update (Function.update (fun _ => none) 0 (some ⟨1, 0⟩)) 1 (some ⟨2, 0⟩)

def idTimes : Nat → Timestamp
  | 0 => ⟨1, 0⟩
  | _ => ⟨2, 0⟩

theorem onDate : OnDate idDates idTimes := by
  intro i t ht
  match i with
  | 0 => exact Option.some.inj ht
  | 1 => exact Option.some.inj ht
  | _ + 2 => cases ht

/-- The second call waits for the first one, takes its lock, and is under way when that leaves. -/
theorem serializable_rivals : ∃ c, Run Sample.publisher empty rivals [0, 1] idDates c
    ∧ OnDate idDates idTimes ∧ Serializable Sample.publisher empty rivals idTimes [0, 1] c := by
  obtain ⟨c, dates₁, c', dates₂, d, hfirst, hsecond, hthird⟩ : ∃ c dates₁ c' dates₂ d,
      follow? [0, 1, 0, 0] ([], fun _ => none, .new Sample.publisher empty rivals)
        = some ([0], dates₁, c)
      ∧ follow? [0, 0, 0, 0, 0, 1, 1]
        ([0], dates₁, { c with world := { c.world with now := ⟨1, 0⟩ }, clock := .ofSeconds 1 })
        = some ([0, 1], dates₂, c')
      ∧ follow? [1, 0]
        ([0, 1], dates₂,
          { c' with world := { c'.world with now := ⟨2, 0⟩ }, clock := .ofSeconds 2 })
        = some ([0, 1], idDates, d) := ⟨_, _, _, _, _, rfl, rfl, rfl⟩
  have hloaded := Run.new.follow hfirst
  have hstored := (hloaded.pass ⟨1, 0⟩ (.ofSeconds 1)).follow hsecond
  have hrun := (hstored.pass ⟨2, 0⟩ (.ofSeconds 2)).follow hthird
  exact ⟨d, hrun, onDate, hrun.serializable onDate⟩

/-! ## Two chains and a limit -/

/-- A transport that takes two payloads. -/
def limited : Bench := ⟨.empty, { RecordingTransport.new with failAfter := some 2 }, ⟨0, 0⟩⟩

/-- A whitelist for each of two chains. -/
def strangers : List SyncRequest :=
  [⟨"base", Whitelist.empty.insert Sample.one, false⟩,
    ⟨"ethereum", Whitelist.empty.insert Sample.two, false⟩]

/-- Whichever of two calls runs first in turn succeeds, on the limited transport too. -/
theorem succeeds_in_turn (times : Nat → Timestamp) : ∀ {i : Nat} {request : SyncRequest},
    strangers[i]? = some request → ∃ r,
      (request.sync Sample.publisher
        (found Sample.publisher strangers times limited [] i)).outcome = .ok r := by
  intro i request hrequest
  match i with
  | 0 =>
    cases hrequest
    rw [SyncRequest.sync_of_check rfl]
    exact ⟨_, (Cycle.runFrom_of_walk (n := 5) rfl).1⟩
  | 1 =>
    cases hrequest
    rw [SyncRequest.sync_of_check rfl]
    exact ⟨_, (Cycle.runFrom_of_walk (n := 5) rfl).1⟩
  | _ + 2 => cases hrequest

/--
Two calls of different chains, both cut short by a transport that takes two payloads. Neither comes
to what it comes to if it runs first, and one of them would in any order.
-/
theorem not_serializable_limited : ∃ c dates, Run Sample.publisher limited strangers [0, 1] dates c
    ∧ ∀ {i : Nat} {request : SyncRequest}, strangers[i]? = some request →
      ∃ outcome, (c.phase? i).bind Phase.result? = some outcome ∧ ∀ times, outcome
        ≠ (request.sync Sample.publisher
          (found Sample.publisher strangers times limited [] i)).outcome := by
  obtain ⟨c, dates, e, e', hmoves, hfirst, hsecond⟩ : ∃ c dates e e',
      follow? [0, 0, 0, 0, 1, 1, 1, 1, 0, 1, 0, 1, 0, 1, 0, 1]
        ([], fun _ => none, .new Sample.publisher limited strangers) = some ([0, 1], dates, c)
      ∧ (c.phase? 0).bind Phase.result? = some (.error e)
      ∧ (c.phase? 1).bind Phase.result? = some (.error e') := ⟨_, _, _, _, rfl, rfl, rfl⟩
  refine ⟨c, dates, Run.new.follow hmoves, fun {i request} hrequest => ?_⟩
  have hfailed : ∃ e, (c.phase? i).bind Phase.result? = some (.error e) := by
    match i with
    | 0 => exact ⟨e, hfirst⟩
    | 1 => exact ⟨e', hsecond⟩
    | _ + 2 => cases hrequest
  obtain ⟨e, he⟩ := hfailed
  refine ⟨.error e, he, fun times heq => ?_⟩
  obtain ⟨r, hr⟩ := succeeds_in_turn times hrequest
  rw [hr] at heq
  cases heq

end SideBySide

end Coordinator

end PoolFeed
