import Mathlib.Logic.Function.Basic
import PoolFeed.Proofs.Data.SortedMap
import PoolFeed.Sync.Coordinator

/-!
# The locks of calls side by side

Calls of a chain find their lock through a table whose entries come and go: an entry is made for the
first call of a chain and dropped by a call that is the last to refer to its lock. So a lock that a
call refers to has to stand in the table for as long as it does, or another call would make a
second one.

A run of calls is any order of their moves. A call that waits may take a lock that is free although
others asked for it before, and time passes as it likes. A run remembers the order in which locks
were given out, and what the clock showed whenever a call took its id.

## Main statements

* `Coordinator.exists_move` — what a move of a call is
* `Coordinator.Move.guarded` — a move keeps every lock in use in the table, held by one call at most
* `Coordinator.Run.guarded` — so does a run
-/

namespace PoolFeed

/-- An entry that only one place of a list may hold. -/
theorem eq_of_countP_le_one {α : Type u} {P : α → Bool} {l : List α} (h : l.countP P ≤ 1)
    {i j : Nat} {a b : α} (hi : l[i]? = some a) (ha : P a) (hj : l[j]? = some b) (hb : P b) :
    i = j := by
  induction l generalizing i j with
  | nil => cases hi
  | cons x l ih =>
    have hnone : P x → ∀ {k : Nat} {y : α}, l[k]? = some y → ¬ P y := by
      intro hx k y hk hy
      rw [List.countP_cons_of_pos hx] at h
      have hzero : l.countP P = 0 := by omega
      exact List.countP_eq_zero.mp hzero y (List.mem_of_getElem? hk) hy
    cases i with
    | zero =>
      cases j with
      | zero => rfl
      | succ j =>
        cases hi
        exact absurd hb (hnone ha hj)
    | succ i =>
      cases j with
      | zero =>
        cases hj
        exact absurd ha (hnone hb hi)
      | succ j =>
        have hle : l.countP P ≤ 1 := Nat.le_trans (List.sublist_cons_self x l).countP_le h
        exact congrArg (· + 1) (ih hle hi hj)

namespace Phase

variable {phase : Phase} {lock : Nat}

/-- How far the cycle of a call is that holds its lock. -/
def cycle? : Phase → Option Cycle
  | .running _ cycle => some cycle
  | .resting _ _ next _ => some next
  | _ => none

/-- What a call has come to whose cycle has ended, or that was turned down. -/
def result? : Phase → Option (Except SyncError UpdateResult)
  | .leaving _ outcome => some outcome
  | .finished outcome => some outcome
  | _ => none

/-- Whether a call takes its id by its next move. -/
def takesId : Phase → Bool
  | .running _ (.allocate _) => true
  | _ => false

/-- A call refers to the lock that it holds. -/
theorem lock?_of_held? (h : phase.held? = some lock) : phase.lock? = some lock := by
  cases phase with
  | running => exact h
  | resting => exact h
  | _ => cases h

/-- Calls with a cycle under way are those that hold a lock. -/
theorem isSome_cycle? (phase : Phase) : phase.cycle?.isSome = phase.held?.isSome := by
  cases phase <;> rfl

end Phase

namespace Coordinator

variable {σ τ : Type} {c c' : Coordinator σ τ} {i j : Nat}

/-! ## Calls -/

theorem phase_of_new {p : Publisher} {w : World σ τ} {requests : List SyncRequest} {call : Call}
    (h : (Coordinator.new p w requests).calls[i]? = some call) : call.phase = .entering := by
  obtain ⟨request, -, rfl⟩ := List.mem_map.mp (List.mem_of_getElem? h)
  rfl

theorem getElem?_setPhase_self {call : Call} (h : c.calls[i]? = some call) (phase : Phase) :
    (c.setPhase i phase).calls[i]? = some { call with phase } := by
  simp [setPhase, h]

theorem getElem?_setPhase_of_ne (h : j ≠ i) (phase : Phase) :
    (c.setPhase i phase).calls[j]? = c.calls[j]? := by
  simp [setPhase, h.symm]

/-- A call behind a change of phase is the one that changed or one of those before. -/
theorem getElem?_setPhase_cases {call call' : Call} {phase : Phase} (h : c.calls[i]? = some call)
    (h' : (c.setPhase i phase).calls[j]? = some call') :
    j = i ∧ call' = { call with phase } ∨ j ≠ i ∧ c.calls[j]? = some call' := by
  by_cases hj : j = i
  · subst hj
    rw [getElem?_setPhase_self h] at h'
    exact Or.inl ⟨rfl, (Option.some.inj h').symm⟩
  · rw [getElem?_setPhase_of_ne hj] at h'
    exact Or.inr ⟨hj, h'⟩

theorem requests_setPhase (c : Coordinator σ τ) (i : Nat) (phase : Phase) :
    (c.setPhase i phase).calls.map (·.request) = c.calls.map (·.request) := by
  refine List.ext_getElem? fun j => ?_
  simp only [setPhase, List.getElem?_map, List.getElem?_modify]
  split
  · cases c.calls[j]? <;> rfl
  · cases c.calls[j]? <;> rfl

/-! ## Locks in use -/

/-- What keeps a chain from having two locks. -/
structure Guarded (c : Coordinator σ τ) : Prop where
  /-- The locks of the table have been given out. -/
  below : ∀ {chain : String} {lock : Nat}, c.locks.find? chain = some lock → lock < c.fresh
  /-- Each of them belongs to one chain. -/
  apart : ∀ {chain chain' : String} {lock : Nat}, c.locks.find? chain = some lock →
    c.locks.find? chain' = some lock → chain = chain'
  /-- A lock that a call refers to is the one that the table has for its chain. -/
  listed : ∀ {i : Nat} {call : Call} {lock : Nat}, c.calls[i]? = some call →
    call.phase.lock? = some lock → c.locks.find? call.request.chain = some lock
  /-- A lock is held by one call at most. -/
  exclusive : ∀ {i j : Nat} {a b : Call} {lock : Nat}, c.calls[i]? = some a → c.calls[j]? = some b →
    a.phase.held? = some lock → b.phase.held? = some lock → i = j

namespace Guarded

theorem new (p : Publisher) (w : World σ τ) (requests : List SyncRequest) :
    (Coordinator.new p w requests).Guarded := by
  refine ⟨nofun, nofun, ?_, ?_⟩
  · intro i call lock hcall hlock
    rw [phase_of_new hcall] at hlock
    cases hlock
  · intro i j a b lock ha _ hheld
    rw [phase_of_new ha] at hheld
    cases hheld

variable {request : SyncRequest} {phase phase' : Phase}

/-- A call may refer to the lock of its chain, and hold it if nobody else does. -/
theorem setPhase (h : c.Guarded) (hcall : c.calls[i]? = some ⟨request, phase⟩)
    (hlisted : ∀ lock, phase'.lock? = some lock → c.locks.find? request.chain = some lock)
    (hheld : ∀ lock, phase'.held? = some lock → ∀ {j : Nat} {call : Call},
      c.calls[j]? = some call → call.phase.held? = some lock → j = i) :
    (c.setPhase i phase').Guarded where
  below := h.below
  apart := h.apart
  listed := by
    intro j call lock hj hlock
    rcases getElem?_setPhase_cases hcall hj with ⟨-, rfl⟩ | ⟨-, hj⟩
    · exact hlisted lock hlock
    · exact h.listed hj hlock
  exclusive := by
    intro j k a b lock hj hk ha hb
    rcases getElem?_setPhase_cases hcall hj with ⟨rfl, rfl⟩ | ⟨-, hj'⟩
    · rcases getElem?_setPhase_cases hcall hk with ⟨rfl, rfl⟩ | ⟨-, hk'⟩
      · rfl
      · exact (hheld lock ha hk' hb).symm
    · rcases getElem?_setPhase_cases hcall hk with ⟨rfl, rfl⟩ | ⟨-, hk'⟩
      · exact hheld lock hb hj' ha
      · exact h.exclusive hj' hk' ha hb

/-- A call goes on with the lock that it holds. -/
theorem setPhase_of_held (h : c.Guarded) {lock : Nat} (hcall : c.calls[i]? = some ⟨request, phase⟩)
    (hold : phase.held? = some lock) (hnew : phase'.held? = some lock) :
    (c.setPhase i phase').Guarded := by
  have hlock? : phase'.lock? = some lock := Phase.lock?_of_held? hnew
  refine h.setPhase hcall ?_ ?_
  · intro l hl
    rw [hlock?] at hl
    cases hl
    exact h.listed hcall (Phase.lock?_of_held? hold)
  · intro l hl j call hj hheld
    rw [hnew] at hl
    cases hl
    exact h.exclusive hj hcall hheld hold

/-- A chain is given a lock that nobody refers to. -/
theorem insert (h : c.Guarded) {chain : String} (hnone : c.locks.find? chain = none) :
    Guarded { c with fresh := c.fresh + 2, locks := c.locks.insert chain c.fresh } := by
  have hcases : ∀ {chain' : String} {lock : Nat},
      (c.locks.insert chain c.fresh).find? chain' = some lock →
        chain' = chain ∧ lock = c.fresh ∨ c.locks.find? chain' = some lock ∧ lock < c.fresh := by
    intro chain' lock hfind
    rw [SortedMap.find?_insert] at hfind
    split at hfind
    · next heq => exact Or.inl ⟨heq, (Option.some.inj hfind).symm⟩
    · exact Or.inr ⟨hfind, h.below hfind⟩
  refine ⟨?_, ?_, ?_, h.exclusive⟩
  · intro chain' lock hfind
    show lock < c.fresh + 2
    rcases hcases hfind with ⟨-, rfl⟩ | ⟨-, hlt⟩
    · omega
    · omega
  · intro chain₁ chain₂ lock hfind₁ hfind₂
    rcases hcases hfind₁ with ⟨rfl, hlock₁⟩ | ⟨hfind₁, hlt₁⟩
    · rcases hcases hfind₂ with ⟨rfl, -⟩ | ⟨-, hlt₂⟩
      · rfl
      · omega
    · rcases hcases hfind₂ with ⟨rfl, hlock₂⟩ | ⟨hfind₂, -⟩
      · omega
      · exact h.apart hfind₁ hfind₂
  · intro j call lock hcall hlock
    have hfind := h.listed hcall hlock
    have hne : call.request.chain ≠ chain := by
      rintro rfl
      rw [hnone] at hfind
      cases hfind
    show (c.locks.insert chain c.fresh).find? _ = _
    rw [SortedMap.find?_insert, if_neg hne]
    exact hfind

theorem enter (h : c.Guarded) (hcall : c.calls[i]? = some ⟨request, phase⟩) :
    (c.enter i request.chain).Guarded := by
  unfold Coordinator.enter
  split
  · next lock hfind =>
    have hfresh : Guarded { c with fresh := c.fresh + 1 } :=
      ⟨fun hl => Nat.lt_succ_of_lt (h.below hl), h.apart, h.listed, h.exclusive⟩
    refine hfresh.setPhase hcall ?_ nofun
    intro l hl
    cases hl
    exact hfind
  · next hnone =>
    refine (h.insert hnone).setPhase hcall ?_ nofun
    intro l hl
    cases hl
    exact (SortedMap.find?_insert ..).trans (if_pos rfl)

/-- A call that is the last to refer to its lock may drop it from the table. -/
theorem leave (h : c.Guarded) {lock : Nat} {outcome : Except SyncError UpdateResult}
    (hcall : c.calls[i]? = some ⟨request, .leaving lock outcome⟩) :
    (c.leave i request.chain lock outcome).Guarded := by
  have hfinished : (c.setPhase i (.finished outcome)).Guarded := h.setPhase hcall nofun nofun
  unfold Coordinator.leave
  simp only
  split
  · next htwo =>
    have hfind : c.locks.find? request.chain = some lock := h.listed hcall rfl
    -- The table has one of the two references, so the other one is that of the call itself.
    have hlast : ∀ {j : Nat} {call : Call}, c.calls[j]? = some call →
        call.phase.lock? = some lock → j = i := by
      intro j call hj hlock
      have htable : 0 < c.locks.values.count lock :=
        List.count_pos_iff.mpr (SortedMap.mem_values_of_find? hfind)
      refine eq_of_countP_le_one (P := fun call => call.phase.lock? = some lock) ?_ hj
        (decide_eq_true hlock) hcall (decide_eq_true rfl)
      unfold references at htwo
      omega
    have hkept : ∀ {chain : String} {l : Nat},
        (c.locks.erase request.chain).find? chain = some l → c.locks.find? chain = some l := by
      intro chain l hl
      rw [SortedMap.find?_erase] at hl
      split at hl
      · cases hl
      · exact hl
    refine ⟨fun hl => hfinished.below (hkept hl),
      fun hl hl' => hfinished.apart (hkept hl) (hkept hl'), ?_, hfinished.exclusive⟩
    intro j call l hj hl
    rcases getElem?_setPhase_cases (c := { c with locks := c.locks.erase request.chain }) hcall hj
      with ⟨-, rfl⟩ | ⟨hne, hj⟩
    · cases hl
    · have hother := h.listed hj hl
      show (c.locks.erase request.chain).find? _ = _
      rw [SortedMap.find?_erase, if_neg]
      · exact hother
      · intro hchain
        rw [hchain, hfind] at hother
        cases hother
        exact hne (hlast hj hl)
  · exact hfinished

/-- Of the calls of a chain, one at most holds a lock. -/
theorem eq_of_held (h : c.Guarded) {a b : Call} (ha : c.calls[i]? = some a)
    (hb : c.calls[j]? = some b) (hchain : a.request.chain = b.request.chain)
    (hheld : a.phase.held?.isSome) (hheld' : b.phase.held?.isSome) : i = j := by
  obtain ⟨lock, hlock⟩ := Option.isSome_iff_exists.mp hheld
  obtain ⟨lock', hlock'⟩ := Option.isSome_iff_exists.mp hheld'
  have hfind := h.listed ha (Phase.lock?_of_held? hlock)
  have hfind' := h.listed hb (Phase.lock?_of_held? hlock')
  rw [hchain, hfind'] at hfind
  cases hfind
  exact h.exclusive ha hb hlock hlock'

/-- A lock that is free is the lock of a chain none of whose calls holds one. -/
theorem held?_eq_none_of_free (h : c.Guarded) {a b : Call} {lock : Nat}
    (ha : c.calls[i]? = some a) (hlock : a.phase.lock? = some lock)
    (hfree : ∀ call ∈ c.calls, call.phase.held? ≠ some lock) (hb : c.calls[j]? = some b)
    (hchain : b.request.chain = a.request.chain) : b.phase.held? = none := by
  refine Option.eq_none_iff_forall_ne_some.mpr fun lock' hheld => ?_
  have hfind := h.listed ha hlock
  have hfind' := h.listed hb (Phase.lock?_of_held? hheld)
  rw [hchain, hfind] at hfind'
  cases hfind'
  exact hfree b (List.mem_of_getElem? hb) hheld

end Guarded

/-! ## Moves -/

/-- The calls that are given a lock by the next move of a call. -/
def granted (c : Coordinator σ τ) (i : Nat) : List Nat :=
  match c.phase? i with
  | some (.waiting ..) => [i]
  | _ => []

theorem granted_eq {call : Call} (h : c.calls[i]? = some call) :
    c.granted i = match call.phase with
      | .waiting .. => [i]
      | _ => [] := by
  rw [granted, phase?, h]
  cases call with
  | mk request phase => cases phase <;> rfl

/-- The times at which calls took their ids, with that of a call if its next move takes it. -/
def dated (c : Coordinator σ τ) (i : Nat) (dates : Nat → Option Timestamp) :
    Nat → Option Timestamp :=
  match c.phase? i with
  | some phase => if phase.takesId then Function.update dates i (some c.world.now) else dates
  | none => dates

theorem dated_eq {call : Call} (h : c.calls[i]? = some call) (dates : Nat → Option Timestamp) :
    c.dated i dates
      = if call.phase.takesId then Function.update dates i (some c.world.now) else dates := by
  rw [dated, phase?, h]
  rfl

variable [SnapshotStore σ] [Transport τ]

/--
A move of a call in some phase: which calls are given a lock by it, none or the call itself, and
what it leads to.
-/
inductive Move (c : Coordinator σ τ) (i : Nat) (request : SyncRequest) :
    Phase → List Nat → Coordinator σ τ → Prop
  | refuse {e : SyncError} (hcheck : request.check = .error e) :
    Move c i request .entering [] (c.setPhase i (.finished (.error e)))
  | enter (hcheck : request.check = .ok ()) :
    Move c i request .entering [] (c.enter i request.chain)
  | acquire {lock ticket : Nat} (hfree : ∀ call ∈ c.calls, call.phase.held? ≠ some lock) :
    Move c i request (.waiting lock ticket) [i] (c.setPhase i (.running lock .load))
  | advance {lock : Nat} {cycle : Cycle} (hout : cycle.outcome? = none) :
    Move c i request (.running lock cycle) [] (c.advance i request lock cycle)
  | wake {lock : Nat} {wake : Duration} {next : Cycle} {events : List Event} :
    Move c i request (.resting lock wake next events) []
      ({ c with events := c.events ++ events }.setPhase i (.running lock next))
  | release {lock : Nat} {cycle : Cycle} {outcome : Except SyncError UpdateResult}
    (hout : cycle.outcome? = some outcome) :
    Move c i request (.running lock cycle) [] (c.setPhase i (.leaving lock outcome))
  | leave {lock : Nat} {outcome : Except SyncError UpdateResult} :
    Move c i request (.leaving lock outcome) [] (c.leave i request.chain lock outcome)

/-- **What a move of a call is.** -/
theorem exists_move (h : c.step? i = some c') : ∃ request phase,
    c.calls[i]? = some ⟨request, phase⟩ ∧ Move c i request phase (c.granted i) c' := by
  unfold step? at h
  split at h
  · cases h
  · next request phase hcall =>
    refine ⟨request, phase, hcall, ?_⟩
    rw [granted_eq hcall]
    cases phase with
    | entering =>
      simp only at h
      split at h
      · next e hcheck =>
        cases h
        exact .refuse hcheck
      · next hcheck =>
        cases h
        exact .enter hcheck
    | waiting lock ticket =>
      simp only at h
      split at h
      · next hfree =>
        cases h
        refine .acquire fun call hmem hheld => ?_
        have hcalls := List.all_eq_true.mp hfree call hmem
        simp [hheld] at hcalls
      · cases h
    | running lock cycle =>
      simp only at h
      split at h
      · next outcome hout =>
        cases h
        exact .release hout
      · next hout =>
        cases h
        exact .advance hout
    | resting lock wake next events =>
      simp only at h
      split at h
      · cases h
        exact .wake
      · cases h
    | leaving lock outcome =>
      cases h
      exact .leave
    | finished => cases h
    | abandoned => cases h

/-- Where a step of a cycle leaves its call. -/
theorem advance_eq (c : Coordinator σ τ) (i : Nat) (request : SyncRequest) (lock : Nat)
    (cycle : Cycle) : ∃ events phase,
      c.advance i request lock cycle
        = { c with
            world := (cycle.step c.publisher request c.world).world, events }.setPhase i phase
      ∧ phase.held? = some lock
      ∧ phase.cycle? = some (cycle.step c.publisher request c.world).next := by
  unfold advance
  simp only
  split
  · exact ⟨_, _, rfl, rfl, rfl⟩
  · exact ⟨_, _, rfl, rfl, rfl⟩

/-- A move leaves the publisher and what is asked of the calls. -/
theorem Move.kept {request : SyncRequest} {phase : Phase} {taken : List Nat}
    (h : Move c i request phase taken c') :
    c'.publisher = c.publisher ∧ c'.calls.map (·.request) = c.calls.map (·.request) := by
  cases h with
  | refuse => exact ⟨rfl, requests_setPhase ..⟩
  | enter =>
    unfold Coordinator.enter
    split
    · exact ⟨rfl, requests_setPhase ..⟩
    · exact ⟨rfl, requests_setPhase ..⟩
  | acquire => exact ⟨rfl, requests_setPhase ..⟩
  | advance =>
    obtain ⟨events, phase, heq, -⟩ := c.advance_eq i request _ _
    rw [heq]
    exact ⟨rfl, requests_setPhase ..⟩
  | wake => exact ⟨rfl, requests_setPhase ..⟩
  | release => exact ⟨rfl, requests_setPhase ..⟩
  | leave =>
    unfold Coordinator.leave
    simp only
    split
    · exact ⟨rfl, requests_setPhase ..⟩
    · exact ⟨rfl, requests_setPhase ..⟩

/-- **A move keeps every lock in use in the table, held by one call at most.** -/
theorem Move.guarded {request : SyncRequest} {phase : Phase} {taken : List Nat}
    (h : Move c i request phase taken c') (hcall : c.calls[i]? = some ⟨request, phase⟩)
    (hguarded : c.Guarded) : c'.Guarded := by
  cases h with
  | refuse => exact hguarded.setPhase hcall nofun nofun
  | enter => exact hguarded.enter hcall
  | acquire hfree =>
    refine hguarded.setPhase hcall ?_ ?_
    · intro l hl
      cases hl
      exact hguarded.listed hcall rfl
    · intro l hl j call hj hheld
      cases hl
      exact absurd hheld (hfree call (List.mem_of_getElem? hj))
  | @advance lock cycle =>
    obtain ⟨events, phase, heq, hheld, -⟩ := c.advance_eq i request lock cycle
    rw [heq]
    have hmoved : Guarded
        { c with world := (cycle.step c.publisher request c.world).world, events } :=
      ⟨hguarded.below, hguarded.apart, hguarded.listed, hguarded.exclusive⟩
    exact hmoved.setPhase_of_held hcall rfl hheld
  | @wake lock _ _ events =>
    have hmoved : Guarded { c with events := c.events ++ events } :=
      ⟨hguarded.below, hguarded.apart, hguarded.listed, hguarded.exclusive⟩
    exact hmoved.setPhase_of_held hcall rfl rfl
  | release =>
    refine hguarded.setPhase hcall ?_ nofun
    intro l hl
    cases hl
    exact hguarded.listed hcall rfl
  | leave => exact hguarded.leave hcall

/-! ## Runs -/

/--
What calls that begin together may come to: moves of any of them in any order, while time passes.
The run comes with the calls that were given a lock, in that order, and with the times that the
clock showed when calls took their ids.
-/
inductive Run (p : Publisher) (w : World σ τ) (requests : List SyncRequest) :
    List Nat → (Nat → Option Timestamp) → Coordinator σ τ → Prop
  | new : Run p w requests [] (fun _ => none) (.new p w requests)
  | move {order : List Nat} {dates : Nat → Option Timestamp} {c c' : Coordinator σ τ}
    (h : Run p w requests order dates c) {i : Nat} (hstep : c.step? i = some c') :
    Run p w requests (order ++ c.granted i) (c.dated i dates) c'
  /-- A call takes a free lock, whoever else waits for it. -/
  | overtake {order : List Nat} {dates : Nat → Option Timestamp} {c : Coordinator σ τ}
    (h : Run p w requests order dates c) {i lock ticket : Nat} {request : SyncRequest}
    (hcall : c.calls[i]? = some ⟨request, .waiting lock ticket⟩)
    (hfree : ∀ call ∈ c.calls, call.phase.held? ≠ some lock) :
    Run p w requests (order ++ [i]) dates (c.setPhase i (.running lock .load))
  | pass {order : List Nat} {dates : Nat → Option Timestamp} {c : Coordinator σ τ}
    (h : Run p w requests order dates c) (now : Timestamp) (clock : Duration) :
    Run p w requests order dates { c with world := { c.world with now }, clock }

namespace Run

variable {p : Publisher} {w : World σ τ} {requests : List SyncRequest} {order : List Nat}
  {dates : Nat → Option Timestamp}

/-- What holds at first and is kept by moves, whatever the time is, holds throughout a run. -/
theorem invariant {P : List Nat → (Nat → Option Timestamp) → Coordinator σ τ → Prop}
    (h : Run p w requests order dates c) (hnew : P [] (fun _ => none) (.new p w requests))
    (hmove : ∀ {order : List Nat} {dates : Nat → Option Timestamp} {c c' : Coordinator σ τ}
      {i : Nat} {request : SyncRequest} {phase : Phase} {taken : List Nat},
        Run p w requests order dates c → P order dates c → c.calls[i]? = some ⟨request, phase⟩ →
          Move c i request phase taken c' → P (order ++ taken) (c.dated i dates) c')
    (hpass : ∀ {order : List Nat} {dates : Nat → Option Timestamp} {c : Coordinator σ τ}
      (now : Timestamp) (clock : Duration), P order dates c →
        P order dates { c with world := { c.world with now }, clock }) : P order dates c := by
  induction h with
  | new => exact hnew
  | move hrun hstep ih =>
    obtain ⟨request, phase, hcall, hmoved⟩ := exists_move hstep
    exact hmove hrun ih hcall hmoved
  | @overtake _ dates c hrun i _ _ _ hcall hfree ih =>
    have hdates : c.dated i dates = dates := dated_eq hcall dates
    have hmoved := hmove hrun ih hcall (.acquire hfree)
    rwa [hdates] at hmoved
  | pass _ now clock ih => exact hpass now clock ih

/-- **A run keeps every lock in use in the table, held by one call at most.** -/
theorem guarded (h : Run p w requests order dates c) : c.Guarded :=
  h.invariant (P := fun _ _ c => c.Guarded) (.new p w requests)
    (fun _ hc hcall hmove => hmove.guarded hcall hc)
    fun _ _ hc => ⟨hc.below, hc.apart, hc.listed, hc.exclusive⟩

theorem kept (h : Run p w requests order dates c) :
    c.publisher = p ∧ c.calls.map (·.request) = requests := by
  refine h.invariant (P := fun _ _ c => c.publisher = p ∧ c.calls.map (·.request) = requests)
    ⟨rfl, ?_⟩ ?_ fun _ _ hc => hc
  · exact List.map_map.trans (List.map_id _)
  · intro _ _ _ _ _ _ _ _ _ hc _ hmove
    exact ⟨hmove.kept.1.trans hc.1, hmove.kept.2.trans hc.2⟩

end Run

end Coordinator

end PoolFeed
