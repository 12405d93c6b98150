import PoolFeed.Sync.Request

/-!
# Cycles side by side

Calls that sync at the same time. Calls of one chain share a lock, and the one that holds it runs
its cycle; those that wait for it are served in the order in which they asked. The lock of a chain
is found through a table. A call that is done removes the entry of its chain unless others still
use the lock.

`Coordinator.step?` is one move of one call, up to the next point where others may run.
`Coordinator.cancel` gives a call up at such a point. Any order of moves is a run of the calls.

## Main statements

* `Coordinator.rank_step?_lt` — every move brings its call nearer to its end
-/

namespace PoolFeed

/-- How far a call has come. -/
inductive Phase where
  /-- It has not looked for the lock of its chain yet. -/
  | entering
  /-- It waits for a lock, behind those with smaller tickets. -/
  | waiting (lock ticket : Nat)
  /-- It holds a lock and runs its cycle. -/
  | running (lock : Nat) (cycle : Cycle)
  /-- It holds a lock, and a step of its cycle takes until some time to show what it leads to. -/
  | resting (lock : Nat) (wake : Duration) (next : Cycle) (events : List Event)
  /-- It has given back its lock and has to look after the entry of its chain. -/
  | leaving (lock : Nat) (outcome : Except SyncError UpdateResult)
  | finished (outcome : Except SyncError UpdateResult)
  /-- Its caller gave it up. -/
  | abandoned

namespace Phase

/-- The lock that a call refers to, whether it holds it or not. -/
def lock? : Phase → Option Nat
  | .waiting lock _ => some lock
  | .running lock _ => some lock
  | .resting lock .. => some lock
  | .leaving lock _ => some lock
  | _ => none

/-- The lock that a call holds. -/
def held? : Phase → Option Nat
  | .running lock _ => some lock
  | .resting lock .. => some lock
  | _ => none

/-- Whether a call waits for a lock in front of a ticket. -/
def isAhead (lock ticket : Nat) : Phase → Bool
  | .waiting l t => l = lock && t < ticket
  | _ => false

/-- When a call goes on that waits for time to pass. -/
def wake? : Phase → Option Duration
  | .resting _ wake .. => some wake
  | _ => none

/-- The outcome of a call that has ended by itself. -/
def outcome? : Phase → Option (Except SyncError UpdateResult)
  | .finished outcome => some outcome
  | _ => none

/-- A bound on the moves that are left. -/
def rank : Phase → Nat
  | .entering => 18
  | .waiting .. => 17
  | .running _ cycle => 2 * cycle.rank + 2
  | .resting _ _ next _ => 2 * next.rank + 3
  | .leaving .. => 1
  | .finished _ => 0
  | .abandoned => 0

end Phase

/-- A request under way. -/
structure Call where
  request : SyncRequest
  phase : Phase

/-- Calls, the locks of their chains, and what they work with. -/
structure Coordinator (σ τ : Type) where
  publisher : Publisher
  world : World σ τ
  calls : List Call
  /-- The lock of each chain that has one. -/
  locks : SortedMap String Nat
  /-- Above every lock and ticket given out. -/
  fresh : Nat
  /-- The time since the start. -/
  clock : Duration
  events : List Event

namespace Coordinator

variable {σ τ : Type}

/-- Calls that have not begun. -/
def new (p : Publisher) (w : World σ τ) (requests : List SyncRequest) : Coordinator σ τ :=
  ⟨p, w, requests.map (⟨·, .entering⟩), .empty, 0, .zero, []⟩

def phase? (c : Coordinator σ τ) (i : Nat) : Option Phase := c.calls[i]?.map (·.phase)

/-- Puts a call into a phase. -/
def setPhase (c : Coordinator σ τ) (i : Nat) (phase : Phase) : Coordinator σ τ :=
  { c with calls := c.calls.modify i ({ · with phase }) }

/-- How often a lock is referred to, by the table and by calls. -/
def references (c : Coordinator σ τ) (lock : Nat) : Nat :=
  c.locks.values.count lock + c.calls.countP (fun call => call.phase.lock? = some lock)

def isFree (c : Coordinator σ τ) (lock ticket : Nat) : Bool :=
  c.calls.all (fun call => call.phase.held? ≠ some lock && !call.phase.isAhead lock ticket)

/-- Joins the calls of a chain that wait for its lock. A chain without a lock is given one. -/
def enter (c : Coordinator σ τ) (i : Nat) (chain : String) : Coordinator σ τ :=
  match c.locks.find? chain with
  | some lock => { c with fresh := c.fresh + 1 }.setPhase i (.waiting lock c.fresh)
  | none =>
    { c with fresh := c.fresh + 2, locks := c.locks.insert chain c.fresh }.setPhase i
      (.waiting c.fresh (c.fresh + 1))

/--
Drops the entry of a chain if nobody but the table and this call refers to the lock. Looking at the
references and giving up the one of this call is one move: the call waits for nothing in between,
and calls take turns only where they wait.
-/
def leave (c : Coordinator σ τ) (i : Nat) (chain : String) (lock : Nat)
    (outcome : Except SyncError UpdateResult) : Coordinator σ τ :=
  -- The table and this call make two.
  let c' := if c.references lock = 2 then { c with locks := c.locks.erase chain } else c
  c'.setPhase i (.finished outcome)

variable [SnapshotStore σ] [Transport τ]

/-- Takes a step of the cycle of a call. What a step leads to shows when its time has passed. -/
def advance (c : Coordinator σ τ) (i : Nat) (request : SyncRequest) (lock : Nat) (cycle : Cycle) :
    Coordinator σ τ :=
  let s := cycle.step c.publisher request c.world
  -- A step that takes time has its effect at once, but the call hears of it later.
  if s.delay = .zero then
    { c with world := s.world, events := c.events ++ s.events }.setPhase i (.running lock s.next)
  else
    { c with world := s.world }.setPhase i
      (.resting lock (c.clock.plus s.delay) s.next s.events)

/-- A move of a call, unless it has to wait or has ended. -/
def step? (c : Coordinator σ τ) (i : Nat) : Option (Coordinator σ τ) :=
  match c.calls[i]? with
  | none => none
  | some ⟨request, phase⟩ =>
    match phase with
    | .entering =>
      match request.check with
      | .error e => some (c.setPhase i (.finished (.error e)))
      | .ok () => some (c.enter i request.chain)
    | .waiting lock ticket =>
      if c.isFree lock ticket then some (c.setPhase i (.running lock .load)) else none
    | .running lock cycle =>
      match cycle.outcome? with
      | some outcome => some (c.setPhase i (.leaving lock outcome))
      | none => some (c.advance i request lock cycle)
    | .resting lock wake next events =>
      if wake.nanoseconds ≤ c.clock.nanoseconds then
        some ({ c with events := c.events ++ events }.setPhase i (.running lock next))
      else none
    | .leaving lock outcome => some (c.leave i request.chain lock outcome)
    | .finished _ => none
    | .abandoned => none

/--
Gives a call up. Its lock, if it holds one, is free again, but the entry of its chain is not looked
after.
-/
def cancel (c : Coordinator σ τ) (i : Nat) : Coordinator σ τ :=
  match c.phase? i with
  | some (.finished _) => c
  | _ => c.setPhase i .abandoned

/-! ## Progress -/

/-- A bound on the moves left to a call. -/
def rankAt (c : Coordinator σ τ) (i : Nat) : Nat := ((c.phase? i).map Phase.rank).getD 0

omit [SnapshotStore σ] [Transport τ] in
theorem rankAt_setPhase {c d : Coordinator σ τ} {i : Nat} {call : Call}
    (h : c.calls[i]? = some call) (phase : Phase) (hd : d.calls = c.calls) :
    (d.setPhase i phase).rankAt i = phase.rank := by
  simp [rankAt, phase?, setPhase, hd, h]

omit [SnapshotStore σ] [Transport τ] in
theorem rankAt_eq {c : Coordinator σ τ} {i : Nat} {call : Call} (h : c.calls[i]? = some call) :
    c.rankAt i = call.phase.rank := by
  simp [rankAt, phase?, h]

/-- Every move brings its call nearer to its end. -/
theorem rank_step?_lt {c c' : Coordinator σ τ} {i : Nat} (h : c.step? i = some c') :
    c'.rankAt i < c.rankAt i := by
  unfold step? at h
  split at h
  · simp at h
  · next request phase hcall =>
    rw [rankAt_eq hcall]
    have hset : ∀ (d : Coordinator σ τ) (phase' : Phase), phase'.rank < phase.rank →
        d.setPhase i phase' = c' → d.calls = c.calls → c'.rankAt i < phase.rank := by
      intro d phase' hlt he hd
      rw [← he, rankAt_setPhase hcall phase' hd]
      exact hlt
    split at h
    · split at h
      · exact hset _ _ (by simp [Phase.rank]) (Option.some.inj h) rfl
      · unfold enter at h
        split at h
        · exact hset _ _ (by simp [Phase.rank]) (Option.some.inj h) rfl
        · exact hset _ _ (by simp [Phase.rank]) (Option.some.inj h) rfl
    · split at h
      · exact hset _ _ (by simp [Phase.rank, Cycle.rank]) (Option.some.inj h) rfl
      · simp at h
    · split at h
      · exact hset _ _ (by simp [Phase.rank]) (Option.some.inj h) rfl
      · next lock cycle _ hout =>
        have := Cycle.step_rank_lt c.publisher request c.world cycle hout
        simp only [advance] at h
        split at h
        · exact hset _ _ (by simp only [Phase.rank]; omega) (Option.some.inj h) rfl
        · exact hset _ _ (by simp only [Phase.rank]; omega) (Option.some.inj h) rfl
    · split at h
      · exact hset _ _ (by simp [Phase.rank]) (Option.some.inj h) rfl
      · simp at h
    · unfold leave at h
      split at h
      · exact hset _ _ (by simp [Phase.rank]) (Option.some.inj h) rfl
      · exact hset _ _ (by simp [Phase.rank]) (Option.some.inj h) rfl
    · simp at h
    · simp at h

/-- The moves left to all calls, at most. -/
def totalRank (c : Coordinator σ τ) : Nat := (c.calls.map (·.phase.rank)).foldl (· + ·) 0

/-- The time at which the first of those calls goes on that wait for time to pass. -/
def nextWake? (c : Coordinator σ τ) : Option Nat :=
  (c.calls.filterMap (·.phase.wake?.map (·.nanoseconds))).min?

/-- Lets time pass until a call can go on that waits for it. -/
def passTime (c : Coordinator σ τ) : Coordinator σ τ :=
  match c.nextWake? with
  | some wake => { c with clock := ⟨max c.clock.nanoseconds wake⟩ }
  | none => c

/-- The outcomes of the calls that have ended by themselves, in the order of the calls. -/
def outcomes (c : Coordinator σ τ) : List (Except SyncError UpdateResult) :=
  c.calls.filterMap (·.phase.outcome?)

end Coordinator

end PoolFeed
