import PoolFeed.Snapshot.Memory
import PoolFeed.Sync.Coordinator
import PoolFeed.Sync.Turn
import PoolFeed.Transport.Recording

/-!
# Schedules

Calls that sync at the same time on a single thread. The thread looks at one call after the other,
and each goes on until it has to wait. Time passes only when all of them wait.

A call waits while something it wants is in the hands of another call: the table of the locks, the
store, the transport, or the lock of its chain. These are handed on in the order in which they were
asked for. A call also waits when its turn is over. It keeps what it holds, and of several such
calls the one that stopped last goes on first.

Few calls are all looked at in every turn. Of many calls only those are looked at that were told to
go on.

## Main statements

* `Schedule.rankAt_advance_lt` — a call that goes on comes nearer to its end
-/

namespace PoolFeed

/-- What is shared by the calls of all chains. -/
inductive Shared where
  /-- The table of the locks. -/
  | table
  | store
  | transport
  deriving DecidableEq, Repr

/-- Calls on a single thread. -/
structure Schedule where
  coordinator : Coordinator MemoryStore RecordingTransport
  turn : Turn
  /-- The calls that were told to go on, in that order. -/
  ready : List Nat
  /-- The calls that stopped because the turn is over, the last of them first. -/
  postponed : List Nat
  /-- The calls that asked for something shared. The first to ask for a thing holds it. -/
  claims : List (Nat × Shared)
  /-- The calls that were given the lock of their chain but have not taken it yet. -/
  owing : List Nat
  /-- The calls that wait for time to pass, in the order in which they began to. -/
  resting : List Nat

namespace Schedule

/-- Calls that have not begun. -/
def new (turn : Turn) (p : Publisher) (w : World MemoryStore RecordingTransport)
    (requests : List SyncRequest) : Schedule :=
  ⟨.new p w requests, turn, List.range requests.length, [], [], [], []⟩

/-- The number of calls that are still under way. -/
def unfinished (s : Schedule) : Nat := s.coordinator.calls.countP (fun call => call.phase.rank ≠ 0)

/-! ## Telling calls to go on -/

/-- Tells a call to go on, unless it was told already or has ended. -/
def wake (s : Schedule) (i : Nat) : Schedule :=
  if s.ready.contains i || s.coordinator.rankAt i = 0 then s else { s with ready := s.ready ++ [i] }

/-- Leaves a call to the next turn. -/
def postpone (s : Schedule) (i : Nat) : Schedule :=
  if s.postponed.head? = some i then s else { s with postponed := i :: s.postponed }

/-- The call that holds a shared thing. -/
def holder? (s : Schedule) (thing : Shared) : Option Nat :=
  (s.claims.find? (fun claim => claim.2 = thing)).map (·.1)

/-- Asks for a shared thing, if one is wanted and was not asked for before. -/
def claim (s : Schedule) (i : Nat) : Option Shared → Schedule
  | some thing =>
    if s.claims.contains (i, thing) then s else { s with claims := s.claims ++ [(i, thing)] }
  | none => s

/-- Hands a shared thing on to the next call that asked for it. -/
def release (s : Schedule) (i : Nat) : Option Shared → Schedule
  | some thing =>
    let s' := { s with claims := s.claims.erase (i, thing) }
    match s'.holder? thing with
    | some j => s'.wake j
    | none => s'
  | none => s

/-- The call that waits for a lock in front of all others. -/
def firstWaiting? (s : Schedule) (lock : Nat) : Option Nat :=
  s.coordinator.calls.findIdx? (fun call =>
    match call.phase with
    | .waiting l ticket =>
      l = lock && s.coordinator.calls.all (fun other => !other.phase.isAhead lock ticket)
    | _ => false)

/-! ## Moves -/

/-- The shared thing that the next move of a call is made with. A store that fails is not asked. -/
def wants? (s : Schedule) (i : Nat) : Option Shared :=
  if s.owing.contains i then none
  else
    match s.coordinator.calls[i]? with
    | some ⟨request, .entering⟩ => if request.check.isOk then some .table else none
    | some ⟨_, .running _ .load⟩ =>
      if s.coordinator.world.store.loadsFail then none else some .store
    | some ⟨_, .running _ (.allocate _)⟩ => some .store
    | some ⟨_, .running _ (.send _)⟩ => some .transport
    | some ⟨_, .running _ (.append ..)⟩ =>
      if s.coordinator.world.store.appendsFail then none else some .store
    | some ⟨_, .leaving ..⟩ => some .table
    | _ => none

/-- Whether a call takes something when it goes on. -/
def takes (s : Schedule) (i : Nat) : Bool :=
  s.owing.contains i || (s.wants? i).isSome || ((s.coordinator.phase? i).bind Phase.wake?).isSome

/-- What a move from a phase means for other calls, and for when its own call goes on. -/
def follow (s : Schedule) (i : Nat) (before : Phase) : Schedule :=
  match before, s.coordinator.phase? i with
  | .waiting .., _ => { s with owing := i :: s.owing }
  | .running lock _, some (.leaving ..) =>
    match s.firstWaiting? lock with
    | some j => s.wake j
    | none => s
  | .running .., some (.resting ..) => { s with resting := s.resting ++ [i] }
  | _, _ => s

/-- How a call that is looked at goes on. -/
inductive Progress where
  | moved (s : Schedule)
  | stopped (s : Schedule)

/-- Takes what a call needs, or stops, and then makes a move. -/
def advance (s : Schedule) (i : Nat) : Progress :=
  match s.coordinator.phase? i with
  | none => .stopped s
  | some phase =>
    let asked := s.claim i (s.wants? i)
    if (s.wants? i).any (fun thing => asked.holder? thing ≠ some i) then .stopped asked
    else if s.takes i && s.turn.isOver then .stopped (asked.postpone i)
    else
      let turn := if s.takes i then s.turn.take else s.turn
      if s.owing.contains i then .moved { asked with turn, owing := s.owing.erase i }
      else
        match s.coordinator.step? i with
        | none => .stopped asked
        | some coordinator =>
          .moved (({ asked with turn, coordinator }.release i (s.wants? i)).follow i phase)

/-! ## Looking at a call -/

/-- A bound on the moves left to a call, twice, and on the locks it has not taken yet. -/
def rankAt (s : Schedule) (i : Nat) : Nat := 2 * s.coordinator.rankAt i + s.owing.count i

theorem coordinator_wake (s : Schedule) (i : Nat) : (s.wake i).coordinator = s.coordinator := by
  unfold wake
  split <;> rfl

theorem owing_wake (s : Schedule) (i : Nat) : (s.wake i).owing = s.owing := by
  unfold wake
  split <;> rfl

theorem coordinator_claim (s : Schedule) (i : Nat) (wanted : Option Shared) :
    (s.claim i wanted).coordinator = s.coordinator := by
  unfold claim
  split
  · split <;> rfl
  · rfl

theorem owing_claim (s : Schedule) (i : Nat) (wanted : Option Shared) :
    (s.claim i wanted).owing = s.owing := by
  unfold claim
  split
  · split <;> rfl
  · rfl

theorem coordinator_release (s : Schedule) (i : Nat) (held : Option Shared) :
    (s.release i held).coordinator = s.coordinator := by
  unfold release
  split
  · simp only
    split
    · exact coordinator_wake _ _
    · rfl
  · rfl

theorem owing_release (s : Schedule) (i : Nat) (held : Option Shared) :
    (s.release i held).owing = s.owing := by
  unfold release
  split
  · simp only
    split
    · exact owing_wake _ _
    · rfl
  · rfl

theorem coordinator_follow (s : Schedule) (i : Nat) (before : Phase) :
    (s.follow i before).coordinator = s.coordinator := by
  unfold follow
  split
  · rfl
  · split
    · exact coordinator_wake _ _
    · rfl
  · rfl
  · rfl

theorem count_owing_follow_le (s : Schedule) (i : Nat) (before : Phase) :
    (s.follow i before).owing.count i ≤ s.owing.count i + 1 := by
  unfold follow
  split
  · simp
  · split
    · rw [owing_wake]
      omega
    · omega
  · simp
  · omega

/-- A call that goes on comes nearer to its end. -/
theorem rankAt_advance_lt {s s' : Schedule} {i : Nat} (h : s.advance i = .moved s') :
    s'.rankAt i < s.rankAt i := by
  unfold advance at h
  split at h
  · simp at h
  · simp only at h
    split at h
    · simp at h
    split at h
    · simp at h
    split at h
    · next hmem =>
      have hpos := List.count_pos_iff.mpr (List.contains_iff_mem.mp hmem)
      simp only [Progress.moved.injEq] at h
      rw [← h]
      simp only [rankAt, List.count_erase_self, coordinator_claim]
      omega
    · next hmem =>
      have hzero := List.count_eq_zero.mpr (fun hin => hmem (List.contains_iff_mem.mpr hin))
      split at h
      · simp at h
      · next c hc =>
        have hlt := Coordinator.rank_step?_lt hc
        simp only [Progress.moved.injEq] at h
        rw [← h]
        simp only [rankAt, coordinator_follow]
        refine Nat.lt_of_le_of_lt (Nat.add_le_add_left (count_owing_follow_le _ _ _) _) ?_
        simp only [coordinator_release, owing_release, owing_claim, hzero]
        omega

/-- Lets a call go on until it stops. -/
def look (s : Schedule) (i : Nat) : Schedule :=
  match _h : s.advance i with
  | .stopped s' => s'
  | .moved s' => s'.look i
termination_by s.rankAt i
decreasing_by exact rankAt_advance_lt _h

/-! ## Turns -/

/-- The number of calls that are all looked at in every turn. -/
def fewCalls : Nat := 30

/-- A turn of few calls, in their order. -/
def turnOfFew (s : Schedule) : Schedule :=
  (List.range s.coordinator.calls.length).foldl look { s with ready := [] }

/--
A turn of many calls, in the order in which they were told to go on. It ends early when so many
calls have been looked at without one of them ending. That number is set anew, to the number of the
calls that are left, whenever one ends.
-/
def turnOfMany : Nat → Nat → Schedule → Schedule
  | _, 0, s => s
  | remaining, looks + 1, s =>
    match s.ready with
    | [] => s
    | i :: rest =>
      let s' := { s with ready := rest }.look i
      if s'.unfinished < remaining then turnOfMany s'.unfinished s'.unfinished s'
      else turnOfMany remaining looks s'
termination_by remaining looks => (remaining, looks)

/-- What was told to wait for the next turn goes on, the last first. -/
def renew (s : Schedule) : Schedule :=
  s.postponed.foldl wake { s with turn := .fresh, postponed := [] }

/-- One turn, and the beginning of the next one if calls are left. -/
def runTurn (s : Schedule) : Schedule :=
  let s' :=
    if s.coordinator.calls.length ≤ fewCalls then s.turnOfFew
    else turnOfMany s.unfinished s.unfinished s
  if s'.unfinished = 0 then s' else s'.renew

/-- Lets time pass, if nobody was told to go on, until it is time for a call that waits for it. -/
def passTime (s : Schedule) : Schedule :=
  if s.ready.isEmpty then
    let later := s.coordinator.passTime
    let isDue (i : Nat) : Bool :=
      ((later.phase? i).bind Phase.wake?).any (·.nanoseconds ≤ later.clock.nanoseconds)
    (s.resting.filter isDue).foldl wake
      { s with coordinator := later, resting := s.resting.filter (!isDue ·) }
  else s

/-- The moves left to all calls, at most, and the locks they have not taken yet. -/
def totalRank (s : Schedule) : Nat := 2 * s.coordinator.totalRank + s.owing.length

/-- Turns, for as long as a call can go on, at once or when time has passed. -/
def settle (s : Schedule) : Schedule :=
  let now := s.runTurn
  if now.totalRank < s.totalRank then settle now
  else
    let later := now.passTime.runTurn
    if later.totalRank < s.totalRank then settle later else s
termination_by s.totalRank

end Schedule

end PoolFeed
