import PoolFeed.Publisher
import PoolFeed.Snapshot.Basic
import PoolFeed.Whitelist.Diff

/-!
# Sync cycles

A cycle brings the subscribers of a chain up to date with a whitelist: it loads the latest
snapshot, takes a new id, sends what changed since that snapshot (or everything), and stores the
new snapshot once every message went out.

A cycle is a machine. `Cycle.step` does what happens between two points at which others may run or
the cycle may be given up; `Cycle.run` is all of its steps in a row.

## Main statements

* `Cycle.step_rank_lt` — every step brings a cycle nearer to its end
-/

namespace PoolFeed

/-- What the subscribers of a chain are to be brought up to date with. -/
structure SyncRequest where
  chain : String
  items : Whitelist
  /-- Whether everything is sent, whatever was stored before. -/
  forceFull : Bool

/-- What a cycle works with. -/
structure World (σ τ : Type) where
  store : σ
  transport : τ
  /-- What the clock shows. -/
  now : Timestamp

/-- The messages of a cycle, as far as they are still to be sent. -/
structure Sending where
  /-- What the cycle reports if all goes well. -/
  result : UpdateResult
  timestamp : Timestamp
  /-- The kinds of the messages that both channels took. -/
  delivered : List Kind
  /-- The message that is being sent. -/
  current : ChangeMessage
  /-- The channel it goes out on next. -/
  channel : Channel
  /-- The messages behind it. -/
  rest : List ChangeMessage

/-- Where a cycle stands. -/
inductive Cycle where
  /-- The latest snapshot has to be loaded. -/
  | load
  /-- An id has to be taken. -/
  | allocate (previous : Option Snapshot)
  /-- A message has to be sent. -/
  | send (sending : Sending)
  /-- The new snapshot has to be stored. -/
  | append (result : UpdateResult) (timestamp : Timestamp)
  /-- The cycle has ended. -/
  | done (outcome : Except SyncError UpdateResult)

namespace Cycle

/-- What a step leads to. -/
structure Step (σ τ : Type) where
  world : World σ τ
  next : Cycle
  events : List Event
  /-- How long the step takes. -/
  delay : Duration

/-- The snapshot that changes are taken from, if not everything is sent. -/
def base? (request : SyncRequest) (previous : Option Snapshot) : Option Snapshot :=
  if request.forceFull then none else previous

/-- What a cycle reports if all goes well, once its id is known. -/
def plannedResult (request : SyncRequest) (base : Option Snapshot) (id : Int) : UpdateResult :=
  match base with
  | none => ⟨request.chain, id, request.items.size, 0, 0, .full⟩
  | some s =>
    let d := Diff.between s.items request.items
    ⟨request.chain, id, request.items.size, d.added.length, d.removed.length, .differential⟩

/-- The messages of a change, those without pools left out. -/
def changeMessages (header : Header) (d : Diff) : List ChangeMessage :=
  (if d.added.isEmpty then [] else [⟨header, .add d.added⟩])
    ++ (if d.removed.isEmpty then [] else [⟨header, .remove d.removed⟩])

/-- The messages of a cycle. -/
def messages (header : Header) (items : Whitelist) : Option Snapshot → List ChangeMessage
  | none => [.ofWhitelist header items]
  | some s => changeMessages header (Diff.between s.items items)

/-- What is reported of a cycle that has nothing to send. -/
def unchangedEvents (request : SyncRequest) : Option Snapshot → List Event
  | none => []
  | some s =>
    if (Diff.between s.items request.items).isEmpty then [.unchanged request.chain s.snapshotId]
    else []

/-- Where a cycle stands that has some messages left to send. -/
def sendAll (result : UpdateResult) (timestamp : Timestamp) (delivered : List Kind) :
    List ChangeMessage → Cycle
  | [] => .append result timestamp
  | m :: rest => .send ⟨result, timestamp, delivered, m, .minimal, rest⟩

/-- Where a cycle stands when a channel took its message. -/
def sent (s : Sending) : Cycle :=
  match s.channel with
  | .minimal => .send { s with channel := .full }
  | .full => sendAll s.result s.timestamp (s.delivered ++ [s.current.kind]) s.rest

/-- How a cycle fails whose message failed: messages delivered before it are mentioned. -/
def failure (s : Sending) (e : SyncError) : SyncError :=
  if s.delivered.isEmpty then e else .incompleteCycle s.delivered e

variable {σ τ : Type} [SnapshotStore σ] [Transport τ]

/-- Loads the latest snapshot. -/
def stepLoad (request : SyncRequest) (w : World σ τ) : Step σ τ :=
  let a := SnapshotStore.loadLatest request.chain w.store
  let next : Cycle :=
    match a.result with
    | .error e => .done (.error e)
    | .ok previous => .allocate previous
  ⟨{ w with store := a.store }, next, a.events, .zero⟩

/-- Takes an id and settles what is to be sent. -/
def stepAllocate (request : SyncRequest) (previous : Option Snapshot) (w : World σ τ) : Step σ τ :=
  let a := SnapshotStore.allocate request.chain (previous.map (·.snapshotId)) w.store
  let w' := { w with store := a.store }
  match a.result with
  | .error e => ⟨w', .done (.error e), a.events, .zero⟩
  | .ok id =>
    let base := base? request previous
    -- All messages of a cycle carry the same time.
    let todo := messages ⟨request.chain, id, w.now⟩ request.items base
    ⟨w', sendAll (plannedResult request base id) w.now [] todo,
      a.events ++ unchangedEvents request base, .zero⟩

/-- Sends a message on one channel. -/
def stepSend (p : Publisher) (s : Sending) (w : World σ τ) : Step σ τ :=
  let r := p.send s.current s.channel w.transport
  let next : Cycle :=
    match r.result with
    | .error e => .done (.error (failure s e))
    | .ok () => sent s
  ⟨{ w with transport := r.transport }, next, r.events, r.delay⟩

/-- Stores the new snapshot. -/
def stepAppend (request : SyncRequest) (result : UpdateResult) (timestamp : Timestamp)
    (w : World σ τ) : Step σ τ :=
  let a := SnapshotStore.append ⟨request.chain, result.snapshotId, request.items, timestamp⟩ w.store
  let w' := { w with store := a.store }
  match a.result with
  | .error e =>
    ⟨w', .done (.error (.snapshotNotPersisted result e.message)),
      a.events ++ [.notStored result.snapshotId request.chain e], .zero⟩
  | .ok () => ⟨w', .done (.ok result), a.events ++ [.synced result], .zero⟩

/-- The next step of a cycle. A cycle that has ended stays as it is. -/
def step (p : Publisher) (request : SyncRequest) (w : World σ τ) : Cycle → Step σ τ
  | .load => stepLoad request w
  | .allocate previous => stepAllocate request previous w
  | .send s => stepSend p s w
  | .append result timestamp => stepAppend request result timestamp w
  | .done outcome => ⟨w, .done outcome, [], .zero⟩

/-! ## The end of a cycle -/

/-- The outcome of a cycle that has ended. -/
def outcome? : Cycle → Option (Except SyncError UpdateResult)
  | .done outcome => some outcome
  | _ => none

/-- A bound on the steps that are left. -/
def rank : Cycle → Nat
  | .load => 7
  | .allocate _ => 6
  | .send s => 2 * s.rest.length + (if s.channel = .minimal then 3 else 2)
  | .append .. => 1
  | .done _ => 0

theorem rank_sendAll (result : UpdateResult) (timestamp : Timestamp) (delivered : List Kind)
    (ms : List ChangeMessage) :
    (sendAll result timestamp delivered ms).rank = 2 * ms.length + 1 := by
  cases ms with
  | nil => rfl
  | cons m rest =>
    simp only [sendAll, rank, if_true, List.length_cons]
    omega

theorem length_messages_le (header : Header) (items : Whitelist) (base : Option Snapshot) :
    (messages header items base).length ≤ 2 := by
  cases base with
  | none => simp [messages]
  | some s =>
    simp only [messages, changeMessages]
    split <;> split <;> simp

theorem rank_sent_lt (s : Sending) : (sent s).rank < (Cycle.send s).rank := by
  unfold sent
  split
  · next h => simp [rank, h]
  · next h =>
    rw [rank_sendAll]
    simp [rank, h]

/-- Every step brings a cycle nearer to its end. -/
theorem step_rank_lt (p : Publisher) (request : SyncRequest) (w : World σ τ) (c : Cycle)
    (h : c.outcome? = none) : (step p request w c).next.rank < c.rank := by
  cases c with
  | load =>
    simp only [step, stepLoad]
    split <;> simp [rank]
  | allocate previous =>
    simp only [step, stepAllocate]
    split
    · simp [rank]
    · next id _ =>
      have := length_messages_le ⟨request.chain, id, w.now⟩ request.items (base? request previous)
      rw [rank_sendAll]
      simp only [rank]
      omega
  | send s =>
    simp only [step, stepSend]
    split
    · simp only [rank]
      split <;> omega
    · exact rank_sent_lt s
  | append result timestamp =>
    simp only [step, stepAppend]
    split <;> simp [rank]
  | done outcome => simp [outcome?] at h

/-- What running a cycle came to. -/
structure Run (σ τ : Type) where
  outcome : Except SyncError UpdateResult
  world : World σ τ
  events : List Event

/-- All steps of a cycle that are left. -/
def runFrom (p : Publisher) (request : SyncRequest) (w : World σ τ) (c : Cycle) : Run σ τ :=
  match _h : c.outcome? with
  | some outcome => ⟨outcome, w, []⟩
  | none =>
    let s := step p request w c
    let run := runFrom p request s.world s.next
    { run with events := s.events ++ run.events }
termination_by c.rank
decreasing_by exact step_rank_lt p request w c _h

/-- A whole cycle. -/
def run (p : Publisher) (request : SyncRequest) (w : World σ τ) : Run σ τ :=
  runFrom p request w .load

end Cycle

end PoolFeed
