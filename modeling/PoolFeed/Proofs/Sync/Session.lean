import PoolFeed.Proofs.Sync.Bystanders

/-!
# Sessions

A session is a row of syncs over one store and one transport, either of which may be told before
each sync to fail in some way. Its caller obeys the failures that call for a full resync: until a
sync of the chain succeeds, every sync of it sends everything.

## Main statements

* `Round.play_cases` — a sync changes nothing, or its cycle was given an id and ends in some way
* `Round.unmoved_play` — a sync leaves other chains alone
-/

namespace PoolFeed

/-- One sync of a session: what is asked, what the clock shows, and what is told to fail. -/
structure Round where
  request : SyncRequest
  now : Timestamp
  loadsFail : Bool
  appendsFail : Bool
  /-- The subjects that are refused. -/
  failing : List String
  /-- The subjects on which nothing ever completes. -/
  stalled : List String
  /-- The number of payloads from which on everything is refused. -/
  failAfter : Option Nat

namespace Round

/-- What a sync works with: what is there, told to fail as the round has it. -/
def arrange (t : Round) (w : Bench) : Bench where
  store := { w.store with loadsFail := t.loadsFail, appendsFail := t.appendsFail }
  transport :=
    { w.transport with failing := t.failing, stalled := t.stalled, failAfter := t.failAfter }
  now := t.now

def play (p : Publisher) (t : Round) (w : Bench) : Cycle.Run MemoryStore RecordingTransport :=
  t.request.sync p (t.arrange w)

/-- The clock shows a time of the calendar, and the pool objects of the round read back. -/
structure Legible (t : Round) (channel : Channel) : Prop where
  now : t.now.Valid
  items : channel = .full → ∀ r ∈ t.request.items.records, r.Legible

/-- A sync of a chain at which nothing is told to fail. -/
def calm (chain : String) (items : Whitelist) : Round :=
  ⟨⟨chain, items, false⟩, ⟨0, 0⟩, false, false, [], [], none⟩

theorem check_calm {chain : String} (h : ChainName.check chain = .ok ()) (items : Whitelist) :
    (calm chain items).request.check = .ok () :=
  SyncRequest.check_eq_ok_iff.mpr h

theorem legible_calm {chain : String} {items : Whitelist} {channel : Channel}
    (h : ∀ r ∈ items.records, r.Legible) : (calm chain items).Legible channel :=
  ⟨Timestamp.valid_zero, fun _ => h⟩

end Round

/-! ## Samples -/

namespace Sample

def publisher : Publisher := ⟨default, Publisher.defaultTimeout⟩

def one : PoolRecord := .bare "0x01" rfl (by decide)

def two : PoolRecord := .bare "0x02" rfl (by decide)

theorem legible {items : Whitelist} (h : items.records ⊆ [one, two]) :
    ∀ r ∈ items.records, r.Legible := by
  intro r hr
  rcases List.mem_cons.mp (h hr) with rfl | hr
  · exact PoolRecord.legible_bare _ _
  · rw [List.mem_singleton.mp hr]
    exact PoolRecord.legible_bare _ _

end Sample

/-! ## Rounds in a row -/

/-- A round that was played, and what came of it. -/
structure Played where
  round : Round
  outcome : Except SyncError UpdateResult

/--
Whether a full resync of a chain is called for: one of the failures since the last success of the
chain asked for it. The rounds are listed from the last one back.
-/
def resyncPending (chain : String) : List Played → Bool
  | [] => false
  | e :: earlier =>
    if e.round.request.chain = chain then
      match e.outcome with
      | .ok _ => false
      | .error failure => failure.requiresFullResync || resyncPending chain earlier
    else resyncPending chain earlier

/-- The rounds of a session from the last one back, and what they led to. -/
inductive Session (p : Publisher) : List Played → Bench → Prop
  | new (now : Timestamp) : Session p [] ⟨.empty, .new, now⟩
  | round {history : List Played} {w : Bench} (h : Session p history w) (t : Round)
    (hforce : resyncPending t.request.chain history = true → t.request.forceFull = true) :
    Session p (⟨t, (t.play p w).outcome⟩ :: history) (t.play p w).world

/-! ## What a round does -/

namespace MemoryStore

/-- The keys of the latest snapshot of a chain, none if there is no snapshot. -/
def latestKeys (s : MemoryStore) (chain : String) : List String :=
  ((s.latest? chain).map (·.items.keys)).getD []

theorem latestKeys_congr {s s' : MemoryStore} {chain : String} (h : s'.editions = s.editions) :
    s'.latestKeys chain = s.latestKeys chain := by
  rw [latestKeys, latestKeys, latest?, latest?, editionsOf, editionsOf, h]

end MemoryStore

namespace Cycle

variable {p : Publisher} {request : SyncRequest} {w w' : Bench}
  {outcome : Except SyncError UpdateResult}

/-- A cycle that could not load does nothing; any other one was given an id. -/
theorem Exit.counters_cases (h : Exit p request w outcome w') :
    (w' = w ∧ ∃ e, outcome = .error e ∧ e.requiresFullResync = false)
      ∨ w'.store.counters = w.store.counters.insert request.chain (issuedId request w) := by
  cases h with
  | notLoaded => exact Or.inl ⟨rfl, _, rfl, rfl⟩
  | notSent => exact Or.inr rfl
  | notStored => exact Or.inr rfl
  | completed => exact Or.inr rfl

end Cycle

namespace Round

variable {p : Publisher} {t : Round} {w : Bench}

/-- **A sync changes nothing, or its cycle was given an id and ends in some way.** -/
theorem play_cases (p : Publisher) (t : Round) (w : Bench) :
    ((t.play p w).world = t.arrange w
        ∧ ∃ e, (t.play p w).outcome = .error e ∧ e.requiresFullResync = false)
      ∨ (Cycle.Exit p t.request (t.arrange w) (t.play p w).outcome (t.play p w).world
        ∧ (t.play p w).world.store.counters = w.store.counters.insert t.request.chain
          (Cycle.issuedId t.request (t.arrange w))) := by
  have hexit := Cycle.run_exit p t.request (t.arrange w)
  cases hcheck : t.request.check with
  | error e =>
    have hplay : t.play p w = ⟨.error e, t.arrange w, []⟩ := by
      rw [play, SyncRequest.sync, hcheck]
    rw [hplay]
    refine Or.inl ⟨rfl, e, rfl, ?_⟩
    unfold SyncRequest.check at hcheck
    split at hcheck
    · cases hcheck
      rfl
    · cases hcheck
  | ok =>
    rw [play, SyncRequest.sync_of_check hcheck]
    rcases hexit.counters_cases with hsame | hcounters
    · exact Or.inl hsame
    · exact Or.inr ⟨hexit, hcounters⟩

/-- Steps up to the end of its cycle are a whole sync. -/
theorem play_of_walk {n : Nat} {outcome : Except SyncError UpdateResult}
    (hcheck : t.request.check = .ok ())
    (h : (Cycle.walk p t.request n (t.arrange w) .load).2.outcome? = some outcome) :
    (t.play p w).outcome = outcome
      ∧ (t.play p w).world = (Cycle.walk p t.request n (t.arrange w) .load).1 := by
  rw [play, SyncRequest.sync_of_check hcheck]
  exact Cycle.runFrom_of_walk h

/-- A sync that succeeded ran its cycle to the end. -/
theorem exit_of_ok {r : UpdateResult} (h : (t.play p w).outcome = .ok r) :
    Cycle.Exit p t.request (t.arrange w) (.ok r) (t.play p w).world := by
  rcases play_cases p t w with ⟨-, e, houtcome, -⟩ | ⟨hexit, -⟩
  · rw [houtcome] at h
    cases h
  · rw [h] at hexit
    exact hexit

/-- **A sync leaves other chains alone.** -/
theorem unmoved_play {chain : String} (hne : chain ≠ t.request.chain) :
    Bench.Unmoved p.topics chain (t.arrange w) (t.play p w).world :=
  SyncRequest.unmoved_sync hne (t.arrange w)

end Round

end PoolFeed
