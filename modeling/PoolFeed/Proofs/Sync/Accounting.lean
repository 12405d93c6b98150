import PoolFeed.Proofs.Snapshot.Memory
import PoolFeed.Proofs.Sync.Changes
import PoolFeed.Proofs.Sync.Progress

/-!
# What the outcome of a cycle accounts for

The payloads that a cycle leaves with the transport are the first of those it set out to send, and
its outcome says how many. The store changes only if the cycle succeeds.

## Main statements

* `Cycle.due_cases` — a cycle has at most two messages, the second being a removal
* `Cycle.Exit.accounts` — every way to end accounts for what was sent
* `SyncRequest.sync_accounted` — the accounts of a whole request
-/

namespace PoolFeed

open Text (Bytes)

namespace Cycle

variable {p : Publisher} {request : SyncRequest} {w : Bench}

/-! ## Messages -/

theorem due_of_full (h : request.forceFull = true ∨ previous? request w = none) :
    due request w = [.ofWhitelist (issuedHeader request w) request.items] := by
  have hbase : base? request (previous? request w) = none := by
    unfold base?
    rcases h with h | h
    · rw [if_pos h]
    · rw [h, ite_self]
  rw [due, hbase]
  rfl

theorem due_of_previous {s : Snapshot} (hforce : request.forceFull = false)
    (hs : previous? request w = some s) : due request w
      = changeMessages (issuedHeader request w) (Diff.between s.items request.items) := by
  have hbase : base? request (previous? request w) = some s := by
    rw [base?, hforce, hs]
    rfl
  rw [due, hbase]
  rfl

/-- A cycle sends its whitelist, or what changed since the snapshot that it finds. -/
theorem due_eq (request : SyncRequest) (w : Bench) :
    due request w = [.ofWhitelist (issuedHeader request w) request.items]
      ∨ ∃ s, previous? request w = some s ∧ due request w
        = changeMessages (issuedHeader request w) (Diff.between s.items request.items) := by
  by_cases hfull : request.forceFull = true ∨ previous? request w = none
  · exact Or.inl (due_of_full hfull)
  · rw [not_or, Bool.not_eq_true] at hfull
    obtain ⟨s, hs⟩ := Option.ne_none_iff_exists'.mp hfull.2
    exact Or.inr ⟨s, hs, due_of_previous hfull.1 hs⟩

theorem mem_due_cases {m : ChangeMessage} (h : m ∈ due request w) :
    m = .ofWhitelist (issuedHeader request w) request.items
      ∨ ∃ s, previous? request w = some s
        ∧ (m = (Diff.between s.items request.items).addition (issuedHeader request w)
          ∨ m = (Diff.between s.items request.items).removal (issuedHeader request w)) := by
  rcases due_eq request w with heq | ⟨s, hs, heq⟩
  · rw [heq] at h
    exact Or.inl (List.mem_singleton.mp h)
  · rw [heq] at h
    exact Or.inr ⟨s, hs, Diff.mem_changeMessages h⟩

theorem header_of_mem_due {m : ChangeMessage} (h : m ∈ due request w) :
    m.header = issuedHeader request w :=
  header_of_mem_messages h

/-- A cycle has at most two messages; if it has two, an addition is followed by a removal. -/
theorem due_cases (request : SyncRequest) (w : Bench) :
    due request w = [] ∨ (∃ m, due request w = [m])
      ∨ ∃ a r, due request w = [a, r] ∧ a.kind = .add ∧ r.kind = .remove := by
  rcases due_eq request w with heq | ⟨s, -, heq⟩
  · exact Or.inr (Or.inl ⟨_, heq⟩)
  · rw [heq]
    rcases (Diff.between s.items request.items).changeMessages_cases (issuedHeader request w) with
      ⟨-, -, heq⟩ | ⟨-, -, heq⟩ | ⟨-, -, heq⟩ | ⟨-, -, heq⟩
    · exact Or.inl heq
    · exact Or.inr (Or.inl ⟨_, heq⟩)
    · exact Or.inr (Or.inl ⟨_, heq⟩)
    · exact Or.inr (Or.inr ⟨_, _, heq, rfl, rfl⟩)

/-- A cycle has nothing to send if it finds the keys that it is to sync. -/
theorem due_eq_nil_iff : due request w = [] ↔ request.forceFull = false
    ∧ ∃ s, previous? request w = some s ∧ s.items.keys = request.items.keys := by
  constructor
  · intro h
    have hbase : ¬ (request.forceFull = true ∨ previous? request w = none) := by
      intro hfull
      rw [due_of_full hfull] at h
      cases h
    rw [not_or, Bool.not_eq_true] at hbase
    obtain ⟨hforce, hprev⟩ := hbase
    obtain ⟨s, hs⟩ := Option.ne_none_iff_exists'.mp hprev
    rw [due_of_previous hforce hs] at h
    exact ⟨hforce, s, hs, Diff.changeMessages_eq_nil_iff.mp h⟩
  · rintro ⟨hforce, s, hs, hkeys⟩
    rw [due_of_previous hforce hs]
    exact Diff.changeMessages_eq_nil_iff.mpr hkeys

/-- Behind at most one message, an addition, stands the message that a cycle is about to send. -/
theorem due_split {done rest : List ChangeMessage} {m : ChangeMessage}
    (h : due request w = done ++ m :: rest) :
    done = [] ∨ ∃ a, done = [a] ∧ rest = [] ∧ a.kind = .add ∧ m.kind = .remove := by
  rcases due_cases request w with hnil | ⟨m', hone⟩ | ⟨a, r, htwo, ha, hr⟩
  · rw [hnil] at h
    exact absurd h.symm (by simp)
  · rw [hone] at h
    cases done with
    | nil => exact Or.inl rfl
    | cons d done =>
      rw [List.cons_append, List.cons.injEq] at h
      exact absurd h.2.symm (by simp)
  · rw [htwo] at h
    cases done with
    | nil => exact Or.inl rfl
    | cons d done =>
      rw [List.cons_append, List.cons.injEq] at h
      obtain ⟨rfl, h⟩ := h
      cases done with
      | nil =>
        rw [List.nil_append, List.cons.injEq] at h
        obtain ⟨rfl, rfl⟩ := h
        exact Or.inr ⟨a, rfl, rfl, ha, hr⟩
      | cons d' done =>
        rw [List.cons_append, List.cons.injEq] at h
        exact absurd h.2.symm (by simp)

/-! ## Accounts -/

/-- What was taken of a cycle's messages, `sent`, as its outcome has it. -/
def Accounts (p : Publisher) (ms : List ChangeMessage) (result : UpdateResult)
    (sent : List (String × Bytes)) : Except SyncError UpdateResult → Prop
  | .ok r => r = result ∧ sent = p.emissions ms
  | .error (.snapshotNotPersisted r _) => r = result ∧ sent = p.emissions ms
  | .error (.storeUnavailable _ _) => sent = []
  | .error (.transportUnavailable subject _) =>
    sent = [] ∧ ∃ m rest, ms = m :: rest ∧ subject = (p.emission m .minimal).1
  | .error (.partialPublish kind succeeded failed _) =>
    succeeded = .minimal ∧ failed = .full
      ∧ ∃ m rest, ms = m :: rest ∧ kind = m.kind ∧ sent = [p.emission m .minimal]
  | .error (.incompleteCycle published source) =>
    published = [.add] ∧ ∃ a r, ms = [a, r] ∧ a.kind = .add ∧ r.kind = .remove ∧
      match source with
      | .transportUnavailable subject _ =>
        subject = (p.emission r .minimal).1 ∧ sent = p.emissions [a]
      | .partialPublish kind succeeded failed _ =>
        kind = .remove ∧ succeeded = .minimal ∧ failed = .full
          ∧ sent = p.emissions [a] ++ [p.emission r .minimal]
      | _ => False
  | .error (.malformedInput _ _) => False
  | .error (.invalidChain _ _) => False

/-- **Every way to end accounts for what was sent.** -/
theorem Exit.accounts {outcome : Except SyncError UpdateResult} {w' : Bench}
    (h : Exit p request w outcome w') : ∃ sent, w'.transport = w.transport.holding sent
      ∧ sent <+: p.emissions (due request w)
      ∧ Accounts p (due request w) (planned request w) sent outcome := by
  cases h with
  | notLoaded hload =>
    exact ⟨[], (RecordingTransport.holding_nil _).symm, List.nil_prefix, rfl⟩
  | @notSent hload done rest m hdue channel reason =>
    refine ⟨_, rfl, ?_, ?_⟩
    · rw [hdue, Publisher.emissions_append]
      refine (List.prefix_append_right_inj _).mpr ?_
      cases channel with
      | minimal => exact List.nil_prefix
      | full => exact ⟨p.emission m .full :: p.emissions rest, rfl⟩
    · rw [hdue]
      -- The failure of a second message is wrapped, as the first one went out on both channels.
      rcases due_split hdue with rfl | ⟨a, rfl, rfl, ha, hm⟩
      · cases channel with
        | minimal => exact ⟨rfl, m, rest, rfl, rfl⟩
        | full => exact ⟨rfl, rfl, m, rest, rfl, rfl, rfl⟩
      · cases channel with
        | minimal =>
          refine ⟨?_, a, m, rfl, ha, hm, rfl, rfl⟩
          rw [List.map_singleton, ha]
        | full =>
          refine ⟨?_, a, m, rfl, ha, hm, hm, rfl, rfl, rfl⟩
          rw [List.map_singleton, ha]
  | notStored => exact ⟨_, rfl, List.prefix_rfl, rfl, rfl⟩
  | completed => exact ⟨_, rfl, List.prefix_rfl, rfl, rfl⟩

/-! ## The store -/

/-- The id of a cycle is above those of all editions of its chain. -/
theorem lt_issuedId {id : Int} (h : id ∈ (w.store.editionsOf request.chain).keys) :
    id < issuedId request w :=
  MemoryStore.lt_nextId h

theorem issuedId_notMem (request : SyncRequest) (w : Bench) :
    issuedId request w ∉ (w.store.editionsOf request.chain).keys :=
  fun h => Int.lt_irrefl _ (lt_issuedId h)

/-- A cycle that succeeded reports its id. -/
theorem Exit.snapshotId_of_ok {r : UpdateResult} {w' : Bench} (h : Exit p request w (.ok r) w') :
    r.snapshotId = issuedId request w := by
  cases h with
  | completed => exact planned_snapshotId request w

/-- The store behind a cycle that did not succeed holds the editions it held before. -/
theorem Exit.editions_of_error {e : SyncError} {w' : Bench}
    (h : Exit p request w (.error e) w') : w'.store.editions = w.store.editions := by
  cases h with
  | notLoaded => rfl
  | notSent => rfl
  | notStored => rfl

/-- The store behind a cycle that succeeded holds one edition more. -/
theorem Exit.editionsOf_of_ok {r : UpdateResult} {w' : Bench} (h : Exit p request w (.ok r) w')
    (chain : String) : w'.store.editionsOf chain
      = if chain = request.chain then
          (w.store.editionsOf chain).insert (issuedId request w) ⟨request.items, w.now⟩
        else w.store.editionsOf chain := by
  cases h with
  | completed =>
    show ((counted request w).store (produced request w)).editionsOf chain = _
    rw [MemoryStore.editionsOf_store (issuedId_notMem request w)]
    by_cases hchain : chain = request.chain
    · subst hchain
      rfl
    · rw [if_neg hchain]
      exact if_neg hchain

/-- What a cycle that succeeded stored is the latest snapshot of its chain. -/
theorem Exit.latest?_of_ok {r : UpdateResult} {w' : Bench} (h : Exit p request w (.ok r) w') :
    w'.store.latest? request.chain = some (produced request w) := by
  cases h with
  | completed => exact MemoryStore.latest?_store (x := produced request w) fun _ => lt_issuedId

theorem Exit.editions_ne_of_ok {r : UpdateResult} {w' : Bench} (h : Exit p request w (.ok r) w') :
    w'.store.editions ≠ w.store.editions := by
  intro heq
  have heditions : w'.store.editionsOf request.chain = w.store.editionsOf request.chain := by
    unfold MemoryStore.editionsOf
    rw [heq]
  refine issuedId_notMem request w ?_
  rw [← heditions, h.editionsOf_of_ok, if_pos rfl]
  exact SortedMap.mem_keys_insert.mpr (Or.inl rfl)

end Cycle

/-! ## Whole requests -/

namespace SyncRequest

/-- The accounts of a request that was run. -/
structure Accounted (p : Publisher) (request : SyncRequest) (w : Bench)
    (run : Cycle.Run MemoryStore RecordingTransport) : Prop where
  /-- One id, above all that are stored, and one time for all messages. -/
  header : ∀ m ∈ Cycle.due request w,
    m.header = ⟨request.chain, Cycle.issuedId request w, w.now⟩
  fresh : ∀ id ∈ (w.store.editionsOf request.chain).keys, id < Cycle.issuedId request w
  /-- Everything is sent if that is asked for or nothing is stored. -/
  full : request.forceFull = true ∨ w.store.latest? request.chain = none →
    Cycle.due request w
      = [⟨⟨request.chain, Cycle.issuedId request w, w.now⟩, .full request.items.records⟩]
  /-- Otherwise the pools that came are sent, if any, and then the keys that went, if any. -/
  change : ∀ s, request.forceFull = false → w.store.latest? request.chain = some s →
    ∃ added removed, added = request.items.records.filter (fun r => r.key ∉ s.items.keys)
      ∧ removed = s.items.keys.filter (· ∉ request.items.keys)
      ∧ Cycle.due request w
        = (if added = [] then []
            else [⟨⟨request.chain, Cycle.issuedId request w, w.now⟩, .add added⟩])
          ++ (if removed = [] then []
            else [⟨⟨request.chain, Cycle.issuedId request w, w.now⟩, .remove removed⟩])
  /-- Nothing is sent if the keys are those of the latest snapshot. -/
  unchanged : Cycle.due request w = [] ↔ request.forceFull = false
    ∧ ∃ s, w.store.latest? request.chain = some s ∧ s.items.keys = request.items.keys
  /-- What was sent are the first of the payloads due, and the outcome says how many. -/
  sent : ∃ sent, run.world.transport.published = w.transport.published ++ sent
    ∧ sent <+: p.emissions (Cycle.due request w)
    ∧ Cycle.Accounts p (Cycle.due request w) (Cycle.planned request w) sent run.outcome
  /-- The snapshots change exactly if the request succeeds. -/
  kept : run.world.store.editions = w.store.editions ↔ ∀ r, run.outcome ≠ .ok r
  /-- What was synced is then the latest snapshot, with all attributes. -/
  stored : ∀ r, run.outcome = .ok r → run.world.store.latest? request.chain
    = some ⟨request.chain, Cycle.issuedId request w, request.items, w.now⟩
  /-- No other snapshot is touched. -/
  others : ∀ chain id, chain ≠ request.chain ∨ id ≠ Cycle.issuedId request w →
    (run.world.store.editionsOf chain).find? id = (w.store.editionsOf chain).find? id

/-- A request is turned down for its chain alone. -/
theorem check_eq_ok_iff {request : SyncRequest} :
    request.check = .ok () ↔ ChainName.check request.chain = .ok () := by
  unfold check
  split
  · next h => rw [h]; exact ⟨nofun, nofun⟩
  · next h => rw [h]; exact ⟨fun _ => rfl, fun _ => rfl⟩

theorem sync_of_check {request : SyncRequest} (h : request.check = .ok ()) (p : Publisher)
    (w : Bench) : request.sync p w = Cycle.run p request w := by
  rw [sync, h]

theorem editions_iff_of_exit {p : Publisher} {request : SyncRequest} {w w' : Bench}
    {outcome : Except SyncError UpdateResult} (h : Cycle.Exit p request w outcome w') :
    w'.store.editions = w.store.editions ↔ ∀ r, outcome ≠ .ok r := by
  cases outcome with
  | error e => exact ⟨fun _ => nofun, fun _ => h.editions_of_error⟩
  | ok r => exact ⟨fun heq => absurd heq h.editions_ne_of_ok, fun hne => absurd rfl (hne r)⟩

theorem others_of_exit {p : Publisher} {request : SyncRequest} {w w' : Bench}
    {outcome : Except SyncError UpdateResult} (h : Cycle.Exit p request w outcome w')
    {chain : String} {id : Int} (hne : chain ≠ request.chain ∨ id ≠ Cycle.issuedId request w) :
    (w'.store.editionsOf chain).find? id = (w.store.editionsOf chain).find? id := by
  cases outcome with
  | error e =>
    unfold MemoryStore.editionsOf
    rw [h.editions_of_error]
  | ok r =>
    rw [h.editionsOf_of_ok]
    split
    · next hchain =>
      rw [SortedMap.find?_insert, if_neg (hne.resolve_left (not_not_intro hchain))]
    · rfl

/--
**Exact accounts of one request.** Whatever the store and the transport hold and whatever they are
told to fail at, the payloads that a valid request adds and the snapshots it stores are those that
its outcome accounts for.
-/
theorem sync_accounted (p : Publisher) (request : SyncRequest) (w : Bench)
    (h : request.check = .ok ()) : Accounted p request w (request.sync p w) := by
  have hexit := Cycle.run_exit p request w
  rw [sync_of_check h]
  refine
    { header := fun m hm => Cycle.header_of_mem_due hm
      fresh := fun id hid => Cycle.lt_issuedId hid
      full := Cycle.due_of_full
      change := ?_
      unchanged := Cycle.due_eq_nil_iff
      sent := ?_
      kept := editions_iff_of_exit hexit
      stored := ?_
      others := fun chain id hne => others_of_exit hexit hne }
  · intro s hforce hs
    refine ⟨_, _, rfl, rfl, ?_⟩
    have hadded : (Diff.between s.items request.items).added
        = request.items.records.filter (fun r => r.key ∉ s.items.keys) :=
      List.filter_congr fun r _ => by
        rw [Bool.eq_iff_iff, Bool.not_eq_true', Whitelist.contains_eq_false_iff,
          decide_eq_true_iff]
    have hremoved : (Diff.between s.items request.items).removed
        = s.items.keys.filter (· ∉ request.items.keys) :=
      List.filter_congr fun k _ => by
        rw [Bool.eq_iff_iff, Bool.not_eq_true', Whitelist.contains_eq_false_iff,
          decide_eq_true_iff]
    rw [Cycle.due_of_previous hforce hs, Cycle.changeMessages, hadded, hremoved]
    simp only [List.isEmpty_iff]
    rfl
  · obtain ⟨sent, htransport, hprefix, haccounts⟩ := hexit.accounts
    refine ⟨sent, ?_, hprefix, haccounts⟩
    rw [htransport]
    rfl
  · intro r hr
    rw [hr] at hexit
    exact hexit.latest?_of_ok

namespace Refused

def publisher : Publisher := ⟨default, Publisher.defaultTimeout⟩

def gone : PoolRecord := ⟨"0x06", [("address", .string "0x06")], rfl, by decide, rfl⟩

def come : PoolRecord :=
  ⟨"0x07", [("address", .string "0x07"), ("token", .string "WETH")], rfl, by decide, rfl⟩

/-- A store with a snapshot of a pool, and a transport that takes three payloads. -/
def stocked : Bench where
  store := MemoryStore.empty.store ⟨"base", 4, Whitelist.empty.insert gone, ⟨0, 0⟩⟩
  transport := { RecordingTransport.new with failAfter := some 3 }
  now := ⟨60, 0⟩

/-- A request with another pool in place of the one that is stored. -/
def replacing : SyncRequest := ⟨"base", Whitelist.empty.insert come, false⟩

end Refused

open Refused in
/--
The accounts of a request that is cut short: the pool that came was sent on both channels, and the
one that went on the minimal channel only.
-/
theorem sync_accounted_refused : replacing.check = .ok ()
    ∧ (∃ reason, (replacing.sync publisher stocked).outcome
      = .error (.incompleteCycle [.add] (.partialPublish .remove .minimal .full reason)))
    ∧ (replacing.sync publisher stocked).world.transport.published.map (·.1)
      = ["whitelist.pools.base.minimal", "whitelist.pools.base.full",
        "whitelist.pools.base.minimal"]
    ∧ Accounted publisher replacing stocked (replacing.sync publisher stocked) := by
  have hcheck : replacing.check = .ok () := check_eq_ok_iff.mpr rfl
  have hwalk : (Cycle.walk publisher replacing 6 stocked .load).2.outcome?
      = some (.error (.incompleteCycle [.add] (.partialPublish .remove .minimal .full
        "broker rejected publish to whitelist.pools.base.full"))) := rfl
  obtain ⟨hcut, hworld⟩ := Cycle.runFrom_of_walk hwalk
  have hrun := sync_of_check hcheck publisher stocked
  have hpublished : (replacing.sync publisher stocked).world.transport.published.map (·.1)
      = ["whitelist.pools.base.minimal", "whitelist.pools.base.full",
        "whitelist.pools.base.minimal"] := by
    rw [hrun, Cycle.run, hworld]
    rfl
  have houtcome := (congrArg Cycle.Run.outcome hrun).trans hcut
  exact ⟨hcheck, ⟨_, houtcome⟩, hpublished, sync_accounted _ _ _ hcheck⟩

end SyncRequest

end PoolFeed
