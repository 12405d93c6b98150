import PoolFeed.Proofs.Sync.Session
import PoolFeed.Proofs.Sync.Unchanged

/-!
# What calls for a full resync

Some failures call for a full resync, as subscribers may have seen a part of what is not stored. A
cycle that fails after one of its payloads was recorded always calls for one. It calls for one in
vain if it had nothing to send in the first place: its snapshot names the keys that are stored
already, cannot be stored itself, and is reported as sent but not stored all the same.

## Main statements

* `Cycle.Exit.alarm` — which failures of a cycle call for a resync
* `SyncRequest.FailsIdly.sync` — what is reported of a request that had nothing to send
* `SyncRequest.alarm_iff` — when a request calls for a resync
-/

namespace PoolFeed

open Text (Bytes)

namespace Cycle

variable {p : Publisher} {request : SyncRequest} {w w' : Bench}

/-- A message that failed calls for a resync unless nothing was sent before. -/
theorem failureBehind_requiresFullResync (p : Publisher) (kinds : List Kind) (m : ChangeMessage)
    (channel : Channel) (reason : String) :
    (failureBehind kinds (p.failure m channel reason)).requiresFullResync = true
      ↔ kinds ≠ [] ∨ channel = .full := by
  cases kinds with
  | nil => cases channel <;> simp [failureBehind, Publisher.failure, SyncError.requiresFullResync]
  | cons k kinds => simp [failureBehind, SyncError.requiresFullResync]

theorem emissions_eq_nil_iff {ms : List ChangeMessage} : p.emissions ms = [] ↔ ms = [] := by
  cases ms with
  | nil => exact iff_of_true rfl rfl
  | cons m ms => exact iff_of_false nofun nofun

/-- Nothing was sent in front of a message exactly if it is the first one, on the first channel. -/
theorem sent_eq_nil_iff {done : List ChangeMessage} {m : ChangeMessage} {channel : Channel} :
    p.emissions done ++ p.emittedBefore m channel = [] ↔ done = [] ∧ channel = .minimal := by
  rw [List.append_eq_nil_iff, emissions_eq_nil_iff]
  cases channel with
  | minimal => exact and_congr_right fun _ => iff_of_true rfl rfl
  | full => exact and_congr_right fun _ => iff_of_false nofun nofun

/--
**The failures of a cycle that call for a resync** are those behind a payload that was recorded,
and the failure to store what did not have to be sent.
-/
theorem Exit.alarm {e : SyncError} (h : Exit p request w (.error e) w') :
    ∃ sent, w'.transport = w.transport.holding sent
      ∧ (e.requiresFullResync = true ↔ sent ≠ []
        ∨ (w.store.loadsFail = false ∧ w.store.appendsFail = true ∧ due request w = []))
      ∧ (due request w = [] → sent = []) := by
  cases h with
  | notLoaded hload =>
    refine ⟨[], (RecordingTransport.holding_nil _).symm, iff_of_false nofun ?_, fun _ => rfl⟩
    rintro (hsent | ⟨hload', -⟩)
    · exact hsent rfl
    · rw [hload] at hload'
      cases hload'
  | @notSent hload done rest m hdue channel reason =>
    have hne : due request w ≠ [] := by
      rw [hdue]
      simp
    refine ⟨_, rfl, ?_, fun hnil => absurd hnil hne⟩
    have hidle : ¬ (w.store.loadsFail = false ∧ w.store.appendsFail = true
        ∧ due request w = []) := fun hidle => hne hidle.2.2
    rw [or_iff_left hidle, failureBehind_requiresFullResync, Ne, List.map_eq_nil_iff, Ne,
      sent_eq_nil_iff, not_and_or]
    exact or_congr_right (by cases channel <;> decide)
  | notStored hload happend reason =>
    refine ⟨_, rfl, iff_of_true rfl ?_, emissions_eq_nil_iff.mpr⟩
    rw [Ne, emissions_eq_nil_iff]
    exact (Classical.em (due request w = [])).symm.imp_right fun hnil => ⟨hload, happend, hnil⟩

end Cycle

namespace SyncRequest

variable {p : Publisher} {request : SyncRequest} {w : Bench} {e : SyncError}

/--
Whether a request has nothing to send and fails at the end: the latest snapshot has the keys that
are to be synced, and the store fails at appending.
-/
structure FailsIdly (request : SyncRequest) (w : Bench) : Prop where
  valid : request.check = .ok ()
  loads : w.store.loadsFail = false
  appends : w.store.appendsFail = true
  unforced : request.forceFull = false
  unchanged : ∃ x, w.store.latest? request.chain = some x ∧ x.items.keys = request.items.keys

theorem failsIdly_iff (h : request.check = .ok ()) : request.FailsIdly w
    ↔ w.store.loadsFail = false ∧ w.store.appendsFail = true ∧ Cycle.due request w = [] := by
  rw [Cycle.due_eq_nil_iff]
  exact ⟨fun hidle => ⟨hidle.loads, hidle.appends, hidle.unforced, hidle.unchanged⟩,
    fun ⟨hloads, happends, hforce, hkeys⟩ => ⟨h, hloads, happends, hforce, hkeys⟩⟩

/-- **Such a request is reported as sent but not stored, although nothing was sent.** -/
theorem FailsIdly.sync (h : request.FailsIdly w) (p : Publisher) :
    (∃ reason, (request.sync p w).outcome = .error (.snapshotNotPersisted
        (Cycle.unchangedResult request (Cycle.issuedId request w)) reason))
      ∧ (request.sync p w).world.transport = w.transport := by
  obtain ⟨hloads, happends, hdue⟩ := (failsIdly_iff h.valid).mp h
  obtain ⟨x, hx, hkeys⟩ := h.unchanged
  have hplanned : Cycle.planned request w
      = Cycle.unchangedResult request (Cycle.issuedId request w) := by
    have hbase : Cycle.base? request (Cycle.previous? request w) = some x := by
      rw [Cycle.base?, h.unforced]
      exact hx
    rw [Cycle.planned, hbase, Cycle.plannedResult_of_keys_eq hkeys]
  rw [sync_of_check h.valid, ← hplanned]
  generalize (Cycle.run p request w).outcome = outcome, (Cycle.run p request w).world = w',
    Cycle.run_exit p request w = hexit
  cases hexit with
  | notLoaded hfail =>
    rw [hloads] at hfail
    cases hfail
  | notSent _ hdue' =>
    rw [hdue] at hdue'
    exact absurd hdue'.symm (by simp)
  | notStored _ _ reason =>
    refine ⟨⟨reason, rfl⟩, ?_⟩
    rw [hdue]
    exact RecordingTransport.holding_nil _
  | completed _ hworks =>
    rw [happends] at hworks
    cases hworks

/-- A request that is turned down calls for no resync. -/
theorem requiresFullResync_of_check (h : request.check = .error e) :
    e.requiresFullResync = false := by
  unfold check at h
  split at h
  · cases h
    rfl
  · cases h

/--
**When a request calls for a full resync.** A request that fails does so exactly if one of its
payloads was recorded, or if it had nothing to send and could not be stored. In the latter case
nothing was recorded, and the resync is called for in vain.
-/
theorem alarm_iff (h : (request.sync p w).outcome = .error e) :
    ∃ sent, (request.sync p w).world.transport.published = w.transport.published ++ sent
      ∧ (e.requiresFullResync = true ↔ sent ≠ [] ∨ request.FailsIdly w)
      ∧ (request.FailsIdly w → sent = []) := by
  cases hcheck : request.check with
  | error e' =>
    have hsync : request.sync p w = ⟨.error e', w, []⟩ := by rw [sync, hcheck]
    have hnot : ¬ request.FailsIdly w := by
      intro hidle
      rw [hidle.valid] at hcheck
      cases hcheck
    rw [hsync] at h ⊢
    cases h
    refine ⟨[], (List.append_nil _).symm, iff_of_false ?_ ?_, fun _ => rfl⟩
    · rw [requiresFullResync_of_check hcheck]
      exact Bool.false_ne_true
    · exact fun halarm => halarm.elim (fun hne => hne rfl) hnot
  | ok =>
    rw [sync_of_check hcheck] at h ⊢
    have hexit := Cycle.run_exit p request w
    rw [h] at hexit
    obtain ⟨sent, htransport, halarm, hnil⟩ := hexit.alarm
    rw [failsIdly_iff hcheck]
    refine ⟨sent, ?_, halarm, fun hidle => hnil hidle.2.2⟩
    rw [htransport]
    rfl

/-! ## With and without cause -/

namespace Alarmed

open Sample (publisher)

def items : Whitelist := Whitelist.empty.insert Sample.one

/-- A first sync of one pool. -/
def first : Round := .calm "ethereum" items

/-- The same once more, with a store that fails at appending. -/
def again : Round := { first with appendsFail := true }

/-- A first sync of which one payload is taken. -/
def halfway : Round := { first with failAfter := some 1 }

/-- A sync that fails behind its first payload calls for a resync with cause. -/
theorem alarm_halfway :
    let w : Bench := halfway.arrange ⟨.empty, .new, ⟨0, 0⟩⟩
    ∃ e, (halfway.request.sync publisher w).outcome = .error e ∧ e.requiresFullResync = true
      ∧ ∃ sent, (halfway.request.sync publisher w).world.transport.published = [] ++ sent
        ∧ sent ≠ [] := by
  intro w
  have hwalk : (Cycle.walk publisher halfway.request 4 w .load).2.outcome?
      = some (.error (.partialPublish .full .minimal .full
        "broker rejected publish to whitelist.pools.ethereum.full")) := rfl
  have hcheck : halfway.request.check = .ok () := Round.check_calm rfl items
  have houtcome := (Round.play_of_walk hcheck hwalk).1
  obtain ⟨sent, hsent, halarm, -⟩ := alarm_iff houtcome
  refine ⟨_, houtcome, rfl, sent, hsent, (halarm.mp rfl).resolve_right fun hidle => ?_⟩
  exact nomatch hidle.appends

/--
**A resync is called for in vain.** A whitelist was synced with success and is synced again. There
is nothing to send, the store fails at appending, and a resync is called for.
-/
theorem alarm_in_vain : ∃ history w, Session publisher history w
    ∧ history.map (·.round) = [first] ∧ w.store.latestKeys "ethereum" = ["0x01"]
    ∧ ∃ e, (again.play publisher w).outcome = .error e ∧ e.requiresFullResync = true
      ∧ (again.play publisher w).world.transport.published = w.transport.published := by
  have hwalk : (Cycle.walk publisher first.request 5 (first.arrange ⟨.empty, .new, ⟨0, 0⟩⟩)
      .load).2.outcome? = some (.ok ⟨"ethereum", 1, 1, 0, 0, .full⟩) := rfl
  have hcheck : first.request.check = .ok () := Round.check_calm rfl items
  have hworld := (Round.play_of_walk hcheck hwalk).2
  have hidle : again.request.FailsIdly
      (again.arrange (first.play publisher ⟨.empty, .new, ⟨0, 0⟩⟩).world) := by
    refine ⟨hcheck, rfl, rfl, rfl, ?_⟩
    rw [hworld]
    exact ⟨_, rfl, rfl⟩
  obtain ⟨⟨reason, houtcome⟩, htransport⟩ := hidle.sync publisher
  refine ⟨_, _, (Session.new ⟨0, 0⟩).round first nofun, rfl, ?_, _, houtcome, rfl, ?_⟩
  · rw [hworld]
    rfl
  · have hpublished := congrArg RecordingTransport.published htransport
    exact hpublished

end Alarmed

end SyncRequest

end PoolFeed
