import PoolFeed.Proofs.Sync.Steps
import PoolFeed.Snapshot.Memory
import PoolFeed.Sync.Request
import PoolFeed.Transport.Recording

/-!
# How far a cycle has come

A cycle over a store in memory and a transport that records. What it has done so far is settled by
where it stands: the store has given out an id once that was asked for, and the transport holds the
payloads of the messages in front of the one that is being sent.

`Cycle.Progress` says so of a cycle under way and `Cycle.Exit` of one that has ended. Every result
about cycles, given up or not, rests on these two.

## Main statements

* `Cycle.progress_step` — a step keeps what is known of a cycle
* `Cycle.progress_walk` — so do several steps
* `Cycle.run_exit` — the ways in which a whole cycle ends
* `Cycle.runFrom_of_walk` — steps up to the end of a cycle are a whole run
-/

namespace PoolFeed

open Text (Bytes)

/-- A store in memory and a transport that records. -/
abbrev Bench := World MemoryStore RecordingTransport

/-! ## Payloads -/

namespace Publisher

/-- A message on a channel: its subject and its payload. -/
def emission (p : Publisher) (m : ChangeMessage) (channel : Channel) : String × Bytes :=
  (p.topics.subject m.header.chain channel, m.encode channel)

/-- Messages on both channels, in the order in which they are sent. -/
def emissions (p : Publisher) (ms : List ChangeMessage) : List (String × Bytes) :=
  ms.flatMap (fun m => [p.emission m .minimal, p.emission m .full])

/-- What was sent of a message once it is due on a channel. -/
def emittedBefore (p : Publisher) (m : ChangeMessage) : Channel → List (String × Bytes)
  | .minimal => []
  | .full => [p.emission m .minimal]

theorem emissions_append (p : Publisher) (ms ns : List ChangeMessage) :
    p.emissions (ms ++ ns) = p.emissions ms ++ p.emissions ns :=
  List.flatMap_append

end Publisher

namespace RecordingTransport

/-- The transport once it took some more payloads. -/
def holding (t : RecordingTransport) (sent : List (String × Bytes)) : RecordingTransport :=
  { t with published := t.published ++ sent }

@[simp] theorem holding_nil (t : RecordingTransport) : t.holding [] = t := by
  rw [holding, List.append_nil]

@[simp] theorem holding_holding (t : RecordingTransport) (sent sent' : List (String × Bytes)) :
    (t.holding sent).holding sent' = t.holding (sent ++ sent') := by
  show RecordingTransport.mk _ _ _ _ = _
  rw [holding, List.append_assoc]
  rfl

/-- A payload is taken, or it is not and nothing changes. -/
theorem publish_cases (subject : String) (payload : Bytes) (t : RecordingTransport) :
    t.publish subject payload = ⟨.ok (), t.holding [(subject, payload)], .zero⟩
      ∨ ∃ reason delay, t.publish subject payload = ⟨.error reason, t, delay⟩ := by
  unfold publish
  split
  · exact Or.inr ⟨_, _, rfl⟩
  · split
    · exact Or.inr ⟨_, _, rfl⟩
    · exact Or.inl rfl

end RecordingTransport

namespace Publisher

/-- A payload is taken in time, or it is not and nothing changes. -/
theorem emit_cases (p : Publisher) (subject : String) (payload : Bytes) (t : RecordingTransport) :
    p.emit subject payload t = ⟨.ok (), t.holding [(subject, payload)], .zero⟩
      ∨ ∃ reason delay, p.emit subject payload t = ⟨.error reason, t, delay⟩ := by
  have hpublish : Transport.publish subject payload t = t.publish subject payload := rfl
  simp only [emit]
  rw [hpublish]
  rcases t.publish_cases subject payload with hok | ⟨reason, delay, herror⟩
  · rw [hok]
    exact Or.inl (if_pos (Nat.zero_le _))
  · rw [herror]
    refine Or.inr ?_
    simp only
    split
    · exact ⟨_, _, rfl⟩
    · exact ⟨_, _, rfl⟩

/-- A message is taken on a channel, or it is not and nothing changes. -/
theorem send_cases (p : Publisher) (m : ChangeMessage) (channel : Channel)
    (t : RecordingTransport) :
    ((p.send m channel t).result = .ok ()
        ∧ (p.send m channel t).transport = t.holding [p.emission m channel])
      ∨ ∃ reason, (p.send m channel t).result = .error (p.failure m channel reason)
        ∧ (p.send m channel t).transport = t := by
  unfold send
  rcases p.emit_cases (p.topics.subject m.header.chain channel) (m.encode channel) t with
    hok | ⟨reason, delay, herror⟩
  · rw [hok]
    exact Or.inl ⟨rfl, rfl⟩
  · rw [herror]
    exact Or.inr ⟨reason, rfl, rfl⟩

end Publisher

namespace Cycle

/-! ## What a cycle sets out to do -/

variable (p : Publisher) (request : SyncRequest) (w : Bench)

/-- The snapshot that a cycle finds. -/
def previous? : Option Snapshot := w.store.latest? request.chain

/-- The id that a cycle is given. -/
def issuedId : Int := w.store.nextId request.chain ((previous? request w).map (·.snapshotId))

/-- What the messages of a cycle have in common. -/
def issuedHeader : Header := ⟨request.chain, issuedId request w, w.now⟩

/-- The messages that a cycle has to send. -/
def due : List ChangeMessage :=
  messages (issuedHeader request w) request.items (base? request (previous? request w))

/-- What a cycle reports if all goes well. -/
def planned : UpdateResult :=
  plannedResult request (base? request (previous? request w)) (issuedId request w)

theorem planned_snapshotId : (planned request w).snapshotId = issuedId request w := by
  unfold planned plannedResult
  split <;> rfl

/-- The snapshot that a cycle stores if all goes well. -/
def produced : Snapshot := ⟨request.chain, issuedId request w, request.items, w.now⟩

/-- The store once a cycle was given its id. -/
def counted : MemoryStore :=
  { w.store with counters := w.store.counters.insert request.chain (issuedId request w) }

/-- What a cycle works with once it was given its id and some payloads were taken. -/
def issued (sent : List (String × Bytes)) : Bench :=
  { w with store := counted request w, transport := w.transport.holding sent }

/-- How a cycle fails whose message failed behind some that were delivered. -/
def failureBehind (delivered : List Kind) (e : SyncError) : SyncError :=
  if delivered.isEmpty then e else .incompleteCycle delivered e

/-! ## Ways in which a cycle ends -/

/-- The outcomes of a cycle, each with what it leaves behind. -/
inductive Exit : Except SyncError UpdateResult → Bench → Prop
  /-- The latest snapshot could not be loaded. -/
  | notLoaded (h : w.store.loadsFail = true) :
    Exit (.error (.storeUnavailable StoreOperation.loadLatest MemoryStore.markedUnavailable)) w
  /-- A message behind some others was not taken on a channel. -/
  | notSent (h : w.store.loadsFail = false) {done rest : List ChangeMessage} {m : ChangeMessage}
    (hdue : due request w = done ++ m :: rest) (channel : Channel) (reason : String) :
    Exit (.error (failureBehind (done.map (·.kind)) (p.failure m channel reason)))
      (issued request w (p.emissions done ++ p.emittedBefore m channel))
  /-- All messages were sent, but the snapshot could not be stored. -/
  | notStored (h : w.store.loadsFail = false) (h' : w.store.appendsFail = true) (reason : String) :
    Exit (.error (.snapshotNotPersisted (planned request w) reason))
      (issued request w (p.emissions (due request w)))
  /-- All messages were sent and the snapshot was stored. -/
  | completed (h : w.store.loadsFail = false) (h' : w.store.appendsFail = false) :
    Exit (.ok (planned request w))
      { issued request w (p.emissions (due request w)) with
        store := (counted request w).store (produced request w) }

/-- What is known of a cycle that has come so far. -/
inductive Progress : Bench → Cycle → Prop
  | load : Progress w .load
  | allocate (h : w.store.loadsFail = false) : Progress w (.allocate (previous? request w))
  | send (h : w.store.loadsFail = false) {done rest : List ChangeMessage} {m : ChangeMessage}
    (hdue : due request w = done ++ m :: rest) (channel : Channel) :
    Progress (issued request w (p.emissions done ++ p.emittedBefore m channel))
      (.send ⟨planned request w, w.now, done.map (·.kind), m, channel, rest⟩)
  | append (h : w.store.loadsFail = false) :
    Progress (issued request w (p.emissions (due request w))) (.append (planned request w) w.now)
  | done {outcome : Except SyncError UpdateResult} {w' : Bench}
    (h : Exit p request w outcome w') : Progress w' (.done outcome)

variable {p request w}

/-- A cycle that has some messages left sends the first of them, or stores its snapshot. -/
theorem progress_sendAll (h : w.store.loadsFail = false) {done ms : List ChangeMessage}
    (hdue : due request w = done ++ ms) :
    Progress p request w (issued request w (p.emissions done))
      (sendAll (planned request w) w.now (done.map (·.kind)) ms) := by
  cases ms with
  | nil =>
    rw [List.append_nil] at hdue
    rw [← hdue]
    exact .append h
  | cons m rest =>
    have hsend := Progress.send (p := p) h hdue .minimal
    rw [Publisher.emittedBefore, List.append_nil] at hsend
    exact hsend

theorem issued_nil : issued request w [] = { w with store := counted request w } := by
  rw [issued, RecordingTransport.holding_nil]

theorem issued_holding (sent sent' : List (String × Bytes)) :
    { issued request w sent with transport := (issued request w sent).transport.holding sent' }
      = issued request w (sent ++ sent') := by
  show { issued request w sent with transport := (w.transport.holding sent).holding sent' } = _
  rw [RecordingTransport.holding_holding]
  rfl

theorem progress_stepLoad : Progress p request w (stepLoad request w).world
    (stepLoad request w).next := by
  unfold stepLoad
  rw [MemoryStore.loadLatest_eq]
  by_cases hload : w.store.loadsFail
  · rw [if_pos hload]
    exact .done (.notLoaded hload)
  · rw [if_neg hload]
    exact .allocate (Bool.eq_false_iff.mpr hload)

theorem progress_stepAllocate (h : w.store.loadsFail = false) : Progress p request w
    (stepAllocate request (previous? request w) w).world
    (stepAllocate request (previous? request w) w).next := by
  have hdue : due request w = [] ++ due request w := rfl
  have hsend := progress_sendAll (p := p) h hdue
  show Progress p request w { w with store := counted request w }
    (sendAll (planned request w) w.now [] (due request w))
  rw [← issued_nil]
  exact hsend

theorem progress_stepSend (h : w.store.loadsFail = false) {done rest : List ChangeMessage}
    {m : ChangeMessage} (hdue : due request w = done ++ m :: rest) {channel : Channel} {w' : Bench}
    (hw : w' = issued request w (p.emissions done ++ p.emittedBefore m channel)) :
    let s : Sending := ⟨planned request w, w.now, done.map (·.kind), m, channel, rest⟩
    Progress p request w (stepSend p s w').world (stepSend p s w').next := by
  intro s
  unfold stepSend
  rcases p.send_cases m channel w'.transport with ⟨hok, htransport⟩ | ⟨reason, herror, htransport⟩
  · simp only [s]
    rw [hok, htransport, hw, issued_holding, List.append_assoc]
    cases channel with
    | minimal => exact .send h hdue .full
    | full =>
      -- Both channels took the message, which now stands behind the others.
      have hdue' : due request w = (done ++ [m]) ++ rest := by
        rw [List.append_assoc]
        exact hdue
      have hnext := progress_sendAll (p := p) h hdue'
      rw [Publisher.emissions_append, List.map_append] at hnext
      exact hnext
  · simp only [s]
    rw [herror, htransport, hw]
    exact .done (.notSent h hdue channel reason)

theorem progress_stepAppend (h : w.store.loadsFail = false) {w' : Bench}
    (hw : w' = issued request w (p.emissions (due request w))) :
    Progress p request w (stepAppend request (planned request w) w.now w').world
      (stepAppend request (planned request w) w.now w').next := by
  have hid : (planned request w).snapshotId = issuedId request w := planned_snapshotId request w
  have hstore : w'.store = counted request w := by rw [hw]; rfl
  unfold stepAppend
  rw [hid, hstore, MemoryStore.append_eq, hw]
  have hswitch : (counted request w).appendsFail = w.store.appendsFail := rfl
  rw [hswitch]
  by_cases happend : w.store.appendsFail
  · rw [if_pos happend]
    exact .done (.notStored h happend _)
  · rw [if_neg happend]
    exact .done (.completed h (Bool.eq_false_iff.mpr happend))

/-- **A step keeps what is known of a cycle.** -/
theorem progress_step {w' : Bench} {c : Cycle} (h : Progress p request w w' c) :
    Progress p request w (step p request w' c).world (step p request w' c).next := by
  cases h with
  | load => exact progress_stepLoad
  | allocate hload => exact progress_stepAllocate hload
  | send hload hdue channel => exact progress_stepSend hload hdue rfl
  | append hload => exact progress_stepAppend hload rfl
  | done hexit => exact .done hexit

/-! ## Runs -/

/-- What is known of a cycle under way tells how it ends. -/
theorem exit_of_progress {w' : Bench} {c : Cycle} (h : Progress p request w w' c) :
    Exit p request w (runFrom p request w' c).outcome (runFrom p request w' c).world := by
  cases hout : c.outcome? with
  | some outcome =>
    rw [runFrom_of_outcome hout]
    cases h with
    | done hexit =>
      cases hout
      exact hexit
    | load => cases hout
    | allocate => cases hout
    | send => cases hout
    | append => cases hout
  | none =>
    -- Every step brings the cycle nearer to its end.
    have hlt := step_rank_lt p request w' c hout
    rw [(runFrom_step hout).1, (runFrom_step hout).2]
    exact exit_of_progress (progress_step h)
termination_by c.rank

/-- **A whole cycle ends in one of these ways.** -/
theorem run_exit (p : Publisher) (request : SyncRequest) (w : Bench) :
    Exit p request w (run p request w).outcome (run p request w).world :=
  exit_of_progress .load

/-- Some steps of a cycle, after which it is given up. -/
def walk (p : Publisher) (request : SyncRequest) : Nat → Bench → Cycle → Bench × Cycle
  | 0, w, c => (w, c)
  | n + 1, w, c => walk p request n (step p request w c).world (step p request w c).next

/-- **Several steps keep what is known of a cycle.** -/
theorem progress_walk (n : Nat) {w' : Bench} {c : Cycle} (h : Progress p request w w' c) :
    Progress p request w (walk p request n w' c).1 (walk p request n w' c).2 := by
  induction n generalizing w' c with
  | zero => exact h
  | succ n ih => exact ih (progress_step h)

/-- Steps that lead to the end of a cycle are a whole run of it. -/
theorem runFrom_of_walk {n : Nat} {w' : Bench} {c : Cycle}
    {outcome : Except SyncError UpdateResult}
    (h : (walk p request n w' c).2.outcome? = some outcome) :
    (runFrom p request w' c).outcome = outcome
      ∧ (runFrom p request w' c).world = (walk p request n w' c).1 := by
  induction n generalizing w' c with
  | zero =>
    have hout : c.outcome? = some outcome := h
    rw [runFrom_of_outcome hout]
    exact ⟨rfl, rfl⟩
  | succ n ih =>
    cases hout : c.outcome? with
    | none =>
      rw [(runFrom_step hout).1, (runFrom_step hout).2]
      exact ih h
    | some o =>
      -- A cycle that has ended stays as it is.
      have hstay : (step p request w' c).world = w' ∧ (step p request w' c).next = c :=
        step_of_outcome hout
      rw [walk, hstay.1, hstay.2] at h ⊢
      exact ih h

end Cycle

end PoolFeed
