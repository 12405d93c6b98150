import PoolFeed.Proofs.Sync.Progress

/-!
# What a cycle has published when it comes to store its snapshot

Over any store, a cycle stores its snapshot once both channels took every message, and the result
that it carries by then is that of these messages.

## Main statements

* `Cycle.Announced.step` — a step keeps what is known of the payloads that were taken
* `Cycle.Reaches.announced` — what was taken of a cycle that comes to store its snapshot
-/

namespace PoolFeed.Cycle

variable {σ : Type} [SnapshotStore σ] {p : Publisher} {request : SyncRequest}
  {w w' : World σ RecordingTransport} {c : Cycle}

/-- What a cycle is to send: the changes since a snapshot, or everything, under an id and a time. -/
structure Plan (request : SyncRequest) where
  base : Option Snapshot
  id : Int
  time : Timestamp

namespace Plan

def messages (plan : Plan request) : List ChangeMessage :=
  Cycle.messages ⟨request.chain, plan.id, plan.time⟩ request.items plan.base

def result (plan : Plan request) : UpdateResult := plannedResult request plan.base plan.id

theorem result_snapshotId (plan : Plan request) : plan.result.snapshotId = plan.id := by
  unfold result plannedResult
  split <;> rfl

end Plan

/-- What is known of the payloads of a cycle that has come so far. -/
inductive Announced (p : Publisher) (request : SyncRequest) (t : RecordingTransport) :
    RecordingTransport → Cycle → Prop
  | load : Announced p request t t .load
  | allocate (previous : Option Snapshot) : Announced p request t t (.allocate previous)
  | send (plan : Plan request) {done rest : List ChangeMessage} {m : ChangeMessage}
    (hmessages : plan.messages = done ++ m :: rest) (channel : Channel) :
    Announced p request t (t.holding (p.emissions done ++ p.emittedBefore m channel))
      (.send ⟨plan.result, plan.time, done.map (·.kind), m, channel, rest⟩)
  | append (plan : Plan request) :
    Announced p request t (t.holding (p.emissions plan.messages)) (.append plan.result plan.time)
  | done (t' : RecordingTransport) (outcome : Except SyncError UpdateResult) :
    Announced p request t t' (.done outcome)

variable {t : RecordingTransport}

theorem announced_sendAll (plan : Plan request) {done ms : List ChangeMessage}
    (hmessages : plan.messages = done ++ ms) :
    Announced p request t (t.holding (p.emissions done))
      (sendAll plan.result plan.time (done.map (·.kind)) ms) := by
  cases ms with
  | nil =>
    rw [List.append_nil] at hmessages
    rw [← hmessages]
    exact .append plan
  | cons m rest =>
    have hsend := Announced.send (p := p) (t := t) plan hmessages .minimal
    rw [Publisher.emittedBefore, List.append_nil] at hsend
    exact hsend

theorem announced_stepLoad : Announced p request w.transport
    (stepLoad request w).world.transport (stepLoad request w).next := by
  simp only [stepLoad]
  split
  · exact .done _ _
  · exact .allocate _

theorem announced_stepAllocate (previous : Option Snapshot) : Announced p request w.transport
    (stepAllocate request previous w).world.transport (stepAllocate request previous w).next := by
  simp only [stepAllocate]
  split
  · exact .done _ _
  · next id _ =>
    let plan : Plan request := ⟨base? request previous, id, w.now⟩
    have hmessages : plan.messages = [] ++ plan.messages := rfl
    have hsend := announced_sendAll (p := p) (t := w.transport) plan hmessages
    rw [Publisher.emissions, List.flatMap_nil, RecordingTransport.holding_nil] at hsend
    exact hsend

omit [SnapshotStore σ] in
theorem announced_stepSend (plan : Plan request) {done rest : List ChangeMessage}
    {m : ChangeMessage} (hmessages : plan.messages = done ++ m :: rest) (channel : Channel)
    (hw : w.transport = t.holding (p.emissions done ++ p.emittedBefore m channel)) :
    let s : Sending := ⟨plan.result, plan.time, done.map (·.kind), m, channel, rest⟩
    Announced p request t (stepSend p s w).world.transport (stepSend p s w).next := by
  intro s
  unfold stepSend
  rcases p.send_cases m channel w.transport with ⟨hok, htransport⟩ | ⟨reason, herror, -⟩
  · simp only [s]
    rw [hok, htransport, hw, RecordingTransport.holding_holding, List.append_assoc]
    cases channel with
    | minimal => exact .send plan hmessages .full
    | full =>
      -- Both channels took the message, which now stands behind the others.
      have hmessages' : plan.messages = (done ++ [m]) ++ rest := by
        rw [List.append_assoc]
        exact hmessages
      have hnext := announced_sendAll (p := p) (t := t) plan hmessages'
      rw [Publisher.emissions_append, List.map_append] at hnext
      exact hnext
  · simp only [s]
    rw [herror]
    exact .done _ _

theorem announced_stepAppend (result : UpdateResult) (time : Timestamp) :
    Announced p request t (stepAppend request result time w).world.transport
      (stepAppend request result time w).next := by
  simp only [stepAppend]
  split
  · exact .done _ _
  · exact .done _ _

/-- **A step keeps what is known of the payloads that were taken.** -/
theorem Announced.step (h : Announced p request t w.transport c) :
    Announced p request t (step p request w c).world.transport (step p request w c).next := by
  generalize ht : w.transport = t' at h
  cases h with
  | load => subst ht; exact announced_stepLoad
  | allocate previous => subst ht; exact announced_stepAllocate previous
  | send plan hmessages channel => exact announced_stepSend plan hmessages channel ht
  | append plan => exact announced_stepAppend _ _
  | done => exact .done _ _

theorem announced_of_reaches (h : Reaches p request w w' c) :
    Announced p request w.transport w'.transport c := by
  induction h with
  | load => exact .load
  | step _ ih => exact ih.step

/-- **A cycle that comes to store its snapshot has published every message of its result.** -/
theorem Reaches.announced {result : UpdateResult} {time : Timestamp}
    (h : Reaches p request w w' (.append result time)) :
    ∃ base, result = plannedResult request base result.snapshotId
      ∧ w'.transport = w.transport.holding
        (p.emissions (messages ⟨request.chain, result.snapshotId, time⟩ request.items base)) := by
  have hannounced := announced_of_reaches h
  generalize ht : w'.transport = t' at hannounced
  cases hannounced with
  | append plan =>
    refine ⟨plan.base, ?_, ?_⟩
    · rw [plan.result_snapshotId]
      rfl
    · rw [plan.result_snapshotId]
      rfl

end PoolFeed.Cycle
