import PoolFeed.Program

/-!
# Remarks that name no broker

Only the part of a command that opens its broker reports the URL of the broker. Every other part is
quiet about it: it reports other events, and it does the same whatever was reported before.

## Main statements

* `SyncRequest.events_sync_quiet`, `Watch.events_follow_quiet` — cycles and watches name no broker
* `Command.Quiet.bind` — quiet parts in a row are quiet
* `Command.openStore_quiet`, `Command.askStore_quiet`, `Command.runCycle_quiet` — the larger parts
  of commands
-/

namespace PoolFeed

/-! ## Events -/

/-- Whether an event names no broker. -/
def Event.isQuiet : Event → Bool
  | .brokerConnecting _ => false
  | _ => true

namespace Backoff

theorem events_behind_quiet {ε β : Type} {r : Run ε β} {events : List Event} {steps : List Step}
    (hevents : events.all Event.isQuiet) (h : r.events.all Event.isQuiet) :
    (r.behind steps events).events.all Event.isQuiet := by
  rw [Run.behind, List.all_append, hevents, h]
  rfl

theorem events_tryFrom_quiet {ε β : Type} {attempt : Nat → Attempt ε β}
    (h : ∀ n, (attempt n).events.all Event.isQuiet) (maxRetries left n : Nat)
    (pause : Duration) (lastError : Option ε) :
    (tryFrom attempt maxRetries left n pause lastError).events.all Event.isQuiet := by
  induction left generalizing n pause lastError with
  | zero => rfl
  | succ left ih =>
    have hretrying : ((attempt n).events ++ [Event.retrying (n + 1) (maxRetries + 1) pause]).all
        Event.isQuiet := by
      rw [List.all_append, h n]
      rfl
    unfold tryFrom
    simp only
    split
    · exact h n
    · split
      · split
        · exact h n
        · split
          · exact hretrying
          · exact events_behind_quiet hretrying (ih ..)
      · exact events_behind_quiet (h n) (ih ..)

end Backoff

namespace Database

variable {α : Type} [Server α]

theorem Opening.events_run_quiet (o : Opening) (reached : Nat → Option α) :
    (o.run reached).events.all Event.isQuiet := by
  refine Backoff.events_tryFrom_quiet (fun n => ?_) _ _ _ _ _
  have hcertificate : o.certificateEvents.all Event.isQuiet := by
    unfold certificateEvents
    split <;> rfl
  unfold attempt
  split
  · rfl
  · split
    · exact hcertificate
    · simp only
      split
      · exact hcertificate
      · rw [List.all_append, hcertificate]
        rfl

namespace DatabaseStore

theorem events_loadLatest_quiet (chain : String) (s : DatabaseStore α) :
    (SnapshotStore.loadLatest chain s).events.all Event.isQuiet := by
  show (loadLatest chain s).events.all Event.isQuiet
  unfold loadLatest
  simp only
  split
  · rfl
  · rfl
  · split
    · rfl
    · split <;> rfl

theorem events_append_quiet (snapshot : Snapshot) (s : DatabaseStore α) :
    (SnapshotStore.append snapshot s).events.all Event.isQuiet := by
  show (append snapshot s).events.all Event.isQuiet
  unfold append
  simp only
  split <;> rfl

theorem events_ensureSchema_quiet (s : DatabaseStore α) :
    (SnapshotStore.ensureSchema s).events.all Event.isQuiet := by
  show (ensureSchema s).events.all Event.isQuiet
  unfold ensureSchema
  simp only
  split <;> rfl

end DatabaseStore

end Database

open Database (DatabaseStore Server)

theorem Publisher.events_send_quiet {τ : Type} [Transport τ] (p : Publisher) (m : ChangeMessage)
    (channel : Channel) (t : τ) : (p.send m channel t).events.all Event.isQuiet := by
  unfold send
  simp only
  split <;> cases channel <;> rfl

namespace Cycle

variable {α τ : Type} [Server α] [Transport τ]

theorem events_step_quiet (p : Publisher) (request : SyncRequest) (w : World (DatabaseStore α) τ)
    (c : Cycle) : (c.step p request w).events.all Event.isQuiet := by
  cases c with
  | load => exact DatabaseStore.events_loadLatest_quiet _ _
  | allocate previous =>
    have hunchanged (base : Option Snapshot) :
        (unchangedEvents request base).all Event.isQuiet := by
      cases base with
      | none => rfl
      | some s =>
        unfold unchangedEvents
        simp only
        split <;> rfl
    show (stepAllocate request previous w).events.all Event.isQuiet
    unfold stepAllocate
    simp only
    split
    · rfl
    · exact hunchanged _
  | send s => exact Publisher.events_send_quiet p _ _ _
  | append result timestamp =>
    show (stepAppend request result timestamp w).events.all Event.isQuiet
    unfold stepAppend
    simp only
    split
    · rw [List.all_append, DatabaseStore.events_append_quiet]
      rfl
    · rw [List.all_append, DatabaseStore.events_append_quiet]
      rfl
  | done => rfl

theorem events_runFrom_quiet (p : Publisher) (request : SyncRequest)
    (w : World (DatabaseStore α) τ) (c : Cycle) :
    (runFrom p request w c).events.all Event.isQuiet := by
  fun_induction runFrom p request w c with
  | case1 => rfl
  | case2 w c _ s run ih =>
    show (s.events ++ run.events).all Event.isQuiet
    rw [List.all_append, ih]
    exact (Bool.and_true _).trans (events_step_quiet p request w c)

end Cycle

theorem SyncRequest.events_sync_quiet {α τ : Type} [Server α] [Transport τ] (request : SyncRequest)
    (p : Publisher) (w : World (DatabaseStore α) τ) :
    (request.sync p w).events.all Event.isQuiet := by
  unfold sync
  split
  · rfl
  · exact Cycle.events_runFrom_quiet p request w .load

namespace Watch

theorem events_handle_quiet (w : Watch) (d : Delivery) :
    (w.handle d).events.all Event.isQuiet := by
  unfold handle
  split
  · rfl
  · split
    · rfl
    · next t _ =>
      split
      · rfl
      · next m _ =>
        show (t.apply m).2.2.all Event.isQuiet
        unfold Tracker.apply
        split
        · rfl
        · split <;> rfl

theorem report_quiet (chain : String) (h : Handled) : (report chain h).all Event.isQuiet := by
  unfold report
  split
  · split <;> rfl
  · rfl
  · rfl

theorem events_run_quiet (chain : String) (w : Watch) (ds : List Delivery) :
    (run chain w ds).2.all Event.isQuiet := by
  induction ds generalizing w with
  | nil => rfl
  | cons d ds ih =>
    show ((w.handle d).events ++ report chain (w.handle d)
      ++ (run chain (w.handle d).watch ds).2).all Event.isQuiet
    rw [List.all_append, List.all_append, events_handle_quiet, report_quiet, ih]
    rfl

theorem events_follow_quiet (topics : Topics) (chain : String) (wish : Option Channel)
    (ds : List Delivery) (ending : Ending) :
    (follow topics chain wish ds ending).2.all Event.isQuiet := by
  have hending : (ending.events chain).all Event.isQuiet := by
    cases ending <;> rfl
  show (Event.subscribing _ :: (run chain (new topics chain (channelsFor wish)) ds).2
    ++ ending.events chain).all Event.isQuiet
  rw [List.all_append, List.all_cons, events_run_quiet, hending]
  rfl

end Watch

/-! ## Parts of commands -/

namespace Command

variable {α τ β γ : Type}

def Remark.isQuiet : Remark → Bool
  | .printed _ => true
  | .logged event => event.isQuiet

theorem all_isQuiet_logged {events : List Event} (h : events.all Event.isQuiet) :
    (events.map Remark.logged).all Remark.isQuiet := by
  rw [List.all_map]
  exact h

/-- Two parts in a row: the second one goes on from what the first one left behind. -/
theorem run_bind (a : Action α τ β) (k : β → Action α τ γ) (p : Progress α τ) :
    (a >>= k).run p = match a.run p with
      | (.ok b, q) => (k b).run q
      | (.error f, q) => (.error f, q) := by
  show ExceptT.bindCont k (a.run p).1 (a.run p).2 = _
  obtain ⟨r, q⟩ := a.run p
  cases r <;> rfl

/--
A part of a command whose remarks name no broker. What it does besides does not depend on the
remarks that were made before.
-/
def Quiet (a : Action α τ β) : Prop :=
  ∀ p : Progress α τ, ∃ (r : Except Failure β) (q : Progress α τ) (rs : List Remark),
    rs.all Remark.isQuiet ∧ ∀ front : List Remark,
      a.run { p with remarks := front } = (r, { q with remarks := front ++ rs })

namespace Quiet

theorem pure (b : β) : Quiet (Pure.pure b : Action α τ β) := by
  refine fun p => ⟨.ok b, p, [], rfl, fun front => ?_⟩
  rw [List.append_nil]
  rfl

theorem throw (f : Failure) : Quiet (MonadExcept.throw f : Action α τ β) := by
  refine fun p => ⟨.error f, p, [], rfl, fun front => ?_⟩
  rw [List.append_nil]
  rfl

/-- To leave something behind is quiet, unless that depends on remarks or makes some. -/
theorem modified {change : Progress α τ → Progress α τ}
    (h : ∀ p front, change { p with remarks := front } = { change p with remarks := front }) :
    Quiet (modify change : Action α τ Unit) := by
  refine fun p => ⟨.ok (), change p, [], rfl, fun front => ?_⟩
  rw [List.append_nil, ← h]
  rfl

theorem require (r : Except Failure β) : Quiet (Command.require r : Action α τ β) := by
  cases r with
  | ok b => exact pure b
  | error f => exact throw f

theorem report {events : List Event} (h : events.all Event.isQuiet) :
    Quiet (Command.report events : Action α τ Unit) :=
  fun p => ⟨.ok (), p, _, all_isQuiet_logged h, fun _ => rfl⟩

theorem print (line : String) : Quiet (Command.print line : Action α τ Unit) :=
  fun p => ⟨.ok (), p, [.printed line], rfl, fun _ => rfl⟩

/-- **Quiet parts in a row are quiet.** -/
theorem bind {a : Action α τ β} {k : β → Action α τ γ} (ha : Quiet a) (hk : ∀ b, Quiet (k b)) :
    Quiet (a >>= k) := by
  intro p
  obtain ⟨r, q, rs, hrs, hrun⟩ := ha p
  cases r with
  | error f =>
    refine ⟨.error f, q, rs, hrs, fun front => ?_⟩
    rw [run_bind, hrun]
  | ok b =>
    obtain ⟨r', q', rs', hrs', hrun'⟩ := hk b q
    refine ⟨r', q', rs ++ rs', ?_, fun front => ?_⟩
    · rw [List.all_append, hrs, hrs']
      rfl
    · rw [run_bind, hrun, ← List.append_assoc]
      exact hrun' _

theorem forM (lines : List String) : Quiet (lines.forM Command.print : Action α τ Unit) := by
  induction lines with
  | nil => exact pure ()
  | cons line lines ih => exact bind (print line) fun _ => ih

end Quiet

/-- Asking the store is quiet if its answers are. -/
theorem askStore_quiet {f : DatabaseStore α → Answer (DatabaseStore α) β}
    (h : ∀ store, (f store).events.all Event.isQuiet) (store : DatabaseStore α) :
    Quiet (askStore f store : Action α τ (β × DatabaseStore α)) := by
  unfold askStore
  refine .bind (.report (h store)) fun _ => ?_
  refine .bind (.modified fun _ _ => rfl) fun _ => ?_
  split
  · exact .throw _
  · exact .pure _

variable [Server α] {s : Settings} {x : Surroundings α τ}

theorem openStore_quiet : Quiet (openStore s x : Action α τ (DatabaseStore α)) := by
  unfold openStore
  refine .bind (.require _) fun url => .bind (.report rfl) fun _ => ?_
  refine .bind (.report (Database.Opening.events_run_quiet _ _)) fun _ => ?_
  refine .bind (.modified fun _ _ => rfl) fun _ => ?_
  split
  · exact .throw _
  · exact .bind (.modified fun _ _ => rfl) fun _ => .pure _

theorem runCycle_quiet [Transport τ] (request : SyncRequest) (p : Publisher)
    (w : World (DatabaseStore α) τ) : Quiet (runCycle request p w : Action α τ UpdateResult) := by
  unfold runCycle
  refine .bind (.report (request.events_sync_quiet p w)) fun _ => ?_
  refine .bind (.modified fun _ _ => rfl) fun _ => ?_
  split
  · exact .pure _
  · split
    · exact .bind (.report rfl) fun _ => .throw _
    · exact .throw _

end Command

end PoolFeed
