import PoolFeed.Proofs.Database.Isolation
import PoolFeed.Proofs.Database.Retrieval
import PoolFeed.Proofs.Sync.Announced

/-!
# Snapshots are stored as a whole or not at all

Storing a snapshot takes a transaction of as many statements as the snapshot needs. It succeeds
exactly if all of them are acknowledged within the time of the operation. Wherever it fails, nothing
more is said but the rollback, and what is seen of the tables is what was seen before, or the whole
snapshot.

## Main statements

* `DatabaseStore.append_ending` — how an attempt to store a snapshot ends, on any server
* `DatabaseStore.append_allOrNothing` — what this comes to if the server isolates transactions
* `DatabaseStore.complete_of_empty` — what is seen after any number of attempts
-/

namespace PoolFeed.Database

namespace DatabaseStore

variable {α : Type} [Server α] {s : DatabaseStore α} {x : Snapshot}

/-! ## Any server -/

theorem append_store (s : DatabaseStore α) (x : Snapshot) : (s.append x).store
    = { s with connection := (s.connection.transact s.timeout (writes x)).connection } := by
  simp only [append]
  split <;> rfl

theorem append_of_error {f : Fault}
    (h : (s.connection.transact s.timeout (writes x)).result = .error f) :
    (s.append x).result = .error (failure StoreOperation.append s.timeout f) := by
  simp only [append, h]

/-- Every statement that storing a snapshot takes is acknowledged in time. -/
def Granted (s : DatabaseStore α) (x : Snapshot) : Prop :=
  Acknowledged s.timeout .zero (transaction (writes x)) s.connection.server

/-- An attempt to store a snapshot fails. -/
def Fails (s : DatabaseStore α) (x : Snapshot) : Prop :=
  ∃ f, (s.append x).result = .error (failure StoreOperation.append s.timeout f)

/-- How an attempt to store a snapshot ends, given what it says and how it takes that back. -/
inductive Ending (s : DatabaseStore α) (x : Snapshot) : List Statement → List Statement → Prop
  /-- Everything is acknowledged. -/
  | stored (hup : s.connection.link = .up) (hgranted : s.Granted x)
    (hok : (s.append x).result = .ok ()) : Ending s x (transaction (writes x)) []
  /-- Everything but the commit is acknowledged. -/
  | uncommitted (hup : s.connection.link = .up) (hgranted : ¬ s.Granted x)
    (hack : Acknowledged s.timeout .zero (.startTransaction :: writes x) s.connection.server)
    (hfails : s.Fails x) : Ending s x (transaction (writes x)) []
  /-- An earlier statement is not acknowledged, and a rollback follows. -/
  | takenBack {said : List Statement} (hup : s.connection.link = .up) (hgranted : ¬ s.Granted x)
    (hsaid : said <+: .startTransaction :: writes x)
    (hack : Acknowledged s.timeout .zero said.dropLast s.connection.server)
    (hfails : s.Fails x) : Ending s x said [.rollback]
  /-- An earlier statement is not acknowledged, and nothing reaches the server any more. -/
  | cutOff {said : List Statement} (hup : s.connection.link = .up) (hgranted : ¬ s.Granted x)
    (hsaid : said <+: .startTransaction :: writes x)
    (hack : Acknowledged s.timeout .zero said.dropLast s.connection.server)
    (hfails : s.Fails x) (hlink : (s.append x).store.connection.link ≠ .up) : Ending s x said []
  /-- The server was not there from the start. -/
  | unsaid (hup : s.connection.link ≠ .up) (hfails : s.Fails x)
    (hlink : (s.append x).store.connection.link ≠ .up) : Ending s x [] []

/-- **How an attempt to store a snapshot ends**, and that the server heard what was said. -/
theorem append_ending (s : DatabaseStore α) (x : Snapshot) : ∃ said closing, Ending s x said closing
    ∧ (s.append x).store.connection.server = behind (said ++ closing) s.connection.server
    ∧ (s.append x).store.connection.sent = s.connection.sent ++ (said ++ closing) := by
  have hstore := append_store s x
  by_cases hup : s.connection.link = .up
  · by_cases hgranted : s.Granted x
    · obtain ⟨hok, hafter⟩ := append_of_acknowledged hup hgranted
      refine ⟨_, [], .stored hup hgranted hok, ?_, ?_⟩
      · rw [hafter, List.append_nil]
      · rw [hafter, List.append_nil]
    · obtain ⟨said, link, hack, ⟨f, hf⟩, ⟨rfl, hconn⟩ | ⟨hsaid, hconn⟩⟩ :=
        Connection.transact_of_not_acknowledged hup hgranted
      · rw [transaction, List.dropLast_concat] at hack
        refine ⟨_, [], .uncommitted hup hgranted hack ⟨f, append_of_error hf⟩, ?_, ?_⟩
        · rw [hstore, hconn, List.append_nil]
        · rw [hstore, hconn, List.append_nil]
      · have hfails : s.Fails x := ⟨f, append_of_error hf⟩
        rcases Connection.rollBack_eq s.timeout
            ⟨behind said s.connection.server, link, s.connection.sent ++ said⟩ with
          ⟨-, link', hback⟩ | ⟨hlink, hback⟩
        · refine ⟨said, [.rollback], .takenBack hup hgranted hsaid hack hfails, ?_, ?_⟩
          · rw [hstore, hconn, hback, behind_append]
            rfl
          · rw [hstore, hconn, hback, List.append_assoc]
        · refine ⟨said, [], .cutOff hup hgranted hsaid hack hfails ?_, ?_, ?_⟩
          · rw [hstore, hconn, hback]
            exact hlink
          · rw [hstore, hconn, hback, List.append_nil]
          · rw [hstore, hconn, hback, List.append_nil]
  · obtain ⟨⟨f, hf⟩, hconn⟩ := Connection.transact_of_not_up s.timeout (writes x) hup
    have hlink : (s.append x).store.connection.link ≠ .up := by
      rw [hstore, hconn]
      exact hup
    refine ⟨[], [], .unsaid hup ⟨f, append_of_error hf⟩ hlink, ?_, ?_⟩
    · rw [hstore, hconn]
      rfl
    · rw [hstore, hconn, List.append_nil, List.append_nil]

namespace Ending

variable {said closing : List Statement}

theorem commit_notMem (hsaid : said <+: .startTransaction :: writes x) : .commit ∉ said := by
  intro hmem
  rcases List.mem_cons.mp (hsaid.subset hmem) with h | h
  · cases h
  · cases inserts_of_mem_writes h

theorem ok_iff (h : Ending s x said closing) :
    (s.append x).result = .ok () ↔ s.connection.link = .up ∧ s.Granted x := by
  have hfailed : s.Fails x → ¬ (s.append x).result = .ok () := by
    rintro ⟨f, hf⟩ hok
    rw [hf] at hok
    cases hok
  cases h with
  | stored hup hgranted hok => exact iff_of_true hok ⟨hup, hgranted⟩
  | uncommitted _ hgranted _ hfails => exact iff_of_false (hfailed hfails) fun h => hgranted h.2
  | takenBack _ hgranted _ _ hfails => exact iff_of_false (hfailed hfails) fun h => hgranted h.2
  | cutOff _ hgranted _ _ hfails => exact iff_of_false (hfailed hfails) fun h => hgranted h.2
  | unsaid hup hfails => exact iff_of_false (hfailed hfails) fun h => hup h.1

theorem ok_or_fails (h : Ending s x said closing) :
    (s.append x).result = .ok () ∨ s.Fails x := by
  cases h with
  | stored _ _ hok => exact .inl hok
  | uncommitted _ _ _ hfails => exact .inr hfails
  | takenBack _ _ _ _ hfails => exact .inr hfails
  | cutOff _ _ _ _ hfails => exact .inr hfails
  | unsaid _ hfails => exact .inr hfails

/-- Nothing is said that is not part of the transaction. -/
theorem inOrder (h : Ending s x said closing) : said <+: transaction (writes x) := by
  cases h with
  | stored => exact List.prefix_refl _
  | uncommitted => exact List.prefix_refl _
  | takenBack _ _ hsaid => exact hsaid.trans (List.prefix_append _ _)
  | cutOff _ _ hsaid => exact hsaid.trans (List.prefix_append _ _)
  | unsaid => exact List.nil_prefix

/-- Nothing is said behind the first statement that is not acknowledged. -/
theorem stopped (h : Ending s x said closing) :
    Acknowledged s.timeout .zero said.dropLast s.connection.server := by
  cases h with
  | stored _ hgranted => exact hgranted.of_prefix (List.dropLast_prefix _)
  | uncommitted _ _ hack =>
    rw [transaction, List.dropLast_concat]
    exact hack
  | takenBack _ _ _ hack => exact hack
  | cutOff _ _ _ hack => exact hack
  | unsaid => trivial

theorem closing_eq (h : Ending s x said closing) : closing = [] ∨ closing = [.rollback] := by
  cases h with
  | takenBack => exact .inr rfl
  | _ => exact .inl rfl

/-- A transaction is committed only if everything else was acknowledged. -/
theorem committed (h : Ending s x said closing) (hmem : .commit ∈ said) :
    Acknowledged s.timeout .zero (.startTransaction :: writes x) s.connection.server := by
  cases h with
  | stored _ hgranted => exact hgranted.of_prefix (List.prefix_append _ _)
  | uncommitted _ _ hack => exact hack
  | takenBack _ _ hsaid => exact absurd hmem (commit_notMem hsaid)
  | cutOff _ _ hsaid => exact absurd hmem (commit_notMem hsaid)
  | unsaid => cases hmem

end Ending

/-! ## Servers that isolate transactions -/

variable (iso : Isolation α)

/-- No transaction is open on a connection that still is. -/
def Settled (s : DatabaseStore α) : Prop :=
  s.connection.link = .up → iso.pending? s.connection.server = none

/-- What is seen of the tables of a store. -/
def visible (s : DatabaseStore α) : Tables := iso.visible s.connection.server

namespace Ending

variable {said closing heard : List Statement} {iso}

/-- Before the commit is heard nothing is seen, and behind it nothing or everything. -/
theorem visible_said (h : Ending s x said closing) (hsettled : s.Settled iso)
    (hheard : heard <+: said) : iso.visible (behind heard s.connection.server) = s.visible iso
      ∨ .commit ∈ heard
        ∧ iso.visible (behind heard s.connection.server) = (s.visible iso).storing x := by
  have hdrop : heard.dropLast <+: said.dropLast := by
    refine List.prefix_of_prefix_length_le ((List.dropLast_prefix _).trans hheard)
      (List.dropLast_prefix _) ?_
    rw [List.length_dropLast, List.length_dropLast]
    exact Nat.sub_le_sub_right hheard.length_le 1
  have hack : Acknowledged s.timeout .zero heard.dropLast s.connection.server :=
    h.stopped.of_prefix hdrop
  by_cases hup : s.connection.link = .up
  · -- What is heard is the whole transaction, or it stops in front of the commit.
    rcases List.prefix_concat_iff.mp (hheard.trans h.inOrder) with rfl | hstarted
    · have hcommit : Statement.commit ∈ transaction (writes x) := List.mem_concat_self
      have hall := h.committed (hheard.subset hcommit)
      rcases (iso.visible_transaction (hsettled hup) hall).2 with hseen | ⟨hunseen, -⟩
      · exact .inr ⟨hcommit, hseen⟩
      · exact .inl hunseen
    · exact .inl (iso.visible_started (hsettled hup) hstarted hack)
  · cases h with
    | unsaid =>
      rw [List.prefix_nil.mp hheard]
      exact .inl rfl
    | stored hup' => exact absurd hup' hup
    | uncommitted hup' => exact absurd hup' hup
    | takenBack hup' => exact absurd hup' hup
    | cutOff hup' => exact absurd hup' hup

/-- The rollback changes nothing of what is seen. -/
theorem visible_heard (h : Ending s x said closing) (hsettled : s.Settled iso)
    (hheard : heard <+: said ++ closing) :
    iso.visible (behind heard s.connection.server) = s.visible iso
      ∨ .commit ∈ heard
        ∧ iso.visible (behind heard s.connection.server) = (s.visible iso).storing x := by
  rcases h.closing_eq with rfl | rfl
  · rw [List.append_nil] at hheard
    exact h.visible_said hsettled hheard
  · rcases List.prefix_concat_iff.mp hheard with rfl | hheard
    · rw [behind_append]
      show iso.visible (Server.answer .rollback _).server = _ ∨ _ ∧
        iso.visible (Server.answer .rollback _).server = _
      rw [(iso.rollback _).1]
      exact (h.visible_said hsettled (List.prefix_refl _)).imp_right
        (And.imp_left (List.mem_append_left _))
    · exact h.visible_said hsettled hheard

/-- Whatever is said, no transaction is left open. -/
theorem settled (h : Ending s x said closing) (hsettled : s.Settled iso)
    (hserver : (s.append x).store.connection.server
      = behind (said ++ closing) s.connection.server) : (s.append x).store.Settled iso := by
  intro hlink
  rw [hserver]
  cases h with
  | stored hup hgranted =>
    rw [List.append_nil]
    exact (iso.visible_transaction (hsettled hup) (hgranted.of_prefix (List.prefix_append _ _))).1
  | uncommitted hup _ hack =>
    rw [List.append_nil]
    exact (iso.visible_transaction (hsettled hup) hack).1
  | takenBack =>
    rw [behind_append]
    exact (iso.rollback _).2
  | cutOff _ _ _ _ _ hcut => exact absurd hlink hcut
  | unsaid _ _ hcut => exact absurd hlink hcut

end Ending

/-! ## All or nothing -/

/-- What an attempt to store a snapshot says, and what is seen of it. -/
structure Attempt (iso : Isolation α) (s : DatabaseStore α) (x : Snapshot)
    (said closing : List Statement) : Prop where
  reached : (s.append x).store.connection.server = behind (said ++ closing) s.connection.server
  sent : (s.append x).store.connection.sent = s.connection.sent ++ (said ++ closing)
  /-- The statements of the transaction are said in their order. -/
  inOrder : said <+: transaction (writes x)
  /-- Nothing more is said behind the first one that is not acknowledged but for a rollback. -/
  stopped : Acknowledged s.timeout .zero said.dropLast s.connection.server
  closing_eq : closing = [] ∨ closing = [.rollback]
  /-- The commit is said only if all inserts were acknowledged. -/
  committed : .commit ∈ said →
    Acknowledged s.timeout .zero (.startTransaction :: writes x) s.connection.server
  /-- At no point a part of the snapshot is seen. -/
  visible : ∀ heard, heard <+: said ++ closing →
    iso.visible (behind heard s.connection.server) = s.visible iso
      ∨ .commit ∈ heard
        ∧ iso.visible (behind heard s.connection.server) = (s.visible iso).storing x
  /-- At no point a pool is seen without its head, or a head without all the pools it counts. -/
  complete : (s.visible iso).Complete → ∀ heard, heard <+: said ++ closing →
    (iso.visible (behind heard s.connection.server)).Complete

/-- A snapshot is stored as a whole or not at all, and the cycle that stores it tells which. -/
structure AllOrNothing (iso : Isolation α) (s : DatabaseStore α) (x : Snapshot) : Prop where
  /-- It is stored if every statement is accepted, all of them within the time of the operation. -/
  ok_iff : (s.append x).result = .ok () ↔ s.connection.link = .up
    ∧ (∀ r ∈ responses (transaction (writes x)) s.connection.server, ∃ rows, r.reply = .rows rows)
    ∧ waited (responses (transaction (writes x)) s.connection.server) < s.timeout.nanoseconds
  failed : ∀ e, (s.append x).result = .error e →
    ∃ f : Fault, e = .storeUnavailable "append" (f.message s.timeout)
  attempt : ∃ said closing, Attempt iso s x said closing
  shown : (s.append x).result = .ok () → (s.append x).store.visible iso = (s.visible iso).storing x
  /-- The next operation finds no open transaction. -/
  settled : (s.append x).store.Settled iso
  /-- What the cycle answers. -/
  answered : ∀ {τ : Type} [Transport τ] (p : Publisher) (request : SyncRequest)
    (w w' : World (DatabaseStore α) τ) (result : UpdateResult) (time : Timestamp),
    Cycle.Reaches p request w w' (.append result time) → w'.store = s →
    x = ⟨request.chain, result.snapshotId, request.items, time⟩ →
    ((s.append x).result = .ok () → (Cycle.run p request w).outcome = .ok result)
      ∧ ∀ e, (s.append x).result = .error e →
        (Cycle.run p request w).outcome = .error (.snapshotNotPersisted result e.message)
  /-- The result that it answers with is that of the messages it published. -/
  published : ∀ (p : Publisher) (request : SyncRequest)
    (w w' : World (DatabaseStore α) RecordingTransport) (result : UpdateResult) (time : Timestamp),
    Cycle.Reaches p request w w' (.append result time) →
    ∃ base, result = Cycle.plannedResult request base result.snapshotId
      ∧ (Cycle.run p request w).world.transport = w.transport.holding (p.emissions
        (Cycle.messages ⟨request.chain, result.snapshotId, time⟩ request.items base))

theorem granted_iff : s.Granted x ↔
    (∀ r ∈ responses (transaction (writes x)) s.connection.server, ∃ rows, r.reply = .rows rows)
    ∧ waited (responses (transaction (writes x)) s.connection.server) < s.timeout.nanoseconds := by
  have hne : transaction (writes x) ≠ [] := nofun
  rw [Granted, acknowledged_iff s.timeout .zero hne]
  show _ ∧ 0 + _ < _ ↔ _
  rw [Nat.zero_add]

theorem exists_attempt (hsettled : s.Settled iso) (x : Snapshot) :
    (∃ said closing, Attempt iso s x said closing) ∧ (s.append x).store.Settled iso := by
  obtain ⟨said, closing, hending, hserver, hsent⟩ := append_ending s x
  refine ⟨⟨said, closing, ?_⟩, hending.settled hsettled hserver⟩
  refine
    { reached := hserver
      sent := hsent
      inOrder := hending.inOrder
      stopped := hending.stopped
      closing_eq := hending.closing_eq
      committed := hending.committed
      visible := fun _ hheard => hending.visible_heard hsettled hheard
      complete := fun hcomplete heard hheard => ?_ }
  rcases hending.visible_heard hsettled hheard with hseen | ⟨-, hseen⟩
  · rw [hseen]
    exact hcomplete
  · rw [hseen]
    exact Tables.complete_storing hcomplete

theorem complete_foldl_append (xs : List Snapshot) (hsettled : s.Settled iso)
    (hcomplete : (s.visible iso).Complete) :
    (xs.foldl (fun s x => (s.append x).store) s).Settled iso
      ∧ ((xs.foldl (fun s x => (s.append x).store) s).visible iso).Complete := by
  induction xs generalizing s with
  | nil => exact ⟨hsettled, hcomplete⟩
  | cons x xs ih =>
    obtain ⟨⟨said, closing, hattempt⟩, hsettled'⟩ := exists_attempt iso hsettled x
    have hnext : ((s.append x).store.visible iso).Complete := by
      rw [visible, hattempt.reached]
      exact hattempt.complete hcomplete _ (List.prefix_refl _)
    exact ih hsettled' hnext

/--
**Only complete snapshots are ever seen** of a store that began without rows, whichever attempts to
store a snapshot have failed since then.
-/
theorem complete_of_empty (xs : List Snapshot) (hsettled : s.Settled iso)
    (hempty : s.visible iso = .empty) :
    ((xs.foldl (fun s x => (s.append x).store) s).visible iso).Complete := by
  refine (complete_foldl_append iso xs hsettled ?_).2
  rw [hempty]
  exact Tables.complete_empty

/-- **A snapshot is stored as a whole or not at all.** -/
theorem append_allOrNothing (s : DatabaseStore α) (x : Snapshot) (hsettled : s.Settled iso) :
    AllOrNothing iso s x := by
  obtain ⟨said, closing, hending, -, -⟩ := append_ending s x
  obtain ⟨hattempt, hsettled'⟩ := exists_attempt iso hsettled x
  refine
    { ok_iff := ?ok_iff
      failed := ?failed
      attempt := hattempt
      shown := ?shown
      settled := hsettled'
      answered := ?answered
      published := ?published }
  case ok_iff =>
    rw [hending.ok_iff, granted_iff]
  case failed =>
    intro e he
    rcases hending.ok_or_fails with hok | ⟨f, hf⟩
    · rw [hok] at he
      cases he
    · rw [hf] at he
      cases he
      exact ⟨f, rfl⟩
  case shown =>
    intro hok
    obtain ⟨hup, hgranted⟩ := hending.ok_iff.mp hok
    have hinserted := hgranted.of_prefix (List.prefix_append _ _)
    rw [visible, (append_of_acknowledged hup hgranted).2]
    exact (iso.visible_transaction (hsettled hup) hinserted).2.resolve_right
      fun h => h.2 hgranted
  case answered =>
    intro τ _ p request w w' result time hreaches hstore hx
    subst hstore hx
    rw [hreaches.run_eq.1]
    exact ⟨Cycle.runFrom_append_of_ok, fun _ => Cycle.runFrom_append_of_error⟩
  case published =>
    intro p request w w' result time hreaches
    obtain ⟨base, hresult, htransport⟩ := hreaches.announced
    refine ⟨base, hresult, ?_⟩
    rw [hreaches.run_eq.2, Cycle.runFrom_append_transport]
    exact htransport

/-! ### A head that is refused -/

namespace HeadRefused

def pool : PoolRecord := .bare "0x05" rfl (by decide)

def snapshot : Snapshot := ⟨"ethereum", 1, Whitelist.empty.insert pool, ⟨0, 0⟩⟩

/-- A store whose server refuses the third statement. -/
def store : DatabaseStore Unreliable :=
  ⟨.new ⟨.new, [.done .zero, .done .zero, .refused .zero]⟩, .ofSeconds 30⟩

theorem writes_snapshot : writes snapshot
    = [.insertPools [poolRow snapshot pool], .insertHead "ethereum" 1 1 ⟨0, 0⟩] := by
  have hrecords : snapshot.items.records = [pool] := rfl
  rw [writes_eq, batches, hrecords, chunks, dif_neg (by decide), chunks, dif_pos (.inl rfl)]
  rfl

/-- The pool was inserted, but nothing is seen of it. -/
theorem append_refused : store.Settled Unreliable.isolation
    ∧ AllOrNothing Unreliable.isolation store snapshot
    ∧ (store.append snapshot).result = .error (.storeUnavailable "append" "db error")
    ∧ (store.append snapshot).store.visible Unreliable.isolation = .empty := by
  have hsettled : store.Settled Unreliable.isolation := fun _ => rfl
  refine ⟨hsettled, append_allOrNothing Unreliable.isolation store snapshot hsettled, ?_, ?_⟩
  · simp only [append, writes_snapshot]
    rfl
  · simp only [append, writes_snapshot]
    rfl

end HeadRefused

end DatabaseStore

end PoolFeed.Database
