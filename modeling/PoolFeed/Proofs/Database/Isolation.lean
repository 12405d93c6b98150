import PoolFeed.Proofs.Database.Acknowledgment
import PoolFeed.Proofs.Database.Storing

/-!
# Servers that isolate transactions

What a transaction has done is seen by nobody else before it is committed, and is gone if it is
rolled back. This is all that is known of such a server: it may refuse a statement, take its time,
or never answer. A transaction that stores a snapshot is then seen as a whole or not at all, at
whatever point it is given up.

## Main statements

* `Isolation.visible_inserting` — nothing is seen of inserts in a transaction
* `Isolation.visible_transaction` — behind the commit everything is seen or nothing is
* `TableServer.isolation`, `Unreliable.isolation` — servers like that
-/

namespace PoolFeed.Database

open DatabaseStore (writes)

/-- What is seen of the tables of a server, and what the open transaction has made of them. -/
structure Isolation (α : Type) [Server α] where
  /-- What others see. -/
  visible : α → Tables
  /-- The tables as the open transaction sees them, if there is one. -/
  pending? : α → Option Tables
  /-- A transaction starts from what is seen. -/
  start : ∀ server, pending? server = none →
    visible (Server.answer .startTransaction server).server = visible server
      ∧ ∀ rows, (Server.answer .startTransaction server).reply = .rows rows →
        pending? (Server.answer .startTransaction server).server = some (visible server)
  /-- Rows that are inserted in a transaction are not seen outside. -/
  insert : ∀ server tables s, s.inserts = true → pending? server = some tables →
    visible (Server.answer s server).server = visible server
      ∧ ∀ rows, (Server.answer s server).reply = .rows rows →
        pending? (Server.answer s server).server = some (tables.run s).2
  /-- A commit shows what the transaction did, or discards it. If it is accepted it shows it. -/
  commit : ∀ server tables, pending? server = some tables →
    pending? (Server.answer .commit server).server = none
      ∧ (visible (Server.answer .commit server).server = tables
        ∨ visible (Server.answer .commit server).server = visible server
          ∧ ∀ rows, (Server.answer .commit server).reply ≠ .rows rows)
  /-- A rollback leaves no transaction open, and is not seen. -/
  rollback : ∀ server, visible (Server.answer .rollback server).server = visible server
    ∧ pending? (Server.answer .rollback server).server = none

namespace Isolation

variable {α : Type} [Server α] (iso : Isolation α) {limit used : Duration} {server : α}
  {tables : Tables} {ss : List Statement} {x : Snapshot}

/-- **Nothing is seen of inserts in a transaction**, not even where the last of them fails. -/
theorem visible_inserting (hinserts : ∀ s ∈ ss, s.inserts = true)
    (hpending : iso.pending? server = some tables)
    (hack : Acknowledged limit used ss.dropLast server) :
    iso.visible (behind ss server) = iso.visible server := by
  -- The open transaction, which every accepted insert leaves open, is what carries the induction.
  induction ss generalizing server tables used with
  | nil => rfl
  | cons s ss ih =>
    obtain ⟨hvisible, hnext⟩ := iso.insert server tables s (hinserts s List.mem_cons_self) hpending
    cases ss with
    | nil => exact hvisible
    | cons s' ss =>
      obtain ⟨⟨rows, hrows⟩, -, hrest⟩ := hack
      exact (ih (fun s hs => hinserts s (List.mem_cons_of_mem _ hs)) (hnext rows hrows) hrest).trans
        hvisible

/-- The transaction sees all inserts that were accepted. -/
theorem pending_inserting (hinserts : ∀ s ∈ ss, s.inserts = true)
    (hpending : iso.pending? server = some tables) (hack : Acknowledged limit used ss server) :
    iso.pending? (behind ss server) = some (ss.foldl (fun t s => (t.run s).2) tables) := by
  induction ss generalizing server tables used with
  | nil => exact hpending
  | cons s ss ih =>
    obtain ⟨⟨rows, hrows⟩, -, hrest⟩ := hack
    have hnext := (iso.insert server tables s (hinserts s List.mem_cons_self) hpending).2 rows hrows
    exact ih (fun s hs => hinserts s (List.mem_cons_of_mem _ hs)) hnext hrest

/-- Nothing is seen of a transaction that stores a snapshot before it is committed. -/
theorem visible_started (hnone : iso.pending? server = none)
    (hfront : ss <+: .startTransaction :: writes x)
    (hack : Acknowledged limit used ss.dropLast server) :
    iso.visible (behind ss server) = iso.visible server := by
  cases ss with
  | nil => rfl
  | cons s ss =>
    obtain ⟨rfl, hwrites⟩ := List.cons_prefix_cons.mp hfront
    obtain ⟨hvisible, hstarted⟩ := iso.start server hnone
    cases ss with
    | nil => exact hvisible
    | cons s ss =>
      obtain ⟨⟨rows, hrows⟩, -, hrest⟩ := hack
      exact (iso.visible_inserting (fun s hs => inserts_of_mem_writes (hwrites.subset hs))
        (hstarted rows hrows) hrest).trans hvisible

/-- A transaction in which everything was accepted is ready to be committed. -/
theorem pending_started (hnone : iso.pending? server = none)
    (hack : Acknowledged limit used (.startTransaction :: writes x) server) :
    iso.pending? (behind (.startTransaction :: writes x) server)
      = some ((iso.visible server).storing x) := by
  obtain ⟨⟨rows, hrows⟩, -, hrest⟩ := hack
  have hpending := iso.pending_inserting (fun _ => inserts_of_mem_writes (x := x))
    ((iso.start server hnone).2 rows hrows) hrest
  exact hpending

/-- **Behind the commit everything is seen or nothing is, and everything if it was accepted.** -/
theorem visible_transaction (hnone : iso.pending? server = none)
    (hack : Acknowledged limit used (.startTransaction :: writes x) server) :
    iso.pending? (behind (transaction (writes x)) server) = none
      ∧ (iso.visible (behind (transaction (writes x)) server) = (iso.visible server).storing x
        ∨ iso.visible (behind (transaction (writes x)) server) = iso.visible server
          ∧ ¬ Acknowledged limit used (transaction (writes x)) server) := by
  have hvisible := iso.visible_started hnone (List.prefix_refl _)
    (hack.of_prefix (List.dropLast_prefix _))
  obtain ⟨hclosed, hseen⟩ := iso.commit _ _ (iso.pending_started hnone hack)
  rw [transaction, behind_append]
  refine ⟨hclosed, ?_⟩
  rcases hseen with hshown | ⟨hsame, hrefused⟩
  · exact .inl hshown
  · refine .inr ⟨hsame.trans hvisible, fun hall => ?_⟩
    obtain ⟨-, ⟨rows, hrows⟩, -⟩ := acknowledged_concat.mp hall
    exact hrefused rows hrows

end Isolation

/-! ## Servers that keep tables -/

/-- A server that keeps tables shows them as they were when the open transaction began. -/
def TableServer.isolation : Isolation TableServer where
  visible server := server.saved.getD server.tables
  pending? server := server.saved.map fun _ => server.tables
  start := by
    intro server hnone
    have hsaved : server.saved = none := Option.map_eq_none_iff.mp hnone
    have hseen : server.saved.getD server.tables = server.tables := by rw [hsaved]; rfl
    rw [hseen]
    exact ⟨rfl, fun _ _ => rfl⟩
  insert := by
    intro server tables s hinserts hpending
    obtain ⟨saved, hsaved, rfl⟩ := Option.map_eq_some_iff.mp hpending
    cases s with
    | insertPools rows => exact ⟨by simp [Server.answer, answer, hsaved],
        fun _ _ => by simp [Server.answer, answer, hsaved]⟩
    | insertHead => exact ⟨by simp [Server.answer, answer, hsaved],
        fun _ _ => by simp [Server.answer, answer, hsaved]⟩
    | _ => cases hinserts
  commit := by
    intro server tables hpending
    obtain ⟨saved, hsaved, rfl⟩ := Option.map_eq_some_iff.mp hpending
    exact ⟨rfl, .inl rfl⟩
  rollback server := ⟨rfl, rfl⟩

/-- What becomes of a statement. -/
inductive Fate where
  /-- It is done, which takes some time. -/
  | done (delay : Duration)
  /-- It is refused after some time. -/
  | refused (delay : Duration)
  /-- Nobody hears of the statement any more, whether or not it is done. -/
  | unheard (isDone : Bool)
  deriving DecidableEq, Repr

/-- A server whose statements may fail, and which may fall silent. -/
structure Unreliable where
  server : TableServer
  /-- What becomes of the next statements. When there are no fates left, everything is done. -/
  fates : List Fate

namespace Unreliable

/-- The server once it has discarded a transaction. -/
def discarded (u : Unreliable) : TableServer := ⟨u.server.saved.getD u.server.tables, none⟩

/-- A server that has refused a statement. A commit that is refused discards the transaction. -/
def refusing (u : Unreliable) : Statement → TableServer
  | .commit => u.discarded
  | _ => u.server

/-- What a server makes of a statement that has a fate. -/
def meet (u : Unreliable) (statement : Statement) : Fate → Response Unreliable
  | .done delay =>
    ⟨.rows (u.server.answer statement).1, delay, ⟨(u.server.answer statement).2, u.fates.tail⟩⟩
  | .refused delay => ⟨.refusal, delay, ⟨u.refusing statement, u.fates.tail⟩⟩
  | .unheard true => ⟨.silence, .zero, ⟨(u.server.answer statement).2, u.fates.tail⟩⟩
  | .unheard false => ⟨.silence, .zero, ⟨u.refusing statement, u.fates.tail⟩⟩

instance : Server Unreliable where
  answer statement u :=
    match statement with
    -- A transaction that is not to be committed is discarded in any case.
    | .rollback => ⟨.rows [], .zero, ⟨u.discarded, u.fates⟩⟩
    | _ => u.meet statement (u.fates.headD (.done .zero))

/-- A statement is done, or it is not and is not accepted either. -/
theorem meet_cases (u : Unreliable) (statement : Statement) (fate : Fate) :
    (u.meet statement fate).server.server = (u.server.answer statement).2
      ∨ (u.meet statement fate).server.server = u.refusing statement
        ∧ ∀ rows, (u.meet statement fate).reply ≠ .rows rows := by
  cases fate with
  | done => exact .inl rfl
  | refused => exact .inr ⟨rfl, nofun⟩
  | unheard isDone =>
    cases isDone with
    | true => exact .inl rfl
    | false => exact .inr ⟨rfl, nofun⟩

theorem answer_insert {s : Statement} (hinserts : s.inserts = true) (u : Unreliable) :
    Server.answer s u = u.meet s (u.fates.headD (.done .zero)) ∧ u.refusing s = u.server := by
  cases s with
  | insertPools => exact ⟨rfl, rfl⟩
  | insertHead => exact ⟨rfl, rfl⟩
  | _ => cases hinserts

/-- Whatever becomes of its statements, such a server isolates transactions. -/
def isolation : Isolation Unreliable where
  visible u := TableServer.isolation.visible u.server
  pending? u := TableServer.isolation.pending? u.server
  start := by
    intro u hnone
    obtain ⟨hvisible, hpending⟩ := TableServer.isolation.start u.server hnone
    show TableServer.isolation.visible (u.meet _ (u.fates.headD _)).server.server = _ ∧ _
    rcases u.meet_cases .startTransaction (u.fates.headD (.done .zero)) with
      hdone | ⟨hkept, hrefused⟩
    · rw [hdone]
      exact ⟨hvisible, fun _ _ => (congrArg _ hdone).trans (hpending _ rfl)⟩
    · rw [hkept]
      exact ⟨rfl, fun rows hrows => absurd hrows (hrefused rows)⟩
  insert := by
    intro u tables s hinserts hopen
    obtain ⟨hvisible, hpending⟩ := TableServer.isolation.insert u.server tables s hinserts hopen
    obtain ⟨hanswer, hrefusing⟩ := u.answer_insert hinserts
    rw [hanswer]
    rcases u.meet_cases s (u.fates.headD (.done .zero)) with hdone | ⟨hkept, hrefused⟩
    · rw [hdone]
      exact ⟨hvisible, fun _ _ => hpending _ rfl⟩
    · rw [hkept, hrefusing]
      exact ⟨rfl, fun rows hrows => absurd hrows (hrefused rows)⟩
  commit := by
    intro u tables hopen
    obtain ⟨hclosed, hseen⟩ := TableServer.isolation.commit u.server tables hopen
    have hshown := hseen.resolve_right fun h => h.2 _ rfl
    show TableServer.isolation.pending? (u.meet _ (u.fates.headD _)).server.server = _ ∧ _
    rcases u.meet_cases .commit (u.fates.headD (.done .zero)) with hdone | ⟨hkept, hrefused⟩
    · rw [hdone]
      exact ⟨hclosed, .inl ((congrArg _ hdone).trans hshown)⟩
    · rw [hkept]
      exact ⟨rfl, .inr ⟨(congrArg TableServer.isolation.visible hkept).trans rfl, hrefused⟩⟩
  rollback _ := ⟨rfl, rfl⟩

end Unreliable

end PoolFeed.Database
