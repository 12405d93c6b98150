import PoolFeed.Database.Store

/-!
# Acknowledged statements

The statements of an operation are acknowledged if the server accepts each of them before the time
of the operation is over. An operation whose statements are acknowledged says all of them and
succeeds; any other one fails, and says nothing more behind the first statement that is not
acknowledged, but for the rollback of a transaction.

## Main statements

* `acknowledged_iff` — all statements are accepted, and their delays together stay below the limit
* `Connection.execute_of_acknowledged`, `Connection.execute_of_not_acknowledged` — one statement
* `Connection.transact_of_acknowledged`, `Connection.transact_of_not_acknowledged` — a transaction
-/

namespace PoolFeed.Database

variable {α : Type} [Server α]

/-- What a server answers to statements that are said one after the other. -/
def responses : List Statement → α → List (Response α)
  | [], _ => []
  | s :: rest, server => Server.answer s server :: responses rest (Server.answer s server).server

/-- A server once it has heard some statements. -/
def behind : List Statement → α → α
  | [], server => server
  | s :: rest, server => behind rest (Server.answer s server).server

/-- How long responses take together, in nanoseconds. -/
def waited : List (Response α) → Nat
  | [] => 0
  | r :: rest => r.delay.nanoseconds + waited rest

/-- An operation that has used some of its time hears in time that statements were accepted. -/
def Acknowledged (limit : Duration) : Duration → List Statement → α → Prop
  | _, [], _ => True
  | used, s :: rest, server =>
    let r := Server.answer s server
    (∃ rows, r.reply = .rows rows) ∧ (used.plus r.delay).nanoseconds < limit.nanoseconds
      ∧ Acknowledged limit (used.plus r.delay) rest r.server

variable {limit used : Duration} {s : Statement} {ss ss' writes : List Statement} {server : α}

theorem behind_append (ss ss' : List Statement) (server : α) :
    behind (ss ++ ss') server = behind ss' (behind ss server) := by
  induction ss generalizing server with
  | nil => rfl
  | cons s ss ih => exact ih _

/-- **All statements are accepted, and their delays together stay below the limit.** -/
theorem acknowledged_iff (limit used : Duration) (hne : ss ≠ []) (server : α) :
    Acknowledged limit used ss server
      ↔ (∀ r ∈ responses ss server, ∃ rows, r.reply = .rows rows)
        ∧ used.nanoseconds + waited (responses ss server) < limit.nanoseconds := by
  induction ss generalizing used server with
  | nil => exact absurd rfl hne
  | cons s ss ih =>
    have hwaited : waited (responses (s :: ss) server) = (Server.answer s server).delay.nanoseconds
        + waited (responses ss (Server.answer s server).server) := rfl
    have hplus : (used.plus (Server.answer s server).delay).nanoseconds
        = used.nanoseconds + (Server.answer s server).delay.nanoseconds := rfl
    have hmem : (∀ r ∈ responses (s :: ss) server, ∃ rows, r.reply = .rows rows)
        ↔ (∃ rows, (Server.answer s server).reply = .rows rows)
          ∧ ∀ r ∈ responses ss (Server.answer s server).server, ∃ rows, r.reply = .rows rows :=
      List.forall_mem_cons
    cases ss with
    | nil => simp [Acknowledged, hplus, responses, waited]
    | cons s' ss =>
      have hrest := ih (used.plus (Server.answer s server).delay) nofun
        (Server.answer s server).server
      rw [hmem, hwaited]
      show _ ∧ _ ∧ Acknowledged limit _ (s' :: ss) _ ↔ _
      rw [hrest, hplus]
      constructor
      · rintro ⟨hrows, -, hall, htime⟩
        exact ⟨⟨hrows, hall⟩, by omega⟩
      · rintro ⟨⟨hrows, hall⟩, htime⟩
        exact ⟨hrows, by omega, hall, by omega⟩

/-- What is acknowledged along with more is acknowledged. -/
theorem Acknowledged.of_prefix (hpre : ss <+: ss') (h : Acknowledged limit used ss' server) :
    Acknowledged limit used ss server := by
  induction ss generalizing ss' used server with
  | nil => trivial
  | cons s ss ih =>
    obtain ⟨rest, rfl⟩ := hpre
    exact ⟨h.1, h.2.1, ih (List.prefix_append _ _) h.2.2⟩

/-! ## One statement -/

namespace Connection

variable {c : Connection α}

/-- A statement that is acknowledged has reached the server, which is still there. -/
theorem execute_of_acknowledged (hup : c.link = .up)
    (h : Acknowledged limit used [s] c.server) :
    ∃ rows, (Server.answer s c.server).reply = .rows rows
      ∧ c.execute limit used s = ⟨.ok rows, used.plus (Server.answer s c.server).delay,
        ⟨(Server.answer s c.server).server, .up, c.sent ++ [s]⟩⟩ := by
  obtain ⟨⟨rows, hrows⟩, htime, -⟩ := h
  have hreaches : c.reaches limit used s = true := by
    have hearly : ¬ limit.nanoseconds ≤ used.nanoseconds := by
      have hplus : (used.plus (Server.answer s c.server).delay).nanoseconds
          = used.nanoseconds + (Server.answer s c.server).delay.nanoseconds := rfl
      omega
    simp [reaches, hup, hearly]
  have hdown : c.link ≠ .down := by rw [hup]; decide
  refine ⟨rows, hrows, ?_⟩
  rw [execute, if_neg hdown, if_pos hreaches]
  simp only [if_pos htime, hrows]
  rfl

/-- A statement that is not acknowledged fails. It may have reached the server. -/
theorem execute_of_not_acknowledged (hup : c.link = .up)
    (h : ¬ Acknowledged limit used [s] c.server) :
    (∃ f, (c.execute limit used s).result = .error f)
      ∧ ((c.execute limit used s).connection = c ∧ s.isPrepared = true
        ∨ ∃ link, (c.execute limit used s).connection
          = ⟨(Server.answer s c.server).server, link, c.sent ++ [s]⟩) := by
  have hdown : c.link ≠ .down := by rw [hup]; decide
  rw [execute, if_neg hdown]
  by_cases hreaches : c.reaches limit used s = true
  · rw [if_pos hreaches]
    refine ⟨?_, .inr ⟨_, rfl⟩⟩
    by_cases htime :
        (used.plus (Server.answer s c.server).delay).nanoseconds < limit.nanoseconds
    · simp only [if_pos htime]
      cases hreply : (Server.answer s c.server).reply with
      | rows rows => exact absurd ⟨⟨rows, hreply⟩, htime, trivial⟩ h
      | refusal => exact ⟨_, rfl⟩
      | silence => exact ⟨_, rfl⟩
      | hangUp => exact ⟨_, rfl⟩
    · simp only [if_neg htime]
      exact ⟨_, rfl⟩
  · rw [if_neg hreaches]
    refine ⟨⟨_, rfl⟩, .inl ⟨rfl, ?_⟩⟩
    cases hprepared : s.isPrepared with
    | true => rfl
    | false => exact absurd (by simp [reaches, hup, hprepared]) hreaches

/-- Nothing is said on a link that is not up. -/
theorem execute_of_not_up (limit used : Duration) (s : Statement) (hup : c.link ≠ .up) :
    (∃ f, (c.execute limit used s).result = .error f)
      ∧ (c.execute limit used s).connection = c := by
  have hreaches : ¬ c.reaches limit used s = true := by simp [reaches, hup]
  by_cases hdown : c.link = .down
  · rw [execute, if_pos hdown]
    exact ⟨⟨_, rfl⟩, rfl⟩
  · rw [execute, if_neg hdown, if_neg hreaches]
    exact ⟨⟨_, rfl⟩, rfl⟩

/-! ## Statements in a row -/

theorem executeAll_of_ok {rows : List Row} (h : (c.execute limit used s).result = .ok rows) :
    c.executeAll limit used (s :: ss) = (c.execute limit used s).connection.executeAll limit
      (c.execute limit used s).used ss := by
  rw [executeAll]
  simp only [h]

theorem executeAll_of_error {f : Fault} (h : (c.execute limit used s).result = .error f)
    (ss : List Statement) : c.executeAll limit used (s :: ss)
      = ⟨.error f, (c.execute limit used s).used, (c.execute limit used s).connection⟩ := by
  rw [executeAll]
  simp only [h]

/-- Statements that are acknowledged have all reached the server. -/
theorem executeAll_of_acknowledged (hup : c.link = .up)
    (h : Acknowledged limit used ss c.server) :
    c.executeAll limit used ss = ⟨.ok (), ⟨used.nanoseconds + waited (responses ss c.server)⟩,
      ⟨behind ss c.server, .up, c.sent ++ ss⟩⟩ := by
  induction ss generalizing used c with
  | nil =>
    obtain ⟨server, link, sent⟩ := c
    cases hup
    rw [List.append_nil]
    rfl
  | cons s ss ih =>
    obtain ⟨rows, -, hfirst⟩ := execute_of_acknowledged hup ⟨h.1, h.2.1, trivial⟩
    have hnow : c.executeAll limit used (s :: ss)
        = executeAll limit (used.plus (Server.answer s c.server).delay) ss
          ⟨(Server.answer s c.server).server, .up, c.sent ++ [s]⟩ := by
      rw [executeAll_of_ok (congrArg _ hfirst), hfirst]
    rw [hnow, ih rfl h.2.2, List.append_assoc]
    have htotal : (used.plus (Server.answer s c.server).delay).nanoseconds
          + waited (responses ss (Server.answer s c.server).server)
        = used.nanoseconds + waited (responses (s :: ss) c.server) :=
      Nat.add_assoc _ _ _
    rw [htotal]
    rfl

/-- Where one statement is not acknowledged, nothing behind it is said. -/
theorem executeAll_of_not_acknowledged (hup : c.link = .up)
    (h : ¬ Acknowledged limit used ss c.server) :
    ∃ said, said <+: ss ∧ Acknowledged limit used said.dropLast c.server
      ∧ (∃ f, (c.executeAll limit used ss).result = .error f)
      ∧ ∃ link, (c.executeAll limit used ss).connection
        = ⟨behind said c.server, link, c.sent ++ said⟩ := by
  induction ss generalizing used c with
  | nil => exact absurd trivial h
  | cons s ss ih =>
    by_cases hfirst : Acknowledged limit used [s] c.server
    · obtain ⟨rows, hrows, hexecute⟩ := execute_of_acknowledged hup hfirst
      have hnow : c.executeAll limit used (s :: ss)
          = executeAll limit (used.plus (Server.answer s c.server).delay) ss
            ⟨(Server.answer s c.server).server, .up, c.sent ++ [s]⟩ := by
        rw [executeAll_of_ok (congrArg _ hexecute), hexecute]
      obtain ⟨said, hpre, hack, herror, link, hconn⟩ :=
        ih (c := ⟨(Server.answer s c.server).server, .up, c.sent ++ [s]⟩) rfl
          fun hrest => h ⟨hfirst.1, hfirst.2.1, hrest⟩
      rw [hnow]
      -- What is said goes on behind the first statement, which was acknowledged.
      refine ⟨s :: said, (List.prefix_cons_inj s).mpr hpre, ?_, herror, link, ?_⟩
      · cases said with
        | nil => trivial
        | cons s' said => exact ⟨hfirst.1, hfirst.2.1, hack⟩
      · rw [hconn, List.append_assoc]
        rfl
    · obtain ⟨⟨f, hf⟩, hconn⟩ := execute_of_not_acknowledged hup hfirst
      -- This statement is the last one that is said, if it reaches the server at all.
      have hnow := executeAll_of_error hf ss
      rcases hconn with ⟨hsame, -⟩ | ⟨link, hsent⟩
      · refine ⟨[], List.nil_prefix, trivial, ⟨f, by rw [hnow]⟩, .up, ?_⟩
        obtain ⟨server, link, sent⟩ := c
        cases hup
        rw [hnow, hsame, List.append_nil]
        rfl
      · refine ⟨[s], ⟨ss, rfl⟩, trivial, ⟨f, by rw [hnow]⟩, link, ?_⟩
        rw [hnow, hsent]
        rfl

theorem executeAll_of_not_up (limit used : Duration) (s : Statement) (ss : List Statement)
    (hup : c.link ≠ .up) :
    (∃ f, (c.executeAll limit used (s :: ss)).result = .error f)
      ∧ (c.executeAll limit used (s :: ss)).connection = c := by
  obtain ⟨⟨f, hf⟩, hconn⟩ := execute_of_not_up limit used s hup
  rw [executeAll_of_error hf]
  exact ⟨⟨f, rfl⟩, hconn⟩

end Connection

/-! ## Transactions -/

/-- Everything that is said to write in a transaction. -/
def transaction (writes : List Statement) : List Statement :=
  (.startTransaction :: writes) ++ [.commit]

theorem acknowledged_concat : Acknowledged limit used (ss ++ [s]) server
    ↔ Acknowledged limit used ss server
      ∧ Acknowledged limit ⟨used.nanoseconds + waited (responses ss server)⟩ [s]
        (behind ss server) := by
  induction ss generalizing used server with
  | nil => exact ⟨fun h => ⟨trivial, h⟩, And.right⟩
  | cons s' ss ih =>
    have hrest : Acknowledged limit (used.plus (Server.answer s' server).delay) (ss ++ [s])
        (Server.answer s' server).server ↔ _ := ih
    have htotal : (used.plus (Server.answer s' server).delay).nanoseconds
          + waited (responses ss (Server.answer s' server).server)
        = used.nanoseconds + waited (responses (s' :: ss) server) :=
      Nat.add_assoc _ _ _
    rw [htotal] at hrest
    constructor
    · rintro ⟨hrows, htime, h⟩
      obtain ⟨h, hlast⟩ := hrest.mp h
      exact ⟨⟨hrows, htime, h⟩, hlast⟩
    · rintro ⟨⟨hrows, htime, h⟩, hlast⟩
      exact ⟨hrows, htime, hrest.mpr ⟨h, hlast⟩⟩

namespace Connection

variable {c : Connection α}

/-- **A transaction whose statements are all acknowledged succeeds.** -/
theorem transact_of_acknowledged (hup : c.link = .up)
    (h : Acknowledged limit .zero (transaction writes) c.server) :
    (c.transact limit writes).result = .ok ()
      ∧ (c.transact limit writes).connection
        = ⟨behind (transaction writes) c.server, .up, c.sent ++ transaction writes⟩ := by
  obtain ⟨hwrites, hcommit⟩ := acknowledged_concat.mp h
  rw [transact, executeAll_of_acknowledged hup hwrites]
  have hstill : (⟨behind (.startTransaction :: writes) c.server, .up,
      c.sent ++ .startTransaction :: writes⟩ : Connection α).link = .up := rfl
  obtain ⟨rows, -, hexecute⟩ := execute_of_acknowledged hstill hcommit
  simp only [hexecute]
  refine ⟨rfl, ?_⟩
  rw [transaction, behind_append, List.append_assoc]
  rfl

/--
**A transaction with a statement that is not acknowledged fails.** Nothing behind that statement is
said, apart from the rollback where the commit was not said.
-/
theorem transact_of_not_acknowledged (hup : c.link = .up)
    (h : ¬ Acknowledged limit .zero (transaction writes) c.server) :
    ∃ said link, Acknowledged limit .zero said.dropLast c.server
      ∧ (∃ f, (c.transact limit writes).result = .error f)
      ∧ (said = transaction writes
          ∧ (c.transact limit writes).connection = ⟨behind said c.server, link, c.sent ++ said⟩
        ∨ said <+: .startTransaction :: writes
          ∧ (c.transact limit writes).connection
            = rollBack limit ⟨behind said c.server, link, c.sent ++ said⟩) := by
  by_cases hwrites : Acknowledged limit .zero (.startTransaction :: writes) c.server
  · -- Only the commit is left to fail.
    have hcommit := fun hack => h (acknowledged_concat.mpr ⟨hwrites, hack⟩)
    have hstill : (⟨behind (.startTransaction :: writes) c.server, .up,
        c.sent ++ .startTransaction :: writes⟩ : Connection α).link = .up := rfl
    have hlast := execute_of_not_acknowledged hstill hcommit
    rw [transact, executeAll_of_acknowledged hup hwrites]
    obtain ⟨⟨f, hf⟩, ⟨-, hprepared⟩ | ⟨link, hconn⟩⟩ := hlast
    · cases hprepared
    · refine ⟨transaction writes, link, ?_, ⟨f, ?_⟩, .inl ⟨rfl, ?_⟩⟩
      · rw [transaction, List.dropLast_concat]
        exact hwrites
      · simp only [hf]
        rfl
      · simp only [hconn]
        rw [transaction, behind_append, List.append_assoc]
        rfl
  · obtain ⟨said, hpre, hack, ⟨f, hf⟩, link, hconn⟩ := executeAll_of_not_acknowledged hup hwrites
    refine ⟨said, link, hack, ⟨f, ?_⟩, .inr ⟨hpre, ?_⟩⟩
    · rw [transact]
      simp only [hf]
    · rw [transact]
      simp only [hf, hconn]

/-- Without a link a transaction fails, and nothing is said. -/
theorem transact_of_not_up (limit : Duration) (writes : List Statement) (hup : c.link ≠ .up) :
    (∃ f, (c.transact limit writes).result = .error f)
      ∧ (c.transact limit writes).connection = c := by
  obtain ⟨⟨f, hf⟩, hconn⟩ := executeAll_of_not_up limit .zero .startTransaction writes hup
  refine ⟨⟨f, ?_⟩, ?_⟩
  · rw [transact]
    simp only [hf]
  · rw [transact]
    simp only [hf, hconn]
    exact (execute_of_not_up _ _ _ hup).2

/-- A rollback reaches a server whose link is up, and says nothing else. -/
theorem rollBack_eq (limit : Duration) (c : Connection α) :
    (c.link = .up ∧ ∃ link, c.rollBack limit
        = ⟨(Server.answer .rollback c.server).server, link, c.sent ++ [.rollback]⟩)
      ∨ c.link ≠ .up ∧ c.rollBack limit = c := by
  by_cases hup : c.link = .up
  · refine .inl ⟨hup, ?_⟩
    by_cases hack : Acknowledged limit .zero [.rollback] c.server
    · obtain ⟨rows, -, hexecute⟩ := execute_of_acknowledged hup hack
      exact ⟨.up, by rw [rollBack, hexecute]⟩
    · obtain ⟨-, ⟨-, hprepared⟩ | ⟨link, hconn⟩⟩ := execute_of_not_acknowledged hup hack
      · cases hprepared
      · exact ⟨link, hconn⟩
  · exact .inr ⟨hup, (execute_of_not_up _ _ _ hup).2⟩

end Connection

end PoolFeed.Database
