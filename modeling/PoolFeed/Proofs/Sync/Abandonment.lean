import PoolFeed.Proofs.Sync.Exclusion
import PoolFeed.Proofs.Sync.Session

/-!
# Entries of idle chains

The entry of a chain is dropped by a call that leaves its lock as the last one. A call that is given
up by its caller refers to the lock no longer, but looks after nothing. So whether an idle chain has
an entry depends on how the last call departed from it: if it left by itself, the entry is gone; if
it was given up, the entry stays until another call comes and leaves.

## Main statements

* `Coordinator.Guarded.references_eq_two` — a call that is alone with its lock sees it
* `Coordinator.leave_accounts`, `Coordinator.cancel_accounts` — the two ways in which a call departs
* `Coordinator.Move.accounts` — a move keeps departures and entries of idle chains in step
* `Coordinator.Course.listed_iff` — an idle chain has an entry if its last call was given up
-/

namespace PoolFeed

/-- A predicate that holds at one place of a list holds once. -/
theorem countP_eq_one {α : Type u} {P : α → Bool} {l : List α} {i : Nat} {a : α}
    (hi : l[i]? = some a) (ha : P a) (honly : ∀ {j b}, l[j]? = some b → P b → j = i) :
    l.countP P = 1 := by
  induction l generalizing i with
  | nil => cases hi
  | cons x l ih =>
    cases i with
    | zero =>
      cases hi
      have hzero : l.countP P = 0 := by
        refine List.countP_eq_zero.mpr fun b hb hP => ?_
        obtain ⟨j, hj⟩ := List.mem_iff_getElem?.mp hb
        exact Nat.succ_ne_zero j (honly (j := j + 1) hj hP)
      rw [List.countP_cons_of_pos ha, hzero]
    | succ i =>
      have hx : ¬ P x := fun hx => Nat.succ_ne_zero i (honly (j := 0) rfl hx).symm
      rw [List.countP_cons_of_neg hx]
      exact ih hi fun {j _} hj hb => Nat.succ.inj (honly (j := j + 1) hj hb)

/-- A call that refers to the lock of its chain no longer. -/
structure Departure where
  chain : String
  /-- Whether its caller gave it up. Otherwise it left by itself. -/
  givenUp : Bool

namespace Call

/-- The departure of a call by its next move. -/
def departing (call : Call) : List Departure :=
  match call.phase with
  | .leaving .. => [⟨call.request.chain, false⟩]
  | _ => []

/-- The departure of a call that is given up. -/
def abandoning (call : Call) : List Departure :=
  if call.phase.lock?.isSome then [⟨call.request.chain, true⟩] else []

end Call

namespace Coordinator

variable {σ τ : Type} {c c' : Coordinator σ τ} {i j : Nat} {chain : String}
  {request : SyncRequest} {phase phase' : Phase}

/-! ## Idle chains -/

/-- No call of the chain waits for its lock, holds it or has just given it back. -/
def Idle (c : Coordinator σ τ) (chain : String) : Prop :=
  ∀ ⦃i : Nat⦄ ⦃call : Call⦄, c.calls[i]? = some call → call.request.chain = chain →
    call.phase.lock? = none

theorem idle_of_all (h : c.calls.all (·.phase.lock?.isNone) = true) : c.Idle chain :=
  fun _ call hcall _ =>
    Option.isNone_iff_eq_none.mp (List.all_eq_true.mp h call (List.mem_of_getElem? hcall))

/-- A chain that is idle behind a change of phase was idle before, unless the call departed. -/
theorem idle_of_setPhase (hcall : c.calls[i]? = some ⟨request, phase⟩)
    (hkept : request.chain = chain → phase'.lock? = none → phase.lock? = none)
    (h : (c.setPhase i phase').Idle chain) : c.Idle chain := by
  intro j call hj hchain
  by_cases hji : j = i
  · subst hji
    obtain rfl : (⟨request, phase⟩ : Call) = call := Option.some.inj (hcall.symm.trans hj)
    exact hkept hchain (h (getElem?_setPhase_self hcall phase') hchain)
  · exact h ((getElem?_setPhase_of_ne hji phase').trans hj) hchain

theorem Idle.of_calls_eq (h : c.Idle chain) (hcalls : c.calls = c'.calls) : c'.Idle chain :=
  fun _ _ hj => h (hcalls ▸ hj)

/-- A call that refers to a lock keeps its chain from being idle. -/
theorem not_idle_setPhase {lock : Nat} (hcall : c.calls[i]? = some ⟨request, phase⟩)
    (hlock : phase'.lock? = some lock) : ¬ (c.setPhase i phase').Idle request.chain := by
  intro h
  exact nomatch hlock.symm.trans (h (getElem?_setPhase_self hcall phase') rfl)

theorem calls_enter (c : Coordinator σ τ) (i : Nat) (chain : String) : ∃ lock ticket,
    (c.enter i chain).calls = (c.setPhase i (.waiting lock ticket)).calls := by
  unfold enter
  split
  · exact ⟨_, _, rfl⟩
  · exact ⟨_, _, rfl⟩

theorem find?_enter_of_ne (hne : chain ≠ request.chain) :
    (c.enter i request.chain).locks.find? chain = c.locks.find? chain := by
  unfold enter
  split
  · rfl
  · exact (SortedMap.find?_insert ..).trans (if_neg hne)

theorem calls_leave (c : Coordinator σ τ) (i : Nat) (chain : String) (lock : Nat)
    (outcome : Except SyncError UpdateResult) :
    (c.leave i chain lock outcome).calls = (c.setPhase i (.finished outcome)).calls := by
  unfold leave
  simp only
  split <;> rfl

theorem find?_leave (c : Coordinator σ τ) (i : Nat) (own : String) (lock : Nat)
    (outcome : Except SyncError UpdateResult) (chain : String) :
    (c.leave i own lock outcome).locks.find? chain
      = if c.references lock = 2 ∧ chain = own then none else c.locks.find? chain := by
  unfold leave
  simp only
  by_cases htwo : c.references lock = 2
  · rw [if_pos htwo]
    simp only [htwo, true_and]
    exact SortedMap.find?_erase ..
  · rw [if_neg htwo, if_neg fun h => htwo h.1]
    rfl

/-- A call that is given up becomes abandoned, unless it has ended. -/
theorem cancel_cases (hcall : c.calls[i]? = some ⟨request, phase⟩) :
    c.cancel i = c ∧ phase.lock? = none ∨ c.cancel i = c.setPhase i .abandoned := by
  unfold cancel phase?
  rw [hcall]
  cases phase with
  | finished => exact Or.inl ⟨rfl, rfl⟩
  | _ => exact Or.inr rfl

namespace Guarded

/-- Calls that are given up keep every lock in use in the table. -/
theorem cancel (h : c.Guarded) (hcall : c.calls[i]? = some ⟨request, phase⟩) :
    (c.cancel i).Guarded := by
  rcases cancel_cases hcall with ⟨hsame, -⟩ | habandoned
  · rw [hsame]
    exact h
  · rw [habandoned]
    exact h.setPhase hcall nofun nofun

/-- **A call that is alone with its lock sees it:** the table and the call itself refer to it. -/
theorem references_eq_two (h : c.Guarded) {lock : Nat} {outcome : Except SyncError UpdateResult}
    (hcall : c.calls[i]? = some ⟨request, .leaving lock outcome⟩)
    (hidle : (c.setPhase i (.finished outcome)).Idle request.chain) : c.references lock = 2 := by
  have hfind : c.locks.find? request.chain = some lock := h.listed hcall rfl
  have htable : c.locks.values.count lock = 1 :=
    SortedMap.count_values_eq_one hfind fun chain hchain => h.apart hchain hfind
  have hcalls : c.calls.countP (fun call => call.phase.lock? = some lock) = 1 := by
    refine countP_eq_one hcall (decide_eq_true rfl) fun {j call} hj hlock => ?_
    have hlock : call.phase.lock? = some lock := of_decide_eq_true hlock
    by_contra hji
    -- Whoever else refers to the lock is of the same chain, which is idle but for the leaving call.
    have hchain : call.request.chain = request.chain := h.apart (h.listed hj hlock) hfind
    have hnone := hidle ((getElem?_setPhase_of_ne hji _).trans hj) hchain
    exact nomatch hlock.symm.trans hnone
  rw [references, htable, hcalls]

end Guarded

/-! ## Departures -/

/-- Whether the last call that departed from a chain was given up. -/
def lastGivenUp (ds : List Departure) (chain : String) : Bool :=
  ((ds.filter (·.chain = chain)).getLast?.map (·.givenUp)).getD false

theorem lastGivenUp_concat_self (ds : List Departure) (d : Departure) :
    lastGivenUp (ds ++ [d]) d.chain = d.givenUp := by
  simp [lastGivenUp]

/-- Whether departures say if a chain has an entry, should it be idle. -/
def AccountsOn (ds : List Departure) (c : Coordinator σ τ) (chain : String) : Prop :=
  c.Idle chain → ((c.locks.find? chain).isSome ↔ lastGivenUp ds chain)

variable {ds ds' : List Departure}

/-- What one call does leaves the other chains alone. -/
theorem AccountsOn.elsewhere (h : AccountsOn ds c chain)
    (hcall : c.calls[i]? = some ⟨request, phase⟩)
    (hcalls : c'.calls = (c.setPhase i phase').calls) (hne : request.chain ≠ chain)
    (hlocks : c'.locks.find? chain = c.locks.find? chain)
    (hds : ∀ d ∈ ds', d.chain = request.chain) : AccountsOn (ds ++ ds') c' chain := by
  intro hidle
  have hlast : lastGivenUp (ds ++ ds') chain = lastGivenUp ds chain := by
    have hnone : ds'.filter (·.chain = chain) = [] := by
      refine List.filter_eq_nil_iff.mpr fun d hd hchain => hne ?_
      rw [← hds d hd, of_decide_eq_true hchain]
    rw [lastGivenUp, List.filter_append, hnone, List.append_nil]
    rfl
  rw [hlocks, hlast]
  have hidle : (c.setPhase i phase').Idle chain := hidle.of_calls_eq hcalls
  exact h (idle_of_setPhase hcall (fun hchain => absurd hchain hne) hidle)

/-- What one call does has to be accounted for on its own chain only. -/
theorem accountsOn_of_own (hacc : ∀ chain, AccountsOn ds c chain)
    (hcall : c.calls[i]? = some ⟨request, phase⟩)
    (hcalls : c'.calls = (c.setPhase i phase').calls)
    (hlocks : ∀ chain, chain ≠ request.chain → c'.locks.find? chain = c.locks.find? chain)
    (hds : ∀ d ∈ ds', d.chain = request.chain)
    (hown : AccountsOn (ds ++ ds') c' request.chain) (chain : String) :
    AccountsOn (ds ++ ds') c' chain := by
  by_cases hchain : chain = request.chain
  · subst hchain
    exact hown
  · exact (hacc chain).elsewhere hcall hcalls (Ne.symm hchain) (hlocks chain hchain) hds

/-- There is nothing to account for while a call of the chain refers to its lock. -/
theorem accountsOn_of_lock? {lock : Nat} (hacc : ∀ chain, AccountsOn ds c chain)
    (hcall : c.calls[i]? = some ⟨request, phase⟩)
    (hcalls : c'.calls = (c.setPhase i phase').calls)
    (hlocks : ∀ chain, chain ≠ request.chain → c'.locks.find? chain = c.locks.find? chain)
    (hlock : phase'.lock? = some lock) (chain : String) : AccountsOn (ds ++ []) c' chain := by
  refine accountsOn_of_own hacc hcall hcalls hlocks ?_ ?_ chain
  · exact fun _ hd => absurd hd List.not_mem_nil
  · exact fun hidle => absurd (hidle.of_calls_eq hcalls) (not_idle_setPhase hcall hlock)

/-- **A call that is given up is accounted for:** if it was the last, the entry stays. -/
theorem cancel_accounts (hcall : c.calls[i]? = some ⟨request, phase⟩) (hguarded : c.Guarded)
    (hacc : ∀ chain, AccountsOn ds c chain) (chain : String) :
    AccountsOn (ds ++ Call.abandoning ⟨request, phase⟩) (c.cancel i) chain := by
  cases hlock : phase.lock? with
  | none =>
    rw [Call.abandoning, if_neg (by simp [hlock]), List.append_nil]
    rcases cancel_cases hcall with ⟨hsame, -⟩ | habandoned
    · rw [hsame]
      exact hacc chain
    · rw [habandoned]
      exact fun hidle => hacc chain (idle_of_setPhase hcall (fun _ _ => hlock) hidle)
  | some lock =>
    rw [Call.abandoning, if_pos (by simp [hlock])]
    rcases cancel_cases hcall with ⟨-, hnone⟩ | habandoned
    · exact nomatch hlock.symm.trans hnone
    · rw [habandoned]
      refine accountsOn_of_own hacc hcall rfl (fun _ _ => rfl) ?_ ?_ chain
      · intro d hd
        rw [List.mem_singleton.mp hd]
      · intro _
        refine iff_of_true ?_ (lastGivenUp_concat_self ds ⟨request.chain, true⟩)
        show (c.locks.find? request.chain).isSome
        rw [hguarded.listed hcall hlock]
        rfl

/-- **A call that leaves is accounted for:** if it was the last, it drops the entry. -/
theorem leave_accounts {lock : Nat} {outcome : Except SyncError UpdateResult}
    (hcall : c.calls[i]? = some ⟨request, .leaving lock outcome⟩) (hguarded : c.Guarded)
    (hacc : ∀ chain, AccountsOn ds c chain) (chain : String) :
    AccountsOn (ds ++ [⟨request.chain, false⟩]) (c.leave i request.chain lock outcome) chain := by
  have hcalls := c.calls_leave i request.chain lock outcome
  refine accountsOn_of_own hacc hcall hcalls ?_ ?_ ?_ chain
  · intro other hne
    rw [find?_leave, if_neg fun h => hne h.2]
  · intro d hd
    rw [List.mem_singleton.mp hd]
  · intro hidle
    have htwo : c.references lock = 2 :=
      hguarded.references_eq_two hcall (hidle.of_calls_eq hcalls)
    rw [find?_leave, if_pos ⟨htwo, rfl⟩, lastGivenUp_concat_self ds ⟨request.chain, false⟩]
    exact iff_of_false nofun nofun

variable [SnapshotStore σ] [Transport τ]

/-- **Every move is accounted for.** -/
theorem Move.accounts {taken : List Nat} (h : Move c i request phase taken c')
    (hcall : c.calls[i]? = some ⟨request, phase⟩) (hguarded : c.Guarded)
    (hacc : ∀ chain, AccountsOn ds c chain) (chain : String) :
    AccountsOn (ds ++ Call.departing ⟨request, phase⟩) c' chain := by
  cases h with
  | refuse =>
    rw [Call.departing, List.append_nil]
    exact fun hidle => hacc chain (idle_of_setPhase hcall (fun _ _ => rfl) hidle)
  | enter =>
    obtain ⟨lock, ticket, hcalls⟩ := c.calls_enter i request.chain
    exact accountsOn_of_lock? hacc hcall hcalls (fun _ => find?_enter_of_ne) rfl chain
  | acquire => exact accountsOn_of_lock? hacc hcall rfl (fun _ _ => rfl) rfl chain
  | @advance lock cycle =>
    obtain ⟨events, phase, heq, hheld, -⟩ := c.advance_eq i request lock cycle
    rw [heq]
    exact accountsOn_of_lock? hacc hcall rfl (fun _ _ => rfl) (Phase.lock?_of_held? hheld) chain
  | wake => exact accountsOn_of_lock? hacc hcall rfl (fun _ _ => rfl) rfl chain
  | release => exact accountsOn_of_lock? hacc hcall rfl (fun _ _ => rfl) rfl chain
  | leave => exact leave_accounts hcall hguarded hacc chain

/-! ## Courses -/

/--
What calls that begin together may come to if their callers may give them up at any point: a run
with calls given up here and there. It comes with the calls that departed, in that order.
-/
inductive Course (p : Publisher) (w : World σ τ) (requests : List SyncRequest) :
    List Departure → Coordinator σ τ → Prop
  | new : Course p w requests [] (.new p w requests)
  | move {ds : List Departure} {c c' : Coordinator σ τ} (h : Course p w requests ds c) {i : Nat}
    {call : Call} (hcall : c.calls[i]? = some call) (hstep : c.step? i = some c') :
    Course p w requests (ds ++ call.departing) c'
  /-- A call takes a free lock, whoever else waits for it. -/
  | overtake {ds : List Departure} {c : Coordinator σ τ} (h : Course p w requests ds c)
    {i lock ticket : Nat} {request : SyncRequest}
    (hcall : c.calls[i]? = some ⟨request, .waiting lock ticket⟩)
    (hfree : ∀ call ∈ c.calls, call.phase.held? ≠ some lock) :
    Course p w requests ds (c.setPhase i (.running lock .load))
  | pass {ds : List Departure} {c : Coordinator σ τ} (h : Course p w requests ds c)
    (now : Timestamp) (clock : Duration) :
    Course p w requests ds { c with world := { c.world with now }, clock }
  /-- The caller of a call gives it up. -/
  | cancel {ds : List Departure} {c : Coordinator σ τ} (h : Course p w requests ds c) {i : Nat}
    {call : Call} (hcall : c.calls[i]? = some call) :
    Course p w requests (ds ++ call.abandoning) (c.cancel i)

namespace Course

variable {p : Publisher} {w : World σ τ} {requests : List SyncRequest}

/-- A course keeps every lock in use in the table, held by one call at most. -/
theorem guarded (h : Course p w requests ds c) : c.Guarded := by
  induction h with
  | new => exact .new p w requests
  | move _ _ hstep ih =>
    obtain ⟨request, phase, hcall, hmove⟩ := exists_move hstep
    exact hmove.guarded hcall ih
  | overtake _ hcall hfree ih => exact (Move.acquire hfree).guarded hcall ih
  | pass _ _ _ ih => exact ⟨ih.below, ih.apart, ih.listed, ih.exclusive⟩
  | cancel _ hcall ih => exact ih.cancel hcall

/-- **Departures account for the entries of idle chains throughout a course.** -/
theorem accounts (h : Course p w requests ds c) (chain : String) : AccountsOn ds c chain := by
  induction h generalizing chain with
  | new => exact fun _ => iff_of_false nofun nofun
  | @move ds c c' h i call hcall hstep ih =>
    obtain ⟨request, phase, hcall', hmove⟩ := exists_move hstep
    obtain rfl : call = ⟨request, phase⟩ := Option.some.inj (hcall.symm.trans hcall')
    exact hmove.accounts hcall h.guarded ih chain
  | @overtake ds c h i lock ticket request hcall hfree ih =>
    -- To take a free lock out of turn is the same move as to take it in turn.
    have hmove : Move c i request (.waiting lock ticket) [i] _ := .acquire hfree
    have haccounts := hmove.accounts hcall h.guarded ih chain
    rwa [Call.departing, List.append_nil] at haccounts
  | pass _ _ _ ih => exact ih chain
  | cancel h hcall ih => exact cancel_accounts hcall h.guarded ih chain

/--
**An idle chain has an entry if, and only if, its last call was given up.** So the entries of calls
that end by themselves, well or badly, do not stay, in whatever order they come and go.
-/
theorem listed_iff (h : Course p w requests ds c) {chain : String} (hidle : c.Idle chain) :
    (c.locks.find? chain).isSome ↔ lastGivenUp ds chain :=
  h.accounts chain hidle

end Course

/-! ## Two calls, one of them given up -/

namespace GivenUp

/-- A store from which nothing can be loaded. -/
def broken : Bench := ⟨{ MemoryStore.empty with loadsFail := true }, .new, ⟨0, 0⟩⟩

/-- Two calls for a chain. -/
def calls : List SyncRequest := [⟨"base", .empty, false⟩, ⟨"base", .empty, false⟩]

/-- **A call that is given up leaves an entry behind.** It holds the lock of its chain then. -/
theorem entry_stays : ∃ ds c, Course Sample.publisher broken calls ds c
    ∧ c.Idle "base" ∧ c.locks.find? "base" = some 0 := by
  have hnew : Course Sample.publisher broken calls [] _ := .new
  have hrunning := (hnew.move (i := 0) rfl rfl).move (i := 0) rfl rfl
  exact ⟨_, _, hrunning.cancel (i := 0) rfl, idle_of_all rfl, rfl⟩

/-- A call that comes next drops the entry, though its cycle fails. -/
theorem entry_dropped_next : ∃ ds c, Course Sample.publisher broken calls ds c
    ∧ c.Idle "base" ∧ ds = [⟨"base", true⟩, ⟨"base", false⟩] ∧ c.locks.find? "base" = none := by
  have hnew : Course Sample.publisher broken calls [] _ := .new
  have hgivenUp := ((hnew.move (i := 0) rfl rfl).move (i := 0) rfl rfl).cancel (i := 0) rfl
  have hholding := (hgivenUp.move (i := 1) rfl rfl).move (i := 1) rfl rfl
  have hleft := ((hholding.move (i := 1) rfl rfl).move (i := 1) rfl rfl).move (i := 1) rfl rfl
  obtain ⟨c, hcourse, hidle⟩ : ∃ c, Course Sample.publisher broken calls
      [⟨"base", true⟩, ⟨"base", false⟩] c ∧ c.Idle "base" := ⟨_, hleft, idle_of_all rfl⟩
  refine ⟨_, c, hcourse, hidle, rfl, Option.not_isSome_iff_eq_none.mp fun hlisted => ?_⟩
  exact nomatch (hcourse.listed_iff hidle).mp hlisted

end GivenUp

end Coordinator

end PoolFeed
