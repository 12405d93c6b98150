import PoolFeed.Proofs.Sync.Convergence

/-!
# Publishers that die

A publisher may die between any two steps of a cycle. Another one goes on with the store and with
what was recorded, and nothing else is left of the cycle. If the cycle had sent something, the
snapshot that the next cycle takes its changes from is not what subscribers saw last.

## Main statements

* `Cycle.Progress.cases` — what a cycle has done, whether it ended or not
* `Lifetime.resumes_iff` — when the next cycle brings subscribers to its whitelist
-/

namespace PoolFeed

/-- A cycle of a publisher that dies behind so many steps, unless the cycle has ended by then. -/
structure Attempt where
  round : Round
  steps : Nat

namespace Attempt

/-- What is left of an attempt, and how far its cycle came. -/
def go (p : Publisher) (a : Attempt) (w : Bench) : Bench × Cycle :=
  Cycle.walk p a.round.request a.steps (a.round.arrange w) .load

/--
Whether subscribers may be out of step with the store behind an attempt, `severed` saying so of the
time before it. An attempt that sent something but did not succeed severs them, and one that sends
everything and succeeds brings them together.
-/
def severs (p : Publisher) (a : Attempt) (severed : Bool) (w : Bench) : Bool :=
  match (a.go p w).2 with
  | .done (.ok _) => severed && !(a.round.request.forceFull
      || (w.store.latest? a.round.request.chain).isNone)
  | _ => severed || (a.go p w).1.transport.published ≠ w.transport.published

end Attempt

/-- The attempts to sync a chain, from the last one back, and what they led to. -/
inductive Lifetime (p : Publisher) (chain : String) : List Attempt → Bool → Bench → Prop
  | start (now : Timestamp) : Lifetime p chain [] false ⟨.empty, .new, now⟩
  | attempt {attempts : List Attempt} {severed : Bool} {w : Bench}
    (h : Lifetime p chain attempts severed w) (a : Attempt)
    (hchain : a.round.request.chain = chain) (hcheck : a.round.request.check = .ok ()) :
    Lifetime p chain (a :: attempts) (a.severs p severed w) (a.go p w).1

namespace Cycle

variable {p : Publisher} {request : SyncRequest} {w w' : Bench} {c : Cycle}

/-- **What a cycle has done, whether it ended or not.** -/
theorem Progress.cases (h : Progress p request w w' c) (channel : Channel) :
    (w' = w ∧ ∀ r, c ≠ .done (.ok r))
      ∨ (w'.store.counters = w.store.counters.insert request.chain (issuedId request w)
        ∧ w'.store.editions = w.store.editions ∧ (∀ r, c ≠ .done (.ok r))
        ∧ ∃ ms, ms <+: due request w
          ∧ w'.transport.payloadsOn (p.topics.subject request.chain channel)
            = w.transport.payloadsOn (p.topics.subject request.chain channel)
              ++ ms.map (·.encode channel))
      ∨ ∃ r, c = .done (.ok r) ∧ Exit p request w (.ok r) w' := by
  have hholding := w.transport.payloadsOn_holding (p.topics.subject request.chain channel)
  cases h with
  | load => exact Or.inl ⟨rfl, nofun⟩
  | allocate => exact Or.inl ⟨rfl, nofun⟩
  | send hload hdue channel' =>
    obtain ⟨ms, hprefix, hsent⟩ := payloadsUnder_sent (p := p) hdue channel channel'
    exact Or.inr (Or.inl ⟨rfl, rfl, nofun, ms, hprefix, (hholding _).trans (by rw [hsent])⟩)
  | append hload =>
    refine Or.inr (Or.inl ⟨rfl, rfl, nofun, _, List.prefix_rfl, (hholding _).trans ?_⟩)
    rw [payloadsUnder_due]
  | @done outcome _ hexit =>
    cases outcome with
    | ok r => exact Or.inr (Or.inr ⟨r, rfl, hexit⟩)
    | error e =>
      rcases hexit.counters_cases with ⟨rfl, -⟩ | hcounters
      · exact Or.inl ⟨rfl, nofun⟩
      · obtain ⟨ms, hprefix, hpayloads, -, -⟩ := hexit.delivered channel
        exact Or.inr (Or.inl ⟨hcounters, hexit.editions_of_error, nofun, ms, hprefix, hpayloads⟩)

/-- A cycle that has only its snapshot left to store has sent all of its messages. -/
theorem Progress.payloadsOn_of_append {r : UpdateResult} {timestamp : Timestamp}
    (h : Progress p request w w' (.append r timestamp)) (channel : Channel) :
    w'.transport.payloadsOn (p.topics.subject request.chain channel)
      = w.transport.payloadsOn (p.topics.subject request.chain channel)
        ++ (due request w).map (·.encode channel) := by
  have hholding := w.transport.payloadsOn_holding (p.topics.subject request.chain channel)
  cases h with
  | append =>
    refine (hholding _).trans ?_
    rw [payloadsUnder_due]

end Cycle

namespace Attempt

variable {p : Publisher} {a : Attempt} {severed : Bool} {w : Bench}

theorem severs_of_ok {r : UpdateResult} (h : (a.go p w).2 = .done (.ok r)) :
    a.severs p severed w = (severed && !(a.round.request.forceFull
      || (w.store.latest? a.round.request.chain).isNone)) := by
  rw [severs, h]

theorem severs_of_ne (h : ∀ r, (a.go p w).2 ≠ .done (.ok r)) : a.severs p severed w
    = (severed || (a.go p w).1.transport.published ≠ w.transport.published) := by
  unfold severs
  split
  · next r hr => exact absurd hr (h r)
  · rfl

theorem progress_go (p : Publisher) (a : Attempt) (w : Bench) :
    Cycle.Progress p a.round.request (a.round.arrange w) (a.go p w).1 (a.go p w).2 :=
  Cycle.progress_walk a.steps .load

end Attempt

/-- **An attempt keeps the agreement, with severed subscribers for a resync that is due.** -/
theorem Agreement.of_attempt {p : Publisher} {channel : Channel} {a : Attempt} {severed : Bool}
    {n : Nat} {w : Bench} (h : Agreement p a.round.request.chain channel severed n w)
    (hn : n + 1 < 2 ^ 63) (hlegible : a.round.Legible channel) :
    Agreement p a.round.request.chain channel (a.severs p severed w) (n + 1) (a.go p w).1 := by
  have harranged : Agreement p a.round.request.chain channel severed n (a.round.arrange w) :=
    h.arrange a.round
  rcases (a.progress_go p w).cases channel with
    ⟨hworld, hne⟩ | ⟨hcounters, heditions, hne, ms, hprefix, hpayloads⟩ | ⟨r, hok, hexit⟩
  · have hsame : a.severs p severed w = severed := by
      rw [Attempt.severs_of_ne hne, hworld]
      simp [Round.arrange]
    rw [hsame, hworld]
    exact h.congr rfl rfl rfl
  · refine harranged.of_recorded (fun m hm => hprefix.mem hm) hpayloads hcounters ?_ hn
      hlegible.now hlegible.items ?_
    · intro id hid
      rw [MemoryStore.editionsOf, heditions] at hid
      exact Or.inr hid
    · intro t _ _ hagreed hpending
      rw [Attempt.severs_of_ne hne, Bool.or_eq_false_iff] at hpending
      -- Nothing was sent, so nothing was received.
      have hnothing : ms = [] := by
        have hpublished : (a.go p w).1.transport.published = w.transport.published := by
          simpa using hpending.2
        rw [RecordingTransport.payloadsOn, hpublished] at hpayloads
        exact List.map_eq_nil_iff.mp (List.self_eq_append_right.mp hpayloads)
      rw [hnothing, MemoryStore.latestKeys_congr heditions]
      exact hagreed hpending.1
  · have hcounters : (a.go p w).1.store.counters = w.store.counters.insert a.round.request.chain
        (Cycle.issuedId a.round.request (a.round.arrange w)) := by
      rcases hexit.counters_cases with ⟨-, e, he, -⟩ | hcounters
      · cases he
      · exact hcounters
    obtain ⟨ms, hprefix, hpayloads, hall, -⟩ := hexit.delivered channel
    refine harranged.of_recorded (fun m hm => hprefix.mem hm) hpayloads hcounters
      (fun id hid => hexit.mem_editionIds hid) hn hlegible.now hlegible.items ?_
    intro t hchain hbefore hagreed hpending
    rw [hall r rfl, MemoryStore.latestKeys, hexit.latest?_of_ok]
    refine Cycle.keys_follow_due hchain hbefore ?_
    intro s hunforced hs
    have hlatest : w.store.latest? a.round.request.chain = some s := hs
    -- Changes were sent, which heal nothing: subscribers were not severed before either.
    rw [Attempt.severs_of_ok hok, hunforced, hlatest] at hpending
    rw [hagreed (by simpa using hpending), MemoryStore.latestKeys]
    show ((w.store.latest? a.round.request.chain).map _).getD [] = _
    rw [hlatest]
    rfl

/-- Through all attempts, trackers agree with the store unless they were severed from it. -/
theorem Lifetime.agreement {p : Publisher} {chain : String} {attempts : List Attempt}
    {severed : Bool} {w : Bench} (h : Lifetime p chain attempts severed w) {channel : Channel}
    (hlength : attempts.length < 2 ^ 63) (hlegible : ∀ a ∈ attempts, a.round.Legible channel) :
    Agreement p chain channel severed attempts.length w := by
  induction h with
  | start now => exact .new p chain channel now
  | @attempt attempts severed w h a hchain hcheck ih =>
    subst hchain
    have hlength' : attempts.length + 1 < 2 ^ 63 := hlength
    have hattempts := ih (by omega) fun b hb => hlegible b (List.mem_cons_of_mem _ hb)
    exact hattempts.of_attempt hlength' (hlegible a List.mem_cons_self)

/--
What is tracked behind a cycle that took its changes from the latest snapshot has the keys of its
whitelist exactly if no key is in the way: the whitelist has every key that is tracked but not
stored, and no key that is stored but not tracked.
-/
theorem Cycle.keys_follow_due_iff {request : SyncRequest} {w : Bench} {channel : Channel}
    {t : Tracker} (hchain : t.chain = request.chain) (ht : t.IsBefore (issuedId request w))
    (hforce : request.forceFull = false) :
    (t.follow ((due request w).map (·.inbound channel))).keys.keys = request.items.keys
      ↔ ∀ s, previous? request w = some s → ∀ k,
        (k ∈ t.keys.keys → k ∉ s.items.keys → k ∈ request.items.keys)
          ∧ (k ∈ s.items.keys → k ∉ t.keys.keys → k ∉ request.items.keys) := by
  have hheader : t.chain = (issuedHeader request w).chain := hchain
  cases hprev : previous? request w with
  | none =>
    refine ⟨fun _ => nofun, fun _ => ?_⟩
    refine keys_follow_due hchain ht ?_
    intro s _ hs
    rw [hprev] at hs
    cases hs
  | some s =>
    have hmem : ∀ k, k ∈ (t.follow ((due request w).map (·.inbound channel))).keys.keys
        ↔ (k ∈ request.items.keys ∧ k ∉ s.items.keys ∨ k ∈ t.keys.keys)
          ∧ ¬ (k ∈ s.items.keys ∧ k ∉ request.items.keys) := by
      intro k
      rw [due_of_previous hforce hprev, Tracker.mem_keys_follow_change
        (fun _ => Diff.notMem_removed) (List.Perm.refl _) hheader ht, Diff.mem_addedKeys,
        Diff.mem_removed]
    -- Tracked is what came or was tracked, less what went: compare with the whitelist key by key.
    constructor
    · rintro heq s' hs k
      cases hs
      have hk := hmem k
      rw [heq] at hk
      grind
    · intro h
      refine SortedMap.keys_eq_of_mem_iff fun k => ?_
      have hk := h s rfl k
      rw [hmem k]
      show _ ↔ k ∈ request.items.keys
      grind

/--
**When a restarted publisher resumes from what subscribers saw.** Whatever failed before and wherever
publishers died, the next sync that succeeds and takes its changes from the latest snapshot brings a
tracker to the keys of its whitelist exactly if that whitelist has every key that is tracked but not
stored and no key that is stored but not tracked. This is so of every whitelist unless an attempt
since the last one that sent everything sent something and did not succeed.
-/
theorem Lifetime.resumes_iff {p : Publisher} {chain : String} {attempts : List Attempt}
    {severed : Bool} {w : Bench} (h : Lifetime p chain attempts severed w) (channel : Channel)
    (t : Round) {r : UpdateResult} (hchain : t.request.chain = chain)
    (hforce : t.request.forceFull = false) (hok : (t.play p w).outcome = .ok r)
    (hlength : attempts.length + 1 < 2 ^ 63) (hlegible : ∀ a ∈ attempts, a.round.Legible channel)
    (ht : t.Legible channel) :
    ∃ before after, Bench.tracked p chain channel w = .ok before
      ∧ Bench.tracked p chain channel (t.play p w).world = .ok after
      ∧ (after.keys.keys = t.request.items.keys ↔
        ∀ s, w.store.latest? chain = some s → ∀ k,
          (k ∈ before.keys.keys → k ∉ s.items.keys → k ∈ t.request.items.keys)
            ∧ (k ∈ s.items.keys → k ∉ before.keys.keys → k ∉ t.request.items.keys))
      ∧ (severed = false → after.keys.keys = t.request.items.keys) := by
  subst hchain
  have hagreement : Agreement p t.request.chain channel severed attempts.length w :=
    h.agreement (by omega) hlegible
  obtain ⟨ms, hprefix, hpayloads, hall, -⟩ := (Round.exit_of_ok hok).delivered channel
  obtain ⟨before, hbefore, hafter, hchain, hfresh, hagreed⟩ :=
    (hagreement.arrange t).tracked_of_recorded (fun m hm => hprefix.mem hm) hpayloads hlength
      ht.now ht.items
  rw [hall r rfl] at hafter
  refine ⟨before, _, hbefore, hafter, Cycle.keys_follow_due_iff hchain hfresh hforce, ?_⟩
  intro hwhole
  refine Cycle.keys_follow_due hchain hfresh ?_
  intro s _ hs
  have hlatest : (t.arrange w).store.latest? t.request.chain = some s := hs
  rw [hagreed hwhole, MemoryStore.latestKeys, hlatest]
  rfl

/-! ## A pool that is never withdrawn -/

namespace Withdrawal

open Sample (publisher)

/-- The whitelist that is stored. -/
def old : Whitelist := Whitelist.empty.insert Sample.one

/-- The whitelist that subscribers see for a while. -/
def new : Whitelist := old.insert Sample.two

/-- A cycle that sends and stores the old whitelist. -/
def stored : Attempt := ⟨.calm "ethereum" old, 5⟩

/-- A cycle that has sent what is new on both channels when its publisher dies. -/
def killed : Attempt := ⟨.calm "ethereum" new, 4⟩

def storedWorld : Bench := (stored.go publisher ⟨.empty, .new, ⟨0, 0⟩⟩).1

def killedWorld : Bench := (killed.go publisher storedWorld).1

/-- The sync that withdraws the new pool. -/
def restarted : Round := .calm "ethereum" old

theorem legible_killed {channel : Channel} : killed.round.Legible channel :=
  Round.legible_calm (Sample.legible (List.Subset.refl _))

theorem legible_stored {channel : Channel} : stored.round.Legible channel :=
  Round.legible_calm (Sample.legible (List.cons_subset_cons _ (List.nil_subset _)))

theorem lifetime_stored : Lifetime publisher "ethereum" [stored] false storedWorld :=
  (Lifetime.start ⟨0, 0⟩).attempt stored rfl (Round.check_calm rfl old)

theorem lifetime_killed : Lifetime publisher "ethereum" [killed, stored] true killedWorld :=
  lifetime_stored.attempt killed rfl (Round.check_calm rfl new)

/-- The sync that withdraws the new pool has nothing to send. -/
theorem restarted_due : Cycle.due restarted.request (restarted.arrange killedWorld) = [] := rfl

/-- The sync that withdraws the new pool succeeds. -/
theorem restarted_ok : (restarted.play publisher killedWorld).outcome
    = .ok ⟨"ethereum", 3, 1, 0, 0, .differential⟩ := by
  have hwalk : (Cycle.walk publisher restarted.request 3 (restarted.arrange killedWorld)
      .load).2.outcome? = some (.ok ⟨"ethereum", 3, 1, 0, 0, .differential⟩) := rfl
  exact (Round.play_of_walk (Round.check_calm rfl old) hwalk).1

/-- What is tracked when the second publisher dies. -/
theorem tracked_killed (channel : Channel) :
    ∃ t, Bench.tracked publisher "ethereum" channel killedWorld = .ok t ∧ t.keys.keys = new.keys := by
  have hagreement : Agreement publisher "ethereum" channel false 1 storedWorld :=
    lifetime_stored.agreement (by decide) fun a ha => by
      rw [List.mem_singleton.mp ha]
      exact legible_stored
  have hlegible : killed.round.Legible channel := legible_killed
  have happend : (killed.go publisher storedWorld).2
      = .append ⟨"ethereum", 2, 2, 1, 0, .differential⟩ ⟨0, 0⟩ := rfl
  have hprogress := killed.progress_go publisher storedWorld
  rw [happend] at hprogress
  obtain ⟨t, -, ht, hchain, hbefore, hagreed⟩ :=
    (hagreement.arrange killed.round).tracked_of_recorded (fun m hm => hm)
      (hprogress.payloadsOn_of_append channel) (by decide) hlegible.now hlegible.items
  refine ⟨_, ht, Cycle.keys_follow_due hchain hbefore ?_⟩
  intro s _ hs
  have hlatest : (killed.round.arrange storedWorld).store.latest? "ethereum" = some s := hs
  rw [hagreed rfl, MemoryStore.latestKeys]
  show (((killed.round.arrange storedWorld).store.latest? "ethereum").map _).getD [] = _
  rw [hlatest]
  rfl

/--
A publisher that dies between the last payload of a cycle and its snapshot, whose successor syncs
the whitelist stored before: nothing is sent, and subscribers keep the pool that was withdrawn.
-/
theorem keeps_withdrawn_pool :
    Lifetime publisher "ethereum" [killed, stored] true killedWorld
      ∧ (restarted.play publisher killedWorld).outcome
        = .ok ⟨"ethereum", 3, 1, 0, 0, .differential⟩
      ∧ restarted.request.items.keys = ["0x01"]
      ∧ ∃ t, Bench.tracked publisher "ethereum" .minimal (restarted.play publisher killedWorld).world
          = .ok t ∧ t.keys.keys = ["0x01", "0x02"] := by
  refine ⟨lifetime_killed, restarted_ok, rfl, ?_⟩
  obtain ⟨t, ht, hkeys⟩ := tracked_killed .minimal
  obtain ⟨ms, -, hpayloads, hall, -⟩ := (Round.exit_of_ok restarted_ok).delivered .minimal
  rw [hall _ rfl, restarted_due, List.map_nil, List.append_nil] at hpayloads
  refine ⟨t, ?_, hkeys⟩
  rw [← ht, Bench.tracked, Bench.tracked]
  exact congrArg _ hpayloads

/-- After a stored cycle, subscribers have what the next one syncs. -/
theorem resumes_from_stored : ∃ before after,
    Bench.tracked publisher "ethereum" .full storedWorld = .ok before
      ∧ Bench.tracked publisher "ethereum" .full (killed.round.play publisher storedWorld).world
        = .ok after
      ∧ after.keys.keys = new.keys := by
  have hwalk : (Cycle.walk publisher killed.round.request 5 (killed.round.arrange storedWorld)
      .load).2.outcome? = some (.ok ⟨"ethereum", 2, 2, 1, 0, .differential⟩) := rfl
  have hok : (killed.round.play publisher storedWorld).outcome
      = .ok ⟨"ethereum", 2, 2, 1, 0, .differential⟩ :=
    (Round.play_of_walk (Round.check_calm rfl new) hwalk).1
  have hlegible : ∀ a ∈ [stored], a.round.Legible .full := by
    intro a ha
    rw [List.mem_singleton.mp ha]
    exact legible_stored
  obtain ⟨before, after, hbefore, hafter, -, hkeys⟩ := lifetime_stored.resumes_iff .full
    killed.round rfl rfl hok (by decide) hlegible legible_killed
  exact ⟨before, after, hbefore, hafter, hkeys rfl⟩

end Withdrawal

end PoolFeed
