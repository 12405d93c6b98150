import PoolFeed.Proofs.Sync.Session
import PoolFeed.Proofs.Track.Update

/-!
# Subscribers agree with the store

A tracker that is fed everything recorded on its channel tracks the keys of the latest snapshot,
unless a full resync is called for. The invariant is `Agreement`. Failures may break its last part,
but only those that call for a full resync, and a sync that sends everything and succeeds
restores it.

## Main statements

* `agreement_play` — a round that obeys the failures before it keeps the agreement
* `Session.converges` — what trackers hold at the end of a session
-/

namespace PoolFeed

/-! ## The invariant -/

/-- What a tracker holds that was fed all payloads of its channel. -/
def Bench.tracked (p : Publisher) (chain : String) (channel : Channel) (w : Bench) :
    Except InboundMessage.Error Tracker :=
  (Tracker.new chain).feed (w.transport.payloadsOn (p.topics.subject chain channel))

/--
The ids that were given out for a chain are counted, every edition and every message has one of
them, and if no full resync is called for, what is tracked has the keys of the latest snapshot.
-/
structure Agreement (p : Publisher) (chain : String) (channel : Channel) (pending : Bool)
    (rounds : Nat) (w : Bench) : Prop where
  counter_nonneg : 0 ≤ w.store.counter chain
  counter_le : w.store.counter chain ≤ rounds
  editions : ∀ id ∈ (w.store.editionsOf chain).keys, id ≤ w.store.counter chain
  tracked : ∃ t, Bench.tracked p chain channel w = .ok t ∧ t.chain = chain
    ∧ t.IsBefore (w.store.counter chain + 1)
    ∧ (pending = false → t.keys.keys = w.store.latestKeys chain)

namespace Agreement

variable {p : Publisher} {chain : String} {channel : Channel} {pending : Bool} {n : Nat}
  {w w' : Bench}

theorem new (p : Publisher) (chain : String) (channel : Channel) (now : Timestamp) :
    Agreement p chain channel false 0 ⟨.empty, .new, now⟩ where
  counter_nonneg := Int.le_refl 0
  counter_le := Int.le_refl 0
  editions := nofun
  tracked := ⟨.new chain, rfl, rfl, nofun, fun _ => rfl⟩

/-- Agreement is about what is stored and recorded of the chain, and about nothing else. -/
theorem congr (h : Agreement p chain channel pending n w)
    (hcounter : w'.store.counter chain = w.store.counter chain)
    (heditions : w'.store.editionsOf chain = w.store.editionsOf chain)
    (hpayloads : w'.transport.payloadsOn (p.topics.subject chain channel)
      = w.transport.payloadsOn (p.topics.subject chain channel)) :
    Agreement p chain channel pending (n + 1) w' := by
  have htracked : Bench.tracked p chain channel w' = Bench.tracked p chain channel w := by
    rw [Bench.tracked, hpayloads]
    rfl
  have hkeys : w'.store.latestKeys chain = w.store.latestKeys chain := by
    rw [MemoryStore.latestKeys, MemoryStore.latest?, heditions]
    rfl
  refine ⟨?_, ?_, ?_, ?_⟩
  · rw [hcounter]
    exact h.counter_nonneg
  · rw [hcounter]
    have := h.counter_le
    omega
  · rw [heditions, hcounter]
    exact h.editions
  · rw [htracked, hcounter, hkeys]
    exact h.tracked

/-- Agreement is not about what is told to fail. -/
theorem arrange (h : Agreement p chain channel pending n w) (t : Round) :
    Agreement p chain channel pending n (t.arrange w) :=
  ⟨h.counter_nonneg, h.counter_le, h.editions, h.tracked⟩

/-- The id of a cycle is the next one. -/
theorem issuedId_eq {request : SyncRequest} (h : Agreement p request.chain channel pending n w) :
    Cycle.issuedId request w = w.store.counter request.chain + 1 := by
  have hnonneg := h.counter_nonneg
  have hle : ((Cycle.previous? request w).map (·.snapshotId)).getD 0
      ≤ w.store.counter request.chain := by
    show (w.store.latestId? request.chain).getD 0 ≤ _
    cases hid : w.store.latestId? request.chain with
    | none => exact hnonneg
    | some id =>
      refine h.editions id ?_
      rw [MemoryStore.latestId?_eq] at hid
      obtain ⟨e, he, rfl⟩ := Option.map_eq_some_iff.mp hid
      exact List.mem_map_of_mem (List.mem_of_getLast? he)
  show max (w.store.counter request.chain) _ + 1 = _
  omega

end Agreement

/-! ## One cycle -/

namespace Cycle

variable {p : Publisher} {request : SyncRequest} {w w' : Bench} {channel : Channel}
  {outcome : Except SyncError UpdateResult} {t : Tracker}

/--
All messages of a cycle bring a tracker to the keys of the whitelist, if it tracks those of the
snapshot that changes are taken from.
-/
theorem keys_follow_due (hchain : t.chain = request.chain) (ht : t.IsBefore (issuedId request w))
    (hkeys : ∀ s, request.forceFull = false → previous? request w = some s →
      t.keys.keys = s.items.keys) :
    (t.follow ((due request w).map (·.inbound channel))).keys.keys = request.items.keys := by
  have hheader : t.chain = (issuedHeader request w).chain := hchain
  by_cases hfull : request.forceFull = true ∨ previous? request w = none
  · rw [due_of_full hfull]
    exact Tracker.keys_follow_full hheader ht _
  · rw [not_or, Bool.not_eq_true] at hfull
    obtain ⟨hforce, hprev⟩ := hfull
    obtain ⟨s, hs⟩ := Option.ne_none_iff_exists'.mp hprev
    rw [due_of_previous hforce hs]
    exact Tracker.keys_follow_between (List.Perm.refl _) hheader ht (hkeys s hforce hs)

/-- The ids of the editions behind a cycle are its own and those that were there. -/
theorem Exit.mem_editionIds (h : Exit p request w outcome w') {id : Int}
    (hid : id ∈ (w'.store.editionsOf request.chain).keys) :
    id = issuedId request w ∨ id ∈ (w.store.editionsOf request.chain).keys := by
  cases outcome with
  | ok r =>
    rw [h.editionsOf_of_ok, if_pos rfl] at hid
    exact SortedMap.mem_keys_insert.mp hid
  | error e =>
    rw [MemoryStore.editionsOf, h.editions_of_error] at hid
    exact Or.inr hid

end Cycle

/-- Whether a full resync is called for behind an outcome. -/
def pendingAfter (pending : Bool) : Except SyncError UpdateResult → Bool
  | .ok _ => false
  | .error failure => failure.requiresFullResync || pending

namespace Agreement

variable {p : Publisher} {request : SyncRequest} {channel : Channel} {pending pending' : Bool}
  {n : Nat} {w w' : Bench}

/-- What is tracked behind a cycle that left some of its messages under the subject. -/
theorem tracked_of_recorded (h : Agreement p request.chain channel pending n w)
    {ms : List ChangeMessage} (hms : ∀ m ∈ ms, m ∈ Cycle.due request w)
    (hpayloads : w'.transport.payloadsOn (p.topics.subject request.chain channel)
      = w.transport.payloadsOn (p.topics.subject request.chain channel) ++ ms.map (·.encode channel))
    (hn : n + 1 < 2 ^ 63) (hnow : w.now.Valid)
    (hitems : channel = .full → ∀ r ∈ request.items.records, r.Legible) :
    ∃ t, Bench.tracked p request.chain channel w = .ok t
      ∧ Bench.tracked p request.chain channel w' = .ok (t.follow (ms.map (·.inbound channel)))
      ∧ t.chain = request.chain ∧ t.IsBefore (Cycle.issuedId request w)
      ∧ (pending = false → t.keys.keys = w.store.latestKeys request.chain) := by
  obtain ⟨t, ht, hchain, hbefore, hagreed⟩ := h.tracked
  have hnonneg := h.counter_nonneg
  have hle := h.counter_le
  have hid := h.issuedId_eq
  have hreadable : ∀ m ∈ Cycle.due request w, m.Readable channel :=
    Cycle.readable_of_mem_due (by omega) (by omega) hnow hitems
  refine ⟨t, ht, ?_, hchain, hbefore.mono (by omega), hagreed⟩
  rw [Bench.tracked, hpayloads, Tracker.feed_append_of_feed ht]
  exact Tracker.feed_encode (fun m hm => hreadable m (hms m hm)) t

/--
Agreement behind a cycle that was given an id and left some of its messages under the subject. What
is left to see to is whether the tracker that received them has the keys of the latest snapshot.
-/
theorem of_recorded (h : Agreement p request.chain channel pending n w) {ms : List ChangeMessage}
    (hms : ∀ m ∈ ms, m ∈ Cycle.due request w)
    (hpayloads : w'.transport.payloadsOn (p.topics.subject request.chain channel)
      = w.transport.payloadsOn (p.topics.subject request.chain channel) ++ ms.map (·.encode channel))
    (hcounters : w'.store.counters
      = w.store.counters.insert request.chain (Cycle.issuedId request w))
    (heditions : ∀ id ∈ (w'.store.editionsOf request.chain).keys,
      id = Cycle.issuedId request w ∨ id ∈ (w.store.editionsOf request.chain).keys)
    (hn : n + 1 < 2 ^ 63) (hnow : w.now.Valid)
    (hitems : channel = .full → ∀ r ∈ request.items.records, r.Legible)
    (hkeys : ∀ t : Tracker, t.chain = request.chain → t.IsBefore (Cycle.issuedId request w) →
      (pending = false → t.keys.keys = w.store.latestKeys request.chain) → pending' = false →
      (t.follow (ms.map (·.inbound channel))).keys.keys = w'.store.latestKeys request.chain) :
    Agreement p request.chain channel pending' (n + 1) w' := by
  obtain ⟨t, -, ht, hchain, hbefore, hagreed⟩ :=
    h.tracked_of_recorded hms hpayloads hn hnow hitems
  have hnonneg := h.counter_nonneg
  have hle := h.counter_le
  have hid := h.issuedId_eq
  have hcounter : w'.store.counter request.chain = w.store.counter request.chain + 1 := by
    rw [MemoryStore.counter, hcounters, SortedMap.find?_insert, if_pos rfl]
    exact hid
  -- The count grows by the id that was given out, which bounds every edition and every message.
  refine ⟨?_, ?_, ?_, _, ht, ?_, ?_, hkeys t hchain hbefore hagreed⟩
  · omega
  · omega
  · intro id hmem
    rcases heditions id hmem with rfl | hold
    · omega
    · have := h.editions id hold
      omega
  · rw [Tracker.chain_follow]
    exact hchain
  · refine Tracker.isBefore_follow (hbefore.mono (by omega)) ?_
    intro m hm
    obtain ⟨m', hm', rfl⟩ := List.mem_map.mp hm
    show m'.header.snapshotId < _
    rw [Cycle.header_of_mem_due (hms m' hm')]
    show Cycle.issuedId request w < _
    omega

/-- A cycle that takes its changes from a snapshot finds the keys that are tracked. -/
theorem keys_of_previous {t : Tracker} (hforce : pending = true → request.forceFull = true)
    (hagreed : pending = false → t.keys.keys = w.store.latestKeys request.chain) {s : Snapshot}
    (hunforced : request.forceFull = false) (hs : Cycle.previous? request w = some s) :
    t.keys.keys = s.items.keys := by
  have hlatest : w.store.latest? request.chain = some s := hs
  cases pending with
  | true =>
    rw [hforce rfl] at hunforced
    cases hunforced
  | false =>
    rw [hagreed rfl, MemoryStore.latestKeys, hlatest]
    rfl

/-- **A cycle that was given an id keeps the agreement.** -/
theorem of_exit {outcome : Except SyncError UpdateResult}
    (h : Agreement p request.chain channel pending n w)
    (hexit : Cycle.Exit p request w outcome w')
    (hcounters : w'.store.counters
      = w.store.counters.insert request.chain (Cycle.issuedId request w))
    (hforce : pending = true → request.forceFull = true) (hn : n + 1 < 2 ^ 63)
    (hnow : w.now.Valid)
    (hitems : channel = .full → ∀ r ∈ request.items.records, r.Legible) :
    Agreement p request.chain channel (pendingAfter pending outcome) (n + 1) w' := by
  obtain ⟨ms, hprefix, hpayloads, hok, hquiet⟩ := hexit.delivered channel
  refine h.of_recorded (fun m hm => hprefix.mem hm) hpayloads hcounters
    (fun id hid => hexit.mem_editionIds hid) hn hnow hitems ?_
  intro t hchain hbefore hagreed hpending
  cases outcome with
  | ok r =>
    rw [hok r rfl, MemoryStore.latestKeys, hexit.latest?_of_ok]
    exact Cycle.keys_follow_due hchain hbefore fun s => keys_of_previous hforce hagreed
  | error e =>
    -- A failure that calls for no resync left nothing behind on either channel.
    obtain ⟨hresync, hpending⟩ := Bool.or_eq_false_iff.mp hpending
    rw [hquiet e rfl hresync, MemoryStore.latestKeys_congr hexit.editions_of_error]
    exact hagreed hpending

end Agreement

/-! ## Sessions -/

theorem resyncPending_cons (chain : String) (e : Played) (earlier : List Played) :
    resyncPending chain (e :: earlier)
      = if e.round.request.chain = chain then pendingAfter (resyncPending chain earlier) e.outcome
        else resyncPending chain earlier := by
  rw [resyncPending]
  split
  · cases e.outcome <;> rfl
  · rfl

/-- **A round that obeys the failures before it keeps the agreement.** -/
theorem agreement_play {p : Publisher} {chain : String} {channel : Channel}
    {history : List Played} {w : Bench} {t : Round}
    (h : Agreement p chain channel (resyncPending chain history) history.length w)
    (hforce : resyncPending t.request.chain history = true → t.request.forceFull = true)
    (hlength : history.length + 1 < 2 ^ 63)
    (hlegible : t.request.chain = chain → t.Legible channel) :
    Agreement p chain channel (resyncPending chain (⟨t, (t.play p w).outcome⟩ :: history))
      (history.length + 1) (t.play p w).world := by
  rw [resyncPending_cons]
  by_cases hchain : t.request.chain = chain
  · subst hchain
    rw [if_pos rfl]
    have harranged : Agreement p t.request.chain channel
        (resyncPending t.request.chain history) history.length (t.arrange w) := h.arrange t
    rcases Round.play_cases p t w with ⟨hworld, e, houtcome, hresync⟩ | ⟨hexit, hcounters⟩
    · rw [hworld, houtcome, pendingAfter, hresync, Bool.false_or]
      exact h.congr rfl rfl rfl
    · exact harranged.of_exit hexit hcounters hforce hlength (hlegible rfl).now
        (hlegible rfl).items
  · rw [if_neg hchain]
    have hmoved : Bench.Unmoved p.topics chain (t.arrange w) (t.play p w).world :=
      Round.unmoved_play (Ne.symm hchain)
    exact h.congr hmoved.counter hmoved.editionsOf (hmoved.payloads channel)

/-- At the end of every session, trackers agree with the store. -/
theorem Session.agreement {p : Publisher} {history : List Played} {w : Bench}
    (h : Session p history w) {chain : String} {channel : Channel}
    (hlength : history.length < 2 ^ 63)
    (hlegible : ∀ e ∈ history, e.round.request.chain = chain → e.round.Legible channel) :
    Agreement p chain channel (resyncPending chain history) history.length w := by
  induction h with
  | new now => exact .new p chain channel now
  | @round history w h t hforce ih =>
    have hlength' : history.length + 1 < 2 ^ 63 := hlength
    have hhistory := ih (by omega) fun e he => hlegible e (List.mem_cons_of_mem _ he)
    exact agreement_play hhistory hforce hlength' (hlegible _ List.mem_cons_self)

/--
**Subscribers converge whatever fails.** At the end of a session, whose caller obeyed the failures
that call for a full resync, a tracker that is fed everything recorded on its channel

* tracks the keys of the whitelist that was synced last, which are those of the latest snapshot, if
  that sync succeeded, and
* tracks the keys of the latest snapshot if no full resync is called for.
-/
theorem Session.converges {p : Publisher} {history : List Played} {w : Bench}
    (h : Session p history w) (chain : String) (channel : Channel)
    (hlength : history.length < 2 ^ 63)
    (hlegible : ∀ e ∈ history, e.round.request.chain = chain → e.round.Legible channel) :
    ∃ t, Bench.tracked p chain channel w = .ok t
      ∧ (∀ e earlier r, history = e :: earlier → e.round.request.chain = chain →
          e.outcome = .ok r → t.keys.keys = e.round.request.items.keys
            ∧ ∃ s, w.store.latest? chain = some s ∧ s.items.keys = e.round.request.items.keys)
      ∧ (resyncPending chain history = false → t.keys.keys = w.store.latestKeys chain) := by
  obtain ⟨t, ht, -, -, hagreed⟩ := (h.agreement hlength hlegible).tracked
  refine ⟨t, ht, ?_, hagreed⟩
  rintro e earlier r rfl rfl hok
  have hpending : resyncPending e.round.request.chain (e :: earlier) = false := by
    rw [resyncPending_cons, if_pos rfl, hok]
    rfl
  have hlatest : ∃ s, w.store.latest? e.round.request.chain = some s
      ∧ s.items.keys = e.round.request.items.keys := by
    cases h with
    | round => exact ⟨_, (Round.exit_of_ok hok).latest?_of_ok, rfl⟩
  refine ⟨?_, hlatest⟩
  obtain ⟨s, hs, hkeys⟩ := hlatest
  rw [hagreed hpending, MemoryStore.latestKeys, hs, ← hkeys]
  rfl

namespace Session

open Sample (publisher)

def onePool : Whitelist := Whitelist.empty.insert Sample.one

def twoPools : Whitelist := onePool.insert Sample.two

/-- A first sync whose full channel is refused. -/
def halved : Round := { Round.calm "base" onePool with failing := ["whitelist.pools.base.full"] }

/-- A sync that sends everything. -/
def forced : Round := ⟨⟨"base", twoPools, true⟩, ⟨0, 0⟩, false, false, [], [], none⟩

/--
The end of a session whose full channel fails first. The round behind it sends everything, with one
more pool, and succeeds.
-/
theorem converges_after_partial_publish : ∃ history w r reason, Session publisher history w
    ∧ history.map (·.round) = [forced, halved]
    ∧ history.map (·.outcome) = [.ok r, .error (.partialPublish .full .minimal .full reason)]
    ∧ ∃ t, Bench.tracked publisher "base" .full w = .ok t ∧ t.keys.keys = ["0x01", "0x02"]
      ∧ w.store.latestKeys "base" = ["0x01", "0x02"] := by
  let start : Bench := ⟨.empty, .new, ⟨0, 0⟩⟩
  have hcheck : halved.request.check = .ok () := Round.check_calm rfl onePool
  have hcheck' : forced.request.check = .ok () := rfl
  have hwalk : (Cycle.walk publisher halved.request 4 (halved.arrange start) .load).2.outcome?
      = some (.error (.partialPublish .full .minimal .full
        "broker rejected publish to whitelist.pools.base.full")) := rfl
  obtain ⟨hcut, hafter⟩ := Round.play_of_walk hcheck hwalk
  have hwalk' : (Cycle.walk publisher forced.request 5
      (forced.arrange (halved.play publisher start).world) .load).2.outcome?
      = some (.ok ⟨"base", 2, 2, 0, 0, .full⟩) := by
    rw [hafter]
    rfl
  have hdone := (Round.play_of_walk hcheck' hwalk').1
  have hfirst : Session publisher [] start := .new ⟨0, 0⟩
  have hsession := (hfirst.round halved nofun).round forced fun _ => rfl
  have hitems : ∀ r ∈ twoPools.records, r.Legible := Sample.legible (List.Subset.refl _)
  have hitems' : ∀ r ∈ onePool.records, r.Legible :=
    Sample.legible (List.cons_subset_cons _ (List.nil_subset _))
  obtain ⟨t, ht, hlast, -⟩ := hsession.converges "base" .full (by decide) fun e he _ => by
    rcases List.mem_cons.mp he with rfl | he
    · exact ⟨Timestamp.valid_zero, fun _ => hitems⟩
    · rw [List.mem_singleton.mp he]
      exact ⟨Timestamp.valid_zero, fun _ => hitems'⟩
  obtain ⟨hkeys, s, hs, hstored⟩ := hlast _ _ _ rfl rfl hdone
  have houtcomes := congrArg₂ (fun latest earlier => [latest, earlier]) hdone hcut
  refine ⟨_, _, _, _, hsession, rfl, houtcomes, t, ht, hkeys, ?_⟩
  rw [MemoryStore.latestKeys, hs]
  exact hstored

end Session

end PoolFeed
