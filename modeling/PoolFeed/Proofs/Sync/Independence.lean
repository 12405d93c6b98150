import PoolFeed.Proofs.Sync.Alike
import PoolFeed.Proofs.Sync.Session

/-!
# Chains are independent

Rounds of any chains are played one after the other over one store and one transport, at which only
subjects are told to fail. What a chain gets out of them, and what is left under its name, is what
the rounds of that chain alone come to. If these are played at other times, the times of what they
publish and store are other ones too, and nothing else is.

## Main statements

* `Round.play_alike` — a round comes to the same on benches that agree on its chain
* `Round.playAll_alike` — so do rounds in a row, the rounds of other chains left out
* `Round.independent` — the rounds of a chain do not depend on those of other chains
-/

namespace PoolFeed

open Text (Bytes)

namespace Round

/-! ## One round -/

/-- Whether nothing but subjects is told to fail. -/
structure BySubject (t : Round) : Prop where
  loads : t.loadsFail = false
  appends : t.appendsFail = false
  unlimited : t.failAfter = none

/--
Whether two rounds ask the same, at times that a view does not tell apart, and the same is told to
fail under the subjects of a chain.
-/
structure SameFor (view : Timestamp → α) (topics : Topics) (chain : String) (t u : Round) :
    Prop where
  request : t.request = u.request
  now : view t.now = view u.now
  failing : ∀ channel, t.failing.contains (topics.subject chain channel)
    = u.failing.contains (topics.subject chain channel)
  stalled : ∀ channel, t.stalled.contains (topics.subject chain channel)
    = u.stalled.contains (topics.subject chain channel)

variable {α : Type} {view : Timestamp → α} {p : Publisher} {chain : String} {t u : Round}
  {w w' : Bench}

theorem alike_arrange (h : Bench.Agrees view p.topics chain w w')
    (hsame : SameFor view p.topics chain t u) (ht : t.BySubject) (hu : u.BySubject) :
    Bench.Alike view p.topics chain (t.arrange w) (u.arrange w') where
  counter := h.counter
  contents := h.contents
  payloads := h.payloads
  loadsFail := ht.loads.trans hu.loads.symm
  appendsFail := ht.appends.trans hu.appends.symm
  failing := hsame.failing
  stalled := hsame.stalled
  failAfter := ht.unlimited.trans hu.unlimited.symm
  published := Or.inl ht.unlimited

/-- **A round comes to the same on benches that agree on its chain**, and they still agree. -/
theorem play_alike (h : Bench.Agrees view p.topics t.request.chain w w')
    (hsame : SameFor view p.topics t.request.chain t u) (ht : t.BySubject) (hu : u.BySubject) :
    (t.play p w).outcome = (u.play p w').outcome
      ∧ Bench.Agrees view p.topics t.request.chain (t.play p w).world (u.play p w').world := by
  obtain ⟨houtcome, hworld⟩ := SyncRequest.sync_alike (alike_arrange h hsame ht hu) hsame.now
  rw [play, play, ← hsame.request]
  exact ⟨houtcome, hworld.toAgrees⟩

/-- A round of another chain changes nothing that a chain holds. -/
theorem agrees_play_of_ne (h : Bench.Agrees view p.topics chain w w')
    (hne : t.request.chain ≠ chain) : Bench.Agrees view p.topics chain (t.play p w).world w' := by
  have harrange : Bench.Agrees view p.topics chain (t.arrange w) w' :=
    ⟨h.counter, h.contents, h.payloads⟩
  exact harrange.of_unmoved_left (SyncRequest.unmoved_sync (Ne.symm hne) _)

/-- A round adds messages of its own chain to what a chain holds, or nothing. -/
theorem payloadsOn_play (p : Publisher) (chain : String) (t : Round) (w : Bench)
    (channel : Channel) : ∃ ms : List ChangeMessage, (∀ m ∈ ms, m.header.chain = chain)
      ∧ (t.play p w).world.transport.payloadsOn (p.topics.subject chain channel)
        = w.transport.payloadsOn (p.topics.subject chain channel) ++ ms.map (·.encode channel) := by
  by_cases hchain : chain = t.request.chain
  · subst hchain
    rcases play_cases p t w with ⟨hworld, -⟩ | ⟨hexit, -⟩
    · refine ⟨[], List.forall_mem_nil _, ?_⟩
      rw [hworld, List.map_nil, List.append_nil]
      rfl
    · obtain ⟨ms, hfront, hpayloads, -⟩ := hexit.delivered channel
      exact ⟨ms, fun m hm => Cycle.chain_of_mem_due (hfront.mem hm), hpayloads⟩
  · refine ⟨[], List.forall_mem_nil _, ?_⟩
    rw [List.map_nil, List.append_nil]
    exact (unmoved_play hchain).payloads channel

/-! ## Rounds in a row -/

/-- Rounds in a row: their outcomes, in order, and what they lead to. -/
def playAll (p : Publisher) : List Round → Bench → List (Except SyncError UpdateResult) × Bench
  | [], w => ([], w)
  | t :: ts, w =>
    ((t.play p w).outcome :: (playAll p ts (t.play p w).world).1,
      (playAll p ts (t.play p w).world).2)

/-- The outcomes of the rounds of a chain among those of some rounds. -/
def outcomesOf (chain : String) (ts : List Round)
    (outcomes : List (Except SyncError UpdateResult)) : List (Except SyncError UpdateResult) :=
  ((ts.zip outcomes).filter (·.1.request.chain = chain)).map (·.2)

theorem outcomesOf_cons (chain : String) (t : Round) (ts : List Round)
    (outcome : Except SyncError UpdateResult) (outcomes : List (Except SyncError UpdateResult)) :
    outcomesOf chain (t :: ts) (outcome :: outcomes)
      = if t.request.chain = chain then outcome :: outcomesOf chain ts outcomes
        else outcomesOf chain ts outcomes := by
  unfold outcomesOf
  rw [List.zip_cons_cons]
  by_cases hchain : t.request.chain = chain
  · rw [if_pos hchain, List.filter_cons_of_pos (by simpa using hchain)]
    rfl
  · rw [if_neg hchain, List.filter_cons_of_neg (by simpa using hchain)]

/--
**Rounds in a row come to the same for a chain**, on benches that agree on it, whether the rounds of
other chains are played or not.
-/
theorem playAll_alike {ts us : List Round} (hts : ∀ t ∈ ts, t.BySubject)
    (hus : ∀ u ∈ us, u.BySubject)
    (hsame : List.Forall₂ (SameFor view p.topics chain) (ts.filter (·.request.chain = chain)) us)
    (h : Bench.Agrees view p.topics chain w w') :
    outcomesOf chain ts (playAll p ts w).1 = (playAll p us w').1
      ∧ Bench.Agrees view p.topics chain (playAll p ts w).2 (playAll p us w').2 := by
  induction ts generalizing us w w' with
  | nil =>
    cases hsame
    exact ⟨rfl, h⟩
  | cons t ts ih =>
    have hts' : ∀ t ∈ ts, t.BySubject := fun t ht => hts t (List.mem_cons_of_mem _ ht)
    rw [playAll, outcomesOf_cons]
    by_cases hchain : t.request.chain = chain
    · rw [List.filter_cons_of_pos (by simpa using hchain)] at hsame
      obtain ⟨u, us, htu, hrest, rfl⟩ := List.forall₂_cons_left_iff.mp hsame
      subst hchain
      obtain ⟨houtcome, hworld⟩ := play_alike h htu (hts t List.mem_cons_self)
        (hus u List.mem_cons_self)
      obtain ⟨houtcomes, hfinal⟩ :=
        ih hts' (fun u hu => hus u (List.mem_cons_of_mem _ hu)) hrest hworld
      rw [if_pos rfl, houtcomes, houtcome]
      exact ⟨rfl, hfinal⟩
    · rw [List.filter_cons_of_neg (by simpa using hchain)] at hsame
      rw [if_neg hchain]
      exact ih hts' hus hsame (agrees_play_of_ne h hchain)

/-- Rounds in a row add messages of a chain to what the chain holds, and nothing else. -/
theorem payloadsOn_playAll (p : Publisher) (chain : String) (ts : List Round) (w : Bench)
    (channel : Channel) : ∃ ms : List ChangeMessage, (∀ m ∈ ms, m.header.chain = chain)
      ∧ (playAll p ts w).2.transport.payloadsOn (p.topics.subject chain channel)
        = w.transport.payloadsOn (p.topics.subject chain channel) ++ ms.map (·.encode channel) := by
  induction ts generalizing w with
  | nil => exact ⟨[], List.forall_mem_nil _, (List.append_nil _).symm⟩
  | cons t ts ih =>
    obtain ⟨ms, hms, hfirst⟩ := payloadsOn_play p chain t w channel
    obtain ⟨ns, hns, hrest⟩ := ih (t.play p w).world
    refine ⟨ms ++ ns, ?_, ?_⟩
    · intro m hm
      rcases List.mem_append.mp hm with hm | hm
      · exact hms m hm
      · exact hns m hm
    · rw [playAll, hrest, hfirst, List.map_append, List.append_assoc]

/-- What the rounds of a chain come to among others, and alone at times that a view shows alike. -/
structure Independent (view : Timestamp → α) (p : Publisher) (chain : String)
    (ts alone : List Round) (w : Bench) : Prop where
  /-- The outcomes are the same: ids, counts, mode and errors. -/
  outcomes : outcomesOf chain ts (playAll p ts w).1 = (playAll p alone w).1
  /-- So is the counter of the chain. -/
  counter : (playAll p ts w).2.store.counter chain = (playAll p alone w).2.store.counter chain
  /-- So are the whitelists stored for the chain by id, and what is seen of their times. -/
  contents : (playAll p ts w).2.store.contents view chain
    = (playAll p alone w).2.store.contents view chain
  /-- So are the payloads under its subjects, but for times that look alike. -/
  payloads : ∀ channel, List.Forall₂ (ChangeMessage.PayloadsAlike view channel)
    ((playAll p ts w).2.transport.payloadsOn (p.topics.subject chain channel))
    ((playAll p alone w).2.transport.payloadsOn (p.topics.subject chain channel))
  /-- No message of another chain was recorded there. -/
  own : ∀ channel, ∃ ms : List ChangeMessage, (∀ m ∈ ms, m.header.chain = chain)
    ∧ (playAll p ts w).2.transport.payloadsOn (p.topics.subject chain channel)
      = w.transport.payloadsOn (p.topics.subject chain channel) ++ ms.map (·.encode channel)

/--
**The rounds of a chain do not depend on those of other chains.** Whatever store and transport hold
at first, if only subjects are told to fail, the rounds of a chain come to the same if they are
played alone, with nothing told of the subjects of other chains. They may be played at any other
times if the view shows nothing of them; if it shows times as they are, nothing differs at all.
-/
theorem independent (view : Timestamp → α) (p : Publisher) (chain : String) (w : Bench)
    {ts alone : List Round} (hts : ∀ t ∈ ts, t.BySubject) (halone : ∀ u ∈ alone, u.BySubject)
    (hsame : List.Forall₂ (SameFor view p.topics chain) (ts.filter (·.request.chain = chain))
      alone) : Independent view p chain ts alone w := by
  obtain ⟨houtcomes, hagrees⟩ := playAll_alike hts halone hsame (.refl view p.topics chain w)
  exact
    { outcomes := houtcomes
      counter := hagrees.counter
      contents := hagrees.contents
      payloads := hagrees.payloads
      own := payloadsOn_playAll p chain ts w }

end Round

/-! ## A chain that fails beside another -/

namespace Neighbours

/-- A round of a chain on whose minimal channel nothing is taken. -/
def refused : Round :=
  { Round.calm "base" (Whitelist.empty.insert Sample.one) with
    failing := ["whitelist.pools.base.minimal"] }

/-- A round of another chain. -/
def beside : Round :=
  { Round.calm "ethereum" (Whitelist.empty.insert Sample.two) with
    failing := ["whitelist.pools.base.minimal"] }

/-- What is seen of a time: nothing. -/
def unseen : Timestamp → Unit := fun _ => ()

/-- The same round a day later, with nothing told to fail. -/
def alone : Round :=
  { Round.calm "ethereum" (Whitelist.empty.insert Sample.two) with now := ⟨86400, 0⟩ }

theorem sameFor_alone :
    Round.SameFor unseen Sample.publisher.topics "ethereum" beside alone := by
  refine ⟨rfl, rfl, ?_, ?_⟩
  · intro channel
    cases channel <;> decide
  · intro channel
    cases channel <;> decide

theorem bySubject : ∀ t ∈ [refused, beside, refused], t.BySubject := by
  intro t ht
  rcases List.mem_cons.mp ht with rfl | ht
  · exact ⟨rfl, rfl, rfl⟩
  · rcases List.mem_cons.mp ht with rfl | ht
    · exact ⟨rfl, rfl, rfl⟩
    · rw [List.mem_singleton.mp ht]
      exact ⟨rfl, rfl, rfl⟩

theorem filter_ethereum :
    [refused, beside, refused].filter (·.request.chain = "ethereum") = [beside] := rfl

/-- A chain does not notice that another one fails beside it. -/
theorem independent_ethereum :
    (∀ t ∈ [refused, beside, refused], t.BySubject) ∧ alone.BySubject
      ∧ Round.SameFor unseen Sample.publisher.topics "ethereum" beside alone
      ∧ Round.Independent unseen Sample.publisher "ethereum" [refused, beside, refused] [alone]
        ⟨.empty, .new, ⟨0, 0⟩⟩ := by
  have halone : alone.BySubject := ⟨rfl, rfl, rfl⟩
  refine ⟨bySubject, halone, sameFor_alone, ?_⟩
  refine Round.independent unseen Sample.publisher "ethereum" ⟨.empty, .new, ⟨0, 0⟩⟩ bySubject
    (List.forall_mem_singleton.mpr halone) ?_
  rw [filter_ethereum]
  exact .cons sameFor_alone .nil

end Neighbours

end PoolFeed
