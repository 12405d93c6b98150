import PoolFeed.Proofs.Sync.Session

/-!
# Ids order what is recorded

Cycles of any chains are run over one store and one transport, one after the other, by publishers
that may change from cycle to cycle. Between cycles anybody may append snapshots to the store, under
any ids. A cycle takes its id from the counter of its chain or from the latest snapshot, whichever
is further, and leaves the counter there, even if it fails. So the counter bounds every id that was
given out, and the next id is above both.

## Main statements

* `Ran.published_after` — what a cycle gets recorded
* `Chronicle.ordered` — in recorded order the ids of a chain grow from cycle to cycle
-/

namespace PoolFeed

open Text (Bytes)

/-! ## Ids and counters -/

namespace Cycle

/-- The id of a cycle is above the counter of its chain. -/
theorem counter_lt_issuedId (request : SyncRequest) (w : Bench) :
    w.store.counter request.chain < issuedId request w := by
  show w.store.counter request.chain < max (w.store.counter request.chain) _ + 1
  omega

/-- A cycle that could load leaves the counter of its chain at its id. -/
theorem Exit.counter_of_loads {p : Publisher} {request : SyncRequest} {w w' : Bench}
    {outcome : Except SyncError UpdateResult} (h : Exit p request w outcome w')
    (hloads : w.store.loadsFail = false) :
    w'.store.counter request.chain = issuedId request w := by
  have hinsert : ((w.store.counters.insert request.chain (issuedId request w)).find?
      request.chain).getD 0 = issuedId request w := by
    rw [SortedMap.find?_insert, if_pos rfl]
    rfl
  cases h with
  | notLoaded hfail => rw [hloads] at hfail; cases hfail
  | notSent => exact hinsert
  | notStored => exact hinsert
  | completed => exact hinsert

/-- A cycle that could not load changes nothing. -/
theorem Exit.world_of_loadsFail {p : Publisher} {request : SyncRequest} {w w' : Bench}
    {outcome : Except SyncError UpdateResult} (h : Exit p request w outcome w')
    (hfail : w.store.loadsFail = true) : w' = w := by
  cases h with
  | notLoaded => rfl
  | notSent hloads => rw [hfail] at hloads; cases hloads
  | notStored hloads => rw [hfail] at hloads; cases hloads
  | completed hloads => rw [hfail] at hloads; cases hloads

/-- The messages of a cycle are of different kinds. -/
theorem nodup_kinds_due (request : SyncRequest) (w : Bench) :
    ((due request w).map (·.kind)).Nodup := by
  rcases due_cases request w with heq | ⟨m, heq⟩ | ⟨a, r, heq, ha, hr⟩
  · rw [heq]
    exact List.nodup_nil
  · rw [heq]
    exact List.nodup_singleton _
  · rw [heq, List.map_cons, List.map_singleton, ha, hr]
    decide

end Cycle

namespace Round

variable {p : Publisher} {t : Round} {w : Bench}

/-- Whether the cycle of a round is given an id. -/
def Issues (t : Round) : Prop := t.request.check = .ok () ∧ t.loadsFail = false

/-- A cycle that is given an id leaves the counter of its chain there, whatever becomes of it. -/
theorem counter_play (h : t.Issues) :
    (t.play p w).world.store.counter t.request.chain
      = Cycle.issuedId t.request (t.arrange w) := by
  rw [play, SyncRequest.sync_of_check h.1]
  exact (Cycle.run_exit p t.request (t.arrange w)).counter_of_loads h.2

/-- A cycle that is given no id changes nothing. -/
theorem play_of_not_issues (h : ¬ t.Issues) : (t.play p w).world = t.arrange w := by
  cases hcheck : t.request.check with
  | error e => rw [play, SyncRequest.sync, hcheck]
  | ok =>
    have hfail : (t.arrange w).store.loadsFail = true :=
      Bool.of_not_eq_false fun hloads => h ⟨hcheck, hloads⟩
    rw [play, SyncRequest.sync_of_check hcheck]
    exact (Cycle.run_exit p t.request (t.arrange w)).world_of_loadsFail hfail

/-- A round takes no counter back. -/
theorem counter_le_play (p : Publisher) (t : Round) (w : Bench) (chain : String) :
    w.store.counter chain ≤ (t.play p w).world.store.counter chain := by
  by_cases hissues : t.Issues
  · by_cases hchain : chain = t.request.chain
    · rw [hchain, counter_play hissues]
      exact Int.le_of_lt (Cycle.counter_lt_issuedId t.request (t.arrange w))
    · exact Int.le_of_eq (unmoved_play hchain).counter.symm
  · rw [play_of_not_issues hissues]
    exact Int.le_refl _

end Round

/-! ## Cycles and their payloads -/

/-- A recorded payload: a message of a cycle on a channel. -/
structure Posting where
  /-- The number of the cycle. -/
  number : Nat
  publisher : Publisher
  message : ChangeMessage
  channel : Channel

namespace Posting

def chain (x : Posting) : String := x.message.header.chain

def id (x : Posting) : Int := x.message.header.snapshotId

/-- The subject and the bytes of a payload. -/
def emission (x : Posting) : String × Bytes := x.publisher.emission x.message x.channel

/-- What tells payloads apart: subject, id and kind. -/
def stamp (x : Posting) : String × Int × Kind := (x.emission.1, x.id, x.message.kind)

end Posting

/-- A cycle that was run: by whom, what was asked, and what it found. -/
structure Ran where
  /-- The number of cycles before it. -/
  number : Nat
  publisher : Publisher
  round : Round
  found : Bench

namespace Ran

variable {r : Ran}

def chain (r : Ran) : String := r.round.request.chain

/-- The id that the cycle is given, if it is given one. -/
def id (r : Ran) : Int := Cycle.issuedId r.round.request (r.round.arrange r.found)

/-- What the cycle leaves behind. -/
def left (r : Ran) : Bench := (r.round.play r.publisher r.found).world

/-- The payloads that the cycle sets out to send. -/
def intended (r : Ran) : List Posting :=
  (Cycle.due r.round.request (r.round.arrange r.found)).flatMap fun m =>
    [⟨r.number, r.publisher, m, .minimal⟩, ⟨r.number, r.publisher, m, .full⟩]

/-- The payloads of the cycle that were recorded: the first of those it set out to send. -/
def postings (r : Ran) : List Posting :=
  r.intended.take (r.left.transport.published.length - r.found.transport.published.length)

theorem map_emission_intended (r : Ran) : r.intended.map Posting.emission
    = r.publisher.emissions (Cycle.due r.round.request (r.round.arrange r.found)) := by
  rw [intended, List.map_flatMap]
  rfl

/-- A cycle that is given no id gets nothing recorded. -/
theorem postings_of_not_issues (h : ¬ r.round.Issues) : r.postings = [] := by
  have hleft : r.left.transport.published = r.found.transport.published := by
    rw [left, Round.play_of_not_issues h]
    rfl
  rw [postings, hleft, Nat.sub_self, List.take_zero]

/-- **What a cycle gets recorded.** -/
theorem published_after (r : Ran) : r.left.transport.published
    = r.found.transport.published ++ r.postings.map Posting.emission := by
  by_cases hissues : r.round.Issues
  · have hexit := Cycle.run_exit r.publisher r.round.request (r.round.arrange r.found)
    obtain ⟨sent, htransport, hprefix, -⟩ := hexit.accounts
    have hleft : r.left.transport.published = r.found.transport.published ++ sent := by
      rw [left, Round.play, SyncRequest.sync_of_check hissues.1, htransport]
      rfl
    have hsent : r.postings.map Posting.emission = sent := by
      rw [postings, hleft, List.length_append, Nat.add_sub_cancel_left, List.map_take,
        map_emission_intended]
      exact (List.prefix_iff_eq_take.mp hprefix).symm
    rw [hleft, hsent]
  · rw [postings_of_not_issues hissues, left, Round.play_of_not_issues hissues, List.map_nil,
      List.append_nil]
    rfl

/-- A payload of a cycle carries the chain, the id and the time of the cycle. -/
theorem of_mem_postings {x : Posting} (h : x ∈ r.postings) :
    r.round.Issues ∧ x.number = r.number ∧ x.publisher = r.publisher
      ∧ x.message.header = ⟨r.chain, r.id, r.round.now⟩ := by
  have hissues : r.round.Issues := by
    by_contra hnot
    rw [postings_of_not_issues hnot] at h
    cases h
  obtain ⟨m, hm, hx⟩ := List.mem_flatMap.mp (List.mem_of_mem_take h)
  have hheader := Cycle.header_of_mem_due hm
  rcases List.mem_pair.mp hx with rfl | rfl
  · exact ⟨hissues, rfl, rfl, hheader⟩
  · exact ⟨hissues, rfl, rfl, hheader⟩

theorem chain_of_mem_postings {x : Posting} (h : x ∈ r.postings) : x.chain = r.chain := by
  rw [Posting.chain, (of_mem_postings h).2.2.2]

theorem id_of_mem_postings {x : Posting} (h : x ∈ r.postings) : x.id = r.id := by
  rw [Posting.id, (of_mem_postings h).2.2.2]

/-- The payloads of a cycle differ in subject or kind. -/
theorem nodup_stamps (r : Ran) : (r.postings.map Posting.stamp).Nodup := by
  have hall : (r.intended.map Posting.stamp).Nodup := by
    unfold List.Nodup
    rw [List.pairwise_map, intended, List.pairwise_flatMap]
    constructor
    · intro m _
      refine List.pairwise_pair.mpr fun heq => ?_
      have hsubject := (Prod.mk.inj heq).1
      exact absurd (Topics.subject_inj hsubject).2 nofun
    · have hkinds := Cycle.nodup_kinds_due r.round.request (r.round.arrange r.found)
      unfold List.Nodup at hkinds
      rw [List.pairwise_map] at hkinds
      refine hkinds.imp ?_
      intro m n hne x hx y hy heq
      have hkind : x.message.kind = y.message.kind := (Prod.mk.inj (Prod.mk.inj heq).2).2
      have hxm : x.message = m := by rcases List.mem_pair.mp hx with rfl | rfl <;> rfl
      have hyn : y.message = n := by rcases List.mem_pair.mp hy with rfl | rfl <;> rfl
      rw [hxm, hyn] at hkind
      exact hne hkind
  exact hall.sublist ((List.take_sublist _ _).map _)

end Ran

/-! ## Runs over one store and one transport -/

/--
The cycles that were run over one store and one transport, oldest first, and what they led to.
Between cycles anybody may append a snapshot to the store.
-/
inductive Chronicle : List Ran → Bench → Prop
  | new (now : Timestamp) : Chronicle [] ⟨.empty, .new, now⟩
  | cycle {rs : List Ran} {w : Bench} (h : Chronicle rs w) (p : Publisher) (t : Round) :
    Chronicle (rs ++ [⟨rs.length, p, t, w⟩]) (t.play p w).world
  | appended {rs : List Ran} {w : Bench} (h : Chronicle rs w) (x : Snapshot) :
    Chronicle rs { w with store := w.store.store x }

namespace Chronicle

/-- The payloads that some cycles got recorded, in order. -/
def log (rs : List Ran) : List Posting := rs.flatMap Ran.postings

/-- How ids order the payloads that some cycles got recorded. -/
structure Ordered (rs : List Ran) (w : Bench) : Prop where
  /-- The cycles are numbered. -/
  numbers : rs.map (·.number) = List.range rs.length
  /-- What is recorded are the payloads of the cycles, in order. -/
  recorded : w.transport.published = (log rs).map Posting.emission
  /-- The payloads of a cycle carry its chain and its one id. -/
  own : ∀ r ∈ rs, ∀ x ∈ r.postings, x.number = r.number ∧ x.chain = r.chain ∧ x.id = r.id
  /-- From cycle to cycle of a chain the ids grow, whatever became of the cycles. -/
  growing : rs.Pairwise fun r s =>
    r.round.Issues → s.round.Issues → r.chain = s.chain → r.id < s.id
  /-- An id is above all that were stored for its chain when its cycle loaded. -/
  above : ∀ r ∈ rs, ∀ id ∈ (r.found.store.editionsOf r.chain).keys, id < r.id
  /-- In recorded order the ids of a chain never decrease, and are equal within a cycle only. -/
  steady : (log rs).Pairwise fun x y =>
    x.chain = y.chain → x.id ≤ y.id ∧ (x.id = y.id ↔ x.number = y.number)
  /-- No subject sees an id and a kind twice. -/
  distinct : ((log rs).map Posting.stamp).Nodup

variable {rs : List Ran} {w : Bench}

theorem numbers_eq (h : Chronicle rs w) : rs.map (·.number) = List.range rs.length := by
  induction h with
  | new now => rfl
  | cycle _ p t ih =>
    rw [List.map_append, ih, List.length_append, List.length_singleton, List.range_succ]
    rfl
  | appended _ x ih => exact ih

theorem published_eq (h : Chronicle rs w) :
    w.transport.published = (log rs).map Posting.emission := by
  induction h with
  | new now => rfl
  | @cycle rs w _ p t ih =>
    have hafter := Ran.published_after ⟨rs.length, p, t, w⟩
    have hlog : log (rs ++ [⟨rs.length, p, t, w⟩])
        = log rs ++ (Ran.mk rs.length p t w).postings := by
      rw [log, List.flatMap_append, List.flatMap_singleton]
      rfl
    rw [hlog, List.map_append, ← ih]
    exact hafter
  | appended _ x ih => exact ih

/-- The counter of a chain bounds every id that was given out for it. -/
theorem id_le_counter (h : Chronicle rs w) :
    ∀ r ∈ rs, r.round.Issues → r.id ≤ w.store.counter r.chain := by
  induction h with
  | new now => exact fun r hr => nomatch hr
  | @cycle rs w _ p t ih =>
    intro r hr hissues
    rcases List.mem_append.mp hr with hr | hr
    · exact Int.le_trans (ih r hr hissues) (Round.counter_le_play p t w r.chain)
    · obtain rfl := List.mem_singleton.mp hr
      exact Int.le_of_eq (Round.counter_play hissues).symm
  | appended _ x ih => exact ih

/-- **From cycle to cycle of a chain the ids grow.** -/
theorem growing (h : Chronicle rs w) : rs.Pairwise fun r s =>
    r.round.Issues → s.round.Issues → r.chain = s.chain → r.id < s.id := by
  induction h with
  | new now => exact List.Pairwise.nil
  | @cycle rs w h p t ih =>
    refine List.pairwise_append.mpr ⟨ih, List.pairwise_singleton _ _, ?_⟩
    intro r hr s hs hr' hs' hchain
    obtain rfl := List.mem_singleton.mp hs
    -- The counter is at the ids of the earlier cycles or behind them, and the new id is above it.
    have hcounter := Cycle.counter_lt_issuedId t.request (t.arrange w)
    have hbound := h.id_le_counter r hr hr'
    rw [hchain] at hbound
    exact Int.lt_of_le_of_lt hbound hcounter
  | appended _ x ih => exact ih

theorem number_lt (h : Chronicle rs w) : rs.Pairwise fun r s => r.number < s.number := by
  have hrange : (rs.map (·.number)).Pairwise (· < ·) := by
    rw [h.numbers_eq]
    exact List.pairwise_lt_range
  exact List.pairwise_map.mp hrange

/-- **Ids order what is recorded.** -/
theorem ordered (h : Chronicle rs w) : Ordered rs w := by
  -- Of two cycles of one chain that got something recorded, the later one has the larger id.
  have hlater : rs.Pairwise fun r s => ∀ x ∈ r.postings, ∀ y ∈ s.postings,
      x.number < y.number ∧ (x.chain = y.chain → x.id < y.id) := by
    refine (h.number_lt.and h.growing).imp ?_
    rintro r s ⟨hnumber, hgrowing⟩ x hx y hy
    obtain ⟨hr, hxnumber, -, -⟩ := Ran.of_mem_postings hx
    obtain ⟨hs, hynumber, -, -⟩ := Ran.of_mem_postings hy
    rw [hxnumber, hynumber, Ran.chain_of_mem_postings hx, Ran.chain_of_mem_postings hy,
      Ran.id_of_mem_postings hx, Ran.id_of_mem_postings hy]
    exact ⟨hnumber, hgrowing hr hs⟩
  refine
    { numbers := h.numbers_eq
      recorded := h.published_eq
      own := ?_
      growing := h.growing
      above := fun r _ id hid => Cycle.lt_issuedId (w := r.round.arrange r.found) hid
      steady := List.pairwise_flatMap.mpr ⟨?_, ?_⟩
      distinct := ?_ }
  · intro r _ x hx
    exact ⟨(Ran.of_mem_postings hx).2.1, Ran.chain_of_mem_postings hx, Ran.id_of_mem_postings hx⟩
  · intro r _
    refine List.pairwise_of_forall_mem_list ?_
    intro x hx y hy _
    rw [Ran.id_of_mem_postings hx, Ran.id_of_mem_postings hy, (Ran.of_mem_postings hx).2.1,
      (Ran.of_mem_postings hy).2.1]
    exact ⟨Int.le_refl _, fun _ => rfl, fun _ => rfl⟩
  · refine hlater.imp ?_
    intro r s hlt x hx y hy hchain
    obtain ⟨hnumber, hid⟩ := hlt x hx y hy
    have hid := hid hchain
    exact ⟨Int.le_of_lt hid, fun heq => absurd heq (Int.ne_of_lt hid),
      fun heq => absurd heq (Nat.ne_of_lt hnumber)⟩
  · unfold List.Nodup
    rw [List.pairwise_map, log, List.pairwise_flatMap]
    constructor
    · intro r _
      exact List.pairwise_map.mp r.nodup_stamps
    · refine hlater.imp ?_
      intro r s hlt x hx y hy heq
      obtain ⟨hr, -, -, -⟩ := Ran.of_mem_postings hx
      obtain ⟨hs, -, -, -⟩ := Ran.of_mem_postings hy
      have hsubject : x.emission.1 = y.emission.1 := (Prod.mk.inj heq).1
      have hid : x.id = y.id := (Prod.mk.inj (Prod.mk.inj heq).2).1
      have hdot : '.' ∉ x.chain.toList := by
        rw [Ran.chain_of_mem_postings hx]
        exact ChainName.dot_notMem (SyncRequest.check_eq_ok_iff.mp hr.1)
      have hdot' : '.' ∉ y.chain.toList := by
        rw [Ran.chain_of_mem_postings hy]
        exact ChainName.dot_notMem (SyncRequest.check_eq_ok_iff.mp hs.1)
      have hchain := (Topics.token_inj hdot hdot' hsubject).1
      exact Int.ne_of_lt ((hlt x hx y hy).2 hchain) hid

/-! ## Ids behind a foreign snapshot -/

namespace Overtaken

/-- Somebody else stored a snapshot under an id of their own. -/
def foreign : Bench := ⟨MemoryStore.empty.store ⟨"ethereum", 7, .empty, ⟨0, 0⟩⟩, .new, ⟨0, 0⟩⟩

/-- A round in which only one payload is taken. -/
def cut : Round :=
  { Round.calm "ethereum" (Whitelist.empty.insert Sample.one) with failAfter := some 1 }

/-- A round at which nothing is told to fail. -/
def resumed : Round := Round.calm "ethereum" (Whitelist.empty.insert Sample.two)

def first : Ran := ⟨0, Sample.publisher, cut, foreign⟩

/-- A cycle under another namespace. -/
def second : Ran := ⟨1, ⟨⟨"other.pools"⟩, .zero⟩, resumed, first.left⟩

/-- A cycle that failed behind a foreign snapshot and the next one have ids above it, in order. -/
theorem ordered_second : Chronicle [first, second] second.left
    ∧ Ordered [first, second] second.left ∧ first.id = 8 ∧ second.id = 9 := by
  have hsecond : Chronicle [first, second] second.left :=
    (((Chronicle.new ⟨0, 0⟩).appended _).cycle Sample.publisher cut).cycle _ resumed
  obtain ⟨outcome, hwalk⟩ : ∃ outcome, (Cycle.walk Sample.publisher cut.request 4
      (cut.arrange foreign) .load).2.outcome? = some outcome := ⟨_, rfl⟩
  have hleft : first.left = (Cycle.walk Sample.publisher cut.request 4
      (cut.arrange foreign) .load).1 := (Round.play_of_walk rfl hwalk).2
  have hid : second.id = 9 := by
    show Cycle.issuedId resumed.request (resumed.arrange first.left) = 9
    rw [hleft]
    rfl
  exact ⟨hsecond, hsecond.ordered, rfl, hid⟩

end Overtaken

end Chronicle

end PoolFeed
