import PoolFeed.Proofs.Track.Feed

/-!
# Trackers and the history of a chain

A tracker keeps one id and the kinds that came at it. Someone who keeps every message that was
applied can say of the next one whether it is outdated, and what is held behind it. Both come to the
same: the tracker remembers of its past what is needed to decide, whatever the order of the ids.

## Main statements

* `Tracker.Remembers.after` — one message keeps a tracker in step with its past
* `Tracker.Remembers.admits_iff` — what is remembered decides like the past
* `Tracker.decides_by_history` — what becomes of every message of a history, and what is held behind
  it
-/

namespace PoolFeed

/-! ## Histories -/

/-- A message outdates those of smaller ids, and those of its own id and kind. -/
def InboundMessage.Outdates (n m : InboundMessage) : Prop :=
  m.snapshotId < n.snapshotId ∨ (n.snapshotId = m.snapshotId ∧ n.kind = m.kind)

/-- The largest id of some messages. -/
def largestId? (past : List InboundMessage) : Option Int := (past.map (·.snapshotId)).max?

theorem largestId?_eq_some_iff {past : List InboundMessage} {last : Int} :
    largestId? past = some last
      ↔ (∃ n ∈ past, n.snapshotId = last) ∧ ∀ n ∈ past, n.snapshotId ≤ last := by
  rw [largestId?, List.max?_eq_some_iff, List.mem_map]
  simp only [List.mem_map, forall_exists_index, and_imp, forall_apply_eq_imp_iff₂]

theorem exists_largestId? {past : List InboundMessage} {n : InboundMessage} (h : n ∈ past) :
    ∃ last, largestId? past = some last := by
  refine Option.isSome_iff_exists.mp (List.isSome_max?_of_mem (a := n.snapshotId) ?_)
  exact List.mem_map_of_mem h

/-- The pool object that a list of pools has for a key: of several, the last. -/
def InboundPools.record? (p : InboundPools) (k : String) : Option PoolRecord :=
  match p with
  | .keys _ => none
  | .records rs => rs.reverse.find? (·.key = k)

/-- What is held of a whitelist, by what it says of every key. -/
@[ext]
structure Holdings where
  contains : String → Bool
  find? : String → Option PoolRecord

namespace Holdings

def empty : Holdings := ⟨fun _ => false, fun _ => none⟩

/-- A full update replaces what was held, an addition adds to it, and a removal takes from it. -/
def update (held : Holdings) (m : InboundMessage) : Holdings :=
  match m.kind with
  | .full => ⟨fun k => k ∈ m.pools.keyList, m.pools.record?⟩
  | .add =>
    ⟨fun k => k ∈ m.pools.keyList || held.contains k,
      fun k => (m.pools.record? k).or (held.find? k)⟩
  | .remove =>
    ⟨fun k => k ∉ m.pools.keyList && held.contains k,
      fun k => if k ∈ m.pools.keyList then none else held.find? k⟩

/-- What is held behind messages that are all followed. -/
def behind (past : List InboundMessage) : Holdings := past.foldl update empty

end Holdings

namespace Tracker

/-- What becomes of messages received in order. -/
def outcomes (t : Tracker) : List InboundMessage → List ApplyOutcome
  | [] => []
  | m :: ms => (t.apply m).1 :: (t.after m).outcomes ms

/-- The messages that are applied of those received in order. -/
def applied (t : Tracker) (ms : List InboundMessage) : List InboundMessage :=
  ((ms.zip (t.outcomes ms)).filter (·.2 = .applied)).map (·.1)

def holdings (t : Tracker) : Holdings := ⟨t.contains, t.find?⟩

variable {t : Tracker} {m : InboundMessage} {past ms : List InboundMessage}

theorem getElem?_outcomes (t : Tracker) (ms : List InboundMessage) (i : Nat) :
    (t.outcomes ms)[i]? = ms[i]?.map fun m => ((t.follow (ms.take i)).apply m).1 := by
  induction ms generalizing t i with
  | nil => rfl
  | cons m ms ih =>
    cases i with
    | zero => rfl
    | succ i => exact ih (t.after m) i

theorem apply_eq_applied_iff : (t.apply m).1 = .applied ↔ t.Admits m := by
  by_cases hchain : m.chain = t.chain
  · by_cases h : t.Admits m
    · rw [apply, if_neg (not_not_intro hchain), h.2]
      exact iff_of_true rfl h
    · obtain ⟨_, hstale⟩ := apply_of_not_admits hchain h
      rw [hstale]
      exact iff_of_false (by simp) h
  · rw [apply, if_pos hchain]
    exact iff_of_false (by simp) fun h => hchain h.1

theorem apply_eq_wrongChain_iff : (t.apply m).1 = .wrongChain ↔ m.chain ≠ t.chain := by
  by_cases hchain : m.chain = t.chain
  · rw [apply, if_neg (not_not_intro hchain)]
    refine iff_of_false ?_ (not_not_intro hchain)
    split <;> simp
  · rw [apply, if_pos hchain]
    exact iff_of_true rfl hchain

theorem lastSnapshotId_of_staleAt? {last : Int} (h : t.staleAt? m = some last) :
    t.lastSnapshotId = some last := by
  unfold staleAt? at h
  cases hlast : t.lastSnapshotId with
  | none =>
    rw [hlast] at h
    cases h
  | some id =>
    rw [hlast] at h
    exact (Option.ite_none_right_eq_some.mp h).2

theorem apply_eq_stale_iff {last : Int} : (t.apply m).1 = .stale last
    ↔ m.chain = t.chain ∧ ¬ t.Admits m ∧ t.lastSnapshotId = some last := by
  by_cases hchain : m.chain = t.chain
  · rw [apply, if_neg (not_not_intro hchain)]
    cases hstale : t.staleAt? m with
    | none => exact iff_of_false (by simp) fun h => h.2.1 ⟨hchain, hstale⟩
    | some id =>
      rw [lastSnapshotId_of_staleAt? hstale, ApplyOutcome.stale.injEq, Option.some.injEq]
      refine ⟨fun h => ⟨hchain, fun hadmits => ?_, h⟩, fun h => h.2.2⟩
      rw [hadmits.2] at hstale
      cases hstale
  · rw [apply, if_pos hchain]
    exact iff_of_false (by simp) fun h => hchain h.1

theorem applied_cons (t : Tracker) (m : InboundMessage) (ms : List InboundMessage) :
    t.applied (m :: ms) = if (t.apply m).1 = .applied then m :: (t.after m).applied ms
      else (t.after m).applied ms := by
  unfold applied
  rw [outcomes, List.zip_cons_cons, List.filter_cons]
  split <;> simp_all

/-! ## Pools -/

theorem contains_eq_decide (t : Tracker) (k : String) :
    t.contains k = decide (k ∈ t.keys.keys) := by
  by_cases h : k ∈ t.keys.keys
  · rw [decide_eq_true h]
    exact SortedMap.contains_eq_true_iff.mpr h
  · rw [decide_eq_false h]
    exact SortedMap.contains_eq_false_iff.mpr h

theorem find?_insert (t : Tracker) (p : InboundPools) (k : String) :
    (t.insert p).find? k = (p.record? k).or (t.find? k) := by
  cases p with
  | keys ks => rfl
  | records rs =>
    show (rs.foldl _ t.records).find? k = _
    rw [SortedMap.find?_foldl_insert PoolRecord.key (fun r => r), Option.map_id']
    rfl

/-- **An admitted message changes what is held by its kind.** -/
theorem holdings_after (h : t.Admits m) : (t.after m).holdings = t.holdings.update m := by
  unfold Holdings.update
  cases hkind : m.kind with
  | full =>
    refine Holdings.ext (funext fun k => ?_) (funext fun k => ?_)
    · show (t.after m).contains k = _
      rw [contains_eq_decide]
      exact decide_eq_decide.mpr (mem_keys_after_full h hkind)
    · show (t.after m).find? k = _
      rw [after_of_admits h, change, hkind]
      exact (find?_insert _ _ k).trans Option.or_none
  | add =>
    refine Holdings.ext (funext fun k => ?_) (funext fun k => ?_)
    · show (t.after m).contains k = (_ || t.contains k)
      rw [contains_eq_decide, contains_eq_decide, ← Bool.decide_or]
      exact decide_eq_decide.mpr (mem_keys_after_add h hkind)
    · show (t.after m).find? k = _
      rw [after_of_admits h, change, hkind]
      exact find?_insert _ _ k
  | remove =>
    refine Holdings.ext (funext fun k => ?_) (funext fun k => ?_)
    · show (t.after m).contains k = (_ && t.contains k)
      rw [contains_eq_decide, contains_eq_decide, ← Bool.decide_and]
      exact decide_eq_decide.mpr (mem_keys_after_remove h hkind)
    · show (t.after m).find? k = _
      rw [after_of_admits h, change, hkind]
      exact SortedMap.find?_foldl_erase _ _ k

/-! ## What is remembered -/

/-- A tracker remembers the messages that were applied as far as it needs to. -/
structure Remembers (t : Tracker) (past : List InboundMessage) : Prop where
  lastSnapshotId : t.lastSnapshotId = largestId? past
  appliedKinds : ∀ kind, kind ∈ t.appliedKinds
    ↔ ∃ n ∈ past, some n.snapshotId = largestId? past ∧ n.kind = kind
  holdings : t.holdings = Holdings.behind past

theorem remembers_new (chain : String) : (new chain).Remembers [] := by
  refine ⟨rfl, fun kind => ?_, rfl⟩
  exact iff_of_false List.not_mem_nil fun ⟨n, hn, _⟩ => List.not_mem_nil hn

/-- **What is remembered decides like the past:** what nothing outdates is admitted. -/
theorem Remembers.admits_iff (h : t.Remembers past) :
    t.Admits m ↔ m.chain = t.chain ∧ ¬ ∃ n ∈ past, n.Outdates m := by
  refine and_congr_right fun _ => ?_
  rw [staleAt?_eq_none_iff, h.lastSnapshotId]
  constructor
  · rintro hfresh ⟨n, hn, houtdates⟩
    obtain ⟨last, hlast⟩ := exists_largestId? hn
    have hle := (largestId?_eq_some_iff.mp hlast).2 n hn
    rcases hfresh last hlast with hlt | ⟨hid, hkind⟩
    · rcases houtdates with hlarger | ⟨hsame, -⟩ <;> omega
    · rcases houtdates with hlarger | ⟨hsame, hkind'⟩
      · omega
      · refine hkind ((h.appliedKinds m.kind).mpr ⟨n, hn, ?_, hkind'⟩)
        rw [hlast, hsame, hid]
  · intro hnone last hlast
    obtain ⟨⟨n, hn, hid⟩, -⟩ := largestId?_eq_some_iff.mp hlast
    have hle : n.snapshotId ≤ m.snapshotId := by
      by_contra hlt
      exact hnone ⟨n, hn, Or.inl (by omega)⟩
    by_cases hsame : m.snapshotId = last
    · refine Or.inr ⟨hsame, fun hkind => ?_⟩
      obtain ⟨n', hn', hid', hkind'⟩ := (h.appliedKinds m.kind).mp hkind
      rw [hlast, Option.some.injEq] at hid'
      exact hnone ⟨n', hn', Or.inr ⟨hid'.trans hsame.symm, hkind'⟩⟩
    · exact Or.inl (by omega)

/-- An admitted message has the largest id so far. -/
theorem Remembers.largestId?_concat (h : t.Remembers past) (hm : t.Admits m) :
    largestId? (past ++ [m]) = some m.snapshotId := by
  refine largestId?_eq_some_iff.mpr ⟨⟨m, List.mem_append_right _ List.mem_cons_self, rfl⟩, ?_⟩
  intro n hn
  rcases List.mem_append.mp hn with hn | hn
  · by_contra hlt
    exact (h.admits_iff.mp hm).2 ⟨n, hn, Or.inl (by omega)⟩
  · rw [List.mem_singleton.mp hn]

/-- If a message of its id came before an admitted one, that id was the last. -/
theorem Remembers.lastSnapshotId_of_mem {n : InboundMessage} (h : t.Remembers past)
    (hm : t.Admits m) (hn : n ∈ past) (hid : n.snapshotId = m.snapshotId) :
    t.lastSnapshotId = some m.snapshotId := by
  obtain ⟨last, hlast⟩ := exists_largestId? hn
  obtain ⟨⟨n', hn', rfl⟩, hall⟩ := largestId?_eq_some_iff.mp hlast
  have hle : n'.snapshotId ≤ m.snapshotId :=
    (largestId?_eq_some_iff.mp (h.largestId?_concat hm)).2 n' (List.mem_append_left _ hn')
  rw [h.lastSnapshotId, hlast, Int.le_antisymm hle (hid ▸ hall n hn)]

/-- **One message keeps a tracker in step with its past.** -/
theorem Remembers.after (h : t.Remembers past) (hm : t.Admits m) :
    (t.after m).Remembers (past ++ [m]) := by
  have hlargest := h.largestId?_concat hm
  refine ⟨(lastSnapshotId_after hm).trans hlargest.symm, fun kind => ?_, ?_⟩
  · rw [appliedKinds_after hm, hlargest, List.mem_cons]
    constructor
    · rintro (rfl | hkind)
      · exact ⟨m, List.mem_append_right _ List.mem_cons_self, rfl, rfl⟩
      · split at hkind
        -- The kinds of earlier messages are kept if those have the same id.
        · next hsame =>
          obtain ⟨n, hn, hid, hkind⟩ := (h.appliedKinds kind).mp hkind
          exact ⟨n, List.mem_append_left _ hn, by rw [hid, ← h.lastSnapshotId, hsame], hkind⟩
        · exact absurd hkind List.not_mem_nil
    · rintro ⟨n, hn, hid, rfl⟩
      rcases List.mem_append.mp hn with hn | hn
      · have hlast := h.lastSnapshotId_of_mem hm hn (Option.some.inj hid)
        refine Or.inr ?_
        rw [if_pos hlast]
        exact (h.appliedKinds n.kind).mpr ⟨n, hn, by rw [hid, ← hlast, h.lastSnapshotId], rfl⟩
      · exact Or.inl (by rw [List.mem_singleton.mp hn])
  · rw [holdings_after hm, h.holdings]
    exact (List.foldl_concat _ _ _ _).symm

/-- What was applied is remembered all along. -/
theorem Remembers.follow (h : t.Remembers past) (ms : List InboundMessage) :
    (t.follow ms).Remembers (past ++ t.applied ms) := by
  induction ms generalizing t past with
  | nil =>
    show t.Remembers (past ++ [])
    rw [List.append_nil]
    exact h
  | cons m ms ih =>
    show ((t.after m).follow ms).Remembers _
    rw [applied_cons]
    split
    · next happlied =>
      rw [List.append_cons]
      exact ih (h.after (apply_eq_applied_iff.mp happlied))
    · next hnot =>
      rw [after_of_not_admits fun hm => hnot (apply_eq_applied_iff.mpr hm)]
      exact ih h

/-- What becomes of a message, by the messages that were applied before it. -/
theorem Remembers.outcome_iff (h : t.Remembers past) (m : InboundMessage) :
    ((t.apply m).1 = .wrongChain ↔ m.chain ≠ t.chain)
      ∧ (∀ last, (t.apply m).1 = .stale last ↔ m.chain = t.chain
        ∧ (∃ n ∈ past, n.Outdates m) ∧ largestId? past = some last)
      ∧ ((t.apply m).1 = .applied ↔ m.chain = t.chain ∧ ¬ ∃ n ∈ past, n.Outdates m) := by
  refine ⟨apply_eq_wrongChain_iff, fun last => ?_, apply_eq_applied_iff.trans h.admits_iff⟩
  rw [apply_eq_stale_iff, h.admits_iff, h.lastSnapshotId]
  constructor
  · rintro ⟨hchain, hnot, hlast⟩
    exact ⟨hchain, not_not.mp fun hnone => hnot ⟨hchain, hnone⟩, hlast⟩
  · rintro ⟨hchain, houtdated, hlast⟩
    exact ⟨hchain, fun hfresh => hfresh.2 houtdated, hlast⟩

/--
**What becomes of every message of a history, and what is held behind it.** Messages for another
chain are told apart first. Any other is outdated if a message that was applied before it is newer,
or of its kind at its id; otherwise it is applied. What is not applied changes nothing at all, and
what is held in the end is what the applied messages say.
-/
theorem decides_by_history (chain : String) (ms : List InboundMessage) :
    (∀ i m, ms[i]? = some m →
      ∃ outcome, ((new chain).outcomes ms)[i]? = some outcome
        ∧ (outcome = .wrongChain ↔ m.chain ≠ chain)
        ∧ (∀ last, outcome = .stale last ↔ m.chain = chain
          ∧ (∃ n ∈ (new chain).applied (ms.take i), n.Outdates m)
          ∧ largestId? ((new chain).applied (ms.take i)) = some last)
        ∧ (outcome = .applied ↔ m.chain = chain
          ∧ ¬ ∃ n ∈ (new chain).applied (ms.take i), n.Outdates m)
        ∧ (outcome ≠ .applied
          → (new chain).follow (ms.take (i + 1)) = (new chain).follow (ms.take i)))
      ∧ ((new chain).follow ms).holdings = Holdings.behind ((new chain).applied ms) := by
  refine ⟨fun i m hm => ?_, ((remembers_new chain).follow ms).holdings⟩
  have hremembers := (remembers_new chain).follow (ms.take i)
  obtain ⟨hwrong, hstale, happlied⟩ := hremembers.outcome_iff m
  rw [chain_follow] at hwrong hstale happlied
  refine ⟨_, ?_, hwrong, hstale, happlied, fun hnot => ?_⟩
  · rw [getElem?_outcomes, hm]
    rfl
  · rw [List.take_add_one, hm, follow_append]
    exact after_of_not_admits fun hadmits => hnot (apply_eq_applied_iff.mpr hadmits)

/-- An addition is outdated by one with a larger id that came before it. -/
theorem late_addition_stale :
    ((new "base").outcomes [⟨.add, "base", 7, ⟨0, 0⟩, .keys ["0xa1"]⟩,
      ⟨.add, "base", 6, ⟨0, 0⟩, .keys ["0xb2"]⟩])[1]? = some (.stale 7) := by
  obtain ⟨outcome, hget, -, hstale, -⟩ := (decides_by_history "base"
    [⟨.add, "base", 7, ⟨0, 0⟩, .keys ["0xa1"]⟩,
      ⟨.add, "base", 6, ⟨0, 0⟩, .keys ["0xb2"]⟩]).1 1 _ rfl
  have houtdates : InboundMessage.Outdates ⟨.add, "base", 7, ⟨0, 0⟩, .keys ["0xa1"]⟩
      ⟨.add, "base", 6, ⟨0, 0⟩, .keys ["0xb2"]⟩ := Or.inl (by decide : (6 : Int) < 7)
  rw [hget, (hstale 7).mpr ⟨rfl, ⟨_, List.mem_cons_self, houtdates⟩, rfl⟩]

end Tracker

end PoolFeed
