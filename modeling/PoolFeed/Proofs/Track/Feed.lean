import PoolFeed.Proofs.Roundtrip.Messages
import PoolFeed.Proofs.Whitelist.Keys
import PoolFeed.Track.Tracker

/-!
# What trackers make of payloads

A tracker is fed payloads one after the other. A message that is admitted changes the tracked keys
by its kind; any other message changes nothing. A message that was received once is never admitted
again.

## Main statements

* `Tracker.feed_encode` — feeding the payloads of readable messages is following the messages
* `Tracker.admits_after` — messages of one update do not keep each other from being admitted
* `Tracker.not_admits_follow_of_mem` — a message that was received is never admitted again
* `Tracker.mem_keys_after_full`, `Tracker.mem_keys_after_add`, `Tracker.mem_keys_after_remove` —
  the keys tracked behind an admitted message
-/

namespace PoolFeed

open Text (Bytes)

namespace Tracker

/-! ## Feeding -/

/-- What becomes of a tracker that receives a message. -/
def after (t : Tracker) (m : InboundMessage) : Tracker := (t.apply m).2.1

/-- What becomes of a tracker that receives messages in order. -/
def follow (t : Tracker) (ms : List InboundMessage) : Tracker := ms.foldl after t

/-- Decodes payloads and applies them in order. The first that is no message ends it. -/
def feed (t : Tracker) : List Bytes → Except InboundMessage.Error Tracker
  | [] => .ok t
  | payload :: rest =>
    match InboundMessage.decode payload with
    | .error e => .error e
    | .ok m => (t.after m).feed rest

theorem feed_append (t : Tracker) (ps qs : List Bytes) :
    t.feed (ps ++ qs) = (t.feed ps).bind (·.feed qs) := by
  induction ps generalizing t with
  | nil => rfl
  | cons p ps ih =>
    rw [List.cons_append, feed, feed]
    split
    · rfl
    · exact ih _

theorem feed_append_of_feed {t t' : Tracker} {ps : List Bytes} (h : t.feed ps = .ok t')
    (qs : List Bytes) : t.feed (ps ++ qs) = t'.feed qs := by
  rw [feed_append, h]
  rfl

/-- Payloads that are all messages can be fed. -/
theorem feed_of_decode {α : Type} {payload : α → Bytes} {message : α → InboundMessage}
    {xs : List α} (h : ∀ x ∈ xs, InboundMessage.decode (payload x) = .ok (message x))
    (t : Tracker) : t.feed (xs.map payload) = .ok (t.follow (xs.map message)) := by
  induction xs generalizing t with
  | nil => rfl
  | cons x xs ih =>
    rw [List.map_cons, feed, h x List.mem_cons_self]
    exact ih (fun y hy => h y (List.mem_cons_of_mem _ hy)) _

/-- **Feeding the payloads of readable messages is following the messages.** -/
theorem feed_encode {ms : List ChangeMessage} {channel : Channel}
    (h : ∀ m ∈ ms, m.Readable channel) (t : Tracker) :
    t.feed (ms.map (·.encode channel)) = .ok (t.follow (ms.map (·.inbound channel))) :=
  feed_of_decode (fun m hm => InboundMessage.decode_encode (h m hm)) t

theorem follow_append (t : Tracker) (ms ns : List InboundMessage) :
    t.follow (ms ++ ns) = (t.follow ms).follow ns :=
  List.foldl_append

/-! ## Messages that are admitted -/

/-- Whether a tracker applies a message. -/
def Admits (t : Tracker) (m : InboundMessage) : Prop := m.chain = t.chain ∧ t.staleAt? m = none

/-- Whether everything a tracker applied has a smaller id. -/
def IsBefore (t : Tracker) (id : Int) : Prop := ∀ last, t.lastSnapshotId = some last → last < id

variable {t : Tracker} {m n : InboundMessage}

theorem chain_after (t : Tracker) (m : InboundMessage) : (t.after m).chain = t.chain := by
  unfold after apply
  split
  · rfl
  · split
    · rfl
    · unfold change
      split
      · cases m.pools <;> rfl
      · cases m.pools <;> rfl
      · rfl

theorem chain_follow (t : Tracker) (ms : List InboundMessage) :
    (t.follow ms).chain = t.chain := by
  induction ms generalizing t with
  | nil => rfl
  | cons m ms ih => exact (ih (t.after m)).trans (chain_after t m)

theorem after_of_admits (h : t.Admits m) : t.after m = (t.remember m).change m := by
  unfold after apply
  rw [if_neg (not_not_intro h.1), h.2]

/-- A message is not stale if it is newer than the last one, or new of its kind at the same id. -/
theorem staleAt?_eq_none_iff : t.staleAt? m = none ↔ ∀ last, t.lastSnapshotId = some last →
    last < m.snapshotId ∨ (m.snapshotId = last ∧ m.kind ∉ t.appliedKinds) := by
  unfold staleAt?
  cases t.lastSnapshotId with
  | none => simp
  | some last =>
    by_cases hkind : m.kind ∈ t.appliedKinds
    · simp only [hkind, and_true, not_true, and_false, or_false, Option.some.injEq]
      split <;> simp <;> omega
    · simp only [hkind, and_false, or_false, not_false_eq_true, and_true, Option.some.injEq]
      split <;> simp <;> omega

theorem admits_of_isBefore (hchain : m.chain = t.chain) (h : t.IsBefore m.snapshotId) :
    t.Admits m :=
  ⟨hchain, staleAt?_eq_none_iff.mpr fun last hlast => Or.inl (h last hlast)⟩

theorem lastSnapshotId_change (t : Tracker) (m : InboundMessage) :
    (t.change m).lastSnapshotId = t.lastSnapshotId ∧ (t.change m).appliedKinds = t.appliedKinds := by
  unfold change
  split
  · cases m.pools <;> exact ⟨rfl, rfl⟩
  · cases m.pools <;> exact ⟨rfl, rfl⟩
  · exact ⟨rfl, rfl⟩

theorem lastSnapshotId_after (h : t.Admits m) : (t.after m).lastSnapshotId = some m.snapshotId := by
  rw [after_of_admits h, (lastSnapshotId_change _ m).1]
  rfl

theorem appliedKinds_after (h : t.Admits m) : (t.after m).appliedKinds
    = m.kind :: (if t.lastSnapshotId = some m.snapshotId then t.appliedKinds else []) := by
  rw [after_of_admits h, (lastSnapshotId_change _ m).2]
  rfl

/-- A message that is not admitted changes nothing. -/
theorem after_of_not_admits (h : ¬ t.Admits m) : t.after m = t := by
  unfold after apply
  by_cases hchain : m.chain = t.chain
  · rw [if_neg (not_not_intro hchain)]
    split
    · rfl
    · next hstale => exact absurd ⟨hchain, hstale⟩ h
  · rw [if_pos hchain]

theorem isBefore_after {id : Int} (ht : t.IsBefore id) (hm : m.snapshotId < id) :
    (t.after m).IsBefore id := by
  by_cases h : t.Admits m
  · intro last hlast
    rw [lastSnapshotId_after h, Option.some.injEq] at hlast
    omega
  · rw [after_of_not_admits h]
    exact ht

theorem isBefore_follow {id : Int} {ms : List InboundMessage} (ht : t.IsBefore id)
    (hms : ∀ m ∈ ms, m.snapshotId < id) : (t.follow ms).IsBefore id := by
  induction ms generalizing t with
  | nil => exact ht
  | cons m ms ih =>
    exact ih (isBefore_after ht (hms m List.mem_cons_self))
      (fun n hn => hms n (List.mem_cons_of_mem _ hn))

theorem IsBefore.mono {id id' : Int} (h : t.IsBefore id) (hle : id ≤ id') : t.IsBefore id' :=
  fun last hlast => Int.lt_of_lt_of_le (h last hlast) hle

/-- **Messages of one update do not keep each other from being admitted.** -/
theorem admits_after (hm : t.Admits m) (hn : t.Admits n) (hid : n.snapshotId = m.snapshotId)
    (hkind : n.kind ≠ m.kind) : (t.after m).Admits n := by
  refine ⟨hn.1.trans (chain_after t m).symm, staleAt?_eq_none_iff.mpr ?_⟩
  intro last hlast
  rw [lastSnapshotId_after hm, Option.some.injEq] at hlast
  refine Or.inr ⟨hid.trans hlast, ?_⟩
  rw [appliedKinds_after hm, List.mem_cons, not_or]
  refine ⟨hkind, ?_⟩
  split
  · next hsame =>
    rcases staleAt?_eq_none_iff.mp hn.2 _ hsame with hlt | ⟨-, hnew⟩
    · omega
    · exact hnew
  · exact List.not_mem_nil

/-! ## Messages that were received before -/

/-- What is not admitted is not admitted later either. -/
theorem not_admits_after (h : ¬ t.Admits m) (n : InboundMessage) : ¬ (t.after n).Admits m := by
  by_cases hn : t.Admits n
  · rintro ⟨hchain, hstale⟩
    refine h ⟨hchain.trans (chain_after t n), staleAt?_eq_none_iff.mpr ?_⟩
    intro last hlast
    have hafter := staleAt?_eq_none_iff.mp hstale _ (lastSnapshotId_after hn)
    rw [appliedKinds_after hn] at hafter
    rcases staleAt?_eq_none_iff.mp hn.2 last hlast with hlt | ⟨rfl, -⟩
    · exact Or.inl (by omega)
    · rw [if_pos hlast, List.mem_cons, not_or] at hafter
      exact hafter.imp_right fun hsame => ⟨hsame.1, hsame.2.2⟩
  · rw [after_of_not_admits hn]
    exact h

/-- A message is not admitted right behind itself. -/
theorem not_admits_after_self (t : Tracker) (m : InboundMessage) : ¬ (t.after m).Admits m := by
  by_cases h : t.Admits m
  · intro hagain
    rcases staleAt?_eq_none_iff.mp hagain.2 _ (lastSnapshotId_after h) with hlt | ⟨-, hnew⟩
    · exact Int.lt_irrefl _ hlt
    · rw [appliedKinds_after h] at hnew
      exact hnew List.mem_cons_self
  · exact not_admits_after h m

theorem not_admits_follow (h : ¬ t.Admits m) (ms : List InboundMessage) :
    ¬ (t.follow ms).Admits m := by
  induction ms generalizing t with
  | nil => exact h
  | cons n ms ih => exact ih (not_admits_after h n)

/-- **A message that was received is never admitted again.** -/
theorem not_admits_follow_of_mem {ms : List InboundMessage} (h : m ∈ ms) (t : Tracker) :
    ¬ (t.follow ms).Admits m := by
  induction ms generalizing t with
  | nil => cases h
  | cons n ms ih =>
    rcases List.mem_cons.mp h with rfl | h
    · exact not_admits_follow (not_admits_after_self t m) ms
    · exact ih h (t.after n)

/-- A message of the chain that is not admitted is stale, and changes nothing. -/
theorem apply_of_not_admits (hchain : m.chain = t.chain) (h : ¬ t.Admits m) :
    ∃ last, t.apply m = (.stale last, t, [.droppedStale m.kind m.snapshotId t.chain last]) := by
  cases hstale : t.staleAt? m with
  | none => exact absurd ⟨hchain, hstale⟩ h
  | some last =>
    refine ⟨last, ?_⟩
    rw [apply, if_neg (not_not_intro hchain), hstale]

/-! ## Keys -/

theorem mem_keys_insert {p : InboundPools} {k : String} :
    k ∈ (t.insert p).keys.keys ↔ k ∈ p.keyList ∨ k ∈ t.keys.keys := by
  cases p with
  | keys ks =>
    show k ∈ (ks.foldl _ t.keys).keys ↔ k ∈ ks ∨ _
    rw [SortedMap.mem_keys_foldl_insert (fun k : String => k) (fun _ => ()), List.map_id']
  | records rs => exact SortedMap.mem_keys_foldl_insert PoolRecord.key (fun _ => ())

variable {k : String}

/-- Behind a full update exactly its keys are tracked. -/
theorem mem_keys_after_full (h : t.Admits m) (hkind : m.kind = .full) :
    k ∈ (t.after m).keys.keys ↔ k ∈ m.pools.keyList := by
  rw [after_of_admits h, change, hkind]
  simp only
  rw [mem_keys_insert]
  show _ ∨ k ∈ [] ↔ _
  simp

/-- Behind an addition its keys are tracked too. -/
theorem mem_keys_after_add (h : t.Admits m) (hkind : m.kind = .add) :
    k ∈ (t.after m).keys.keys ↔ k ∈ m.pools.keyList ∨ k ∈ t.keys.keys := by
  rw [after_of_admits h, change, hkind]
  exact mem_keys_insert

/-- Behind a removal its keys are no longer tracked. -/
theorem mem_keys_after_remove (h : t.Admits m) (hkind : m.kind = .remove) :
    k ∈ (t.after m).keys.keys ↔ k ∉ m.pools.keyList ∧ k ∈ t.keys.keys := by
  rw [after_of_admits h, change, hkind]
  exact SortedMap.mem_keys_foldl_erase

end Tracker

end PoolFeed
