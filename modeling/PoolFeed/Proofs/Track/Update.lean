import PoolFeed.Proofs.Sync.Changes
import PoolFeed.Proofs.Track.Feed

/-!
# What trackers make of an update

The messages of one update carry one id, and no two of them have the same kind. To a tracker that is
not past that id it makes no difference in which order they come.

## Main statements

* `Tracker.mem_keys_follow_full` — the keys tracked behind a full update
* `Tracker.mem_keys_follow_change` — the keys tracked behind an addition and a removal, in
  either order
* `Tracker.keys_follow_between` — so whitelists follow one another
* `Tracker.find?_follow_full`, `Tracker.find?_follow_change` — the pool objects known behind them on
  the full channel
-/

namespace PoolFeed

namespace Tracker

variable {t : Tracker} {header : Header} {channel : Channel} {k : String} {d : Diff}

/-! ## Admission -/

theorem admits_inbound {m : ChangeMessage} (hchain : t.chain = m.header.chain)
    (ht : t.IsBefore m.header.snapshotId) : t.Admits (m.inbound channel) :=
  admits_of_isBefore hchain.symm ht

/-- The removal of an update is admitted behind its addition. -/
theorem admits_removal (hchain : t.chain = header.chain) (ht : t.IsBefore header.snapshotId) :
    (t.after ((d.addition header).inbound channel)).Admits ((d.removal header).inbound channel) :=
  admits_after (admits_inbound hchain ht) (admits_inbound hchain ht) rfl nofun

/-- The addition of an update is admitted behind its removal. -/
theorem admits_addition (hchain : t.chain = header.chain) (ht : t.IsBefore header.snapshotId) :
    (t.after ((d.removal header).inbound channel)).Admits ((d.addition header).inbound channel) :=
  admits_after (admits_inbound hchain ht) (admits_inbound hchain ht) rfl nofun

/-! ## Keys -/

theorem mem_keys_after_addition (h : t.Admits ((d.addition header).inbound channel)) :
    k ∈ (t.after ((d.addition header).inbound channel)).keys.keys
      ↔ k ∈ d.addedKeys ∨ k ∈ t.keys.keys := by
  have hkeys := (d.addition header).keyList_poolsOn channel
  rw [mem_keys_after_add h rfl]
  show k ∈ ((d.addition header).poolsOn channel).keyList ∨ _ ↔ _
  rw [hkeys]
  rfl

theorem mem_keys_after_removal (h : t.Admits ((d.removal header).inbound channel)) :
    k ∈ (t.after ((d.removal header).inbound channel)).keys.keys
      ↔ k ∉ d.removed ∧ k ∈ t.keys.keys := by
  have hkeys := (d.removal header).keyList_poolsOn channel
  rw [mem_keys_after_remove h rfl]
  show k ∉ ((d.removal header).poolsOn channel).keyList ∧ _ ↔ _
  rw [hkeys]
  rfl

/-- **Behind a full update exactly the keys of its whitelist are tracked.** -/
theorem mem_keys_follow_full (hchain : t.chain = header.chain)
    (ht : t.IsBefore header.snapshotId) (w : Whitelist) :
    k ∈ (t.follow [(ChangeMessage.ofWhitelist header w).inbound channel]).keys.keys
      ↔ k ∈ w.keys := by
  have hkeys := (ChangeMessage.ofWhitelist header w).keyList_poolsOn channel
  show k ∈ (t.after _).keys.keys ↔ _
  rw [mem_keys_after_full (admits_inbound hchain ht) rfl, ← w.map_key_records]
  show k ∈ ((ChangeMessage.ofWhitelist header w).poolsOn channel).keyList ↔ _
  rw [hkeys]
  rfl

/--
**Behind the messages of a change, in either order, what came is tracked and what went is not.**
Nothing may both come and go.
-/
theorem mem_keys_follow_change {ms : List ChangeMessage} (hd : ∀ k ∈ d.addedKeys, k ∉ d.removed)
    (hms : ms.Perm (Cycle.changeMessages header d)) (hchain : t.chain = header.chain)
    (ht : t.IsBefore header.snapshotId) :
    k ∈ (t.follow (ms.map (·.inbound channel))).keys.keys
      ↔ (k ∈ d.addedKeys ∨ k ∈ t.keys.keys) ∧ k ∉ d.removed := by
  rcases Diff.perm_changeMessages hms with
    ⟨hnil, hnil', rfl⟩ | ⟨hnil, rfl⟩ | ⟨hnil, rfl⟩ | rfl | rfl
  · show k ∈ t.keys.keys ↔ _
    simp [Diff.addedKeys, hnil, hnil']
  · show k ∈ (t.after _).keys.keys ↔ _
    rw [mem_keys_after_removal (admits_inbound hchain ht)]
    simp [Diff.addedKeys, hnil, and_comm]
  · show k ∈ (t.after _).keys.keys ↔ _
    rw [mem_keys_after_addition (admits_inbound hchain ht)]
    simp [hnil]
  · show k ∈ ((t.after ((d.addition header).inbound channel)).after _).keys.keys ↔ _
    rw [mem_keys_after_removal (admits_removal hchain ht),
      mem_keys_after_addition (admits_inbound hchain ht), and_comm]
  -- What went first did not come, so the addition behind it brings none of it back.
  · show k ∈ ((t.after ((d.removal header).inbound channel)).after _).keys.keys ↔ _
    rw [mem_keys_after_addition (admits_addition hchain ht),
      mem_keys_after_removal (admits_inbound hchain ht)]
    constructor
    · rintro (h | ⟨hnot, h⟩)
      · exact ⟨Or.inl h, hd k h⟩
      · exact ⟨Or.inr h, hnot⟩
    · rintro ⟨h | h, hnot⟩
      · exact Or.inl h
      · exact Or.inr ⟨hnot, h⟩

/-- A full update leaves the keys of its whitelist. -/
theorem keys_follow_full (hchain : t.chain = header.chain) (ht : t.IsBefore header.snapshotId)
    (w : Whitelist) :
    (t.follow [(ChangeMessage.ofWhitelist header w).inbound channel]).keys.keys = w.keys :=
  SortedMap.keys_eq_of_mem_iff fun _ => mem_keys_follow_full hchain ht w

/-- **What changed between two whitelists leads from the keys of the one to those of the other.** -/
theorem keys_follow_between {old new : Whitelist} {ms : List ChangeMessage}
    (hms : ms.Perm (Cycle.changeMessages header (Diff.between old new)))
    (hchain : t.chain = header.chain) (ht : t.IsBefore header.snapshotId)
    (hkeys : t.keys.keys = old.keys) :
    (t.follow (ms.map (·.inbound channel))).keys.keys = new.keys := by
  refine SortedMap.keys_eq_of_mem_iff fun k => ?_
  rw [mem_keys_follow_change (fun _ => Diff.notMem_removed) hms hchain ht, hkeys,
    Diff.mem_addedKeys, Diff.mem_removed]
  show _ ↔ k ∈ new.keys
  by_cases hnew : k ∈ new.keys
  · by_cases hold : k ∈ old.keys
    · simp [hnew, hold]
    · simp [hnew, hold]
  · simp [hnew]

/-! ## Pool objects -/

/-- On the full channel the pool objects of a message are put in, even if it has none. -/
theorem records_insert_poolsOn (t : Tracker) (m : ChangeMessage) :
    (t.insert (m.poolsOn .full)).records
      = m.records.foldl (fun s r => s.insert r.key r) t.records := by
  rw [ChangeMessage.poolsOn]
  split
  · next hempty =>
    rw [List.isEmpty_iff.mp hempty]
    rfl
  · rfl

variable {r : PoolRecord}

/-- **Behind a full update every pool object of its whitelist is known.** -/
theorem find?_follow_full (hchain : t.chain = header.chain) (ht : t.IsBefore header.snapshotId)
    {w : Whitelist} (hr : r ∈ w.records) :
    (t.follow [(ChangeMessage.ofWhitelist header w).inbound .full]).records.find? r.key
      = some r := by
  have hadmits : t.Admits ((ChangeMessage.ofWhitelist header w).inbound .full) :=
    admits_inbound hchain ht
  have hnodup : (w.records.map (·.key)).Nodup := w.map_key_records ▸ w.nodup_keys
  show (t.after _).records.find? r.key = _
  rw [after_of_admits hadmits]
  show (insert _ ((ChangeMessage.ofWhitelist header w).poolsOn .full)).records.find? r.key = _
  rw [records_insert_poolsOn]
  exact SortedMap.find?_foldl_insert_of_mem PoolRecord.key id hnodup hr

theorem find?_after_addition_of_mem (hnodup : d.addedKeys.Nodup)
    (h : t.Admits ((d.addition header).inbound .full)) (hr : r ∈ d.added) :
    (t.after ((d.addition header).inbound .full)).records.find? r.key = some r := by
  rw [after_of_admits h]
  show (insert _ ((d.addition header).poolsOn .full)).records.find? r.key = _
  rw [records_insert_poolsOn]
  exact SortedMap.find?_foldl_insert_of_mem PoolRecord.key id hnodup hr

theorem find?_after_addition_of_notMem (h : t.Admits ((d.addition header).inbound .full))
    (hk : k ∉ d.addedKeys) :
    (t.after ((d.addition header).inbound .full)).records.find? k = t.records.find? k := by
  rw [after_of_admits h]
  show (insert _ ((d.addition header).poolsOn .full)).records.find? k = _
  rw [records_insert_poolsOn]
  exact SortedMap.find?_foldl_insert_of_notMem PoolRecord.key id hk

theorem find?_after_removal_of_notMem (h : t.Admits ((d.removal header).inbound channel))
    (hk : k ∉ d.removed) :
    (t.after ((d.removal header).inbound channel)).records.find? k = t.records.find? k := by
  have hkeys := (d.removal header).keyList_poolsOn channel
  rw [after_of_admits h]
  show (((d.removal header).poolsOn channel).keyList.foldl (fun s k => s.erase k) t.records).find? k
    = _
  rw [hkeys]
  exact SortedMap.find?_foldl_erase_of_notMem hk

/--
**Behind the messages of a change, in either order, the pool objects that came are known and those
that the change does not name are what they were.**
-/
theorem find?_follow_change {ms : List ChangeMessage} (hnodup : d.addedKeys.Nodup)
    (hd : ∀ k ∈ d.addedKeys, k ∉ d.removed)
    (hms : ms.Perm (Cycle.changeMessages header d)) (hchain : t.chain = header.chain)
    (ht : t.IsBefore header.snapshotId) :
    (∀ r ∈ d.added, (t.follow (ms.map (·.inbound .full))).records.find? r.key = some r)
      ∧ ∀ k, k ∉ d.addedKeys → k ∉ d.removed →
        (t.follow (ms.map (·.inbound .full))).records.find? k = t.records.find? k := by
  have hadded : ∀ r ∈ d.added, r.key ∉ d.removed := fun r hr => hd _ (List.mem_map_of_mem hr)
  have hadmits : ∀ m : ChangeMessage, m.header = header → t.Admits (m.inbound .full) := by
    rintro m rfl
    exact admits_inbound hchain ht
  have hadd : t.Admits ((d.addition header).inbound .full) := hadmits _ rfl
  have hrem : t.Admits ((d.removal header).inbound .full) := hadmits _ rfl
  rcases Diff.perm_changeMessages hms with
    ⟨hnil, -, rfl⟩ | ⟨hnil, rfl⟩ | ⟨-, rfl⟩ | rfl | rfl
  · refine ⟨?_, fun _ _ _ => rfl⟩
    rw [hnil]
    exact nofun
  · refine ⟨?_, fun k _ hk => find?_after_removal_of_notMem hrem hk⟩
    rw [hnil]
    exact nofun
  · exact ⟨fun r hr => find?_after_addition_of_mem hnodup hadd hr,
      fun k hk _ => find?_after_addition_of_notMem hadd hk⟩
  · have hsecond : (t.after ((d.addition header).inbound .full)).Admits
        ((d.removal header).inbound .full) := admits_removal hchain ht
    refine ⟨fun r hr => ?_, fun k hk hk' => ?_⟩
    · exact (find?_after_removal_of_notMem hsecond (hadded r hr)).trans
        (find?_after_addition_of_mem hnodup hadd hr)
    · exact (find?_after_removal_of_notMem hsecond hk').trans
        (find?_after_addition_of_notMem hadd hk)
  · have hsecond : (t.after ((d.removal header).inbound .full)).Admits
        ((d.addition header).inbound .full) := admits_addition hchain ht
    refine ⟨fun r hr => find?_after_addition_of_mem hnodup hsecond hr, fun k hk hk' => ?_⟩
    exact (find?_after_addition_of_notMem hsecond hk).trans (find?_after_removal_of_notMem hrem hk')

end Tracker

end PoolFeed
