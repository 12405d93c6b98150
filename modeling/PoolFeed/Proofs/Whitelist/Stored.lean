import Mathlib.Data.List.Nodup
import PoolFeed.Proofs.Roundtrip.Messages
import PoolFeed.Proofs.Whitelist.Keys

/-!
# Whitelists out of records

A record that was stored under its key is found again, and records under different keys make the
same whitelist in every order. Where a key is taken, the record that came first may be kept.

## Main statements

* `PoolRecord.ofStored_attributes` — a stored record is read back as it was
* `Whitelist.ofRecords_of_perm` — the records of a whitelist, in any order, make it up again
* `Whitelist.find?_foldl_insertIfNew` — what is found once the records of another whitelist were
  added where their keys were free
-/

namespace PoolFeed

/-- **A stored record is read back as it was.** -/
theorem PoolRecord.ofStored_attributes (r : PoolRecord) : ofStored r.key r.attributes = .ok r := by
  have hfields : withAddress r.key r.fields = r.fields := by
    rw [withAddress, r.address_eq]
    rfl
  have hread : ofJson (.object r.fields) = .ok r := ofJson_attributes r
  simp only [attributes, ofStored, hfields, hread]
  rw [if_pos r.key_normal.symm]

namespace Whitelist

variable {w : Whitelist} {rs : List PoolRecord} {r : PoolRecord} {k : String}

/-! ## Records by their keys -/

/-- Of records under different keys, the one under a key is found. -/
theorem find?_key_eq_some_iff (hn : (rs.map (·.key)).Nodup) :
    rs.find? (·.key = k) = some r ↔ r ∈ rs ∧ r.key = k := by
  constructor
  · intro h
    exact ⟨List.mem_of_find?_eq_some h, by simpa using List.find?_some h⟩
  · rintro ⟨hr, rfl⟩
    cases hfind : rs.find? (·.key = r.key) with
    | none => exact absurd (List.find?_eq_none.mp hfind r hr) (by simp)
    | some s =>
      have hs : s.key = r.key := by simpa using List.find?_some hfind
      rw [List.inj_on_of_nodup_map hn (List.mem_of_find?_eq_some hfind) hr hs]

theorem find?_eq_some_iff : w.find? k = some r ↔ r ∈ w.records ∧ r.key = k := by
  constructor
  · intro h
    exact ⟨SortedMap.mem_values_of_find? h, w.own_key k r h⟩
  · rintro ⟨hr, rfl⟩
    obtain ⟨⟨k, s⟩, he, rfl⟩ := List.mem_map.mp hr
    have hfind : w.items.find? k = some s := (Entries.find?_eq_some_iff w.items.sorted).mpr he
    show w.items.find? s.key = some s
    rw [w.own_key k s hfind, hfind]

theorem nodup_map_key_records (w : Whitelist) : (w.records.map (·.key)).Nodup := by
  rw [map_key_records]
  exact w.nodup_keys

/-- A look-up finds what stands in the list of records. -/
theorem find?_records (w : Whitelist) (k : String) : w.records.find? (·.key = k) = w.find? k := by
  refine Option.ext fun r => ?_
  rw [find?_key_eq_some_iff w.nodup_map_key_records, find?_eq_some_iff]

/-- A record under a new key joins the others. -/
theorem records_insert_perm (h : r.key ∉ w.keys) : (w.insert r).records.Perm (r :: w.records) := by
  refine (List.perm_ext_iff_of_nodup (.of_map _ (nodup_map_key_records _)) ?_).mpr fun s => ?_
  · refine List.nodup_cons.mpr ⟨fun hr => h ?_, .of_map _ w.nodup_map_key_records⟩
    exact w.map_key_records ▸ List.mem_map_of_mem hr
  · have hins : s ∈ (w.insert r).records ↔ (w.insert r).find? s.key = some s := by
      rw [find?_eq_some_iff]
      exact ⟨fun hs => ⟨hs, rfl⟩, And.left⟩
    have hold : s ∈ w.records ↔ w.find? s.key = some s := by
      rw [find?_eq_some_iff]
      exact ⟨fun hs => ⟨hs, rfl⟩, And.left⟩
    rw [hins, List.mem_cons, hold, find?_insert]
    by_cases hk : s.key = r.key
    · have hnone : w.find? r.key = none := SortedMap.find?_eq_none_iff.mpr h
      rw [if_pos hk, hk, hnone]
      exact ⟨fun he => .inl (Option.some.inj he).symm, fun he => he.elim (congrArg _ ·.symm) nofun⟩
    · rw [if_neg hk]
      exact ⟨.inr, fun he => he.resolve_left fun heq => hk (congrArg _ heq)⟩

/-! ## Rows of records -/

/-- Where a key is free a new record is found, and elsewhere the old one. -/
theorem find?_insertIfNew (w : Whitelist) (r : PoolRecord) (k : String) :
    (w.insertIfNew r).find? k = (w.find? k).or (if r.key = k then some r else none) := by
  unfold insertIfNew
  split
  · next hold =>
    by_cases hk : r.key = k
    · obtain ⟨s, hs⟩ := Option.isSome_iff_exists.mp hold
      have hfind : w.find? k = some s := hk ▸ hs
      rw [hfind]
      rfl
    · rw [if_neg hk, Option.or_none]
  · next hnew =>
    rw [find?_insert]
    by_cases hk : r.key = k
    · have hfind : w.find? k = none := by
        rw [← hk]
        exact Option.not_isSome_iff_eq_none.mp hnew
      rw [if_pos hk.symm, if_pos hk, hfind]
      rfl
    · rw [if_neg (Ne.symm hk), if_neg hk, Option.or_none]

/-- Adding records where their keys are free: the first of a key is kept. -/
theorem find?_foldl_insertIfNew (rs : List PoolRecord) (w : Whitelist) (k : String) :
    (rs.foldl insertIfNew w).find? k = (w.find? k).or (rs.find? (·.key = k)) := by
  induction rs generalizing w with
  | nil => simp
  | cons r rs ih =>
    rw [List.foldl_cons, ih, find?_insertIfNew, Option.or_assoc, List.find?_cons]
    by_cases hk : r.key = k <;> simp [hk]

/-- Collecting records: the last of a key is kept. -/
theorem find?_ofRecords (rs : List PoolRecord) (k : String) :
    (ofRecords rs).find? k = rs.reverse.find? (·.key = k) := by
  have hfold : ofRecords rs = rs.reverse.foldl insertIfNew empty := by
    rw [List.foldl_reverse]
    rfl
  rw [hfold, find?_foldl_insertIfNew]
  rfl

/-- **The records of a whitelist, in any order, make it up again.** -/
theorem ofRecords_of_perm (h : rs.Perm w.records) : ofRecords rs = w := by
  have hreverse : rs.reverse.Perm w.records := (List.reverse_perm rs).trans h
  refine ext_find? fun k => Option.ext fun r => ?_
  rw [find?_ofRecords, find?_key_eq_some_iff, find?_eq_some_iff, hreverse.mem_iff]
  exact (hreverse.map _).nodup_iff.mpr w.nodup_map_key_records

end Whitelist

end PoolFeed
