import Mathlib.Order.Bounds.Defs
import PoolFeed.Proofs.Whitelist.Records
import PoolFeed.Sync.Request

/-!
# What is taken in, and what is blamed

A batch of entries makes a whitelist exactly if every entry is sound and no two of them name the
same pool. Otherwise the first entry is blamed that is unsound or repeats the key of an earlier one,
and nothing is touched.

## Main statements

* `Whitelist.OneEach.concat` — one more entry under a new key is one more record
* `Whitelist.addEntries_cases` — what comes of the entries behind some that were taken in
* `Whitelist.ofValues_intake` — what comes of a whole batch
-/

namespace PoolFeed

namespace Whitelist

open PoolRecord (Sound Represents)

variable {values done rest : List Json} {v : Json} {w : Whitelist} {r : PoolRecord} {k : String}
  {i : Nat}

/-! ## Entries -/

/-- The key of the pool that an entry names. -/
def entryKey? (v : Json) : Option String := (PoolRecord.address? v).map normalizeKey

/-- An entry that is unsound, or repeats the key of an earlier one. -/
def Faulty (values : List Json) (i : Nat) : Prop :=
  ∃ v, values[i]? = some v ∧ (¬ Sound v ∨ ∃ j u k, j < i ∧ values[j]? = some u
    ∧ entryKey? u = some k ∧ entryKey? v = some k)

theorem entryKey?_of_represents (h : r.Represents v) : entryKey? v = some r.key := by
  obtain ⟨raw, haddress, hkey⟩ := h.address?
  rw [entryKey?, haddress, hkey]
  rfl

theorem not_faulty (hsound : ∀ v ∈ values, Sound v)
    (hapart : values.Pairwise fun u v => entryKey? u ≠ entryKey? v) (i : Nat) :
    ¬ Faulty values i := by
  rintro ⟨v, hv, hunsound | ⟨j, u, k, hj, hu, huk, hvk⟩⟩
  · exact hunsound (hsound v (List.mem_of_getElem? hv))
  · obtain ⟨hi, rfl⟩ := List.getElem?_eq_some_iff.mp hv
    obtain ⟨hj', rfl⟩ := List.getElem?_eq_some_iff.mp hu
    exact List.pairwise_iff_getElem.mp hapart j i hj' hi hj (huk.trans hvk.symm)

/-- What stands behind an entry does not make it faulty. -/
theorem faulty_append_left (hi : i < done.length) :
    Faulty (done ++ rest) i ↔ Faulty done i := by
  simp only [Faulty]
  constructor
  · rintro ⟨v, hv, hfault⟩
    rw [List.getElem?_append_left hi] at hv
    refine ⟨v, hv, hfault.imp_right ?_⟩
    rintro ⟨j, u, k, hj, hu, hk⟩
    rw [List.getElem?_append_left (hj.trans hi)] at hu
    exact ⟨j, u, k, hj, hu, hk⟩
  · rintro ⟨v, hv, hfault⟩
    refine ⟨v, (List.getElem?_append_left hi).trans hv, hfault.imp_right ?_⟩
    rintro ⟨j, u, k, hj, hu, hk⟩
    exact ⟨j, u, k, hj, (List.getElem?_append_left (hj.trans hi)).trans hu, hk⟩

/-! ## One record for each entry -/

/-- A whitelist with exactly one record for each of some entries. -/
def OneEach (values : List Json) (w : Whitelist) : Prop :=
  ∃ rs, List.Forall₂ Represents rs values ∧ w.records.Perm rs

theorem oneEach_nil : OneEach [] empty := ⟨[], .nil, .refl _⟩

/-- **One more entry under a new key is one more record.** -/
theorem OneEach.concat (h : OneEach values w) (hr : r.Represents v) (hnew : r.key ∉ w.keys) :
    OneEach (values ++ [v]) (w.insert r) := by
  obtain ⟨rs, hrs, hperm⟩ := h
  refine ⟨rs ++ [r], List.rel_append hrs (.cons hr .nil), ?_⟩
  refine (records_insert_perm hnew).trans ?_
  exact (hperm.cons r).trans (List.perm_append_singleton r rs).symm

/-- The keys of the entries are those of the records, in the order of the entries. -/
theorem map_entryKey? {rs : List PoolRecord} (h : List.Forall₂ Represents rs values) :
    values.map entryKey? = rs.map (some ·.key) := by
  induction h with
  | nil => rfl
  | cons hr _ ih => rw [List.map_cons, List.map_cons, ih, entryKey?_of_represents hr]

theorem OneEach.mem_keys_iff (h : OneEach values w) :
    k ∈ w.keys ↔ ∃ v ∈ values, entryKey? v = some k := by
  obtain ⟨rs, hrs, hperm⟩ := h
  have hkeys : k ∈ w.keys ↔ some k ∈ values.map entryKey? := by
    rw [map_entryKey? hrs, ← map_key_records, (hperm.map _).mem_iff, List.mem_map, List.mem_map]
    simp only [Option.some.injEq]
  rw [hkeys, List.mem_map]

theorem OneEach.sound (h : OneEach values w) : ∀ v ∈ values, Sound v := by
  obtain ⟨rs, hrs, -⟩ := h
  induction hrs with
  | nil => nofun
  | cons hr _ ih =>
    intro v hv
    rcases List.mem_cons.mp hv with rfl | hv
    · exact hr.sound
    · exact ih v hv

theorem OneEach.apart (h : OneEach values w) :
    values.Pairwise fun u v => entryKey? u ≠ entryKey? v := by
  obtain ⟨rs, hrs, hperm⟩ := h
  have hkeys : (rs.map (·.key)).Nodup := (hperm.map _).nodup_iff.mp w.nodup_map_key_records
  have hentries : (values.map entryKey?).Nodup := by
    rw [map_entryKey? hrs, ← Function.comp_def, ← List.map_map]
    exact hkeys.map (Option.some_injective _)
  exact List.pairwise_map.mp hentries

theorem OneEach.size_eq (h : OneEach values w) : w.size = values.length := by
  obtain ⟨rs, hrs, hperm⟩ := h
  have hsize : w.records.length = w.size := List.length_map _
  rw [← hsize, hperm.length_eq, hrs.length_eq]

/-! ## Batches -/

/-- An entry that is refused behind some that were taken in is the first that is faulty. -/
theorem OneEach.isLeast (h : OneEach done w) (hfault : Faulty (done ++ rest) done.length) :
    IsLeast {i | Faulty (done ++ rest) i} done.length := by
  refine ⟨hfault, fun i hi => ?_⟩
  by_contra hlt
  have hi' : i < done.length := Nat.lt_of_not_le hlt
  exact not_faulty h.sound h.apart i ((faulty_append_left hi').mp hi)

/-- **What comes of the entries behind some that were taken in.** -/
theorem addEntries_cases (h : OneEach done w) (rest : List Json) :
    (∃ w', addEntries done.length w rest = .ok w' ∧ OneEach (done ++ rest) w')
      ∨ ∃ i reason, addEntries done.length w rest = .error (.malformedInput i reason)
        ∧ IsLeast {i | Faulty (done ++ rest) i} i := by
  induction rest generalizing done w with
  | nil =>
    rw [List.append_nil]
    exact Or.inl ⟨w, rfl, h⟩
  | cons v rest ih =>
    have hv : (done ++ v :: rest)[done.length]? = some v := by simp
    rw [addEntries]
    split
    · next e he =>
      refine Or.inr ⟨done.length, _, rfl, h.isLeast ⟨v, hv, Or.inl ?_⟩⟩
      exact PoolRecord.not_sound_of_error he
    · next r hr =>
      have hrepresents := PoolRecord.ofJson_eq_ok_iff.mp hr
      have hkey := entryKey?_of_represents hrepresents
      split
      · next hold =>
        have hmem : r.key ∈ w.keys := SortedMap.contains_eq_true_iff.mp hold
        obtain ⟨u, hu, huk⟩ := h.mem_keys_iff.mp hmem
        obtain ⟨j, hj, rfl⟩ := List.mem_iff_getElem.mp hu
        refine Or.inr ⟨done.length, _, rfl, h.isLeast ⟨v, hv, Or.inr ?_⟩⟩
        refine ⟨j, done[j], r.key, hj, ?_, huk, hkey⟩
        rw [List.getElem?_append_left hj, List.getElem?_eq_getElem hj]
      · next hnew =>
        have hnotMem : r.key ∉ w.keys := contains_eq_false_iff.mp (Bool.not_eq_true _ ▸ hnew)
        have hnext := ih (h.concat hrepresents hnotMem)
        rw [List.length_append, List.append_assoc] at hnext
        exact hnext

theorem ofValues_cases (values : List Json) :
    (∃ w, ofValues values = .ok w ∧ OneEach values w)
      ∨ ∃ i reason, ofValues values = .error (.malformedInput i reason)
        ∧ IsLeast {i | Faulty values i} i :=
  addEntries_cases oneEach_nil values

/-- What comes of a batch of entries. -/
structure Intake (values : List Json) : Prop where
  /-- It is taken in if every entry is sound and no two name the same pool. -/
  accepted : (∃ w, ofValues values = .ok w) ↔ (∀ v ∈ values, Sound v)
    ∧ values.Pairwise fun u v => entryKey? u ≠ entryKey? v
  /-- There is then one record for each entry, with all of its fields. -/
  complete : ∀ w, ofValues values = .ok w → w.size = values.length ∧ OneEach values w
  /-- Otherwise an entry is blamed. -/
  refused : ∀ e, ofValues values = .error e → ∃ i reason, e = .malformedInput i reason
  /-- It is the first one that is faulty. -/
  blamed : ∀ i, (∃ reason, ofValues values = .error (.malformedInput i reason))
    ↔ IsLeast {i | Faulty values i} i
  /--
  Nothing is asked of a store or a transport then: whatever they are, even if they count what they
  are asked, they are left as they were.
  -/
  untouched : ∀ {σ τ : Type} [SnapshotStore σ] [Transport τ] (chain : String) (forceFull : Bool)
    (p : Publisher) (world : World σ τ) e, ofValues values = .error e →
    syncValues chain values forceFull p world = ⟨.error e, world, []⟩

/-- **A batch is taken in whole, or its first faulty entry is blamed and nothing is touched.** -/
theorem ofValues_intake (values : List Json) : Intake values := by
  constructor
  case accepted =>
    constructor
    · rintro ⟨w, hw⟩
      rcases ofValues_cases values with ⟨w', -, heach⟩ | ⟨i, reason, herror, -⟩
      · exact ⟨heach.sound, heach.apart⟩
      · rw [hw] at herror
        cases herror
    · rintro ⟨hsound, hapart⟩
      rcases ofValues_cases values with ⟨w, hw, -⟩ | ⟨i, reason, -, hleast⟩
      · exact ⟨w, hw⟩
      · exact absurd hleast.1 (not_faulty hsound hapart i)
  case complete =>
    intro w hw
    rcases ofValues_cases values with ⟨w', hw', heach⟩ | ⟨i, reason, herror, -⟩
    · rw [hw] at hw'
      cases hw'
      exact ⟨heach.size_eq, heach⟩
    · rw [hw] at herror
      cases herror
  case refused =>
    intro e he
    rcases ofValues_cases values with ⟨w, hw, -⟩ | ⟨i, reason, herror, -⟩
    · rw [he] at hw
      cases hw
    · rw [he] at herror
      exact ⟨i, reason, Except.error.inj herror⟩
  case blamed =>
    intro i
    rcases ofValues_cases values with ⟨w, hw, heach⟩ | ⟨i', reason, herror, hleast⟩
    · constructor
      · rintro ⟨reason, herror⟩
        rw [hw] at herror
        cases herror
      · intro hleast
        exact absurd hleast.1 (not_faulty heach.sound heach.apart i)
    · constructor
      · rintro ⟨reason', herror'⟩
        rw [herror] at herror'
        cases herror'
        exact hleast
      · intro hleast'
        cases hleast'.unique hleast
        exact ⟨reason, herror⟩
  case untouched =>
    intro σ τ _ _ chain forceFull p world e he
    rw [syncValues, he]

end Whitelist

end PoolFeed
