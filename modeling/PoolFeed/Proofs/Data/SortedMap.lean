import Mathlib.Data.List.Nodup
import Mathlib.Data.List.Perm.Subperm
import PoolFeed.Data.SortedMap

/-!
# More on maps in key order

What a map holds after several changes in a row, and what stands at its end.

## Main statements

* `SortedMap.keys_eq_of_mem_iff` — maps with the same keys list them alike
* `Entries.find?_map`, `Entries.map_insert` — values may be changed before or after
* `SortedMap.last?_insert` — a key behind all others becomes the last
* `SortedMap.mem_keys_foldl_insert`, `SortedMap.mem_keys_foldl_erase` — the keys after a row of
  changes
* `SortedMap.find?_foldl_insert`, `SortedMap.find?_foldl_erase` — what a look-up sees after a row of
  changes
-/

namespace PoolFeed

/-! ## Entry lists -/

namespace Entries

variable {κ : Type u} {α : Type v} [Ord κ]

/-- A key behind all others is put at the end. -/
theorem insert_concat [Std.OrientedOrd κ] {entries : List (κ × α)} {key : κ} {value : α}
    (h : ∀ e ∈ entries, compare e.1 key = .lt) :
    insert key value entries = entries ++ [(key, value)] := by
  induction entries with
  | nil => rfl
  | cons e rest ih =>
    obtain ⟨k, v⟩ := e
    have hlt : compare k key = .lt := h _ List.mem_cons_self
    have hgt : compare key k = .gt := Std.OrientedCmp.gt_iff_lt.mpr hlt
    unfold insert
    rw [hgt]
    simp only
    rw [ih fun e he => h e (List.mem_cons_of_mem _ he)]
    rfl

/-- Putting a value where it already stands changes nothing. -/
theorem insert_eq_self [Std.LawfulEqOrd κ] {key : κ} {value : α} {entries : List (κ × α)}
    (h : find? key entries = some value) : insert key value entries = entries := by
  induction entries with
  | nil => cases h
  | cons e rest ih =>
    obtain ⟨k, v⟩ := e
    unfold find? at h
    unfold insert
    split at h
    · cases h
    · next heq =>
      cases h
      rw [Std.LawfulEqCmp.eq_of_compare heq]
    · rw [ih h]

variable {β : Type w}

/-- Looking a value up and changing it, or changing all values first. -/
theorem find?_map (f : α → β) (key : κ) (entries : List (κ × α)) :
    find? key (entries.map fun e => (e.1, f e.2)) = (find? key entries).map f := by
  induction entries with
  | nil => rfl
  | cons e rest ih =>
    obtain ⟨k, v⟩ := e
    rw [List.map_cons, find?, find?]
    cases compare key k with
    | lt => rfl
    | eq => rfl
    | gt => exact ih

/-- Putting a value in and changing all values, or changing them first. -/
theorem map_insert (f : α → β) (key : κ) (value : α) (entries : List (κ × α)) :
    (insert key value entries).map (fun e => (e.1, f e.2))
      = insert key (f value) (entries.map fun e => (e.1, f e.2)) := by
  induction entries with
  | nil => rfl
  | cons e rest ih =>
    obtain ⟨k, v⟩ := e
    rw [List.map_cons, insert, insert]
    cases compare key k with
    | lt => rfl
    | eq => rfl
    | gt =>
      rw [List.map_cons, ih]

end Entries

namespace SortedMap

variable {κ : Type u} {α : Type v} {β : Type w} [Ord κ] [Std.TransOrd κ] [Std.LawfulEqOrd κ]

/-! ## Keys -/

omit [Std.LawfulEqOrd κ] in
theorem nodup_keys (m : SortedMap κ α) : m.keys.Nodup := by
  refine List.Pairwise.imp ?_ m.keys_sorted
  rintro a _ hlt rfl
  simp at hlt

omit [Std.LawfulEqOrd κ] in
/-- **Maps with the same keys list them alike.** -/
theorem keys_eq_of_mem_iff {m : SortedMap κ α} {n : SortedMap κ β}
    (h : ∀ k, k ∈ m.keys ↔ k ∈ n.keys) : m.keys = n.keys := by
  refine List.Perm.eq_of_pairwise ?_ m.keys_sorted n.keys_sorted ?_
  · intro a b _ _ hab hba
    exact absurd hba (Std.OrientedCmp.not_lt_of_lt hab)
  · exact (List.perm_ext_iff_of_nodup m.nodup_keys n.nodup_keys).mpr h

omit [Std.LawfulEqOrd κ] in
/-- A map has no more entries than another that has all of its keys. -/
theorem size_le_of_keys_subset {m : SortedMap κ α} {n : SortedMap κ β} (h : m.keys ⊆ n.keys) :
    m.size ≤ n.size := by
  have hle := (List.subperm_of_subset m.nodup_keys h).length_le
  rw [keys, keys, List.length_map, List.length_map] at hle
  exact hle

theorem contains_eq_true_iff {m : SortedMap κ α} {k : κ} : m.contains k = true ↔ k ∈ m.keys :=
  mem_keys.symm

theorem contains_eq_false_iff {m : SortedMap κ α} {k : κ} : m.contains k = false ↔ k ∉ m.keys := by
  rw [← contains_eq_true_iff, Bool.not_eq_true]

theorem find?_eq_none_iff {m : SortedMap κ α} {k : κ} : m.find? k = none ↔ k ∉ m.keys := by
  rw [mem_keys, Option.not_isSome_iff_eq_none]

theorem mem_values_of_find? {m : SortedMap κ α} {k : κ} {v : α} (h : m.find? k = some v) :
    v ∈ m.values :=
  List.mem_map_of_mem (f := Prod.snd) ((Entries.find?_eq_some_iff m.sorted).mp h)

variable [DecidableEq κ]

/-- A value that stands under one key only is counted once. -/
theorem count_values_eq_one [DecidableEq α] {m : SortedMap κ α} {k : κ} {v : α}
    (h : m.find? k = some v) (honly : ∀ k', m.find? k' = some v → k' = k) :
    m.values.count v = 1 := by
  have hmem : (k, v) ∈ m.entries := (Entries.find?_eq_some_iff m.sorted).mp h
  rw [values, List.count, List.countP_map,
    ← List.count_eq_one_of_mem (List.Nodup.of_map _ m.nodup_keys) hmem]
  refine List.countP_congr fun e he => ?_
  rw [Function.comp_apply, beq_iff_eq, beq_iff_eq, Prod.ext_iff]
  refine ⟨fun hv => ⟨honly e.1 ?_, hv⟩, And.right⟩
  exact (Entries.find?_eq_some_iff m.sorted).mpr (hv ▸ he)

theorem mem_keys_insert {m : SortedMap κ α} {key k : κ} {value : α} :
    k ∈ (m.insert key value).keys ↔ k = key ∨ k ∈ m.keys := by
  rw [mem_keys, mem_keys, find?_insert]
  by_cases hk : k = key
  · simp [hk]
  · simp [hk]

theorem mem_keys_erase {m : SortedMap κ α} {key k : κ} :
    k ∈ (m.erase key).keys ↔ k ≠ key ∧ k ∈ m.keys := by
  rw [mem_keys, mem_keys, find?_erase]
  by_cases hk : k = key
  · simp [hk]
  · simp [hk]

/-! ## Rows of changes -/

/-- Putting in values under several keys adds the keys. -/
theorem mem_keys_foldl_insert {γ : Type w} (key : γ → κ) (value : γ → α) {cs : List γ}
    {m : SortedMap κ α} {k : κ} :
    k ∈ (cs.foldl (fun s c => s.insert (key c) (value c)) m).keys
      ↔ k ∈ cs.map key ∨ k ∈ m.keys := by
  induction cs generalizing m with
  | nil => simp
  | cons c cs ih =>
    rw [List.foldl_cons, ih, mem_keys_insert, List.map_cons, List.mem_cons, ← or_assoc,
      or_comm (a := k ∈ cs.map key)]

/-- Dropping several keys leaves the others. -/
theorem mem_keys_foldl_erase {ks : List κ} {m : SortedMap κ α} {k : κ} :
    k ∈ (ks.foldl (fun s k => s.erase k) m).keys ↔ k ∉ ks ∧ k ∈ m.keys := by
  induction ks generalizing m with
  | nil => simp
  | cons key ks ih =>
    rw [List.foldl_cons, ih, mem_keys_erase, List.mem_cons, not_or, ← and_assoc,
      and_comm (a := k ∉ ks)]

/-- Of several values put in under one key, the last is found. -/
theorem find?_foldl_insert {γ : Type w} (key : γ → κ) (value : γ → α) (cs : List γ)
    (m : SortedMap κ α) (k : κ) :
    (cs.foldl (fun s c => s.insert (key c) (value c)) m).find? k
      = ((cs.reverse.find? (key · = k)).map value).or (m.find? k) := by
  induction cs generalizing m with
  | nil => rfl
  | cons c cs ih =>
    rw [List.foldl_cons, ih, find?_insert, List.reverse_cons, List.find?_append]
    by_cases hk : k = key c
    · cases hfound : cs.reverse.find? (key · = k) <;> simp [hk]
    · have hkc : ¬ key c = k := fun h => hk h.symm
      simp [hk, hkc]

theorem find?_foldl_insert_of_notMem {γ : Type w} (key : γ → κ) (value : γ → α) {cs : List γ}
    {m : SortedMap κ α} {k : κ} (h : k ∉ cs.map key) :
    (cs.foldl (fun s c => s.insert (key c) (value c)) m).find? k = m.find? k := by
  have hnone : cs.reverse.find? (key · = k) = none := by
    refine List.find?_eq_none.mpr fun c hc hk => h ?_
    exact List.mem_map.mpr ⟨c, List.mem_reverse.mp hc, of_decide_eq_true hk⟩
  rw [find?_foldl_insert, hnone]
  rfl

/-- Of several values under different keys, each is found under its own. -/
theorem find?_foldl_insert_of_mem {γ : Type w} (key : γ → κ) (value : γ → α) {cs : List γ}
    {m : SortedMap κ α} {c : γ} (hn : (cs.map key).Nodup) (hc : c ∈ cs) :
    (cs.foldl (fun s c => s.insert (key c) (value c)) m).find? (key c) = some (value c) := by
  induction cs generalizing m with
  | nil => cases hc
  | cons d cs ih =>
    rw [List.map_cons, List.nodup_cons] at hn
    rw [List.foldl_cons]
    rcases List.mem_cons.mp hc with rfl | hc
    · rw [find?_foldl_insert_of_notMem key value hn.1, find?_insert, if_pos rfl]
    · exact ih hn.2 hc

/-- Nothing is found under a key that was dropped. -/
theorem find?_foldl_erase (ks : List κ) (m : SortedMap κ α) (k : κ) :
    (ks.foldl (fun s k => s.erase k) m).find? k = if k ∈ ks then none else m.find? k := by
  induction ks generalizing m with
  | nil => rfl
  | cons key ks ih =>
    rw [List.foldl_cons, ih, find?_erase]
    by_cases hk : k = key
    · simp [hk]
    · simp [hk]

theorem find?_foldl_erase_of_notMem {ks : List κ} {m : SortedMap κ α} {k : κ} (h : k ∉ ks) :
    (ks.foldl (fun s k => s.erase k) m).find? k = m.find? k := by
  rw [find?_foldl_erase, if_neg h]

/-! ## The end of a map -/

omit [DecidableEq κ] in
/-- **A key behind all others becomes the last.** -/
theorem last?_insert {m : SortedMap κ α} {key : κ} {value : α}
    (h : ∀ k ∈ m.keys, compare k key = .lt) : (m.insert key value).last? = some (key, value) := by
  have hconcat : Entries.insert key value m.entries = m.entries ++ [(key, value)] :=
    Entries.insert_concat fun e he => h e.1 (List.mem_map_of_mem he)
  show (Entries.insert key value m.entries).getLast? = _
  rw [hconcat, List.getLast?_concat]

omit [Std.TransOrd κ] [Std.LawfulEqOrd κ] [DecidableEq κ] in
/-- Every key is the last one or stands in front of it. -/
theorem lt_or_eq_of_last? {m : SortedMap κ α} {key : κ} {value : α}
    (h : m.last? = some (key, value)) {k : κ} (hk : k ∈ m.keys) :
    compare k key = .lt ∨ k = key := by
  obtain ⟨front, hfront⟩ := List.getLast?_eq_some_iff.mp h
  obtain ⟨e, he, rfl⟩ := List.mem_map.mp hk
  have hsorted := m.sorted
  rw [hfront] at he hsorted
  rcases List.mem_append.mp he with he | he
  · exact Or.inl ((List.pairwise_append.mp hsorted).2.2 e he _ List.mem_cons_self)
  · exact Or.inr (by rw [List.mem_singleton.mp he])

omit [Std.TransOrd κ] [Std.LawfulEqOrd κ] [DecidableEq κ] in
theorem keys_eq_nil_of_last? {m : SortedMap κ α} (h : m.last? = none) : m.keys = [] := by
  rw [keys, List.getLast?_eq_none_iff.mp h]
  rfl

end SortedMap

end PoolFeed
