/-!
# Maps in key order

A finite map is kept as the list of its entries in strictly increasing key order. The order is
part of the type, so a map has exactly one representation and two maps with the same look-ups are
equal.

## Main statements

* `SortedMap.find?_insert`, `SortedMap.find?_erase` — what a look-up sees after a change
* `SortedMap.ext_find?` — maps that answer every look-up alike are the same map
* `SortedMap.find?_ofList` — of several entries of one key, the last is kept
-/

namespace PoolFeed

/-! ## Entry lists -/

namespace Entries

variable {κ : Type u} {α : Type v} [Ord κ]

/-- Entries in strictly increasing key order. -/
def Sorted (entries : List (κ × α)) : Prop :=
  entries.Pairwise (fun a b => compare a.1 b.1 = .lt)

/-- The value under a key. The search ends where the keys have become larger. -/
def find? (key : κ) : List (κ × α) → Option α
  | [] => none
  | (k, v) :: rest =>
    match compare key k with
    | .lt => none
    | .eq => some v
    | .gt => find? key rest

/-- Puts a value under a key, in place of the value that was there. -/
def insert (key : κ) (value : α) : List (κ × α) → List (κ × α)
  | [] => [(key, value)]
  | (k, v) :: rest =>
    match compare key k with
    | .lt => (key, value) :: (k, v) :: rest
    | .eq => (key, value) :: rest
    | .gt => (k, v) :: insert key value rest

/-- Drops the entry of a key. -/
def erase (key : κ) (entries : List (κ × α)) : List (κ × α) :=
  entries.filter (fun e => compare key e.1 != .eq)

theorem mem_insert {key : κ} {value : α} {e : κ × α} {entries : List (κ × α)}
    (h : e ∈ insert key value entries) : e = (key, value) ∨ e ∈ entries := by
  induction entries with
  | nil => simpa [insert] using h
  | cons head rest ih =>
    unfold insert at h
    split at h
    · simpa using h
    · simp only [List.mem_cons] at h ⊢
      exact h.imp id Or.inr
    · simp only [List.mem_cons] at h ⊢
      rcases h with h | h
      · exact Or.inr (Or.inl h)
      · exact (ih h).imp id Or.inr

theorem Sorted.erase {key : κ} {entries : List (κ × α)} (h : Sorted entries) :
    Sorted (Entries.erase key entries) :=
  List.Pairwise.filter _ h

variable [Std.TransOrd κ] [Std.LawfulEqOrd κ]

theorem Sorted.insert {key : κ} {value : α} {entries : List (κ × α)} (h : Sorted entries) :
    Sorted (Entries.insert key value entries) := by
  induction entries with
  | nil => simp [Sorted, Entries.insert]
  | cons head rest ih =>
    obtain ⟨k, v⟩ := head
    have hrest : Sorted rest := h.of_cons
    have hhead : ∀ e ∈ rest, compare k e.1 = .lt :=
      fun _ he => List.rel_of_pairwise_cons h he
    unfold Entries.insert
    split
    · next hlt =>
      refine List.Pairwise.cons ?_ h
      intro e he
      rcases List.mem_cons.mp he with rfl | he
      · exact hlt
      · exact Std.TransCmp.lt_trans hlt (hhead e he)
    · next heq =>
      refine List.Pairwise.cons ?_ hrest
      intro e he
      rw [Std.LawfulEqCmp.eq_of_compare heq]
      exact hhead e he
    · next hgt =>
      refine List.Pairwise.cons ?_ (ih hrest)
      intro e he
      rcases mem_insert he with rfl | he
      · exact Std.OrientedCmp.gt_iff_lt.mp hgt
      · exact hhead e he

theorem find?_insert (key k : κ) (value : α) (entries : List (κ × α)) :
    find? k (insert key value entries)
      = if compare k key = .eq then some value else find? k entries := by
  induction entries with
  | nil => cases h : compare k key <;> simp [insert, find?, h]
  | cons head rest ih =>
    obtain ⟨j, v⟩ := head
    unfold insert
    split
    · next hlt =>
      cases h : compare k key with
      | lt => simp [find?, h, Std.TransCmp.lt_trans h hlt]
      | eq => simp [find?, h]
      | gt => simp [find?, h]
    · next heq =>
      have : key = j := Std.LawfulEqCmp.eq_of_compare heq
      subst this
      cases h : compare k key <;> simp [find?, h]
    · next hgt =>
      have hjk : compare j key = .lt := Std.OrientedCmp.gt_iff_lt.mp hgt
      cases h : compare k j with
      | lt => simp [find?, h, Std.TransCmp.lt_trans h hjk]
      | eq =>
        have : k = j := Std.LawfulEqCmp.eq_of_compare h
        subst this
        simp [find?, hjk]
      | gt => simp [find?, h, ih]

theorem find?_eq_some_iff {key : κ} {value : α} {entries : List (κ × α)} (h : Sorted entries) :
    find? key entries = some value ↔ (key, value) ∈ entries := by
  induction entries with
  | nil => simp [find?]
  | cons head rest ih =>
    obtain ⟨k, v⟩ := head
    have hhead : ∀ e ∈ rest, compare k e.1 = .lt :=
      fun _ he => List.rel_of_pairwise_cons h he
    cases hk : compare key k with
    | lt =>
      have hne : key ≠ k := by
        rintro rfl
        simp at hk
      have hnot : ∀ w, (key, w) ∉ rest := by
        intro w hw
        have := Std.TransCmp.lt_trans hk (hhead _ hw)
        simp at this
      simp [find?, hk, hnot, hne]
    | eq =>
      have : key = k := Std.LawfulEqCmp.eq_of_compare hk
      subst this
      have hnot : ∀ w, (key, w) ∉ rest := by
        intro w hw
        have := hhead _ hw
        simp at this
      simp [find?, hnot, eq_comm]
    | gt =>
      have hne : key ≠ k := by
        rintro rfl
        simp at hk
      simp [find?, hk, ih h.of_cons, hne]

theorem find?_erase {entries : List (κ × α)} (h : Sorted entries) (key k : κ) :
    find? k (erase key entries) = if compare key k = .eq then none else find? k entries := by
  refine Option.ext fun v => ?_
  rw [find?_eq_some_iff h.erase]
  by_cases hk : compare key k = .eq
  · have : key = k := Std.LawfulEqCmp.eq_of_compare hk
    subst this
    simp [erase]
  · simp [erase, hk, find?_eq_some_iff h]

/-- Sorted lists that answer every look-up alike are equal. -/
theorem eq_of_find? {a b : List (κ × α)} (ha : Sorted a) (hb : Sorted b)
    (h : ∀ k, find? k a = find? k b) : a = b := by
  have hmem : ∀ e, e ∈ a ↔ e ∈ b := by
    rintro ⟨k, v⟩
    rw [← find?_eq_some_iff ha, ← find?_eq_some_iff hb, h]
  induction a generalizing b with
  | nil =>
    cases b with
    | nil => rfl
    | cons e rest => exact absurd ((hmem e).mpr (by simp)) (by simp)
  | cons x a ih =>
    cases b with
    | nil => exact absurd ((hmem x).mp (by simp)) (by simp)
    | cons y b =>
      have hxa : ∀ e ∈ a, compare x.1 e.1 = .lt :=
        fun _ he => List.rel_of_pairwise_cons ha he
      have hyb : ∀ e ∈ b, compare y.1 e.1 = .lt :=
        fun _ he => List.rel_of_pairwise_cons hb he
      have hxy : x = y := by
        rcases List.mem_cons.mp ((hmem x).mp (by simp)) with hx | hx
        · exact hx
        · rcases List.mem_cons.mp ((hmem y).mpr (by simp)) with hy | hy
          · exact hy.symm
          · have h1 := hyb x hx
            have h2 := hxa y hy
            have := Std.TransCmp.lt_trans h1 h2
            simp at this
      subst hxy
      have htail : ∀ e, e ∈ a ↔ e ∈ b := by
        intro e
        constructor
        · intro he
          rcases List.mem_cons.mp ((hmem e).mp (List.mem_cons_of_mem _ he)) with rfl | hb'
          · have := hxa _ he
            simp at this
          · exact hb'
        · intro he
          rcases List.mem_cons.mp ((hmem e).mpr (List.mem_cons_of_mem _ he)) with rfl | ha'
          · have := hyb _ he
            simp at this
          · exact ha'
      congr 1
      refine ih ha.of_cons hb.of_cons ?_ htail
      intro k
      refine Option.ext ?_
      intro v
      rw [find?_eq_some_iff ha.of_cons, find?_eq_some_iff hb.of_cons, htail]

end Entries

/-! ## Maps -/

/-- A finite map, listed in strictly increasing key order. -/
structure SortedMap (κ : Type u) (α : Type v) [Ord κ] where
  entries : List (κ × α)
  sorted : Entries.Sorted entries

namespace SortedMap

variable {κ : Type u} {α : Type v} [Ord κ]

/-- The map without entries. -/
def empty : SortedMap κ α := ⟨[], List.Pairwise.nil⟩

instance : EmptyCollection (SortedMap κ α) := ⟨empty⟩

instance : Inhabited (SortedMap κ α) := ⟨empty⟩

/-- The value under a key. -/
def find? (m : SortedMap κ α) (key : κ) : Option α := Entries.find? key m.entries

/-- Whether a key has a value. -/
def contains (m : SortedMap κ α) (key : κ) : Bool := (m.find? key).isSome

/-- The keys in increasing order. -/
def keys (m : SortedMap κ α) : List κ := m.entries.map (·.1)

/-- The values in the order of their keys. -/
def values (m : SortedMap κ α) : List α := m.entries.map (·.2)

/-- The number of entries. -/
def size (m : SortedMap κ α) : Nat := m.entries.length

def isEmpty (m : SortedMap κ α) : Bool := m.entries.isEmpty

/-- The largest key and its value. -/
def last? (m : SortedMap κ α) : Option (κ × α) := m.entries.getLast?

/-- Drops the entry of a key. -/
def erase (m : SortedMap κ α) (key : κ) : SortedMap κ α :=
  ⟨Entries.erase key m.entries, m.sorted.erase⟩

variable [Std.TransOrd κ] [Std.LawfulEqOrd κ]

/-- Puts a value under a key, in place of the value that was there. -/
def insert (m : SortedMap κ α) (key : κ) (value : α) : SortedMap κ α :=
  ⟨Entries.insert key value m.entries, m.sorted.insert⟩

/-- Puts a value under a key that has none yet. -/
def insertIfNew (m : SortedMap κ α) (key : κ) (value : α) : SortedMap κ α :=
  if m.contains key then m else m.insert key value

/-- Collects entries; of several of one key, the last is kept. -/
def ofList (entries : List (κ × α)) : SortedMap κ α :=
  entries.foldr (fun e m => m.insertIfNew e.1 e.2) empty

@[ext]
theorem ext_find? {m n : SortedMap κ α} (h : ∀ k, m.find? k = n.find? k) : m = n := by
  cases m with
  | mk a ha =>
    cases n with
    | mk b hb =>
      congr
      exact Entries.eq_of_find? ha hb h

omit [Std.TransOrd κ] [Std.LawfulEqOrd κ] in
@[simp] theorem find?_empty (k : κ) : (empty : SortedMap κ α).find? k = none := rfl

theorem find?_insert [DecidableEq κ] (m : SortedMap κ α) (key k : κ) (value : α) :
    (m.insert key value).find? k = if k = key then some value else m.find? k := by
  unfold find? insert
  rw [Entries.find?_insert]
  simp

theorem find?_erase [DecidableEq κ] (m : SortedMap κ α) (key k : κ) :
    (m.erase key).find? k = if k = key then none else m.find? k := by
  unfold find? erase
  rw [Entries.find?_erase m.sorted]
  simp [eq_comm (a := key)]

theorem find?_insertIfNew [DecidableEq κ] (m : SortedMap κ α) (key k : κ) (value : α) :
    (m.insertIfNew key value).find? k
      = if k = key then some ((m.find? key).getD value) else m.find? k := by
  unfold insertIfNew contains
  cases h : m.find? key with
  | none => simp [find?_insert]
  | some v =>
    by_cases hk : k = key
    · subst hk; simp [h]
    · simp [hk]

/-- Of several entries of one key, the last is kept. -/
theorem find?_ofList [DecidableEq κ] (entries : List (κ × α)) (k : κ) :
    (ofList entries).find? k = (entries.reverse.find? (·.1 = k)).map (·.2) := by
  induction entries with
  | nil => simp [ofList]
  | cons e rest ih =>
    have : ofList (e :: rest) = (ofList rest).insertIfNew e.1 e.2 := rfl
    rw [this, find?_insertIfNew, List.reverse_cons, List.find?_append, ih]
    by_cases hk : k = e.1
    · subst hk
      simp only [reduceIte, ih]
      cases rest.reverse.find? (·.1 = e.1) <;> simp
    · have : ¬ e.1 = k := fun h => hk h.symm
      cases rest.reverse.find? (·.1 = k) <;> simp [hk, this]

theorem mem_keys {m : SortedMap κ α} {k : κ} : k ∈ m.keys ↔ (m.find? k).isSome := by
  rw [Option.isSome_iff_exists]
  unfold keys find?
  simp only [Entries.find?_eq_some_iff m.sorted, List.mem_map, Prod.exists, exists_and_right,
    exists_eq_right]

omit [Std.TransOrd κ] [Std.LawfulEqOrd κ] in
/-- The keys increase strictly. -/
theorem keys_sorted (m : SortedMap κ α) : m.keys.Pairwise (fun a b => compare a b = .lt) :=
  List.pairwise_map.mpr m.sorted

end SortedMap

end PoolFeed
