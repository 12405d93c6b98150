import PoolFeed.Whitelist.Record

/-!
# Whitelists

The set of active pools of one chain: records in key order, each under its own key.

## Main statements

* `Whitelist.find?_insert`, `Whitelist.find?_erase` — what a look-up sees after a change
* `Whitelist.ext_find?` — whitelists that answer every look-up alike are the same
-/

namespace PoolFeed

/-- The active pools of one chain. -/
structure Whitelist where
  items : SortedMap String PoolRecord
  own_key : ∀ k r, items.find? k = some r → r.key = k

namespace Whitelist

/-- The whitelist without pools. -/
def empty : Whitelist := ⟨.empty, by simp⟩

instance : Inhabited Whitelist := ⟨empty⟩

/-- The record under a key, in the spelling given. -/
def find? (w : Whitelist) (key : String) : Option PoolRecord := w.items.find? key

/-- Whether there is a record under a key. -/
def contains (w : Whitelist) (key : String) : Bool := w.items.contains key

/-- Puts in a record, in place of one with the same key. -/
def insert (w : Whitelist) (r : PoolRecord) : Whitelist where
  items := w.items.insert r.key r
  own_key k s h := by
    rw [SortedMap.find?_insert] at h
    split at h
    · simp_all
    · exact w.own_key k s h

/-- Drops the record under a key. -/
def erase (w : Whitelist) (key : String) : Whitelist where
  items := w.items.erase key
  own_key k s h := by
    rw [SortedMap.find?_erase] at h
    split at h
    · simp at h
    · exact w.own_key k s h

/-- Puts in a record whose key is not there yet. -/
def insertIfNew (w : Whitelist) (r : PoolRecord) : Whitelist :=
  if w.contains r.key then w else w.insert r

/-- Collects records; of several with one key, the last is kept. -/
def ofRecords (records : List PoolRecord) : Whitelist :=
  records.foldr (fun r w => w.insertIfNew r) empty

/-- The keys in increasing order. -/
def keys (w : Whitelist) : List String := w.items.keys

/-- The records in key order. -/
def records (w : Whitelist) : List PoolRecord := w.items.values

/-- The number of pools. -/
def size (w : Whitelist) : Nat := w.items.size

/-- Whether there are no pools. -/
def isEmpty (w : Whitelist) : Bool := w.items.isEmpty

/-- Whitelists are told apart by their keys alone. -/
def sameKeys (v w : Whitelist) : Bool := v.keys = w.keys

@[ext]
theorem ext_find? {v w : Whitelist} (h : ∀ k, v.find? k = w.find? k) : v = w := by
  cases v
  cases w
  congr
  exact SortedMap.ext_find? h

theorem find?_insert (w : Whitelist) (r : PoolRecord) (k : String) :
    (w.insert r).find? k = if k = r.key then some r else w.find? k :=
  SortedMap.find?_insert _ _ _ _

theorem find?_erase (w : Whitelist) (key k : String) :
    (w.erase key).find? k = if k = key then none else w.find? k :=
  SortedMap.find?_erase _ _ _

end Whitelist

end PoolFeed
