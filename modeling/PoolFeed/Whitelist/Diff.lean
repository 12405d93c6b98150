import PoolFeed.Whitelist.Basic

/-!
# What changed between two whitelists

Pools are compared by key alone. A pool in both whitelists is no change, whatever its attributes
are.
-/

namespace PoolFeed

/-- The pools that came and the keys that went. -/
structure Diff where
  added : List PoolRecord
  removed : List String

namespace Diff

/-- What has to be added to the old whitelist and removed from it to have the keys of the new. -/
def between (old new : Whitelist) : Diff where
  added := new.records.filter (fun r => !old.contains r.key)
  removed := old.keys.filter (fun k => !new.contains k)

/-- The keys that came, in order. -/
def addedKeys (d : Diff) : List String := d.added.map (·.key)

/-- Whether nothing changed. -/
def isEmpty (d : Diff) : Bool := d.added.isEmpty && d.removed.isEmpty

/-- A set of keys, listed in increasing order. -/
abbrev KeySet := SortedMap String Unit

def keySet (keys : List String) : KeySet := .ofList (keys.map (·, ()))

/-- The keys that the change makes of some keys, in increasing order. -/
def applyTo (d : Diff) (keys : List String) : List String :=
  let added := d.addedKeys.foldl (fun s k => s.insert k ()) (keySet keys)
  (d.removed.foldl (fun s k => s.erase k) added).keys

end Diff

end PoolFeed
