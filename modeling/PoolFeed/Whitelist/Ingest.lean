import PoolFeed.Sync.Error
import PoolFeed.Whitelist.Basic

/-!
# Taking in a whitelist

A whitelist is taken in whole or not at all: the first entry that is refused, by itself or for
repeating a key, refuses the batch.
-/

namespace PoolFeed.Whitelist

/-- Why an entry of a batch is refused. -/
inductive EntryFault where
  /-- The entry is no record. -/
  | invalid (error : PoolRecord.Error)
  /-- An earlier entry has the key. -/
  | duplicate (key : String)
  /-- The text is no array of values. -/
  | notAnArray (error : Json.Error)
  deriving Repr

/-- The wording of a fault. -/
def EntryFault.message : EntryFault → String
  | .invalid e => e.message
  | .duplicate key => s!"duplicate key {key}"
  | .notAnArray e => s!"expected a JSON array of pool objects: {e.message}"

/-- The failure of a batch at an entry. -/
def refused (index : Nat) (fault : EntryFault) : SyncError := .malformedInput index fault.message

/-- Adds entries to a whitelist, the first of them having the given place. -/
def addEntries (index : Nat) (w : Whitelist) : List Json → Except SyncError Whitelist
  | [] => .ok w
  | v :: rest =>
    match PoolRecord.ofJson v with
    | .error e => .error (refused index (.invalid e))
    | .ok r =>
      if w.contains r.key then .error (refused index (.duplicate r.key))
      else addEntries (index + 1) (w.insert r) rest

def ofValues (values : List Json) : Except SyncError Whitelist := addEntries 0 empty values

/-- The whitelist of a text that is an array of entries. -/
def ofText (text : Text.Bytes) : Except SyncError Whitelist :=
  match Json.readArray text with
  | .error e => .error (refused 0 (.notAnArray e))
  | .ok values => ofValues values

end PoolFeed.Whitelist
