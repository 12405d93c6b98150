import PoolFeed.Json.Reader
import PoolFeed.Whitelist.Key

/-!
# Pool records

One whitelisted pool: its key in normal spelling and its complete JSON object, whose `address` is
spelled like the key. A record exists only if its object passed validation.

## Main statements

* `PoolRecord.ofJson_object` — the record of a sound object keeps every field but the spelling of
  its address
-/

namespace PoolFeed

/-- The field of a pool object that holds its key. -/
def addressField : String := "address"

/-- A validated pool. -/
structure PoolRecord where
  key : String
  fields : List (String × Json)
  key_normal : normalizeKey key = key
  key_nonempty : key ≠ ""
  address_eq : Entries.find? addressField fields = some (.string key)

namespace PoolRecord

/-- Why a value is no pool record. -/
inductive Error where
  /-- The value is no JSON object. -/
  | notAnObject
  /-- The object has no address. -/
  | noAddress
  | addressNotString
  /-- The address is blank. -/
  | addressEmpty
  /-- The value stored under a key is no JSON object. -/
  | storedNotAnObject (key : String)
  /-- The address of a stored object is not the key it is stored under. -/
  | storedElsewhere (key address : String)
  deriving DecidableEq, Repr

/-- The wording of an error. -/
def Error.message : Error → String
  | .notAnObject => "entry is not a JSON object"
  | .noAddress => s!"missing required field '{addressField}'"
  | .addressNotString => s!"'{addressField}' is not a string"
  | .addressEmpty => s!"'{addressField}' is empty"
  | .storedNotAnObject key => s!"stored pool {key} is not a JSON object"
  | .storedElsewhere key address => s!"stored key {key} disagrees with pool address {address}"

def attributes (r : PoolRecord) : Json := .object r.fields

/-- The record of an object whose address is known. -/
def ofAddress (raw : String) (fields : List (String × Json)) : Except Error PoolRecord :=
  if h : normalizeKey raw = "" then .error .addressEmpty
  else
    .ok { key := normalizeKey raw
          fields := Entries.insert addressField (.string (normalizeKey raw)) fields
          key_normal := normalizeKey_normalizeKey raw
          key_nonempty := h
          address_eq := by simp [Entries.find?_insert] }

/-- The record of a pool object. The address is put into normal spelling. -/
def ofJson : Json → Except Error PoolRecord
  | .object fields =>
    match Entries.find? addressField fields with
    | some (.string raw) => ofAddress raw fields
    | some _ => .error .addressNotString
    | none => .error .noAddress
  | _ => .error .notAnObject

/-- An object with its address filled in where it has none. -/
def withAddress (key : String) (fields : List (String × Json)) : List (String × Json) :=
  if (Entries.find? addressField fields).isSome then fields
  else Entries.insert addressField (.string key) fields

/--
The record of a stored row. Rows may spell their key in any way and may lack the address, but key
and address have to name the same pool.
-/
def ofStored (key : String) : Json → Except Error PoolRecord
  | .object fields =>
    match ofJson (.object (withAddress key fields)) with
    | .error e => .error e
    | .ok r => if r.key = normalizeKey key then .ok r else .error (.storedElsewhere key r.key)
  | _ => .error (.storedNotAnObject key)

/-- Records are told apart by their keys alone. -/
def sameKey (a b : PoolRecord) : Bool := a.key = b.key

/-- The record of a sound object keeps every field but the spelling of its address. -/
theorem ofJson_object {fields : List (String × Json)} {r : PoolRecord}
    (h : ofJson (.object fields) = .ok r) :
    r.fields = Entries.insert addressField (.string r.key) fields := by
  simp only [ofJson] at h
  split at h
  · unfold ofAddress at h
    split at h
    · simp at h
    · simp only [Except.ok.injEq] at h
      rw [← h]
  · simp at h
  · simp at h

end PoolRecord

end PoolFeed
