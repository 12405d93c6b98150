import PoolFeed.Proofs.Whitelist.Stored

/-!
# Which values are pool records

A pool object is a record if its address is a text that is not blank. The record keeps every field
of the object and puts the address into normal spelling. A stored row is read in the same way, but
its key stands in for an address that is missing, and has to name the same pool as one that is not.

## Main statements

* `PoolRecord.ofJson_eq_ok_iff` — what is a record, and of which object
* `PoolRecord.exists_ofJson_iff` — which values are records
* `PoolRecord.ofStored_eq_ok_iff` — which rows are records, and of which objects
-/

namespace PoolFeed

/-! ## Fields put in twice -/

/-- Of two values put in under one key, the second is kept. -/
theorem Entries.insert_insert {κ : Type u} {α : Type v} [Ord κ] [Std.ReflOrd κ] (key : κ)
    (value value' : α) (entries : List (κ × α)) :
    insert key value' (insert key value entries) = insert key value' entries := by
  induction entries with
  | nil => simp [insert]
  | cons e rest ih =>
    obtain ⟨k, v⟩ := e
    rw [insert]
    cases hk : compare key k with
    | lt => simp [insert, hk]
    | eq => simp [insert, hk]
    | gt => simp [insert, hk, ih]

namespace PoolRecord

variable {v : Json} {r s : PoolRecord} {key raw : String} {fields : List (String × Json)}

/-- Records with the same fields are the same. -/
theorem eq_of_fields (hkey : r.key = s.key) (hfields : r.fields = s.fields) : r = s := by
  cases r
  cases s
  cases hkey
  cases hfields
  rfl

/-! ## Pool objects -/

/-- The address of a pool object, as it is spelled. -/
def address? : Json → Option String
  | .object fields => (Entries.find? addressField fields).bind Json.string?
  | _ => none

theorem address?_object : address? (.object fields) = some raw
    ↔ Entries.find? addressField fields = some (.string raw) := by
  rw [address?]
  constructor
  · intro h
    obtain ⟨a, ha, hraw⟩ := Option.bind_eq_some_iff.mp h
    cases a with
    | string s =>
      cases hraw
      exact ha
    | _ => cases hraw
  · intro h
    rw [h]
    rfl

theorem exists_fields_of_address? (h : address? v = some raw) :
    ∃ fields, v = .object fields ∧ Entries.find? addressField fields = some (.string raw) := by
  cases v with
  | object fields => exact ⟨fields, rfl, address?_object.mp h⟩
  | _ => cases h

/-- A pool object whose address is not blank. -/
def Sound (v : Json) : Prop := ∃ raw, address? v = some raw ∧ normalizeKey raw ≠ ""

/-- A record of a pool object: all of its fields, but with the address in normal spelling. -/
def Represents (r : PoolRecord) (v : Json) : Prop :=
  ∃ fields raw, v = .object fields ∧ Entries.find? addressField fields = some (.string raw)
    ∧ r.key = normalizeKey raw
    ∧ r.attributes = .object (Entries.insert addressField (.string (normalizeKey raw)) fields)

theorem Represents.sound (h : r.Represents v) : Sound v := by
  obtain ⟨fields, raw, rfl, haddress, hkey, -⟩ := h
  refine ⟨raw, address?_object.mpr haddress, ?_⟩
  rw [← hkey]
  exact r.key_nonempty

theorem Represents.address? (h : r.Represents v) :
    ∃ raw, address? v = some raw ∧ r.key = normalizeKey raw := by
  obtain ⟨fields, raw, rfl, haddress, hkey, -⟩ := h
  exact ⟨raw, address?_object.mpr haddress, hkey⟩

theorem ofAddress_eq_ok_iff : ofAddress raw fields = .ok r ↔ r.key = normalizeKey raw
    ∧ r.attributes = .object (Entries.insert addressField (.string (normalizeKey raw)) fields) := by
  unfold ofAddress
  constructor
  · intro h
    split at h
    · cases h
    · cases h
      exact ⟨rfl, rfl⟩
  · rintro ⟨hkey, hfields⟩
    have hne : normalizeKey raw ≠ "" := hkey ▸ r.key_nonempty
    rw [dif_neg hne]
    exact congrArg _ (eq_of_fields hkey.symm (Json.object.inj hfields).symm)

/-- **A record is read off an object exactly if it represents the object.** -/
theorem ofJson_eq_ok_iff : ofJson v = .ok r ↔ r.Represents v := by
  constructor
  · intro h
    cases v with
    | object fields =>
      simp only [ofJson] at h
      split at h
      · next raw haddress => exact ⟨fields, raw, rfl, haddress, ofAddress_eq_ok_iff.mp h⟩
      · cases h
      · cases h
    | _ => cases h
  · rintro ⟨fields, raw, rfl, haddress, hr⟩
    simp only [ofJson, haddress]
    exact ofAddress_eq_ok_iff.mpr hr

/-- **The values that are records are the pool objects whose address is not blank.** -/
theorem exists_ofJson_iff : (∃ r, ofJson v = .ok r) ↔ Sound v := by
  constructor
  · rintro ⟨r, h⟩
    exact (ofJson_eq_ok_iff.mp h).sound
  · rintro ⟨raw, haddress, hne⟩
    obtain ⟨fields, rfl, hfind⟩ := exists_fields_of_address? haddress
    simp only [ofJson, hfind, ofAddress]
    rw [dif_neg hne]
    exact ⟨_, rfl⟩

theorem not_sound_of_error {e : Error} (h : ofJson v = .error e) : ¬ Sound v := by
  rw [← exists_ofJson_iff]
  rintro ⟨r, hr⟩
  rw [h] at hr
  cases hr

/-! ## Stored rows -/

/-- The address that a stored object is read with: its own, or the key of its row. -/
def StoredAddress (key : String) (fields : List (String × Json)) (raw : String) : Prop :=
  Entries.find? addressField fields = some (.string raw)
    ∨ Entries.find? addressField fields = none ∧ raw = key

theorem withAddress_eq (h : StoredAddress key fields raw) :
    withAddress key fields = Entries.insert addressField (.string raw) fields := by
  unfold withAddress
  rcases h with h | ⟨h, rfl⟩
  · rw [h, if_pos Option.isSome_some, Entries.insert_eq_self h]
  · rw [h, if_neg (by simp)]

theorem find?_address_insert (raw : String) (fields : List (String × Json)) :
    Entries.find? addressField (Entries.insert addressField (.string raw) fields)
      = some (.string raw) := by
  rw [Entries.find?_insert, if_pos (by simp)]

/-- The address that a stored object is completed with is the one that it is read with. -/
theorem storedAddress_of_find?
    (h : Entries.find? addressField (withAddress key fields) = some (.string raw)) :
    StoredAddress key fields raw := by
  unfold withAddress at h
  split at h
  · exact Or.inl h
  · next hnone =>
    rw [find?_address_insert] at h
    cases h
    exact Or.inr ⟨Option.not_isSome_iff_eq_none.mp hnone, rfl⟩

/--
**A row is a record exactly if it is an object whose address names the pool of its key.** The record
is that of the object with this address, and all other fields are kept.
-/
theorem ofStored_eq_ok_iff : ofStored key v = .ok r ↔ ∃ fields raw, v = .object fields
    ∧ StoredAddress key fields raw ∧ normalizeKey raw = normalizeKey key
    ∧ ofJson (.object (Entries.insert addressField (.string raw) fields)) = .ok r := by
  constructor
  · intro h
    cases v with
    | object fields =>
      simp only [ofStored] at h
      split at h
      · cases h
      · next s hs =>
        split at h
        · next hkey =>
          cases h
          obtain ⟨_, raw, heq, haddress, hraw, -⟩ := ofJson_eq_ok_iff.mp hs
          cases heq
          have hstored := storedAddress_of_find? haddress
          rw [withAddress_eq hstored] at hs
          exact ⟨fields, raw, rfl, hstored, hraw.symm.trans hkey, hs⟩
        · cases h
    | _ => cases h
  · rintro ⟨fields, raw, rfl, hstored, hkey, hr⟩
    obtain ⟨raw', haddress, hraw'⟩ := (ofJson_eq_ok_iff.mp hr).address?
    rw [address?_object, find?_address_insert] at haddress
    cases haddress
    simp only [ofStored, withAddress_eq hstored, hr]
    rw [if_pos (hraw'.trans hkey)]

/-- The key of the record of a row is that of the row in normal spelling. -/
theorem key_of_ofStored (h : ofStored key v = .ok r) : r.key = normalizeKey key := by
  obtain ⟨fields, raw, rfl, -, hkey, hr⟩ := ofStored_eq_ok_iff.mp h
  obtain ⟨raw', haddress, hraw'⟩ := (ofJson_eq_ok_iff.mp hr).address?
  rw [address?_object, find?_address_insert] at haddress
  cases haddress
  exact hraw'.trans hkey

/-- All fields of a stored object but its address are kept. -/
theorem attributes_of_ofStored (h : ofStored key (.object fields) = .ok r) :
    r.attributes = .object (Entries.insert addressField (.string r.key) fields) := by
  obtain ⟨_, raw, heq, -, hkey, hr⟩ := ofStored_eq_ok_iff.mp h
  cases heq
  have hfields := ofJson_object hr
  rw [Entries.insert_insert] at hfields
  exact congrArg Json.object hfields

end PoolRecord

end PoolFeed
