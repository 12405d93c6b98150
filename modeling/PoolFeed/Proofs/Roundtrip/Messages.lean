import PoolFeed.Message.Change
import PoolFeed.Message.Inbound
import PoolFeed.Proofs.Roundtrip.Times
import PoolFeed.Proofs.Roundtrip.Values

/-!
# Messages read back

A payload of either channel is decoded into the message that it was made of: the minimal channel
gives its keys, the full channel the pool objects where the message has any.

## Main statements

* `PoolRecord.ofJson_attributes` — a pool object gives its record back
* `InboundMessage.decode_encode` — a readable message is decoded from its payload
-/

namespace PoolFeed

/-! ## Pools -/

namespace PoolRecord

/-- Whether the pool object of a record reads back from inside a message. -/
def Legible (r : PoolRecord) : Prop := Json.Legible (Json.nestingLimit - 2) r.attributes

/-- The record of a pool of which only the address is known. -/
def bare (key : String) (hnormal : normalizeKey key = key) (hne : key ≠ "") : PoolRecord :=
  ⟨key, [(addressField, .string key)], hnormal, hne, by simp [Entries.find?]⟩

theorem legible_bare {key : String} (hnormal : normalizeKey key = key) (hne : key ≠ "") :
    (bare key hnormal hne).Legible := by
  refine .object (List.pairwise_singleton _ _) ?_
  intro e he
  rw [List.mem_singleton.mp he]
  exact .string key

/-- **A pool object gives its record back.** -/
theorem ofJson_attributes (r : PoolRecord) : ofJson r.attributes = .ok r := by
  obtain ⟨key, fields, hnormal, hne, haddress⟩ := r
  have hkey : ¬ normalizeKey key = "" := by
    rw [hnormal]
    exact hne
  simp only [attributes, ofJson, haddress, ofAddress]
  rw [dif_neg hkey]
  congr
  rw [hnormal]
  exact Entries.insert_eq_self haddress

end PoolRecord

namespace InboundMessage

theorem recordsFrom_attributes (rs : List PoolRecord) (index : Nat) :
    recordsFrom index (rs.map (·.attributes)) = .ok rs := by
  induction rs generalizing index with
  | nil => rfl
  | cons r rs ih =>
    rw [List.map_cons, recordsFrom, PoolRecord.ofJson_attributes]
    simp only
    rw [ih]

/-- A list of pool objects gives their records, unless there is none. -/
theorem poolsOf_attributes {rs : List PoolRecord} (h : rs ≠ []) :
    poolsOf (rs.map (·.attributes)) = .ok (.records rs) := by
  obtain ⟨r, rs, rfl⟩ := List.exists_cons_of_ne_nil h
  have hall : ((r :: rs).map (·.attributes)).all Json.isString = false := rfl
  rw [poolsOf, hall, recordsFrom_attributes]
  rfl

/-- A list of texts gives keys in normal spelling. -/
theorem poolsOf_map_string (ks : List String) :
    poolsOf (ks.map .string) = .ok (.keys (ks.map normalizeKey)) := by
  have hall : (ks.map Json.string).all Json.isString = true := by
    rw [List.all_map]
    exact List.all_eq_true.mpr fun _ _ => rfl
  have hmap : (ks.map Json.string).filterMap Json.string? = ks := by
    rw [List.filterMap_map]
    exact List.filterMap_some
  rw [poolsOf, hall, if_pos rfl, hmap]

/-- A list of keys in normal spelling gives the keys. -/
theorem poolsOf_strings {ks : List String} (h : ∀ k ∈ ks, normalizeKey k = k) :
    poolsOf (ks.map .string) = .ok (.keys ks) := by
  rw [poolsOf_map_string, List.map_congr_left h, List.map_id']

end InboundMessage

namespace Json

/-! ## Readers of single fields -/

theorem Takes.map {α β : Type} {reader : Reader α} {v : Json} {a : α} (h : Takes reader v a)
    (f : α → β) : Takes (reader.map f) v (f a) :=
  fun rest hrest => Reader.run_map (h rest hrest)

theorem takes_stringFor (wanted s : String) : Takes (stringFor wanted) (.string s) s := by
  intro rest _
  rw [chars, encode_quoted]
  exact stringRest_quoted s rest

theorem takes_stringAs {α : Type} {wanted s : String} {parse : String → Except Error α} {a : α}
    (h : parse s = .ok a) : Takes (stringAs wanted parse) (.string s) a := by
  intro rest hrest
  simp only [stringAs, takes_stringFor wanted s rest hrest, h]

theorem takes_int64 {i : Int} (hlow : -2 ^ 63 ≤ i) (hhigh : i < 2 ^ 63) :
    Takes int64 (.number (.integer i)) i := by
  intro rest hrest
  have hlegible : Legible 0 (.number (.integer i)) :=
    .number (Number.readsBack_integer hlow (by omega))
  have hread := hlegible.run rest hrest
  have hbits : i < 9223372036854775808 := hhigh
  simp only [int64, hread]
  rw [if_pos hbits]

theorem takes_arrayOf {n : Nat} {items : List Json} (h : ∀ v ∈ items, Legible n v) :
    Takes (arrayOf (valueWithin n)) (.array items) items := by
  intro rest _
  rw [chars, encode_cons, List.append_assoc]
  exact itemsRest_itemChars (fun v hv => (h v hv).run) rest

theorem takes_orNull_array {α : Type} {reader : Reader α} {items : List Json} {a : α}
    (h : Takes reader (.array items) a) : Takes (orNull reader) (.array items) (some a) := by
  intro rest hrest
  have hread := h rest hrest
  rw [chars, encode_cons, List.append_assoc] at hread ⊢
  exact Reader.run_map hread

end Json

/-! ## Messages -/

namespace ChangeMessage

/-- The pool objects that a message has. -/
def records (m : ChangeMessage) : List PoolRecord :=
  match m.change with
  | .full rs => rs
  | .add rs => rs
  | .remove _ => []

/-- The pools of a message as they arrive on a channel. -/
def poolsOn (m : ChangeMessage) : Channel → InboundPools
  | .minimal => .keys m.keys
  | .full => if m.records.isEmpty then .keys m.keys else .records m.records

/-- A message as it arrives on a channel. -/
def inbound (m : ChangeMessage) (channel : Channel) : InboundMessage where
  kind := m.kind
  chain := m.header.chain
  snapshotId := m.header.snapshotId
  timestamp := m.header.timestamp
  pools := m.poolsOn channel

/--
What a message needs to be decoded on a channel: an id of 64 bits, a time of the calendar, keys in
normal spelling and, on the full channel, pool objects that read back from inside a message.
-/
structure Readable (m : ChangeMessage) (channel : Channel) : Prop where
  id_low : -2 ^ 63 ≤ m.header.snapshotId
  id_high : m.header.snapshotId < 2 ^ 63
  timestamp : m.header.timestamp.Valid
  keys : ∀ k ∈ m.keys, normalizeKey k = k
  records : channel = .full → ∀ r ∈ m.records, r.Legible

/-- Both channels show the keys of a message. -/
theorem keyList_poolsOn (m : ChangeMessage) (channel : Channel) :
    (m.poolsOn channel).keyList = m.keys := by
  cases channel with
  | minimal => rfl
  | full =>
    obtain ⟨_, change⟩ := m
    cases change with
    | remove ks => rfl
    | full rs => cases rs <;> rfl
    | add rs => cases rs <;> rfl

end ChangeMessage

/-- Pools as the values of a list. -/
def InboundPools.values : InboundPools → List Json
  | .keys ks => ks.map .string
  | .records rs => rs.map (·.attributes)

namespace ChangeMessage

/-- The list of pools of a message stands in one of two fields. -/
theorem poolsField_cases (m : ChangeMessage) (channel : Channel) :
    m.poolsField channel = ("pools", .array (m.poolsOn channel).values)
      ∨ m.poolsField channel = ("pool_addresses", .array (m.poolsOn channel).values) := by
  obtain ⟨_, change⟩ := m
  cases channel with
  | minimal => cases change <;> exact Or.inl rfl
  | full =>
    cases change with
    | remove ks => exact Or.inr rfl
    | full rs => cases rs <;> exact Or.inl rfl
    | add rs => cases rs <;> exact Or.inl rfl

variable {m : ChangeMessage} {channel : Channel}

/-- The values in the list of pools read back if, on the full channel, the pool objects do. -/
theorem legible_values (h : channel = .full → ∀ r ∈ m.records, r.Legible) :
    ∀ v ∈ (m.poolsOn channel).values, Json.Legible (Json.nestingLimit - 2) v := by
  have hkeys : ∀ ks : List String, ∀ v ∈ ks.map Json.string,
      Json.Legible (Json.nestingLimit - 2) v := by
    intro ks v hv
    obtain ⟨k, -, rfl⟩ := List.mem_map.mp hv
    exact .string k
  cases channel with
  | minimal => exact hkeys m.keys
  | full =>
    by_cases hrecords : m.records.isEmpty
    · rw [poolsOn, if_pos hrecords]
      exact hkeys m.keys
    · rw [poolsOn, if_neg hrecords]
      intro v hv
      obtain ⟨r, hr, rfl⟩ := List.mem_map.mp hv
      exact h rfl r hr

/-- The values in the list of pools stand for the pools. -/
theorem poolsOf_values (h : ∀ k ∈ m.keys, normalizeKey k = k) (channel : Channel) :
    InboundMessage.poolsOf (m.poolsOn channel).values = .ok (m.poolsOn channel) := by
  cases channel with
  | minimal => exact InboundMessage.poolsOf_strings h
  | full =>
    by_cases hrecords : m.records.isEmpty
    · rw [poolsOn, if_pos hrecords]
      exact InboundMessage.poolsOf_strings h
    · rw [poolsOn, if_neg hrecords]
      exact InboundMessage.poolsOf_attributes fun hnil => hrecords (by rw [hnil]; rfl)

end ChangeMessage

namespace InboundMessage

open Json (Takes TakesFields)
open Text (Bytes byte)

theorem takes_kindReader (k : Kind) : Takes kindReader (.string k.name) k := by
  intro rest _
  have hname : kindOfName k.name = .ok k := by
    rw [kindOfName, Kind.ofName?_name]
  have hquote : ∀ s, Json.skipBlanks (byte '"' :: s) = byte '"' :: s := fun _ => rfl
  rw [Json.chars, Json.encode_quoted]
  simp only [kindReader, hquote]
  rw [if_pos trivial, Json.stringRest_quoted]
  simp only [hname]
  rfl

theorem takes_timestampReader {t : Timestamp} (h : t.ReadsBack) :
    Takes timestampReader (.string t.text) t :=
  Json.takes_stringAs (by rw [h.read_text])

theorem takes_poolsReader {items : List Json}
    (h : ∀ v ∈ items, Json.Legible (Json.nestingLimit - 2) v) :
    Takes poolsReader (.array items) (some items) :=
  Json.takes_orNull_array (Json.takes_arrayOf h)

variable {m : ChangeMessage} {channel : Channel}

/-- The fields of a message are read into a complete message, if their values are read. -/
theorem takesFields_wireFields (hlow : -2 ^ 63 ≤ m.header.snapshotId)
    (hhigh : m.header.snapshotId < 2 ^ 63) (htimestamp : m.header.timestamp.ReadsBack)
    (hvalues : ∀ v ∈ (m.poolsOn channel).values, Json.Legible (Json.nestingLimit - 2) v) :
    ∃ f wire, TakesFields fieldValue Fields.none (m.wireFields channel) f
      ∧ f.complete = .ok wire
      ∧ wire.pools.or wire.poolAddresses = some (m.poolsOn channel).values
      ∧ wire.kind = m.kind ∧ wire.chain = m.header.chain
      ∧ wire.snapshotId = m.header.snapshotId ∧ wire.timestamp = m.header.timestamp := by
  have hkind := takes_kindReader m.kind
  have hpools := takes_poolsReader hvalues
  have hchain := Json.takes_stringFor "a string" m.header.chain
  have htime := takes_timestampReader htimestamp
  have hid := Json.takes_int64 hlow hhigh
  unfold ChangeMessage.wireFields
  rcases m.poolsField_cases channel with hfield | hfield
  · rw [hfield]
    exact ⟨_, _, .cons rfl (hkind.map _) <| .cons rfl (hpools.map _) <| .cons rfl (hchain.map _) <|
      .cons rfl (htime.map _) <| .cons rfl (hid.map _) <| .nil _, rfl, rfl, rfl, rfl, rfl, rfl⟩
  · rw [hfield]
    exact ⟨_, _, .cons rfl (hkind.map _) <| .cons rfl (hpools.map _) <| .cons rfl (hchain.map _) <|
      .cons rfl (htime.map _) <| .cons rfl (hid.map _) <| .nil _, rfl, rfl, rfl, rfl, rfl, rfl⟩

/-- The text of a message is the text of its fields behind a brace. -/
theorem encode_eq (m : ChangeMessage) (channel : Channel) : m.encode channel
    = byte '\x7b' :: (Text.encode (Json.fieldChars (m.wireFields channel)) ++ []) := by
  rw [ChangeMessage.encode, Json.chars, Json.encode_cons, List.append_nil]
  rfl

/-- An object that is the whole text is read as a message. -/
theorem readWire_object {s : Bytes} {wire : Wire} (h : readObject s = .ok (wire, [])) :
    readWire (byte '\x7b' :: s) = .ok wire := by
  have hbrace : Json.skipBlanks (byte '\x7b' :: s) = byte '\x7b' :: s := rfl
  rw [readWire, hbrace]
  simp only
  rw [if_pos trivial, h]
  rfl

/-- The fields of a message are read from its payload, if their values are read. -/
theorem readWire_encode (hlow : -2 ^ 63 ≤ m.header.snapshotId)
    (hhigh : m.header.snapshotId < 2 ^ 63) (htimestamp : m.header.timestamp.ReadsBack)
    (hvalues : ∀ v ∈ (m.poolsOn channel).values, Json.Legible (Json.nestingLimit - 2) v) :
    ∃ wire, readWire (m.encode channel) = .ok wire
      ∧ wire.pools.or wire.poolAddresses = some (m.poolsOn channel).values
      ∧ wire.kind = m.kind ∧ wire.chain = m.header.chain
      ∧ wire.snapshotId = m.header.snapshotId ∧ wire.timestamp = m.header.timestamp := by
  obtain ⟨f, wire, hfields, hcomplete, hwire⟩ :=
    takesFields_wireFields hlow hhigh htimestamp hvalues
  have hobject : readObject (Text.encode (Json.fieldChars (m.wireFields channel)) ++ [])
      = .ok (wire, []) := by
    rw [readObject, Json.Bracket.fold_fieldChars hfields]
    simp only
    rw [hcomplete]
    rfl
  refine ⟨wire, ?_, hwire⟩
  rw [encode_eq]
  exact readWire_object hobject

/-- A message is decoded from its payload, if its values are read and its keys are normal. -/
theorem decode_encode_of_values (hlow : -2 ^ 63 ≤ m.header.snapshotId)
    (hhigh : m.header.snapshotId < 2 ^ 63) (htimestamp : m.header.timestamp.ReadsBack)
    (hkeys : ∀ k ∈ m.keys, normalizeKey k = k)
    (hvalues : ∀ v ∈ (m.poolsOn channel).values, Json.Legible (Json.nestingLimit - 2) v) :
    decode (m.encode channel) = .ok (m.inbound channel) := by
  obtain ⟨wire, hwire, hpools, hkind, hchain, hid, htime⟩ :=
    readWire_encode hlow hhigh htimestamp hvalues
  simp only [decode, hwire, hpools]
  rw [ChangeMessage.poolsOf_values hkeys channel]
  simp only [Except.map, hkind, hchain, hid, htime]
  rfl

/-- **A readable message is decoded from its payload.** -/
theorem decode_encode (h : m.Readable channel) :
    decode (m.encode channel) = .ok (m.inbound channel) :=
  decode_encode_of_values h.id_low h.id_high h.timestamp.readsBack h.keys
    (ChangeMessage.legible_values h.records)

end InboundMessage

end PoolFeed
