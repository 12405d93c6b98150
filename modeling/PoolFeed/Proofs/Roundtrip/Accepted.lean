import PoolFeed.Proofs.Roundtrip.Depth
import PoolFeed.Proofs.Roundtrip.Messages
import PoolFeed.Proofs.Whitelist.Keys
import PoolFeed.Whitelist.Ingest

/-!
# Accepted whitelists and what subscribers make of them

A whitelist is accepted as an array, which is one bracket around a pool object. On the full channel
a pool object stands inside two: the list of pools and the message. A pool that fills the limit when
it is accepted is therefore one bracket too deep when it is received, and the message is refused;
every other message of an accepted whitelist is decoded, on both channels.

## Main statements

* `Whitelist.legible_of_ofText` — the pool objects of an accepted whitelist are legible
* `InboundMessage.decode_announced` — a message of an accepted whitelist is decoded exactly where
  its pool objects leave room for the message
-/

namespace PoolFeed

open Text (Bytes byte)

/-! ## Accepted whitelists -/

namespace PoolRecord

/-- The record of an object that was read is legible, if its numbers read back. -/
theorem legible_attributes_of_ofJson {n : Nat} {s rest : Bytes} {v : Json} {r : PoolRecord}
    (hread : (Json.valueWithin (n + 1)).run s = .ok (v, rest)) (h : ofJson v = .ok r)
    (hnumbers : ∀ x ∈ r.attributes.numbers, x.ReadsBack) :
    Json.Legible (n + 1) r.attributes := by
  obtain ⟨fields, rfl⟩ : ∃ fields, v = .object fields := by
    cases v with
    | object fields => exact ⟨fields, rfl⟩
    | _ => cases h
  rw [Json.run_valueWithin_succ] at hread
  obtain ⟨hsorted, hvalues⟩ : Entries.Sorted fields
      ∧ ∀ e ∈ fields, ∃ t rest', (Json.valueWithin n).run t = .ok (e.2, rest') := by
    obtain hflat | ⟨_, hinner, ⟨_, _, _, harray⟩ | ⟨_, _, hfields, hobject⟩⟩ :=
      Json.cases_of_valueAround hread
    · rw [Json.depth] at hflat
      omega
    · cases harray
    · cases hobject
      cases hinner
      exact Json.exists_run_of_mem_fields hfields
  rw [attributes] at hnumbers ⊢
  rw [ofJson_object h] at hnumbers ⊢
  refine .object hsorted.insert ?_
  intro e he
  rcases Entries.mem_insert he with rfl | hmem
  · exact .string r.key
  · obtain ⟨t, rest', hrun⟩ := hvalues e hmem
    exact Json.legible_of_run hrun fun x hx => hnumbers x (Json.mem_fieldNumbers he hx)

end PoolRecord

namespace Whitelist

theorem mem_records_insert {w : Whitelist} {r s : PoolRecord} (h : s ∈ (w.insert r).records) :
    s = r ∨ s ∈ w.records := by
  obtain ⟨e, he, rfl⟩ := List.mem_map.mp h
  rcases Entries.mem_insert he with rfl | he
  · exact Or.inl rfl
  · exact Or.inr (List.mem_map_of_mem he)

/-- Every record of a batch that was taken in is the record of one of its entries. -/
theorem mem_records_of_addEntries {vs : List Json} {index : Nat} {w w' : Whitelist}
    (h : addEntries index w vs = .ok w') {r : PoolRecord} (hr : r ∈ w'.records) :
    r ∈ w.records ∨ ∃ v ∈ vs, PoolRecord.ofJson v = .ok r := by
  induction vs generalizing index w with
  | nil =>
    cases h
    exact Or.inl hr
  | cons v vs ih =>
    rw [addEntries] at h
    split at h
    · cases h
    · next s hs =>
      split at h
      · cases h
      · rcases ih h with hmem | ⟨u, hu, hur⟩
        · rcases mem_records_insert hmem with rfl | hmem
          · exact Or.inr ⟨v, List.mem_cons_self, hs⟩
          · exact Or.inl hmem
        · exact Or.inr ⟨u, List.mem_cons_of_mem _ hu, hur⟩

/-- The values of an array that is the whole text were read. -/
theorem exists_run_of_readArray {text : Bytes} {values : List Json}
    (h : Json.readArray text = .ok values) : ∀ v ∈ values,
      ∃ t rest, (Json.valueWithin (Json.nestingLimit - 1)).run t = .ok (v, rest) := by
  rw [Json.readArray, Json.readAll] at h
  split at h
  · cases h
  · next items rest hrun =>
    split at h
    · cases h
      simp only [Json.arrayOf] at hrun
      split at hrun
      · split at hrun
        · exact Json.exists_run_of_mem_items hrun
        · cases hrun
      · cases hrun
    · cases h

/-- **The pool objects of an accepted whitelist are legible**, if their numbers read back. -/
theorem legible_of_ofText {text : Bytes} {w : Whitelist} (h : ofText text = .ok w)
    {r : PoolRecord} (hr : r ∈ w.records) (hnumbers : ∀ x ∈ r.attributes.numbers, x.ReadsBack) :
    Json.Legible (Json.nestingLimit - 1) r.attributes := by
  rw [ofText] at h
  split at h
  · cases h
  · next values hvalues =>
    rcases mem_records_of_addEntries h hr with hnone | ⟨v, hv, hofJson⟩
    · cases hnone
    · obtain ⟨t, rest, hrun⟩ := exists_run_of_readArray hvalues v hv
      exact PoolRecord.legible_attributes_of_ofJson hrun hofJson hnumbers

/-- A legible pool object is accepted as the only entry of a batch. -/
theorem ofText_singleton {r : PoolRecord}
    (h : Json.Legible (Json.nestingLimit - 1) r.attributes) :
    ofText (Text.encode (Json.array [r.attributes]).chars) = .ok (empty.insert r) := by
  have hitems : ∀ v ∈ [r.attributes], Json.Legible (Json.nestingLimit - 1) v := by
    intro v hv
    rw [List.mem_singleton.mp hv]
    exact h
  have hread := Json.takes_arrayOf hitems [] (fun _ h => nomatch h)
  rw [List.append_nil] at hread
  have harray : Json.readArray (Text.encode (Json.array [r.attributes]).chars)
      = .ok [r.attributes] := by
    rw [Json.readArray, Json.readAll, hread]
    rfl
  have hnew : empty.contains r.key = false := by
    rw [contains_eq_false_iff]
    exact fun hk => nomatch hk
  rw [ofText, harray]
  simp only [ofValues, addEntries, PoolRecord.ofJson_attributes, hnew]
  rfl

end Whitelist

/-! ## Messages of a whitelist -/

/-- The changes that announce a whitelist or a part of it. -/
inductive Change.Announces (w : Whitelist) : Change → Prop
  | full : Announces w (.full w.records)
  | add {records : List PoolRecord} (h : ∀ r ∈ records, r ∈ w.records) :
    Announces w (.add records)
  | remove {keys : List String} (h : ∀ k ∈ keys, k ∈ w.keys) : Announces w (.remove keys)

namespace ChangeMessage

variable {m : ChangeMessage} {w : Whitelist}

theorem mem_records_of_announces (h : m.change.Announces w) :
    ∀ r ∈ m.records, r ∈ w.records := by
  obtain ⟨_, change⟩ := m
  cases h with
  | full => exact fun r hr => hr
  | add h => exact h
  | remove _ => exact fun r hr => nomatch hr

theorem normalizeKey_of_announces (h : m.change.Announces w) :
    ∀ k ∈ m.keys, normalizeKey k = k := by
  have hrecords : ∀ rs : List PoolRecord, ∀ k ∈ rs.map (·.key), normalizeKey k = k := by
    intro rs k hk
    obtain ⟨r, -, rfl⟩ := List.mem_map.mp hk
    exact r.key_normal
  obtain ⟨_, change⟩ := m
  cases h with
  | full => exact hrecords w.records
  | add _ => exact hrecords _
  | remove h => exact fun k hk => Whitelist.normalizeKey_of_mem_keys (h k hk)

/-- Whether the pool objects that a message has on a channel leave room for the message. -/
def Fits (m : ChangeMessage) (channel : Channel) : Prop :=
  channel = .full → ∀ r ∈ m.records, r.attributes.depth ≤ Json.nestingLimit - 2

theorem not_fits_iff {channel : Channel} : ¬ m.Fits channel
    ↔ channel = .full ∧ ∃ r ∈ m.records, Json.nestingLimit - 2 < r.attributes.depth := by
  simp only [Fits, Classical.not_imp, not_forall, Nat.not_le]

end ChangeMessage

namespace Json

theorem refuses_arrayOf {n k : Nat} {items : List Json} (hlegible : ∀ v ∈ items, Legible k v)
    (hdeep : ∃ v ∈ items, n < v.depth) :
    Refuses (arrayOf (valueWithin n)) (.array items) .tooDeep := by
  intro rest _
  rw [chars, encode_cons, List.append_assoc]
  exact itemsRest_tooDeep hlegible (fun v hv => (hlegible v hv).run_tooDeep) hdeep rest

theorem refuses_orNull_array {α : Type} {reader : Reader α} {items : List Json} {e : Error}
    (h : Refuses reader (.array items) e) : Refuses (orNull reader) (.array items) e := by
  intro rest hrest
  have hread := h rest hrest
  rw [chars, encode_cons, List.append_assoc] at hread ⊢
  exact Reader.run_map_error hread

end Json

namespace InboundMessage

variable {m : ChangeMessage}

/-- A pool object that is nested too deep refuses the message. -/
theorem decode_encode_tooDeep {k : Nat} (hlegible : ∀ r ∈ m.records, Json.Legible k r.attributes)
    (hdeep : ∃ r ∈ m.records, Json.nestingLimit - 2 < r.attributes.depth) :
    decode (m.encode .full) = .error (.json .tooDeep) := by
  have hpools : Json.Refuses poolsReader (.array (m.records.map (·.attributes))) .tooDeep := by
    refine Json.refuses_orNull_array (Json.refuses_arrayOf (k := k) ?_ ?_)
    · intro v hv
      obtain ⟨r, hr, rfl⟩ := List.mem_map.mp hv
      exact hlegible r hr
    · obtain ⟨r, hr, hrdeep⟩ := hdeep
      exact ⟨r.attributes, List.mem_map_of_mem hr, hrdeep⟩
  have hfield : m.poolsField .full = ("pools", .array (m.records.map (·.attributes))) := by
    obtain ⟨_, change⟩ := m
    cases change with
    | full rs => rfl
    | add rs => rfl
    | remove ks =>
      obtain ⟨r, hr, -⟩ := hdeep
      cases hr
  have hfields : Json.RefusesFields fieldValue .tooDeep Fields.none (m.wireFields .full) := by
    unfold ChangeMessage.wireFields
    rw [hfield]
    exact .later rfl ((takes_kindReader m.kind).map _) (.here rfl (hpools.map _))
  have hobject : readObject (Text.encode (Json.fieldChars (m.wireFields .full)) ++ [])
      = .error .tooDeep := by
    have hnext : Json.Bracket.object.next true
        (Text.encode (Json.fieldChars (m.wireFields .full)) ++ [])
          = .ok (.member (Text.encode (Json.fieldChars (m.wireFields .full)) ++ [])) :=
      Json.next_fieldChars _ _ []
    rw [readObject, hfields.fold hnext]
  have hbrace : ∀ s, Json.skipBlanks (byte '\x7b' :: s) = byte '\x7b' :: s := fun _ => rfl
  have hwire : readWire (m.encode .full) = .error .tooDeep := by
    rw [encode_eq, readWire, hbrace]
    simp only
    rw [if_pos trivial, hobject]
  rw [decode, hwire]

/--
**What subscribers make of a message of an accepted whitelist.** Whatever its header says, the
message arrives on a channel as it was sent, keys in order and pools unchanged, exactly if its pool
objects leave room for the message on that channel. Otherwise it is refused.
-/
theorem decode_announced {text : Bytes} {w : Whitelist} (hw : Whitelist.ofText text = .ok w)
    (hnumbers : ∀ r ∈ w.records, ∀ x ∈ r.attributes.numbers, x.ReadsBack)
    (hm : m.change.Announces w) (hlow : -2 ^ 63 ≤ m.header.snapshotId)
    (hhigh : m.header.snapshotId < 2 ^ 63) (htimestamp : m.header.timestamp.ReadsBack)
    (channel : Channel) :
    (decode (m.encode channel) = .ok (m.inbound channel) ↔ m.Fits channel)
      ∧ (decode (m.encode channel) = .error (.json .tooDeep) ↔ ¬ m.Fits channel)
      ∧ (m.inbound channel).pools.keyList = m.keys := by
  have hlegible : ∀ r ∈ m.records, Json.Legible (Json.nestingLimit - 1) r.attributes := by
    intro r hr
    have hmem := ChangeMessage.mem_records_of_announces hm r hr
    exact Whitelist.legible_of_ofText hw hmem (hnumbers r hmem)
  have hok (hfits : m.Fits channel) : decode (m.encode channel) = .ok (m.inbound channel) := by
    refine decode_encode_of_values hlow hhigh htimestamp
      (ChangeMessage.normalizeKey_of_announces hm) (ChangeMessage.legible_values ?_)
    exact fun hfull r hr => (hlegible r hr).of_depth_le (hfits hfull r hr)
  have herror (hfits : ¬ m.Fits channel) :
      decode (m.encode channel) = .error (.json .tooDeep) := by
    obtain ⟨rfl, hdeep⟩ := ChangeMessage.not_fits_iff.mp hfits
    exact decode_encode_tooDeep hlegible hdeep
  refine ⟨⟨?_, hok⟩, ⟨?_, herror⟩, m.keyList_poolsOn channel⟩
  · intro hdecode
    by_contra hfits
    rw [herror hfits] at hdecode
    cases hdecode
  · intro hdecode hfits
    rw [hok hfits] at hdecode
    cases hdecode

end InboundMessage

/-! ## A pool that fills the limit -/

namespace Nested

/-- Empty arrays inside each other, `n` of them around the innermost one. -/
def arrays : Nat → Json
  | 0 => .array []
  | n + 1 => .array [arrays n]

theorem legible_arrays (n : Nat) : Json.Legible (n + 1) (arrays n) := by
  induction n with
  | zero => exact .array fun _ h => nomatch h
  | succ n ih =>
    refine .array fun v hv => ?_
    rw [List.mem_singleton.mp hv]
    exact ih

theorem depth_arrays (n : Nat) : (arrays n).depth = n + 1 := by
  induction n with
  | zero => rfl
  | succ n ih =>
    rw [arrays, Json.depth, Json.depth.depths, ih, Json.depth.depths]
    omega

theorem numbers_arrays (n : Nat) : (arrays n).numbers = [] := by
  induction n with
  | zero => rfl
  | succ n ih =>
    rw [arrays, Json.numbers, Json.numbers.itemNumbers, ih]
    rfl

/-- A pool with a field of nested arrays. -/
def pool (n : Nat) : PoolRecord where
  key := "0x0a"
  fields := [(addressField, .string "0x0a"), ("x", arrays n)]
  key_normal := by decide
  key_nonempty := by decide
  address_eq := by simp [Entries.find?]

theorem legible_pool (n : Nat) : Json.Legible (n + 2) (pool n).attributes := by
  refine .object ?_ ?_
  · have hlt : compare addressField "x" = .lt := by decide
    exact List.pairwise_pair.mpr hlt
  · intro e he
    simp only [pool, List.mem_cons, List.not_mem_nil, or_false] at he
    rcases he with rfl | rfl
    · exact .string "0x0a"
    · exact legible_arrays n

theorem depth_pool (n : Nat) : (pool n).attributes.depth = n + 2 := by
  show 1 + max 0 (max (arrays n).depth 0) = n + 2
  rw [depth_arrays]
  omega

theorem numbers_pool (n : Nat) : (pool n).attributes.numbers = [] := by
  show [] ++ ((arrays n).numbers ++ []) = []
  rw [numbers_arrays]
  rfl

/-- The text in which a pool is handed in. -/
def text (n : Nat) : Bytes := Text.encode (Json.array [(pool n).attributes]).chars

def whitelist (n : Nat) : Whitelist := Whitelist.empty.insert (pool n)

/-- The message that announces the pool. -/
def message (n : Nat) : ChangeMessage := .ofWhitelist ⟨"ethereum", 1, ⟨0, 0⟩⟩ (whitelist n)

theorem records_message (n : Nat) : (message n).records = [pool n] := rfl

theorem ofText_text {n : Nat} (h : n ≤ 124) : Whitelist.ofText (text n) = .ok (whitelist n) := by
  refine Whitelist.ofText_singleton ((legible_pool n).of_depth_le ?_)
  rw [depth_pool]
  have hlimit : Json.nestingLimit = 127 := rfl
  omega

/-- A pool that leaves room for the message is received as it was accepted. -/
theorem decode_message : Whitelist.ofText (text 123) = .ok (whitelist 123)
    ∧ InboundMessage.decode ((message 123).encode .full) = .ok ((message 123).inbound .full) := by
  have hw : Whitelist.ofText (text 123) = .ok (whitelist 123) := ofText_text (by decide)
  have hnumbers : ∀ r ∈ (whitelist 123).records, ∀ x ∈ r.attributes.numbers, x.ReadsBack := by
    intro r hr x hx
    rw [List.mem_singleton.mp hr, numbers_pool] at hx
    cases hx
  have hfits : (message 123).Fits .full := by
    intro _ r hr
    rw [records_message] at hr
    rw [List.mem_singleton.mp hr, depth_pool]
    decide
  have hdecoded := InboundMessage.decode_announced hw hnumbers (m := message 123) .full
    (by decide) (by decide) Timestamp.valid_zero.readsBack .full
  exact ⟨hw, hdecoded.1.mpr hfits⟩

/-- **A pool that fills the limit is accepted, but refused on the full channel.** -/
theorem refused_on_full : Whitelist.ofText (text 124) = .ok (whitelist 124)
    ∧ InboundMessage.decode ((message 124).encode .minimal)
      = .ok ((message 124).inbound .minimal)
    ∧ InboundMessage.decode ((message 124).encode .full) = .error (.json .tooDeep) := by
  refine ⟨ofText_text (by decide), ?_, ?_⟩
  · refine InboundMessage.decode_encode ⟨by decide, by decide, Timestamp.valid_zero, ?_, ?_⟩
    · exact ChangeMessage.normalizeKey_of_announces (w := whitelist 124) .full
    · exact fun h => nomatch h
  · refine InboundMessage.decode_encode_tooDeep (k := 126) ?_ ?_
    · intro r hr
      rw [records_message] at hr
      rw [List.mem_singleton.mp hr]
      exact legible_pool 124
    · refine ⟨pool 124, List.mem_singleton.mpr rfl, ?_⟩
      rw [depth_pool]
      decide

end Nested

end PoolFeed
