import PoolFeed.Proofs.Roundtrip.Extent
import PoolFeed.Proofs.Roundtrip.Messages

/-!
# What becomes of published messages

A payload that was published is decoded into its message's kind and keys, if it is decoded at all:
whether its numbers and its time read back makes no difference to that. The minimal channel brings
keys alone, and the full channel brings pool objects wherever the message has some.

## Main statements

* `InboundMessage.exists_yieldsFields` — what is read of the fields of a payload
* `InboundMessage.exists_entries` — the kind and the list of pools of a payload that is read
* `ChangeMessage.arrivesAs_of_decode` — a message as it arrives on a channel, if it is decoded
-/

namespace PoolFeed

namespace Json

open Text (Bytes byte encode)

/-! ## Readers of single fields -/

theorem stops_stringAs {α : Type} (wanted : String) (parse : String → Except Error α)
    (s : String) : Stops (stringAs wanted parse) (.string s) := by
  intro rest a rest' hrest hrun
  simp only [stringAs, takes_stringFor wanted s rest hrest] at hrun
  split at hrun
  · cases hrun
  · cases hrun
    rfl

theorem stops_int64 (x : Number) : Stops int64 (.number x) := by
  intro rest a rest' hrest hrun
  simp only [int64] at hrun
  split at hrun
  · next hvalue =>
    split at hrun
    · cases hrun
      exact stops_number 0 x rest _ _ hrest hvalue
    · cases hrun
  · cases hrun

theorem run_orNull_array {α : Type} (reader : Reader α) (items : List Json) (rest : Bytes) :
    (orNull reader).run (encode (Json.array items).chars ++ rest)
      = (reader.map some).run (encode (Json.array items).chars ++ rest) := by
  rw [chars, encode_cons, List.append_assoc]
  rfl

theorem run_arrayOf (value : Reader Json) (items : List Json) (rest : Bytes) :
    (arrayOf value).run (encode (Json.array items).chars ++ rest)
      = itemsRest value (encode (itemChars items) ++ rest) := by
  rw [chars, encode_cons, List.append_assoc]
  rfl

/-- A list of values is read one by one, where it might be missing. -/
theorem orNull_arrayOf_extent {n : Nat} {items : List Json} {rest rest' : Bytes}
    {found : Option (List Json)} (hrun : (orNull (arrayOf (valueWithin n))).run
      (encode (Json.array items).chars ++ rest) = .ok (found, rest')) :
    rest' = rest ∧ ∃ items', found = some items'
      ∧ List.Forall₂ (Yields (valueWithin n)) items items' := by
  rw [run_orNull_array] at hrun
  obtain ⟨items', hitems, rfl⟩ := Reader.run_map_eq_ok hrun
  rw [run_arrayOf] at hitems
  obtain ⟨hrest, hyields⟩ := itemsRest_extent (fun v _ => stops_valueWithin n v) hitems
  exact ⟨hrest, items', rfl, hyields⟩

/-! ## Objects with a text under a key -/

/-- Fields of other keys do not change what is found under a key. -/
theorem find?_of_yieldsFields {value : Reader Json} {k : String}
    {done es final : List (String × Json)} (h : YieldsFields (insertField value) done es final)
    (hk : ∀ e ∈ es, k ≠ e.1) : Entries.find? k final = Entries.find? k done := by
  induction h with
  | nil => rfl
  | cons hreader hyields _ ih =>
    cases hreader
    obtain ⟨a, -, rfl⟩ := hyields.of_map
    obtain ⟨hne, hrest⟩ := List.forall_mem_cons.mp hk
    rw [ih hrest, Entries.find?_insert, if_neg (by simpa using hne)]

/-- **A text under a key of an object is read under that key.** -/
theorem find?_string_of_yieldsFields {n : Nat} {k s : String}
    {done es final : List (String × Json)}
    (h : YieldsFields (insertField (valueWithin n)) done es final) (hs : Entries.Sorted es)
    (hmem : (k, .string s) ∈ es) : Entries.find? k final = some (.string s) := by
  induction h with
  | nil => cases hmem
  | @cons done done' final j v es reader hreader hyields hrest ih =>
    cases hreader
    obtain ⟨a, ha, rfl⟩ := hyields.of_map
    obtain ⟨hfirst, hsorted⟩ := List.pairwise_cons.mp hs
    rcases List.mem_cons.mp hmem with heq | hmem
    · cases heq
      have hlater : ∀ e ∈ es, k ≠ e.1 := by
        rintro e he rfl
        have hlt := hfirst e he
        simp at hlt
      rw [find?_of_yieldsFields hrest hlater, Entries.find?_insert, if_pos (by simp),
        (Legible.string s).run.eq_of_yields ha]
    · exact ih hsorted hmem

end Json

namespace InboundMessage

open Json (Yields YieldsFields Stops valueWithin nestingLimit)
open Text (Bytes byte)

variable {m : ChangeMessage} {channel : Channel}

/-! ## Fields -/

theorem stops_of_once {α β : Type} {name : String} {old : Option α} {reader r : Json.Reader β}
    {v : Json} (h : once name old r = .ok reader) (hstops : Stops r v) : Stops reader v := by
  unfold once at h
  split at h
  · cases h
  · cases h
    exact hstops

theorem stops_poolsReader (items : List Json) : Stops poolsReader (.array items) :=
  fun _ _ _ _ hrun => (Json.orNull_arrayOf_extent hrun).1

/-- Every field of a message that is read takes all of its text. -/
theorem stops_wireFields : ∀ e ∈ m.wireFields channel, ∀ f reader,
    fieldValue f e.1 = .ok reader → Stops reader e.2 := by
  intro e he f reader hreader
  simp only [ChangeMessage.wireFields, List.mem_cons, List.not_mem_nil, or_false] at he
  obtain rfl | rfl | rfl | rfl | rfl := he
  · exact stops_of_once hreader ((takes_kindReader m.kind).stops.map _)
  · rcases m.poolsField_cases channel with hfield | hfield
    · rw [hfield] at hreader ⊢
      exact stops_of_once hreader ((stops_poolsReader _).map _)
    · rw [hfield] at hreader ⊢
      exact stops_of_once hreader ((stops_poolsReader _).map _)
  · exact stops_of_once hreader ((Json.takes_stringFor _ _).stops.map _)
  · exact stops_of_once hreader ((Json.stops_stringAs _ _ _).map _)
  · exact stops_of_once hreader ((Json.stops_int64 _).map _)

/-- **What is read of the fields of a payload.** -/
theorem exists_yieldsFields {wire : Wire} (h : readWire (m.encode channel) = .ok wire) :
    ∃ f, YieldsFields fieldValue Fields.none (m.wireFields channel) f ∧ f.complete = .ok wire := by
  rw [encode_eq] at h
  have hbrace (s : Bytes) : Json.skipBlanks (byte '\x7b' :: s) = byte '\x7b' :: s := rfl
  simp only [readWire, hbrace, if_true] at h
  split at h
  · cases h
  · next wire' rest hobject =>
    split at h
    · cases h
      unfold readObject at hobject
      split at hobject
      · cases hobject
      · next f rest' hfold =>
        obtain ⟨w, hcomplete, hpair⟩ := Json.Except.map_eq_ok hobject
        cases hpair
        exact ⟨f, (Json.fold_fieldChars_extent stops_wireFields hfold).2, hcomplete⟩
    · cases h

/-- The kind and the list of pools of a payload that is read. -/
theorem exists_entries {wire : Wire} (h : readWire (m.encode channel) = .ok wire) :
    wire.kind = m.kind ∧ wire.chain = m.header.chain
      ∧ ∃ entries, wire.pools.or wire.poolAddresses = some entries
        ∧ List.Forall₂ (Yields (valueWithin (nestingLimit - 2))) (m.poolsOn channel).values
          entries := by
  obtain ⟨f, hfields, hcomplete⟩ := exists_yieldsFields h
  have hkind := takes_kindReader m.kind
  have hchain := Json.takes_stringFor "a string" m.header.chain
  have hpools {entries : Option (List Json)}
      (hyields : Yields poolsReader (.array (m.poolsOn channel).values) entries) :
      ∃ items, entries = some items
        ∧ List.Forall₂ (Yields (valueWithin (nestingLimit - 2))) (m.poolsOn channel).values
          items := by
    obtain ⟨rest, -, hrun⟩ := hyields
    exact (Json.orNull_arrayOf_extent hrun).2
  unfold ChangeMessage.wireFields at hfields
  rcases m.poolsField_cases channel with hfield | hfield
  -- The list of pools is the second field, under either of its names.
  all_goals
    rw [hfield] at hfields
    obtain ⟨kind, hkind', hfields⟩ := hfields.head rfl
    obtain ⟨pools, hpools', hfields⟩ := hfields.head rfl
    obtain ⟨chain, hchain', hfields⟩ := hfields.head rfl
    obtain ⟨time, -, hfields⟩ := hfields.head rfl
    obtain ⟨id, -, hfields⟩ := hfields.head rfl
    cases hfields
    cases hcomplete
    obtain ⟨items, rfl, hitems⟩ := hpools hpools'
    exact ⟨hkind.eq_of_yields hkind', hchain.eq_of_yields hchain', items, rfl, hitems⟩

/-! ## Pools -/

/-- Keys are read back, each by itself. -/
theorem eq_of_yields_strings {n : Nat} {ks : List String} {entries : List Json}
    (h : List.Forall₂ (Yields (valueWithin n)) (ks.map .string) entries) :
    entries = ks.map .string := by
  rw [List.forall₂_map_left_iff] at h
  induction h with
  | nil => rfl
  | @cons k v _ _ hv _ ih => rw [ih, (Json.Legible.string k).run.eq_of_yields hv, List.map_cons]

/-- Whether a value is an object with a key for its address. -/
def HasAddress (key : String) (v : Json) : Prop :=
  ∃ fields, v = .object fields ∧ Entries.find? addressField fields = some (.string key)

/-- A pool object keeps its address, whatever becomes of its other fields. -/
theorem hasAddress_of_yields {n : Nat} {r : PoolRecord} {v : Json}
    (h : Yields (valueWithin n) r.attributes v) (hsorted : Entries.Sorted r.fields) :
    HasAddress r.key v := by
  obtain ⟨_, fields, rfl, hfields⟩ := Json.yields_object h
  exact ⟨fields, rfl, Json.find?_string_of_yieldsFields hfields hsorted
    ((Entries.find?_eq_some_iff hsorted).mp r.address_eq)⟩

theorem hasAddresses_of_yields {n : Nat} {rs : List PoolRecord} {entries : List Json}
    (h : List.Forall₂ (Yields (valueWithin n)) (rs.map (·.attributes)) entries)
    (hsorted : ∀ r ∈ rs, Entries.Sorted r.fields) :
    List.Forall₂ HasAddress (rs.map (·.key)) entries := by
  rw [List.forall₂_map_left_iff] at h ⊢
  induction h with
  | nil => exact .nil
  | cons hv _ ih =>
    obtain ⟨hfirst, hrest⟩ := List.forall_mem_cons.mp hsorted
    exact .cons (hasAddress_of_yields hv hfirst) (ih hrest)

/-- The record of an object with an address. -/
theorem key_of_hasAddress {key : String} {v : Json} {r : PoolRecord} (h : HasAddress key v)
    (hr : PoolRecord.ofJson v = .ok r) : r.key = normalizeKey key := by
  obtain ⟨fields, rfl, haddress⟩ := h
  simp only [PoolRecord.ofJson, haddress, PoolRecord.ofAddress] at hr
  split at hr
  · cases hr
  · cases hr
    rfl

theorem keys_recordsFrom {keys : List String} {entries : List Json}
    (h : List.Forall₂ HasAddress keys entries) {index : Nat} {rs : List PoolRecord}
    (hrs : recordsFrom index entries = .ok rs) : rs.map (·.key) = keys.map normalizeKey := by
  induction h generalizing index rs with
  | nil =>
    cases hrs
    rfl
  | @cons key v keys entries hv _ ih =>
    rw [recordsFrom] at hrs
    split at hrs
    · cases hrs
    · next r hr =>
      split at hrs
      · cases hrs
      · next rs hrest =>
        cases hrs
        rw [List.map_cons, List.map_cons, key_of_hasAddress hv hr, ih hrest]

/-- A list of objects with addresses gives records, unless there is none. -/
theorem exists_records_of_poolsOf {keys : List String} {entries : List Json}
    (h : List.Forall₂ HasAddress keys entries) (hne : keys ≠ []) {pools : InboundPools}
    (hpools : poolsOf entries = .ok pools) :
    ∃ rs, pools = .records rs ∧ rs.map (·.key) = keys.map normalizeKey := by
  have hall : entries.all Json.isString = false := by
    cases h with
    | nil => exact absurd rfl hne
    | cons hv _ =>
      obtain ⟨fields, rfl, -⟩ := hv
      rfl
  rw [poolsOf, hall] at hpools
  obtain ⟨rs, hrs, rfl⟩ := Json.Except.map_eq_ok hpools
  exact ⟨rs, rfl, keys_recordsFrom h hrs⟩

theorem decode_eq_ok {payload : Bytes} {im : InboundMessage} (h : decode payload = .ok im) :
    ∃ wire entries, readWire payload = .ok wire
      ∧ wire.pools.or wire.poolAddresses = some entries ∧ poolsOf entries = .ok im.pools
      ∧ im.kind = wire.kind ∧ im.chain = wire.chain := by
  unfold decode at h
  split at h
  · cases h
  · next wire hwire =>
    split at h
    · cases h
    · next entries hentries =>
      obtain ⟨pools, hpools, rfl⟩ := Json.Except.map_eq_ok h
      exact ⟨wire, entries, hwire, hentries, hpools, rfl, rfl⟩

end InboundMessage

namespace ChangeMessage

open InboundMessage (HasAddress)

variable {m : ChangeMessage} {channel : Channel} {im : InboundMessage}

/-! ## Messages -/

/-- Whether the pool objects of a message have their fields in key order, as objects are kept. -/
def Ordered (m : ChangeMessage) : Prop := ∀ r ∈ m.records, Entries.Sorted r.fields

/-- A message as it arrives on a channel, but for its id, its time and the numbers in its pools. -/
structure ArrivesAs (m : ChangeMessage) (channel : Channel) (im : InboundMessage) : Prop where
  kind : im.kind = m.kind
  chain : im.chain = m.header.chain
  keys : im.pools.keyList = m.keys.map normalizeKey
  /-- The minimal channel brings keys alone. -/
  bare : channel = .minimal → ∃ ks, im.pools = .keys ks
  /-- The full channel brings the pool objects of a message that has some. -/
  whole : channel = .full → m.records ≠ [] → ∃ rs, im.pools = .records rs

/-- Pools arrive as records on the full channel if there are records, and as keys otherwise. -/
theorem poolsOn_cases (m : ChangeMessage) (channel : Channel) :
    (channel = .full ∧ m.records ≠ [] ∧ m.keys = m.records.map (·.key)
        ∧ m.poolsOn channel = .records m.records)
      ∨ ((channel = .full → m.records = []) ∧ m.poolsOn channel = .keys m.keys) := by
  cases channel with
  | minimal => exact .inr ⟨nofun, rfl⟩
  | full =>
    obtain ⟨_, change⟩ := m
    cases change with
    | remove ks => exact .inr ⟨fun _ => rfl, rfl⟩
    | full rs => cases rs with
      | nil => exact .inr ⟨fun _ => rfl, rfl⟩
      | cons r rs => exact .inl ⟨rfl, List.cons_ne_nil _ _, rfl, rfl⟩
    | add rs => cases rs with
      | nil => exact .inr ⟨fun _ => rfl, rfl⟩
      | cons r rs => exact .inl ⟨rfl, List.cons_ne_nil _ _, rfl, rfl⟩

/-- **A payload that is decoded brings the kind and the keys of its message**, whether or not its
numbers and its time read back. -/
theorem arrivesAs_of_decode (hordered : channel = .full → m.Ordered)
    (h : InboundMessage.decode (m.encode channel) = .ok im) : m.ArrivesAs channel im := by
  obtain ⟨wire, entries, hwire, hentries, hpools, hkind, hchain⟩ := InboundMessage.decode_eq_ok h
  obtain ⟨hkind', hchain', items, hitems, hyields⟩ := InboundMessage.exists_entries hwire
  obtain rfl := Option.some.inj (hentries.symm.trans hitems)
  rcases m.poolsOn_cases channel with ⟨hfull, hne, hkeys, hvalues⟩ | ⟨hnone, hvalues⟩
  · rw [hvalues] at hyields
    have haddresses := InboundMessage.hasAddresses_of_yields hyields (hordered hfull)
    rw [← hkeys] at haddresses
    have hsome : m.keys ≠ [] := by simpa [hkeys] using hne
    obtain ⟨rs, hrs, hkeyList⟩ := InboundMessage.exists_records_of_poolsOf haddresses hsome hpools
    exact {
      kind := hkind.trans hkind'
      chain := hchain.trans hchain'
      keys := by
        rw [hrs]
        exact hkeyList
      bare := fun hminimal => nomatch hfull.symm.trans hminimal
      whole := fun _ _ => ⟨rs, hrs⟩ }
  · rw [hvalues] at hyields
    rw [InboundMessage.eq_of_yields_strings hyields, InboundMessage.poolsOf_map_string,
      Except.ok.injEq] at hpools
    exact {
      kind := hkind.trans hkind'
      chain := hchain.trans hchain'
      keys := by
        rw [← hpools]
        rfl
      bare := fun _ => ⟨_, hpools.symm⟩
      whole := fun hfull hne => absurd (hnone hfull) hne }

end ChangeMessage

end PoolFeed
