import PoolFeed.Proofs.Roundtrip.Arrivals
import PoolFeed.Proofs.Track.Channels
import PoolFeed.Proofs.Track.History

/-!
# Keys and records in step

A tracker keeps its keys and its pool objects apart, and messages change both. Whatever is
delivered, each pool object stands under its own key, that key is tracked, and every tracked key has
its normal spelling. If what is delivered was published, the full channel has a pool object for
every tracked key, the minimal channel has none, and both track the same keys where they applied the
same messages.

## Main statements

* `Holdings.Sound.update`, `Holdings.sound_behind` — what every message keeps, and so any of them
* `Holdings.complete_behind`, `Holdings.bare_behind` — what messages keep that were published on the
  full channel, and on the minimal channel
* `Holdings.contains_behind_congr` — messages of the same kinds and keys lead to the same keys
* `Watch.stays_consistent` — what holds of the trackers of a watch after any deliveries
-/

namespace PoolFeed

/-! ## Decoded messages -/

/-- Keys arrive in normal spelling, whatever was sent. -/
theorem InboundMessage.normalizeKey_of_decode {payload : Text.Bytes} {m : InboundMessage}
    (h : decode payload = .ok m) : ∀ k ∈ m.pools.keyList, normalizeKey k = k := by
  obtain ⟨_, entries, -, -, hpools, -, -⟩ := decode_eq_ok h
  unfold poolsOf at hpools
  intro k hk
  split at hpools
  · rw [← Except.ok.inj hpools] at hk
    obtain ⟨raw, -, rfl⟩ := List.mem_map.mp hk
    exact normalizeKey_normalizeKey raw
  · obtain ⟨rs, -, hrs⟩ := Json.Except.map_eq_ok hpools
    rw [← hrs] at hk
    obtain ⟨r, -, rfl⟩ := List.mem_map.mp hk
    exact r.key_normal

/-- Messages of the same kind with the same keys. -/
def InboundMessage.AgreesWith (m n : InboundMessage) : Prop :=
  m.kind = n.kind ∧ m.pools.keyList = n.pools.keyList

namespace InboundPools

variable {p : InboundPools} {k : String}

theorem record?_spec {r : PoolRecord} (h : p.record? k = some r) : r.key = k ∧ k ∈ p.keyList := by
  cases p with
  | keys ks => cases h
  | records rs =>
    have hkey : r.key = k := by simpa using List.find?_some h
    have hmem := List.mem_reverse.mp (List.mem_of_find?_eq_some h)
    exact ⟨hkey, hkey ▸ List.mem_map_of_mem hmem⟩

theorem isSome_record?_records {rs : List PoolRecord} (h : k ∈ (records rs).keyList) :
    ((records rs).record? k).isSome := by
  obtain ⟨r, hr, rfl⟩ := List.mem_map.mp h
  exact List.find?_isSome.mpr ⟨r, List.mem_reverse.mpr hr, by simp⟩

end InboundPools

/-! ## Holdings -/

namespace Holdings

variable {held : Holdings} {m : InboundMessage} {past : List InboundMessage}

/-- What every message keeps is kept by them all. -/
theorem behind_induction {P : Holdings → Prop} (hempty : P empty)
    (hupdate : ∀ held m, m ∈ past → P held → P (held.update m)) : P (behind past) := by
  induction past using List.reverseRecOn with
  | nil => exact hempty
  | append_singleton past m ih =>
    rw [behind, List.foldl_concat]
    refine hupdate _ m (by simp) (ih fun held n hn => ?_)
    exact hupdate held n (List.mem_append_left _ hn)

/-- Pool objects stand under keys that are theirs and are held, and keys are spelled normally. -/
structure Sound (held : Holdings) : Prop where
  ownKey : ∀ {k r}, held.find? k = some r → r.key = k
  contains : ∀ {k r}, held.find? k = some r → held.contains k
  normal : ∀ {k}, held.contains k → normalizeKey k = k

theorem sound_empty : Sound empty := ⟨nofun, nofun, nofun⟩

theorem Sound.update (h : held.Sound) (hm : ∀ k ∈ m.pools.keyList, normalizeKey k = k) :
    (held.update m).Sound := by
  unfold Holdings.update
  split
  · refine ⟨fun hr => (InboundPools.record?_spec hr).1, fun hr => ?_, fun hk => ?_⟩
    · exact decide_eq_true (InboundPools.record?_spec hr).2
    · exact hm _ (of_decide_eq_true hk)
  · refine ⟨fun hr => ?_, fun hr => ?_, fun hk => ?_⟩
    · rcases Option.or_eq_some_iff.mp hr with hnew | ⟨-, hold⟩
      · exact (InboundPools.record?_spec hnew).1
      · exact h.ownKey hold
    · rcases Option.or_eq_some_iff.mp hr with hnew | ⟨-, hold⟩
      · simp [(InboundPools.record?_spec hnew).2]
      · simp [h.contains hold]
    · rcases Bool.or_eq_true_iff.mp hk with hnew | hold
      · exact hm _ (of_decide_eq_true hnew)
      · exact h.normal hold
  · refine ⟨fun hr => ?_, fun hr => ?_, fun hk => ?_⟩
    · exact h.ownKey (Option.ite_none_left_eq_some.mp hr).2
    · obtain ⟨hkept, hold⟩ := Option.ite_none_left_eq_some.mp hr
      simp [hkept, h.contains hold]
    · exact h.normal (Bool.and_eq_true_iff.mp hk).2

/-- **Whatever was decoded, what is held behind it is sound.** -/
theorem sound_behind (h : ∀ m ∈ past, ∃ payload, InboundMessage.decode payload = .ok m) :
    (behind past).Sound := by
  refine behind_induction sound_empty fun held m hm hheld => ?_
  obtain ⟨payload, hdecode⟩ := h m hm
  exact hheld.update (InboundMessage.normalizeKey_of_decode hdecode)

/-- **Behind messages that bring a pool object for every key, there is one for every key.** -/
theorem complete_behind (h : ∀ m ∈ past, m.kind ≠ .remove → ∀ k ∈ m.pools.keyList,
    (m.pools.record? k).isSome) {k : String} :
    (behind past).contains k → ((behind past).find? k).isSome := by
  refine behind_induction (P := fun held => held.contains k → (held.find? k).isSome) nofun ?_
  intro held m hm hheld
  unfold Holdings.update
  split
  · next hkind => exact fun hk => h m hm (by simp [hkind]) k (of_decide_eq_true hk)
  · next hkind =>
    intro hk
    rw [Option.isSome_or, Bool.or_eq_true]
    refine (Bool.or_eq_true_iff.mp hk).imp (fun hnew => ?_) hheld
    exact h m hm (by simp [hkind]) k (of_decide_eq_true hnew)
  · intro hk
    obtain ⟨hkept, hold⟩ := Bool.and_eq_true_iff.mp hk
    simp only [of_decide_eq_true hkept, if_false]
    exact hheld hold

/-- **Behind messages that bring keys alone, there is no pool object.** -/
theorem bare_behind (h : ∀ m ∈ past, ∃ ks, m.pools = .keys ks) (k : String) :
    (behind past).find? k = none := by
  refine behind_induction (P := fun held => held.find? k = none) rfl ?_
  intro held m hm hheld
  obtain ⟨ks, hks⟩ := h m hm
  unfold Holdings.update
  rw [hks]
  split
  · rfl
  · exact hheld
  · simp [hheld]

/-- **Messages of the same kinds and keys lead to the same keys.** -/
theorem contains_behind_congr {past past' : List InboundMessage}
    (h : List.Forall₂ InboundMessage.AgreesWith past past') :
    (behind past).contains = (behind past').contains := by
  have hfold : ∀ held held' : Holdings, held.contains = held'.contains →
      (past.foldl update held).contains = (past'.foldl update held').contains := by
    induction h with
    | nil => exact fun _ _ hheld => hheld
    | @cons m n _ _ hmn _ ih =>
      intro held held' hheld
      refine ih _ _ ?_
      unfold Holdings.update
      rw [hmn.1, hmn.2]
      cases n.kind
      · rfl
      · simp [hheld]
      · simp [hheld]
  exact hfold _ _ rfl

end Holdings

/-! ## Published messages -/

namespace ChangeMessage

variable {m : ChangeMessage} {channel channel' : Channel} {im im' : InboundMessage}

/-- A message other than a removal has pool objects wherever it has keys. -/
theorem records_ne_nil (hkind : m.kind ≠ .remove) (hkeys : m.keys ≠ []) : m.records ≠ [] := by
  obtain ⟨header, change⟩ := m
  cases change with
  | full rs => exact fun hnil => hkeys (congrArg (List.map PoolRecord.key) hnil)
  | add rs => exact fun hnil => hkeys (congrArg (List.map PoolRecord.key) hnil)
  | remove ks => exact absurd rfl hkind

/-- The full channel brings a pool object for every key, except of a removal. -/
theorem ArrivesAs.isSome_record? (h : m.ArrivesAs .full im) (hkind : im.kind ≠ .remove)
    {k : String} (hk : k ∈ im.pools.keyList) : (im.pools.record? k).isSome := by
  have hkeys : m.keys ≠ [] := by
    rintro hnil
    rw [h.keys, hnil] at hk
    cases hk
  obtain ⟨rs, hrs⟩ := h.whole rfl (records_ne_nil (h.kind ▸ hkind) hkeys)
  rw [hrs] at hk ⊢
  exact InboundPools.isSome_record?_records hk

/-- Messages as they are decoded on a channel, one by one. -/
def DecodedOn (channel : Channel) (ms : List ChangeMessage) (past : List InboundMessage) : Prop :=
  List.Forall₂ (fun m im => InboundMessage.decode (m.encode channel) = .ok im) ms past

/-- **Wherever the same messages are decoded, they have the same kinds and keys.** -/
theorem DecodedOn.alike {ms : List ChangeMessage} {past past' : List InboundMessage}
    (hordered : ∀ m ∈ ms, m.Ordered) (h : DecodedOn channel ms past)
    (h' : DecodedOn channel' ms past') :
    List.Forall₂ InboundMessage.AgreesWith past past' := by
  induction h generalizing past' with
  | nil =>
    cases h'
    exact .nil
  | cons hm _ ih =>
    cases h' with
    | cons hm' hms' =>
      obtain ⟨hfirst, hrest⟩ := List.forall_mem_cons.mp hordered
      have harrives := arrivesAs_of_decode (fun _ => hfirst) hm
      have harrives' := arrivesAs_of_decode (fun _ => hfirst) hm'
      refine .cons ⟨?_, ?_⟩ (ih hrest hms')
      · rw [harrives.kind, harrives'.kind]
      · rw [harrives.keys, harrives'.keys]

end ChangeMessage

namespace Delivery

variable {topics : Topics} {channel : Channel} {ds : List Delivery} {im : InboundMessage}

/-- Whether a delivery was published on a channel, if it came under a subject of the channel. -/
def Published (topics : Topics) (channel : Channel) (d : Delivery) : Prop :=
  topics.channelOf? d.subject = some channel →
    ∃ m : ChangeMessage, m.Ordered ∧ d.payload = m.encode channel

theorem exists_decode (h : im ∈ messagesOn topics channel ds) :
    ∃ payload, InboundMessage.decode payload = .ok im := by
  obtain ⟨d, -, hd⟩ := List.mem_filterMap.mp h
  exact ⟨d.payload, (messageOn?_eq_some_iff.mp hd).2⟩

/-- What is delivered as it was published brings messages as they arrive. -/
theorem exists_arrivesAs (hpublished : ∀ d ∈ ds, d.Published topics channel)
    (h : im ∈ messagesOn topics channel ds) : ∃ m : ChangeMessage, m.ArrivesAs channel im := by
  obtain ⟨d, hmem, hd⟩ := List.mem_filterMap.mp h
  obtain ⟨hchannel, hdecode⟩ := messageOn?_eq_some_iff.mp hd
  obtain ⟨m, hordered, hpayload⟩ := hpublished d hmem hchannel
  rw [hpayload] at hdecode
  exact ⟨m, ChangeMessage.arrivesAs_of_decode (fun _ => hordered) hdecode⟩

end Delivery

/-! ## Trackers -/

namespace Tracker

variable {t t' : Tracker} {m : InboundMessage} {ms : List InboundMessage}

theorem mem_of_mem_applied (h : m ∈ t.applied ms) : m ∈ ms := by
  obtain ⟨⟨m, outcome⟩, hzip, rfl⟩ := List.mem_map.mp h
  exact (List.of_mem_zip (List.mem_filter.mp hzip).1).1

/-- A tracker whose pool objects are in step with its keys, each in normal spelling. -/
structure Consistent (t : Tracker) : Prop where
  ownKey : ∀ k r, t.find? k = some r → r.key = k
  tracked : ∀ k r, t.find? k = some r → t.contains k
  size_records : t.records.size ≤ t.size
  normal : ∀ k, t.contains k → normalizeKey k = k

theorem consistent_of_sound (h : t.holdings.Sound) : t.Consistent where
  ownKey _ _ := h.ownKey
  tracked _ _ := h.contains
  size_records := by
    refine SortedMap.size_le_of_keys_subset fun k hk => ?_
    obtain ⟨r, hr⟩ := Option.isSome_iff_exists.mp (SortedMap.mem_keys.mp hk)
    exact SortedMap.contains_eq_true_iff.mp (h.contains hr)
  normal _ := h.normal

theorem keys_eq_of_contains (h : t.contains = t'.contains) : t.keys = t'.keys := by
  refine SortedMap.ext_find? fun k => ?_
  have hk : (t.keys.find? k).isSome = (t'.keys.find? k).isSome := congrFun h k
  cases hfind : t.keys.find? k <;> cases hfind' : t'.keys.find? k <;> simp_all

end Tracker

/-! ## Messages on both channels -/

namespace ChangeMessage

open Delivery (messagesOn)

variable {ms : List ChangeMessage} {channel : Channel}

/-- The deliveries of messages, each on every channel. -/
def deliveries (topics : Topics) (ms : List ChangeMessage) : List Delivery :=
  ms.flatMap fun m => Channel.all.map fun channel =>
    ⟨topics.subject m.header.chain channel, m.encode channel⟩

theorem published_deliveries (h : ∀ m ∈ ms, m.Ordered) (topics : Topics) (channel : Channel) :
    ∀ d ∈ deliveries topics ms, d.Published topics channel := by
  intro d hd hchannel
  obtain ⟨m, hm, hd⟩ := List.mem_flatMap.mp hd
  obtain ⟨own, -, rfl⟩ := List.mem_map.mp hd
  rw [Topics.channelOf?_subject, Option.some.injEq] at hchannel
  exact ⟨m, h m hm, congrArg m.encode hchannel⟩

/-- Each message is brought once to a channel on which it is readable. -/
theorem messagesOn_deliveries (h : ∀ m ∈ ms, m.Readable channel) (topics : Topics) :
    messagesOn topics channel (deliveries topics ms) = ms.map (·.inbound channel) := by
  induction ms with
  | nil => rfl
  | cons m ms ih =>
    obtain ⟨hm, hms⟩ := List.forall_mem_cons.mp h
    have hdelivery (own : Channel) : Delivery.messageOn? topics channel
          ⟨topics.subject m.header.chain own, m.encode own⟩
        = if own = channel then some (m.inbound channel) else none := by
      simp only [Delivery.messageOn?, Delivery.isOn, Topics.channelOf?_subject,
        Option.some.injEq, decide_eq_true_eq]
      split
      · next heq => rw [heq, InboundMessage.decode_encode hm]; rfl
      · rfl
    have hfirst : (Channel.all.map fun own =>
        (⟨topics.subject m.header.chain own, m.encode own⟩ : Delivery)).filterMap
          (Delivery.messageOn? topics channel) = [m.inbound channel] := by
      rw [List.filterMap_map, Channel.all]
      simp only [List.filterMap_cons, Function.comp_apply, hdelivery]
      cases channel <;> rfl
    rw [messagesOn, deliveries, List.flatMap_cons, List.filterMap_append, hfirst, List.map_cons,
      ← ih hms]
    rfl

theorem decodedOn_inbound (h : ∀ m ∈ ms, m.Readable channel) :
    DecodedOn channel ms (ms.map (·.inbound channel)) :=
  List.forall₂_map_right_iff.mpr
    (List.forall₂_same.mpr fun m hm => InboundMessage.decode_encode (h m hm))

end ChangeMessage

/-! ## Watches -/

namespace Watch

open ChangeMessage (DecodedOn)
open Delivery (messagesOn)

variable {topics : Topics} {chain : String} {channels : List Channel} {ds : List Delivery}
  {channel : Channel} {t : Tracker}

/-- What the tracker of a channel holds is what the messages say that it applied. -/
theorem holdings_run (h : (run chain (new topics chain channels) ds).1.tracker? channel = some t) :
    t.holdings = Holdings.behind ((Tracker.new chain).applied (messagesOn topics channel ds)) := by
  rw [tracker?_run, tracker?_new] at h
  split at h
  · rw [← Option.some.inj h]
    exact ((Tracker.remembers_new chain).follow _).holdings
  · cases h

/--
**Keys and pool objects stay in step.** Whatever bytes were delivered under whatever subjects, each
pool object of a tracker stands under its own key, that key is tracked, so that there are no more
pool objects than keys, and every tracked key has its normal spelling. If what came on the full
channel was published, every key that is tracked from it has a pool object; if what came on the
minimal channel was published, no key that is tracked from it has one. And the trackers of both
channels have the same keys if they applied the same published messages in the same order.
-/
theorem stays_consistent (topics : Topics) (chain : String) (channels : List Channel)
    (ds : List Delivery) :
    let w := (run chain (new topics chain channels) ds).1
    let applied channel := (Tracker.new chain).applied (messagesOn topics channel ds)
    (∀ channel t, w.tracker? channel = some t → t.Consistent)
      ∧ (∀ t, w.tracker? .full = some t → (∀ d ∈ ds, d.Published topics .full) →
        ∀ k, t.contains k → (t.find? k).isSome)
      ∧ (∀ t, w.tracker? .minimal = some t → (∀ d ∈ ds, d.Published topics .minimal) →
        ∀ k, t.find? k = none)
      ∧ ∀ t t', w.tracker? .minimal = some t → w.tracker? .full = some t' →
        ∀ ms : List ChangeMessage, (∀ m ∈ ms, m.Ordered) →
          DecodedOn .minimal ms (applied .minimal) → DecodedOn .full ms (applied .full) →
            t.keys = t'.keys := by
  intro w applied
  refine ⟨fun channel t ht => ?_, fun t ht hpublished k hk => ?_, fun t ht hpublished k => ?_,
    fun t t' ht ht' ms hordered hminimal hfull => ?_⟩
  · refine Tracker.consistent_of_sound ?_
    rw [holdings_run ht]
    refine Holdings.sound_behind fun im him => ?_
    exact Delivery.exists_decode (Tracker.mem_of_mem_applied him)
  · have hwhole : ∀ im ∈ applied .full, im.kind ≠ .remove → ∀ k ∈ im.pools.keyList,
        (im.pools.record? k).isSome := by
      intro im him hkind k hk
      obtain ⟨m, hm⟩ := Delivery.exists_arrivesAs hpublished (Tracker.mem_of_mem_applied him)
      exact hm.isSome_record? hkind hk
    have hcomplete := Holdings.complete_behind hwhole (k := k)
    rw [← holdings_run ht] at hcomplete
    exact hcomplete hk
  · have hkeys : ∀ im ∈ applied .minimal, ∃ ks, im.pools = .keys ks := by
      intro im him
      obtain ⟨m, hm⟩ := Delivery.exists_arrivesAs hpublished (Tracker.mem_of_mem_applied him)
      exact hm.bare rfl
    have hbare := Holdings.bare_behind hkeys k
    rw [← holdings_run ht] at hbare
    exact hbare
  · refine Tracker.keys_eq_of_contains ?_
    have hcontains := Holdings.contains_behind_congr (DecodedOn.alike hordered hminimal hfull)
    rw [← holdings_run ht, ← holdings_run ht'] at hcontains
    exact hcontains

namespace Replaced

def first : PoolRecord := .bare "0x0e" (by decide) (by decide)

def second : PoolRecord := .bare "0x0f" (by decide) (by decide)

/-- A pool is there, another one comes, and the first one goes. -/
def messages : List ChangeMessage :=
  [⟨⟨"base", 1, ⟨0, 0⟩⟩, .full [first]⟩, ⟨⟨"base", 2, ⟨0, 0⟩⟩, .add [second]⟩,
    ⟨⟨"base", 3, ⟨0, 0⟩⟩, .remove ["0x0e"]⟩]

theorem mem_records {m : ChangeMessage} {r : PoolRecord} (hm : m ∈ messages) (hr : r ∈ m.records) :
    r = first ∨ r = second := by
  simp only [messages, List.mem_cons, List.not_mem_nil, or_false] at hm
  rcases hm with rfl | rfl | rfl
  · exact Or.inl (List.mem_singleton.mp hr)
  · exact Or.inr (List.mem_singleton.mp hr)
  · cases hr

theorem ordered_messages : ∀ m ∈ messages, m.Ordered := by
  intro m hm r hr
  rcases mem_records hm hr with rfl | rfl
  · exact List.pairwise_singleton _ _
  · exact List.pairwise_singleton _ _

theorem readable (channel : Channel) : ∀ m ∈ messages, m.Readable channel := by
  intro m hm
  have hvalues : ∀ m ∈ messages, (-2 ^ 63 ≤ m.header.snapshotId ∧ m.header.snapshotId < 2 ^ 63)
      ∧ m.header.timestamp = ⟨0, 0⟩ ∧ ∀ k ∈ m.keys, normalizeKey k = k := by decide
  obtain ⟨⟨hlow, hhigh⟩, htime, hkeys⟩ := hvalues m hm
  refine ⟨hlow, hhigh, htime ▸ Timestamp.valid_zero, hkeys, fun _ r hr => ?_⟩
  rcases mem_records hm hr with rfl | rfl
  · exact PoolRecord.legible_bare _ _
  · exact PoolRecord.legible_bare _ _

end Replaced

/-- Updates that are delivered on both channels leave both trackers with the same key. -/
theorem alike_on_both_channels :
    let topics : Topics := ⟨"pools"⟩
    let ds := ChangeMessage.deliveries topics Replaced.messages
    let w := (run "base" (new topics "base" Channel.all) ds).1
    (∀ channel, ∀ d ∈ ds, d.Published topics channel) ∧ (∀ m ∈ Replaced.messages, m.Ordered)
      ∧ (∀ channel, DecodedOn channel Replaced.messages
        ((Tracker.new "base").applied (messagesOn topics channel ds)))
      ∧ ∃ t t', w.tracker? .minimal = some t ∧ w.tracker? .full = some t'
        ∧ t'.keys.keys = ["0x0f"] ∧ (t'.find? "0x0f").isSome ∧ t.find? "0x0f" = none
        ∧ t.keys = t'.keys ∧ t.Consistent ∧ t'.Consistent := by
  intro topics ds w
  have hpublished := ChangeMessage.published_deliveries Replaced.ordered_messages topics
  have hbrought (channel : Channel) : messagesOn topics channel ds
      = Replaced.messages.map (·.inbound channel) :=
    ChangeMessage.messagesOn_deliveries (Replaced.readable channel) topics
  have htracker (channel : Channel) : w.tracker? channel
      = some ((Tracker.new "base").follow (Replaced.messages.map (·.inbound channel))) := by
    rw [tracker?_run, tracker?_new]
    show Option.map _ (if channel ∈ Channel.all then _ else _) = _
    rw [if_pos (by cases channel <;> decide)]
    exact congrArg (fun ms => some (Tracker.follow _ ms)) (hbrought channel)
  have hdecoded (channel : Channel) : DecodedOn channel Replaced.messages
      ((Tracker.new "base").applied (messagesOn topics channel ds)) := by
    have hall : (Tracker.new "base").applied (Replaced.messages.map (·.inbound channel))
        = Replaced.messages.map (·.inbound channel) := by
      cases channel <;> rfl
    rw [hbrought, hall]
    exact ChangeMessage.decodedOn_inbound (Replaced.readable channel)
  obtain ⟨hconsistent, hfull, hminimal, halike⟩ :=
    stays_consistent topics "base" Channel.all ds
  refine ⟨hpublished, Replaced.ordered_messages, hdecoded, _, _, htracker .minimal,
    htracker .full, rfl, ?_, ?_, ?_, hconsistent _ _ (htracker .minimal),
    hconsistent _ _ (htracker .full)⟩
  · exact hfull _ (htracker .full) (hpublished .full) "0x0f" rfl
  · exact hminimal _ (htracker .minimal) (hpublished .minimal) "0x0f"
  · exact halike _ _ (htracker .minimal) (htracker .full) _ Replaced.ordered_messages (hdecoded .minimal)
      (hdecoded .full)

end Watch

end PoolFeed
