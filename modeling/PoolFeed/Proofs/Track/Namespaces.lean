import PoolFeed.Proofs.Message.Tokens
import PoolFeed.Proofs.Roundtrip.Accepted
import PoolFeed.Proofs.Track.Feed
import PoolFeed.Track.Watch
import PoolFeed.Transport.Routing

/-!
# Watches and other namespaces

A watch of one channel hears of no other namespace. A watch of all channels of a chain subscribes to
everything below the chain, so it also receives what is published under a namespace that goes on
from there; and as only the chain in the payload is looked at, such a message is applied if it is
for a chain of the same name.

## Main statements

* `Watch.handle_applied_iff` — the deliveries that are applied
* `Watch.receives_subscription_iff` — the subjects of another namespace that a watch receives
* `Watch.foreign_applied_iff` — the messages of another namespace that a watch receives and applies
-/

namespace PoolFeed

/-! ## The chain of a message -/

/--
What every message has that is published: an id of 64 bits, a time of the calendar, and pool objects
of some depth whose numbers read back.
-/
structure ChangeMessage.Publishable (m : ChangeMessage) : Prop where
  id_low : -2 ^ 63 ≤ m.header.snapshotId
  id_high : m.header.snapshotId < 2 ^ 63
  timestamp : m.header.timestamp.Valid
  records : ∃ n, ∀ r ∈ m.records, Json.Legible n r.attributes

/-- If a published message is decoded, it is for the chain for which it was published. -/
theorem InboundMessage.chain_of_decode_encode {m : ChangeMessage} {channel : Channel}
    {n : InboundMessage} (hm : m.Publishable) (h : decode (m.encode channel) = .ok n) :
    n.chain = m.header.chain := by
  obtain ⟨k, hlegible⟩ := hm.records
  by_cases hfits : m.Fits channel
  · have hrecords : channel = .full → ∀ r ∈ m.records, r.Legible :=
      fun hfull r hr => (hlegible r hr).of_depth_le (hfits hfull r hr)
    obtain ⟨wire, hwire, hpools, -, hchain, -⟩ := readWire_encode hm.id_low hm.id_high
      hm.timestamp.readsBack (ChangeMessage.legible_values hrecords)
    simp only [decode, hwire, hpools] at h
    obtain ⟨pools, -, rfl⟩ := Json.Except.map_eq_ok h
    exact hchain
  · obtain ⟨rfl, hdeep⟩ := ChangeMessage.not_fits_iff.mp hfits
    rw [decode_encode_tooDeep hlegible hdeep] at h
    cases h

/-! ## What a watch keeps -/

namespace Watch

variable {w : Watch} {d : Delivery} {topics : Topics} {chain : String} {channels : List Channel}
  {channel : Channel}

theorem tracker?_setTracker (w : Watch) (channel other : Channel) (t : Tracker) :
    (w.setTracker channel t).tracker? other
      = if other = channel then some t else w.tracker? other := by
  cases channel <;> cases other <;> rfl

theorem topics_setTracker (w : Watch) (channel : Channel) (t : Tracker) :
    (w.setTracker channel t).topics = w.topics := by
  cases channel <;> rfl

/-- **A delivery is refused and changes nothing, or goes to the tracker of its channel.** -/
theorem handle_cases (w : Watch) (d : Delivery) :
    (∃ e, (w.handle d).result = .error e ∧ (w.handle d).watch = w)
      ∨ ∃ channel t m, w.topics.channelOf? d.subject = some channel
        ∧ w.tracker? channel = some t ∧ InboundMessage.decode d.payload = .ok m
        ∧ (w.handle d).result = .ok (channel, (t.apply m).1)
        ∧ (w.handle d).watch = w.setTracker channel (t.after m) := by
  unfold handle
  cases hchannel : w.topics.channelOf? d.subject with
  | none => exact Or.inl ⟨_, rfl, rfl⟩
  | some channel =>
    cases htracker : w.tracker? channel with
    | none =>
      simp only [htracker]
      exact Or.inl ⟨_, rfl, trivial⟩
    | some t =>
      cases hdecode : InboundMessage.decode d.payload with
      | error e =>
        simp only [htracker]
        exact Or.inl ⟨_, rfl, trivial⟩
      | ok m =>
        simp only [htracker]
        exact Or.inr ⟨channel, t, m, rfl, htracker, rfl, rfl, rfl⟩

/-- **The deliveries that are applied.** -/
theorem handle_applied_iff : (w.handle d).result = .ok (channel, .applied)
    ↔ w.topics.channelOf? d.subject = some channel
      ∧ ∃ t m, w.tracker? channel = some t ∧ InboundMessage.decode d.payload = .ok m
        ∧ t.Admits m := by
  constructor
  · intro h
    rcases w.handle_cases d with ⟨e, herror, -⟩ | ⟨_, t, m, hchannel, htracker, hdecode, hok, -⟩
    · rw [herror] at h
      cases h
    · rw [hok] at h
      obtain ⟨rfl, houtcome⟩ := Prod.mk.inj (Except.ok.inj h)
      refine ⟨hchannel, t, m, htracker, hdecode, ?_⟩
      by_contra hnot
      by_cases hchain : m.chain = t.chain
      · obtain ⟨_, hstale⟩ := Tracker.apply_of_not_admits hchain hnot
        rw [hstale] at houtcome
        cases houtcome
      · rw [Tracker.apply, if_pos hchain] at houtcome
        cases houtcome
  · rintro ⟨hchannel, t, m, htracker, hdecode, hchain, hstale⟩
    unfold handle
    simp only [hchannel, htracker, hdecode, Tracker.apply, hstale]
    rw [if_neg (not_not_intro hchain)]

/-- What a watch of a chain on some channels is made of. -/
structure Keeps (w : Watch) (topics : Topics) (chain : String) (channels : List Channel) :
    Prop where
  topics : w.topics = topics
  chains : ∀ channel, (w.tracker? channel).map (·.chain)
    = if channel ∈ channels then some chain else none

theorem keeps_new (topics : Topics) (chain : String) (channels : List Channel) :
    (new topics chain channels).Keeps topics chain channels := by
  refine ⟨rfl, fun channel => ?_⟩
  cases channel with
  | minimal =>
    show Option.map _ (if _ then _ else _) = _
    split <;> rfl
  | full =>
    show Option.map _ (if _ then _ else _) = _
    split <;> rfl

/-- A delivery leaves a watch with trackers of the same chain. -/
theorem Keeps.handle (h : w.Keeps topics chain channels) (d : Delivery) :
    (w.handle d).watch.Keeps topics chain channels := by
  rcases w.handle_cases d with ⟨-, -, hwatch⟩ | ⟨channel, t, m, -, htracker, -, -, hwatch⟩
  · rw [hwatch]
    exact h
  · rw [hwatch]
    refine ⟨(topics_setTracker w channel _).trans h.topics, fun other => ?_⟩
    rw [tracker?_setTracker]
    split
    · next hother =>
      rw [← h.chains other, hother, htracker]
      exact congrArg some (Tracker.chain_after t m)
    · exact h.chains other

theorem Keeps.run (h : w.Keeps topics chain channels) (deliveries : List Delivery) :
    (run chain w deliveries).1.Keeps topics chain channels := by
  induction deliveries generalizing w with
  | nil => exact h
  | cons d rest ih => exact ih (h.handle d)

/-! ## Subscriptions -/

theorem isLiteral_of_check {name : String} (h : ChainName.check name = .ok ()) :
    isLiteral name := by
  refine List.all_eq_true.mpr fun c hc => ?_
  obtain ⟨hstar, hmore, -⟩ := ChainName.isPlain_of_check h c hc
  simp [hstar, hmore]

theorem isLiteral_name (channel : Channel) : isLiteral channel.name := by
  cases channel <;> decide

/-- **The subjects of another namespace that a watch receives** are those below its chain. -/
theorem receives_subscription_iff (r : Routing) {outer inner : Topics}
    (houter : isLiteral outer.root) (hne : outer ≠ inner) {chain chain' : String}
    (hchain : ChainName.check chain = .ok ()) (hchain' : ChainName.check chain' = .ok ())
    (wish : Option Channel) (channel : Channel) :
    r.Receives (subscription outer chain wish) (inner.subject chain' channel)
      ↔ wish = none ∧ inner.Below outer chain := by
  have hfront : isLiteral (outer.root ++ "." ++ chain) := by
    have hdot : isLiteral "." = true := by decide
    rw [Routing.isLiteral_append, Routing.isLiteral_append, houter, hdot, isLiteral_of_check hchain]
    rfl
  cases wish with
  | some own =>
    have hliteral : isLiteral (outer.subject chain own) := by
      have hdot : isLiteral "." = true := by decide
      rw [Topics.subject, Routing.isLiteral_append, Routing.isLiteral_append, hfront, hdot,
        isLiteral_name]
      rfl
    show r.Receives (outer.subject chain own) _ ↔ _
    rw [r.receives_literal hliteral]
    constructor
    · intro h
      obtain ⟨rfl, rfl⟩ :=
        Topics.token_inj (ChainName.dot_notMem hchain') (ChainName.dot_notMem hchain) h
      exact absurd (Topics.eq_of_subject_eq h).symm hne
    · rintro ⟨hwish, -⟩
      cases hwish
  | none =>
    show r.Receives (outer.root ++ "." ++ chain ++ ".>") _ ↔ _
    rw [r.receives_below hfront]
    constructor
    · rintro ⟨rest, -, hsubject⟩
      refine ⟨rfl, ?_⟩
      have hlist : (inner.subject chain' channel).toList
          = (outer.root.toList ++ '.' :: chain.toList) ++ '.' :: rest.toList := by
        rw [hsubject]
        simp [String.toList_append]
      rcases Topics.below_of_subject (ChainName.dot_notMem hchain) (ChainName.dot_notMem hchain')
        hlist with ⟨hsame, -⟩ | hbelow
      · exact absurd hsame.symm hne
      · exact hbelow
    · rintro ⟨-, hbelow⟩
      exact Topics.subject_of_below hbelow chain' channel

end Watch

/-- No wildcard stands in a namespace that is accepted. -/
theorem Settings.isLiteral_root {s : Settings} (h : s.check = .ok ()) :
    isLiteral s.topics.root := by
  refine List.all_eq_true.mpr fun c hc => ?_
  obtain ⟨hstar, hmore, -⟩ := not_wild_of_check h c hc
  simp [hstar, hmore]

/-! ## What is applied -/

/--
**What a watch receives and applies of another namespace.** It has to watch all channels of its
chain, the other namespace has to stand below the chain, and the message has to be for a chain of
the same name. Then every message is applied that is decoded and not stale.
-/
theorem Watch.foreign_applied_iff (r : Routing) {s s' : Settings} (hs : s.check = .ok ())
    (hne : Text.trimmed s.namespaceText ≠ Text.trimmed s'.namespaceText) {chain : String}
    (hchain : ChainName.check chain = .ok ()) (wish : Option Channel) (deliveries : List Delivery)
    {m : ChangeMessage} (hm : ChainName.check m.header.chain = .ok ()) (hpublished : m.Publishable)
    (channel : Channel) :
    let w := (run chain (new s.topics chain (channelsFor wish)) deliveries).1
    let d : Delivery := ⟨s'.topics.subject m.header.chain channel, m.encode channel⟩
    (r.Receives (subscription s.topics chain wish) d.subject
        ∧ ∃ own, (w.handle d).result = .ok (own, .applied))
      ↔ wish = none ∧ s'.topics.Below s.topics chain ∧ m.header.chain = chain
        ∧ ∃ t n, w.tracker? channel = some t ∧ InboundMessage.decode d.payload = .ok n
          ∧ t.staleAt? n = none := by
  intro w d
  have hkeeps : w.Keeps s.topics chain (channelsFor wish) := (keeps_new _ _ _).run deliveries
  have htracker : ∀ {t own}, w.tracker? own = some t → t.chain = chain := by
    intro t own ht
    have hown := hkeeps.chains own
    rw [ht] at hown
    split at hown
    · exact Option.some.inj hown
    · cases hown
  have hreceives := receives_subscription_iff r (Settings.isLiteral_root hs)
    (fun he => hne (congrArg Topics.root he)) hchain hm wish channel
  -- A namespace below the chain hides nothing of the channel.
  have hchannel (hbelow : s'.topics.Below s.topics chain) :
      w.topics.channelOf? d.subject = some channel := by
    rw [hkeeps.topics]
    exact Topics.channelOf?_of_below hbelow m.header.chain channel
  constructor
  · rintro ⟨hreceived, own, happlied⟩
    obtain ⟨hwish, hbelow⟩ := hreceives.mp hreceived
    obtain ⟨hown, t, n, ht, hdecode, hadmits⟩ := handle_applied_iff.mp happlied
    obtain rfl : own = channel := Option.some.inj (hown.symm.trans (hchannel hbelow))
    refine ⟨hwish, hbelow, ?_, t, n, ht, hdecode, hadmits.2⟩
    rw [← InboundMessage.chain_of_decode_encode hpublished hdecode, hadmits.1, htracker ht]
  · rintro ⟨hwish, hbelow, hsame, t, n, ht, hdecode, hstale⟩
    refine ⟨hreceives.mpr ⟨hwish, hbelow⟩, channel, handle_applied_iff.mpr ⟨hchannel hbelow, ?_⟩⟩
    refine ⟨t, n, ht, hdecode, ?_, hstale⟩
    rw [InboundMessage.chain_of_decode_encode hpublished hdecode, hsame, htracker ht]

/-! ## A namespace below a chain -/

namespace Annex

/-- Settings under a namespace. -/
def settings (namespaceText : String) : Settings := { Settings.default with namespaceText }

/-- An update of a chain to one pool. -/
def message (chain : String) : ChangeMessage :=
  ⟨⟨chain, 1, ⟨0, 0⟩⟩, .full [.bare "0x0c" (by decide) (by decide)]⟩

theorem legible (chain : String) : ∀ r ∈ (message chain).records, r.Legible := by
  intro r hr
  rw [List.mem_singleton.mp hr]
  exact PoolRecord.legible_bare _ _

theorem publishable (chain : String) : (message chain).Publishable :=
  ⟨(by decide : (-2 ^ 63 : Int) ≤ 1), (by decide : (1 : Int) < 2 ^ 63), Timestamp.valid_zero, _,
    legible chain⟩

theorem below : (settings "pools.ethereum").topics.Below (settings "pools").topics "ethereum" :=
  Or.inl (by decide)

/-- A watch of a chain receives an update of another chain from a namespace below it, in vain. -/
theorem refused_base : (settings "pools").check = .ok ()
    ∧ Text.trimmed "pools" ≠ Text.trimmed "pools.ethereum"
    ∧ ChainName.check "ethereum" = .ok () ∧ ChainName.check "base" = .ok ()
    ∧ (message "base").Publishable
    ∧ ¬ (Routing.byFront.Receives "pools.ethereum.>" "pools.ethereum.base.full"
      ∧ ∃ own, ((Watch.new ⟨"pools"⟩ "ethereum" Channel.all).handle
        ⟨"pools.ethereum.base.full", (message "base").encode .full⟩).result
          = .ok (own, .applied)) := by
  refine ⟨rfl, by decide, rfl, rfl, publishable "base", ?_⟩
  have hsettings : (settings "pools").check = .ok () := rfl
  have hne : Text.trimmed (settings "pools").namespaceText
      ≠ Text.trimmed (settings "pools.ethereum").namespaceText := by decide
  have hethereum : ChainName.check "ethereum" = .ok () := rfl
  have hbase : ChainName.check (message "base").header.chain = .ok () := rfl
  have happlied := Watch.foreign_applied_iff Routing.byFront hsettings hne hethereum none [] hbase
    (publishable "base") .full
  intro h
  obtain ⟨-, -, hsame, -⟩ := happlied.mp h
  exact absurd hsame (by decide)

/--
**A watch applies an update of another namespace.** The subjects of `pools.ethereum` and the chain
`ethereum` stand below those of `pools` and the chain `ethereum`.
-/
theorem applied_ethereum : (settings "pools").check = .ok ()
    ∧ (settings "pools.ethereum").check = .ok ()
    ∧ Text.trimmed "pools" ≠ Text.trimmed "pools.ethereum"
    ∧ ChainName.check "ethereum" = .ok ()
    ∧ Routing.byFront.Receives "pools.ethereum.>" "pools.ethereum.ethereum.minimal"
    ∧ ((Watch.new ⟨"pools"⟩ "ethereum" Channel.all).handle
      ⟨"pools.ethereum.ethereum.minimal", (message "ethereum").encode .minimal⟩).result
        = .ok (.minimal, .applied) := by
  have hethereum : ChainName.check "ethereum" = .ok () := rfl
  have hliteral : isLiteral (settings "pools").topics.root := by decide
  have hne : (settings "pools").topics ≠ (settings "pools.ethereum").topics := by decide
  have hreceives := Watch.receives_subscription_iff Routing.byFront hliteral hne hethereum
    hethereum none .minimal
  refine ⟨rfl, rfl, by decide, hethereum, hreceives.mpr ⟨rfl, below⟩, ?_⟩
  refine Watch.handle_applied_iff.mpr
    ⟨?_, .new "ethereum", (message "ethereum").inbound .minimal, rfl, ?_, rfl, rfl⟩
  · exact Topics.channelOf?_of_below below "ethereum" .minimal
  · exact InboundMessage.decode_encode
      ⟨by decide, by decide, Timestamp.valid_zero, by decide, fun _ => legible "ethereum"⟩

end Annex

end PoolFeed
