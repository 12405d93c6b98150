import PoolFeed.Proofs.Sync.Progress
import PoolFeed.Proofs.Track.Channels

/-!
# Subjects are read back exactly

A channel is read off a subject exactly if the subject was built for that channel and some chain,
whatever the namespace and the chain look like, and there is only one way to build it. So a payload
that is published under the namespace of a watch goes to the tracker of its own channel.

## Main statements

* `Topics.lastToken?_eq_some_iff` — what stands behind the last dot
* `Topics.channelOf?_eq_some_iff` — the subjects off which a channel is read
* `Publisher.publish_channels` — what is published of a message
* `Watch.goesTo_of_channelOf?` — where a delivery goes
* `Watch.addressed_exactly` — subjects are read back exactly, and payloads reach their trackers
-/

namespace PoolFeed

theorem Channel.ofName?_eq_some_iff {name : String} {channel : Channel} :
    ofName? name = some channel ↔ name = channel.name := by
  constructor
  · intro h
    unfold ofName? at h
    have hname := List.find?_some h
    exact (of_decide_eq_true hname).symm
  · rintro rfl
    exact ofName?_name channel

namespace Topics

variable {t : Topics} {channel : Channel} {cs front rest token : List Char} {subject : String}

/-! ## Reading subjects -/

theorem dropPrefix?_eq_some_iff : dropPrefix? front cs = some rest ↔ cs = front ++ rest := by
  rw [dropPrefix?, Option.ite_none_right_eq_some, List.isPrefixOf_iff_prefix]
  constructor
  · rintro ⟨⟨more, rfl⟩, h⟩
    rw [List.drop_left] at h
    rw [Option.some.inj h]
  · rintro rfl
    exact ⟨List.prefix_append _ _, congrArg some List.drop_left⟩

/-- **What stands behind the last dot** has no dot in it. -/
theorem lastToken?_eq_some_iff :
    lastToken? cs = some token ↔ '.' ∉ token ∧ ∃ front, cs = front ++ '.' :: token := by
  constructor
  · intro h
    have hdot : '.' ∈ cs := by
      by_contra hnot
      rw [lastToken?, if_neg hnot] at h
      cases h
    -- The last dot is the first one from behind.
    obtain ⟨back, before, hreverse, hback⟩ :=
      List.eq_append_cons_of_mem (List.mem_reverse.mpr hdot)
    have hcs : cs = before.reverse ++ '.' :: back.reverse := by
      rw [List.reverse_eq_iff.mp hreverse]
      simp
    have hnone : '.' ∉ back.reverse := fun hmem => hback (List.mem_reverse.mp hmem)
    rw [hcs, lastToken?_append hnone] at h
    cases h
    exact ⟨hnone, before.reverse, hcs⟩
  · rintro ⟨hnone, front, rfl⟩
    exact lastToken?_append hnone

/-- **A channel is read off the subjects of that channel, and off no others.** -/
theorem channelOf?_eq_some_iff :
    t.channelOf? subject = some channel ↔ ∃ chain, subject = t.subject chain channel := by
  constructor
  · intro h
    obtain ⟨rest, hrest, hbind⟩ := Option.bind_eq_some_iff.mp h
    obtain ⟨token, htoken, hchannel⟩ := Option.bind_eq_some_iff.mp hbind
    obtain ⟨-, chain, hchain⟩ := lastToken?_eq_some_iff.mp htoken
    have hname : token = channel.name.toList := by
      rw [← Channel.ofName?_eq_some_iff.mp hchannel, String.toList_ofList]
    refine ⟨String.ofList chain, String.toList_inj.mp ?_⟩
    rw [dropPrefix?_eq_some_iff.mp hrest, hchain, hname, toList_subject, String.toList_ofList]
    simp
  · rintro ⟨chain, rfl⟩
    exact t.channelOf?_subject chain channel

/-- The namespace may come again in the chain. -/
example : channelOf? ⟨"pools"⟩ "pools.pools.base.full" = some .full := by decide

end Topics

/-! ## Publishing and receiving -/

/-- **What is published of a message:** its payloads on the first channels, on all on success. -/
theorem Publisher.publish_channels (p : Publisher) (m : ChangeMessage) (t : RecordingTransport) :
    ∃ channels, channels <+: Channel.all
      ∧ (p.publish m t).transport = t.holding (channels.map (p.emission m))
      ∧ ((p.publish m t).result = .ok () → channels = Channel.all) := by
  unfold publish
  rcases p.send_cases m .minimal t with ⟨hok, hminimal⟩ | ⟨reason, herror, hnone⟩
  · rcases p.send_cases m .full (t.holding [p.emission m .minimal]) with
      ⟨-, hfull⟩ | ⟨reason, herror, hhalf⟩
    · refine ⟨Channel.all, List.prefix_rfl, ?_, fun _ => rfl⟩
      simp only [hok, hminimal, hfull, RecordingTransport.holding_holding]
      rfl
    · refine ⟨[.minimal], ⟨[.full], rfl⟩, ?_, ?_⟩
      · simp only [hok, hminimal, hhalf]
        rfl
      · simp only [hok, hminimal, herror]
        exact nofun
  · refine ⟨[], List.nil_prefix, ?_, ?_⟩
    · simp only [herror, hnone]
      exact (RecordingTransport.holding_nil t).symm
    · simp only [herror]
      exact nofun

namespace Watch

variable {w : Watch} {d : Delivery} {channel : Channel}

/-- A delivery that goes to a channel. -/
structure GoesTo (w : Watch) (d : Delivery) (channel : Channel) : Prop where
  /-- The tracker of the channel follows the message that is delivered, if it is one. -/
  tracker : (w.handle d).watch.tracker? channel
    = (w.tracker? channel).map (·.follow (InboundMessage.decode d.payload).toOption.toList)
  /-- No other tracker is touched. -/
  others : ∀ other, other ≠ channel → (w.handle d).watch.tracker? other = w.tracker? other
  /-- What is reported is what the tracker made of the message. -/
  outcome : ∀ t m, w.tracker? channel = some t → InboundMessage.decode d.payload = .ok m →
    (w.handle d).result = .ok (channel, (t.apply m).1)
  /-- It is refused only if the channel is not watched, or if it is no message. -/
  refused : ∀ e, (w.handle d).result = .error e →
    (w.tracker? channel = none ∧ e = .notWatching channel)
      ∨ ∃ cause, InboundMessage.decode d.payload = .error cause
        ∧ e = .undecodable d.subject cause

/-- **A delivery goes to the channel that is read off its subject.** -/
theorem goesTo_of_channelOf? (h : w.topics.channelOf? d.subject = some channel) :
    w.GoesTo d channel where
  tracker := by
    rw [tracker?_handle, Delivery.messageOn?, if_pos (Delivery.isOn_iff.mpr h)]
  others := by
    intro other hother
    have hnone : d.messageOn? w.topics other = none := by
      refine if_neg fun hon => hother ?_
      exact Option.some.inj ((Delivery.isOn_iff.mp hon).symm.trans h)
    rw [tracker?_handle, hnone]
    exact Option.map_id'
  outcome := by
    intro t m ht hm
    rcases w.handle_cases d with ⟨e, herror, -⟩ | ⟨own, t', m', hown, ht', hm', hok, -⟩
    · exact absurd (handle_error_iff.mp herror)
        (not_refuses_of_messageOn? ht (Delivery.messageOn?_eq_some_iff.mpr ⟨h, hm⟩))
    · obtain rfl := Option.some.inj (hown.symm.trans h)
      obtain rfl := Option.some.inj (ht'.symm.trans ht)
      obtain rfl := Except.ok.inj (hm'.symm.trans hm)
      exact hok
  refused := by
    intro e herror
    cases handle_error_iff.mp herror with
    | foreign hnone =>
      rw [hnone] at h
      cases h
    | unwatched hown hnone =>
      obtain rfl := Option.some.inj (hown.symm.trans h)
      exact Or.inl ⟨hnone, rfl⟩
    | undecodable _ _ hcause => exact Or.inr ⟨_, hcause, rfl⟩

/--
**Subjects are read back exactly, and payloads reach their trackers.** A channel is read off a
subject exactly if there is a chain for which the subject was built; the chain and the channel are
then the only ones, as different ones never share a subject. Of any message, whatever its chain, a
publisher under the same namespace sends payloads on the first channels, on all of them if it
succeeds, and each of them goes to the tracker of the channel on which it was sent.
-/
theorem addressed_exactly (w : Watch) :
    (∀ subject channel, w.topics.channelOf? subject = some channel
        ↔ ∃ chain, subject = w.topics.subject chain channel)
      ∧ (∀ subject channel, w.topics.channelOf? subject = some channel →
        ∃! address : String × Channel, subject = w.topics.subject address.1 address.2)
      ∧ (∀ chain chain' channel channel',
        w.topics.subject chain channel = w.topics.subject chain' channel'
          → chain = chain' ∧ channel = channel')
      ∧ ∀ (timeout : Duration) (m : ChangeMessage) (t : RecordingTransport),
        let p : Publisher := ⟨w.topics, timeout⟩
        ∃ channels, channels <+: Channel.all
          ∧ (p.publish m t).transport = t.holding (channels.map (p.emission m))
          ∧ ((p.publish m t).result = .ok () → channels = Channel.all)
          ∧ ∀ channel ∈ channels,
            w.GoesTo ⟨(p.emission m channel).1, (p.emission m channel).2⟩ channel := by
  refine ⟨fun _ _ => Topics.channelOf?_eq_some_iff, fun subject channel h => ?_,
    fun _ _ _ _ => Topics.subject_inj, fun timeout m t => ?_⟩
  · obtain ⟨chain, rfl⟩ := Topics.channelOf?_eq_some_iff.mp h
    refine ⟨(chain, channel), rfl, fun address heq => ?_⟩
    obtain ⟨hchain, hchannel⟩ := Topics.subject_inj heq
    exact Prod.ext hchain.symm hchannel.symm
  · intro p
    obtain ⟨channels, hprefix, htransport, hall⟩ := p.publish_channels m t
    exact ⟨channels, hprefix, htransport, hall, fun channel _ =>
      goesTo_of_channelOf? (w.topics.channelOf?_subject m.header.chain channel)⟩

end Watch

end PoolFeed
