import PoolFeed.Proofs.Track.Namespaces

/-!
# Watches keep channels apart

A watch hands every delivery to the tracker of one channel or refuses it. So each tracker ends as if
it had been followed by itself through the messages of its channel, whatever else was delivered and
wherever in between; and a delivery that is refused might as well not have come.

## Main statements

* `Watch.handle_error_iff` — the deliveries that are refused, and why
* `Watch.tracker?_handle` — one delivery, as the tracker of a channel sees it
* `Watch.tracker?_run` — many deliveries, as the tracker of a channel sees them
* `Watch.channels_apart` — channels are independent, and refused deliveries change nothing
-/

namespace PoolFeed

/-! ## Deliveries of a channel -/

namespace Delivery

variable {topics : Topics} {channel : Channel} {d : Delivery}

/-- Whether a delivery came under a subject of a channel. -/
def isOn (topics : Topics) (channel : Channel) (d : Delivery) : Bool :=
  topics.channelOf? d.subject = some channel

/-- The message that a delivery brings to a channel, if it is one. -/
def messageOn? (topics : Topics) (channel : Channel) (d : Delivery) : Option InboundMessage :=
  if d.isOn topics channel then (InboundMessage.decode d.payload).toOption else none

/-- The messages that deliveries bring to a channel, in order. -/
def messagesOn (topics : Topics) (channel : Channel) (ds : List Delivery) : List InboundMessage :=
  ds.filterMap (messageOn? topics channel)

theorem isOn_iff : d.isOn topics channel ↔ topics.channelOf? d.subject = some channel :=
  decide_eq_true_iff

theorem messageOn?_eq_some_iff {m : InboundMessage} : d.messageOn? topics channel = some m
    ↔ topics.channelOf? d.subject = some channel ∧ InboundMessage.decode d.payload = .ok m := by
  rw [messageOn?, Option.ite_none_right_eq_some, isOn_iff]
  refine and_congr_right fun _ => ?_
  cases InboundMessage.decode d.payload <;> simp [Except.toOption]

/-- Only what came under the subjects of a channel brings messages to it. -/
theorem messagesOn_filter (topics : Topics) (channel : Channel) (ds : List Delivery) :
    messagesOn topics channel (ds.filter (isOn topics channel)) = messagesOn topics channel ds := by
  rw [messagesOn, List.filterMap_filter]
  refine List.filterMap_congr fun d _ => ?_
  unfold messageOn?
  split <;> rfl

theorem messagesOn_cons (topics : Topics) (channel : Channel) (d : Delivery) (ds : List Delivery) :
    messagesOn topics channel (d :: ds)
      = (d.messageOn? topics channel).toList ++ messagesOn topics channel ds := by
  rw [messagesOn, List.filterMap_cons]
  cases d.messageOn? topics channel <;> rfl

end Delivery

namespace Watch

open Delivery (messagesOn)

variable {w : Watch} {d : Delivery} {channel : Channel}

/-! ## Deliveries that are refused -/

/-- Why a watch refuses a delivery. -/
inductive Refuses (w : Watch) (d : Delivery) : Error → Prop
  | foreign : w.topics.channelOf? d.subject = none → Refuses w d (.unexpectedSubject d.subject)
  | unwatched {channel : Channel} : w.topics.channelOf? d.subject = some channel →
      w.tracker? channel = none → Refuses w d (.notWatching channel)
  | undecodable {channel : Channel} {t : Tracker} {cause : InboundMessage.Error} :
      w.topics.channelOf? d.subject = some channel → w.tracker? channel = some t →
      InboundMessage.decode d.payload = .error cause → Refuses w d (.undecodable d.subject cause)

/-- **The deliveries that are refused, and why.** -/
theorem handle_error_iff {e : Error} : (w.handle d).result = .error e ↔ w.Refuses d e := by
  constructor
  · intro h
    unfold handle at h
    cases hchannel : w.topics.channelOf? d.subject with
    | none =>
      rw [hchannel] at h
      cases h
      exact .foreign hchannel
    | some channel =>
      cases htracker : w.tracker? channel with
      | none =>
        simp only [hchannel, htracker] at h
        cases h
        exact .unwatched hchannel htracker
      | some t =>
        cases hdecode : InboundMessage.decode d.payload with
        | error cause =>
          simp only [hchannel, htracker, hdecode] at h
          cases h
          exact .undecodable hchannel htracker hdecode
        | ok m =>
          simp only [hchannel, htracker, hdecode] at h
          cases h
  · intro h
    unfold handle
    cases h with
    | foreign hchannel => rw [hchannel]
    | unwatched hchannel htracker => simp only [hchannel, htracker]
    | undecodable hchannel htracker hdecode => simp only [hchannel, htracker, hdecode]

/-- A delivery that is refused changes nothing. -/
theorem watch_handle_of_error {e : Error} (h : (w.handle d).result = .error e) :
    (w.handle d).watch = w := by
  rcases w.handle_cases d with ⟨-, -, hwatch⟩ | ⟨_, _, _, -, -, -, hok, -⟩
  · exact hwatch
  · rw [hok] at h
    cases h

/-! ## Deliveries as one channel sees them -/

theorem topics_handle (w : Watch) (d : Delivery) : (w.handle d).watch.topics = w.topics := by
  rcases w.handle_cases d with ⟨-, -, hwatch⟩ | ⟨channel, t, m, -, -, -, -, hwatch⟩
  · rw [hwatch]
  · rw [hwatch]
    exact topics_setTracker w channel _

/-- A delivery that brings a message to a watched channel is not refused. -/
theorem not_refuses_of_messageOn? {t : Tracker} {m : InboundMessage} {e : Error}
    (htracker : w.tracker? channel = some t) (hm : d.messageOn? w.topics channel = some m) :
    ¬ w.Refuses d e := by
  obtain ⟨hchannel, hdecode⟩ := Delivery.messageOn?_eq_some_iff.mp hm
  intro h
  cases h with
  | foreign hnone => exact nomatch hnone.symm.trans hchannel
  | unwatched hother hnone =>
    obtain rfl := Option.some.inj (hother.symm.trans hchannel)
    exact nomatch hnone.symm.trans htracker
  | undecodable _ _ herror => exact nomatch herror.symm.trans hdecode

/-- **One delivery, as the tracker of a channel sees it:** the message it brings, if any. -/
theorem tracker?_handle (w : Watch) (d : Delivery) (channel : Channel) :
    (w.handle d).watch.tracker? channel
      = (w.tracker? channel).map (·.follow (d.messageOn? w.topics channel).toList) := by
  rcases w.handle_cases d with ⟨e, herror, hwatch⟩ | ⟨own, t, m, hown, htracker, hdecode, -, hwatch⟩
  · rw [hwatch]
    cases htracker : w.tracker? channel with
    | none => rfl
    | some t =>
      cases hm : d.messageOn? w.topics channel with
      | none => rfl
      | some m => exact absurd (handle_error_iff.mp herror) (not_refuses_of_messageOn? htracker hm)
  · rw [hwatch, tracker?_setTracker]
    by_cases hsame : channel = own
    · subst hsame
      rw [if_pos rfl, htracker, Delivery.messageOn?_eq_some_iff.mpr ⟨hown, hdecode⟩]
      rfl
    · have hnone : d.messageOn? w.topics channel = none := by
        refine if_neg fun hon => hsame ?_
        exact Option.some.inj ((Delivery.isOn_iff.mp hon).symm.trans hown)
      rw [if_neg hsame, hnone]
      exact Option.map_id'.symm

/-- **Many deliveries, as the tracker of a channel sees them.** -/
theorem tracker?_run (chain : String) (w : Watch) (ds : List Delivery) (channel : Channel) :
    (run chain w ds).1.tracker? channel
      = (w.tracker? channel).map (·.follow (messagesOn w.topics channel ds)) := by
  induction ds generalizing w with
  | nil => exact Option.map_id'.symm
  | cons d ds ih =>
    show (run chain (w.handle d).watch ds).1.tracker? channel = _
    rw [ih, topics_handle, tracker?_handle, Option.map_map, Delivery.messagesOn_cons]
    exact congrArg (Option.map · _) (funext fun t => (t.follow_append _ _).symm)

/-- Deliveries that agree on a channel leave its tracker alike. -/
theorem tracker?_run_congr {ds ds' : List Delivery}
    (h : ds.filter (Delivery.isOn w.topics channel) = ds'.filter (Delivery.isOn w.topics channel))
    (chain : String) :
    (run chain w ds).1.tracker? channel = (run chain w ds').1.tracker? channel := by
  rw [tracker?_run, tracker?_run, ← Delivery.messagesOn_filter, h, Delivery.messagesOn_filter]

theorem tracker?_new (topics : Topics) (chain : String) (channels : List Channel)
    (channel : Channel) : (new topics chain channels).tracker? channel
      = if channel ∈ channels then some (.new chain) else none := by
  cases channel <;> rfl

/--
**Channels are independent, and refused deliveries change nothing.** Each tracker ends as if it had
followed the messages of its channel alone, so that deliveries which agree on a channel leave it
alike. A delivery is refused for a foreign subject, a channel that is not watched or a payload that
is no message, and then the watch is as it was. However a watch from the start ends, its trackers
are of just this kind.
-/
theorem channels_apart (w : Watch) (chain : String) (ds : List Delivery) :
    (∀ channel, (run chain w ds).1.tracker? channel
        = (w.tracker? channel).map (·.follow (messagesOn w.topics channel ds)))
      ∧ (∀ channel ds',
        ds.filter (Delivery.isOn w.topics channel) = ds'.filter (Delivery.isOn w.topics channel) →
          (run chain w ds).1.tracker? channel = (run chain w ds').1.tracker? channel)
      ∧ (∀ d e, (w.handle d).result = .error e ↔ w.Refuses d e)
      ∧ (∀ d e, (w.handle d).result = .error e → (w.handle d).watch = w)
      ∧ ∀ topics wish ending channel, (follow topics chain wish ds ending).1.tracker? channel
        = if channel ∈ channelsFor wish
          then some ((Tracker.new chain).follow (messagesOn topics channel ds)) else none := by
  refine ⟨tracker?_run chain w ds, fun _ _ h => tracker?_run_congr h chain,
    fun _ _ => handle_error_iff, fun _ _ => watch_handle_of_error, ?_⟩
  intro topics wish ending channel
  show (run chain (new topics chain (channelsFor wish)) ds).1.tracker? channel = _
  rw [tracker?_run, tracker?_new]
  split <;> rfl

/-- A payload that is no message and a delivery of another channel leave a tracker alone. -/
theorem full_channel_undisturbed :
    let w := new ⟨"pools"⟩ "base" Channel.all
    let noise : Delivery := ⟨"pools.base.full", []⟩
    let other : Delivery := ⟨"pools.base.minimal", (Annex.message "base").encode .minimal⟩
    (run "base" w [noise, other]).1.tracker? .full = (run "base" w [other, noise]).1.tracker? .full
      ∧ (w.handle noise).watch = w := by
  intro w noise other
  obtain ⟨-, hcongr, herror, hinert, -⟩ := channels_apart w "base" [noise, other]
  have hchannel : w.topics.channelOf? noise.subject = some .full := by decide
  have hrefuses : w.Refuses noise (.undecodable "pools.base.full" (.json .cutValue)) :=
    .undecodable (t := .new "base") hchannel rfl rfl
  have hnoise : noise.isOn w.topics .full = true := by decide
  have hother : other.isOn w.topics .full = false :=
    decide_eq_false (by decide : Topics.channelOf? ⟨"pools"⟩ "pools.base.minimal" ≠ some .full)
  have hsame : [noise, other].filter (Delivery.isOn w.topics .full)
      = [other, noise].filter (Delivery.isOn w.topics .full) := by
    simp only [List.filter_cons, hnoise, hother]
    rfl
  exact ⟨hcongr .full _ hsame, hinert noise _ ((herror noise _).mpr hrefuses)⟩

end Watch

end PoolFeed
