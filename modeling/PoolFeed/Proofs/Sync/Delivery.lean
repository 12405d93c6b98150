import PoolFeed.Proofs.Sync.Succession

/-!
# Payloads delivered at least once

A subscriber may have missed anything, and may receive what was recorded more than once and, in one
update, in either order. From a full message on, everything it needs is in what it receives.

## Main statements

* `Succession.redelivered` — a payload delivered again is stale and changes nothing
* `Succession.tracked_of_delivered` — what a tracker holds behind a delivery
-/

namespace PoolFeed

open Text (Bytes)

/-- A payload of one of several syncs. -/
structure Parcel where
  round : Nat
  payload : Bytes

/-- Whether a payload is a message with a key. -/
def Names (key : String) (payload : Bytes) : Prop :=
  ∃ m, InboundMessage.decode payload = .ok m ∧ key ∈ m.pools.keyList

namespace Succession

variable {p : Publisher} {chain : String} {s : Succession p chain} {channel : Channel}

/-- Whether parcels were recorded on a channel. -/
def Delivers (s : Succession p chain) (channel : Channel) (d : List Parcel) : Prop :=
  ∀ x ∈ d, x.round < s.count ∧ x.payload ∈ s.recorded channel x.round

/--
Whether a pool object is the one that was recorded last for its key, in the syncs `k` to `n` on the
full channel.
-/
def LastRecorded (s : Succession p chain) (k n : Nat) (r : PoolRecord) : Prop :=
  ∃ i payload m rs, k ≤ i ∧ i ≤ n ∧ payload ∈ s.recorded .full i
    ∧ InboundMessage.decode payload = .ok m ∧ m.pools = .records rs ∧ r ∈ rs
    ∧ (∀ q ∈ s.recorded .full i, Names r.key q → q = payload)
    ∧ ∀ j, i < j → j ≤ n → ∀ q ∈ s.recorded .full j, ¬ Names r.key q

/-! ## Parcels and messages -/

/-- The parcel of a message. -/
def parcel (channel : Channel) (x : Line.Entry) : Parcel := ⟨x.update, x.message.encode channel⟩

/-- Parcels that were recorded are those of messages. -/
theorem Delivers.exists_entries {d : List Parcel} (h : s.Delivers channel d) :
    ∃ sent : List Line.Entry, d = sent.map (parcel channel)
      ∧ ∀ x ∈ sent, x.update < s.count ∧ x.message ∈ s.due x.update := by
  induction d with
  | nil => exact ⟨[], rfl, nofun⟩
  | cons x d ih =>
    obtain ⟨⟨hx, hpayload⟩, hd⟩ := List.forall_mem_cons.mp h
    obtain ⟨sent, rfl, hsent⟩ := ih hd
    rw [s.recorded_eq hx] at hpayload
    obtain ⟨m, hm, hencode⟩ := List.mem_map.mp hpayload
    refine ⟨⟨x.round, m⟩ :: sent, ?_, List.forall_mem_cons.mpr ⟨⟨hx, hm⟩, hsent⟩⟩
    rw [List.map_cons, parcel, hencode]

/-- The parcels of messages were recorded. -/
theorem delivers_parcels {sent : List Line.Entry}
    (hsent : ∀ x ∈ sent, x.update < s.count ∧ x.message ∈ s.due x.update) :
    s.Delivers channel (sent.map (parcel channel)) := by
  intro y hy
  obtain ⟨x, hx, rfl⟩ := List.mem_map.mp hy
  obtain ⟨hi, hm⟩ := hsent x hx
  refine ⟨hi, ?_⟩
  rw [parcel, s.recorded_eq hi]
  exact List.mem_map_of_mem hm

theorem decode_parcel (h : s.Legible channel) {x : Line.Entry} (hx : x.update < s.count)
    (hm : x.message ∈ s.due x.update) :
    InboundMessage.decode (parcel channel x).payload = .ok (x.message.inbound channel) :=
  InboundMessage.decode_encode (s.readable h hx _ hm)

/-- Different messages go out in different parcels. -/
theorem parcel_inj (h : s.Legible channel) {x y : Line.Entry} (hx : x.update < s.count)
    (hmx : x.message ∈ s.due x.update) (hmy : y.message ∈ s.due y.update)
    (heq : parcel channel x = parcel channel y) : x = y := by
  obtain ⟨i, m⟩ := x
  obtain ⟨j, m'⟩ := y
  obtain rfl : i = j := congrArg Parcel.round heq
  have hdecode : InboundMessage.decode (parcel channel ⟨i, m'⟩).payload = .ok (m'.inbound channel) :=
    decode_parcel h hx hmy
  rw [← heq, decode_parcel h hx hmx, Except.ok.injEq] at hdecode
  have hkind : m.kind = m'.kind := congrArg InboundMessage.kind hdecode
  have hsame : m = m' := s.line.eq_of_kind_eq hx hmx hmy hkind
  rw [hsame]

theorem names_encode_iff (h : s.Legible channel) {i : Nat} (hi : i < s.count) {m : ChangeMessage}
    (hm : m ∈ s.due i) {key : String} : Names key (m.encode channel) ↔ key ∈ m.keys := by
  have hdecode := InboundMessage.decode_encode (s.readable h hi m hm)
  constructor
  · rintro ⟨m', hm', hkey⟩
    rw [hdecode] at hm'
    cases hm'
    exact m.keyList_poolsOn channel ▸ hkey
  · intro hkey
    exact ⟨_, hdecode, (m.keyList_poolsOn channel).symm ▸ hkey⟩

/-- The last message with a key is the last payload with it. -/
theorem lastRecorded_of_latest (h : s.Legible .full) {k n : Nat} (hn : n < s.count) {r : PoolRecord}
    (hr : s.line.Latest k n r) : s.LastRecorded k n r := by
  obtain ⟨i, m, hki, hin, hm, hmem, honly, hlast⟩ := hr
  have hi : i < s.count := Nat.lt_of_le_of_lt hin hn
  have hpools : m.poolsOn .full = .records m.records := by
    rw [ChangeMessage.poolsOn, if_neg]
    rw [List.isEmpty_iff]
    exact List.ne_nil_of_mem hmem
  refine ⟨i, m.encode .full, m.inbound .full, m.records, hki, hin, ?_,
    InboundMessage.decode_encode (s.readable h hi m hm), hpools, hmem, ?_, ?_⟩
  · rw [s.recorded_eq hi]
    exact List.mem_map_of_mem hm
  · intro q hq hnames
    rw [s.recorded_eq hi] at hq
    obtain ⟨m', hm', rfl⟩ := List.mem_map.mp hq
    rw [honly m' hm' ((names_encode_iff h hi hm').mp hnames)]
  · intro j hij hjn q hq hnames
    have hj : j < s.count := Nat.lt_of_le_of_lt hjn hn
    rw [s.recorded_eq hj] at hq
    obtain ⟨m', hm', rfl⟩ := List.mem_map.mp hq
    exact hlast j hij hjn m' hm' ((names_encode_iff h hj hm').mp hnames)

/-! ## What trackers hold -/

/-- Feeding the parcels of messages is following the messages. -/
theorem feed_parcels (h : s.Legible channel) {sent : List Line.Entry}
    (hsent : ∀ x ∈ sent, x.update < s.count ∧ x.message ∈ s.due x.update) (t : Tracker) :
    t.feed ((sent.map (parcel channel)).map (·.payload))
      = .ok (t.follow (sent.map (·.message.inbound channel))) := by
  rw [List.map_map]
  exact Tracker.feed_of_decode
    (fun x hx => decode_parcel h (hsent x hx).1 (hsent x hx).2) t

/-- Behind everything from a full message on, a tracker is caught up. -/
theorem caughtUp_of_sent (h : s.Legible channel) {sent : List Line.Entry}
    (hsent : ∀ x ∈ sent, x.update < s.count ∧ x.message ∈ s.due x.update)
    (horder : InOrder Parcel.round (sent.map (parcel channel))) {t : Tracker}
    (hchain : t.chain = chain) {x : Line.Entry} (hx : x ∈ sent) (hkind : x.message.kind = .full)
    (ht : t.IsBefore x.message.header.snapshotId) {n : Nat} (hkn : x.update ≤ n) (hn : n < s.count)
    (hle : ∀ y ∈ sent, y.update ≤ n)
    (hall : ∀ i, x.update ≤ i → i ≤ n → ∀ payload ∈ s.recorded channel i,
      ⟨i, payload⟩ ∈ sent.map (parcel channel)) :
    s.line.CaughtUp channel x.update n (t.follow (sent.map (·.message.inbound channel))) := by
  obtain ⟨hk, hm⟩ := hsent x hx
  have hinj : ∀ y ∈ sent, ∀ z ∈ sent, parcel channel y = parcel channel z → y = z :=
    fun y hy z hz => parcel_inj h (hsent y hy).1 (hsent y hy).2 (hsent z hz).2
  -- Payloads of one channel tell the messages apart, so these are in order like the payloads.
  have hupdates : InOrder (Parcel.round ∘ parcel channel) sent := horder.of_map hinj
  have hfull := s.line.messages_of_full hk hm hkind
  have hbefore : t.IsBefore (s.line.header x.update).snapshotId := by
    rw [← s.line.header_of_mem hk hm]
    exact ht
  refine s.line.caughtUp_follow hupdates hchain hkn hn hfull hbefore
    (fun y hy => (hsent y hy).2) hle fun i hki hin m hm => ?_
  have hi : i < s.count := Nat.lt_of_le_of_lt hin hn
  have hpayload : m.encode channel ∈ s.recorded channel i := by
    rw [s.recorded_eq hi]
    exact List.mem_map_of_mem hm
  obtain ⟨y, hy, heq⟩ := List.mem_map.mp (hall i hki hin _ hpayload)
  have hsame : y = ⟨i, m⟩ := parcel_inj h (hsent y hy).1 (hsent y hy).2 hm heq
  exact hsame ▸ hy

/-- **A payload delivered again is stale and changes nothing.** -/
theorem redelivered (h : s.Legible channel) {front : List Parcel} (hfront : s.Delivers channel front)
    {t : Tracker} (hchain : t.chain = chain) {x : Parcel} (hx : x ∈ front) :
    ∃ t' m last, t.feed (front.map (·.payload)) = .ok t' ∧ InboundMessage.decode x.payload = .ok m
      ∧ t'.apply m = (.stale last, t', [.droppedStale m.kind m.snapshotId chain last]) := by
  obtain ⟨sent, rfl, hsent⟩ := hfront.exists_entries
  obtain ⟨e, he, rfl⟩ := List.mem_map.mp hx
  obtain ⟨hi, hm⟩ := hsent e he
  -- What was applied once is not admitted again, whatever was delivered since.
  have hseen : ¬ (t.follow (sent.map (·.message.inbound channel))).Admits
      (e.message.inbound channel) :=
    Tracker.not_admits_follow_of_mem (List.mem_map_of_mem he) t
  have hafter : (t.follow (sent.map (·.message.inbound channel))).chain = chain :=
    (Tracker.chain_follow _ _).trans hchain
  have hsame : (e.message.inbound channel).chain = chain := by
    show e.message.header.chain = chain
    rw [s.line.header_of_mem hi hm]
    exact s.line.on_chain e.update hi
  obtain ⟨last, hstale⟩ := Tracker.apply_of_not_admits (hsame.trans hafter.symm) hseen
  rw [hafter] at hstale
  exact ⟨_, _, last, feed_parcels h hsent t, decode_parcel h hi hm, hstale⟩

/--
**Delivery at least once is enough.** Syncs succeed one after the other, and what they record on a
channel is delivered: first deliveries in the order of the syncs, the payloads of one sync in any
order, and any payload again at any time. A tracker of the chain, in any state, is fed what has been
delivered so far, among it a full message that is newer than all that the tracker applied. Then

* if everything recorded in the syncs from that of the full message to a sync `n` was delivered and
  nothing newer was, the tracked keys are those of the whitelist of sync `n`, and on the full
  channel each of them has the pool object that was recorded last for it,
* and every payload that is delivered again is stale and changes nothing.
-/
theorem tracked_of_delivered (h : s.Legible channel) {d : List Parcel}
    (hd : s.Delivers channel d) (horder : InOrder Parcel.round d) {t : Tracker}
    (hchain : t.chain = chain) {x : Parcel} (hx : x ∈ d) {f : InboundMessage}
    (hf : InboundMessage.decode x.payload = .ok f) (hkind : f.kind = .full)
    (ht : t.IsBefore f.snapshotId) :
    (∃ t', t.feed (d.map (·.payload)) = .ok t'
      ∧ ∀ n, x.round ≤ n → n < s.count → (∀ y ∈ d, y.round ≤ n) →
        (∀ i, x.round ≤ i → i ≤ n → ∀ payload ∈ s.recorded channel i, ⟨i, payload⟩ ∈ d) →
        t'.keys.keys = (s.rounds n).request.items.keys
          ∧ (channel = .full → ∀ key ∈ t'.keys.keys, ∃ r, r.key = key
            ∧ t'.records.find? key = some r ∧ s.LastRecorded x.round n r))
    ∧ ∀ front y back, d = front ++ y :: back → y ∈ front →
      ∃ t' m last, t.feed (front.map (·.payload)) = .ok t'
        ∧ InboundMessage.decode y.payload = .ok m
        ∧ t'.apply m = (.stale last, t', [.droppedStale m.kind m.snapshotId chain last]) := by
  constructor
  · obtain ⟨sent, rfl, hsent⟩ := hd.exists_entries
    obtain ⟨e, he, rfl⟩ := List.mem_map.mp hx
    rw [decode_parcel h (hsent e he).1 (hsent e he).2] at hf
    cases hf
    refine ⟨_, feed_parcels h hsent t, fun n hkn hn hle hall => ?_⟩
    have hcaught : s.line.CaughtUp channel e.update n
        (t.follow (sent.map (·.message.inbound channel))) :=
      caughtUp_of_sent h hsent horder hchain he hkind ht hkn hn
        (fun y hy => hle _ (List.mem_map_of_mem hy)) hall
    refine ⟨hcaught.keys, ?_⟩
    rintro rfl key hkey
    obtain ⟨r, hr, hfind, hlatest⟩ := hcaught.records rfl key hkey
    exact ⟨r, hr, hfind, lastRecorded_of_latest h hn hlatest⟩
  · rintro front y back rfl hy
    exact redelivered h (fun z hz => hd z (List.mem_append_left _ hz)) hchain hy

end Succession

/-! ## A pool that is replaced -/

namespace Replacement

open Sample (publisher)

def old : Whitelist := Whitelist.empty.insert Sample.one

def new : Whitelist := Whitelist.empty.insert Sample.two

def start : Bench := ⟨.empty, .new, ⟨0, 0⟩⟩

/-- A sync of the old whitelist and one of the new. -/
def rounds : Nat → Round
  | 0 => .calm "ethereum" old
  | _ + 1 => .calm "ethereum" new

/-- What is there behind the sync of the old whitelist. -/
def between : Bench :=
  (Cycle.walk publisher (rounds 0).request 5 ((rounds 0).arrange start) .load).1

theorem play_old : ((rounds 0).play publisher start).outcome = .ok ⟨"ethereum", 1, 1, 0, 0, .full⟩
    ∧ ((rounds 0).play publisher start).world = between :=
  Round.play_of_walk (Round.check_calm rfl old) rfl

theorem play_new :
    ((rounds 1).play publisher between).outcome = .ok ⟨"ethereum", 2, 1, 1, 1, .differential⟩ := by
  have hwalk : (Cycle.walk publisher (rounds 1).request 7 ((rounds 1).arrange between)
      .load).2.outcome? = some (.ok ⟨"ethereum", 2, 1, 1, 1, .differential⟩) := rfl
  exact (Round.play_of_walk (Round.check_calm rfl new) hwalk).1

theorem before_one : Round.before publisher start rounds 1 = between := play_old.2

def succession : Succession publisher "ethereum" where
  start := start
  rounds := rounds
  count := 2
  on_chain i hi := by
    cases i <;> rfl
  succeeds i hi := by
    match i with
    | 0 => exact ⟨_, play_old.1⟩
    | 1 =>
      rw [before_one]
      exact ⟨_, play_new⟩

theorem legible : succession.Legible .full where
  rounds i hi := by
    match i with
    | 0 => exact Round.legible_calm (Sample.legible (List.cons_subset_cons _ (List.nil_subset _)))
    | 1 => exact Round.legible_calm (Sample.legible (List.subset_cons_self _ _))
  ids i hi r hr := by
    match i with
    | 0 =>
      cases play_old.1.symm.trans hr
      decide
    | 1 =>
      have hbefore : succession.before 1 = between := before_one
      rw [hbefore] at hr
      cases play_new.symm.trans hr
      decide

/-- The message of the old whitelist. -/
def whole : ChangeMessage := .ofWhitelist ⟨"ethereum", 1, ⟨0, 0⟩⟩ old

def addition : ChangeMessage := (Diff.between old new).addition ⟨"ethereum", 2, ⟨0, 0⟩⟩

def removal : ChangeMessage := (Diff.between old new).removal ⟨"ethereum", 2, ⟨0, 0⟩⟩

theorem due_zero : succession.due 0 = [whole] := rfl

theorem due_one : succession.due 1 = [addition, removal] := by
  have hbefore : succession.before 1 = between := before_one
  rw [Succession.due, Succession.arranged, hbefore]
  rfl

/-- The full message comes twice, and the removal comes before the addition. -/
def sent : List Line.Entry := [⟨0, whole⟩, ⟨0, whole⟩, ⟨1, removal⟩, ⟨1, addition⟩]

theorem sent_due : ∀ x ∈ sent, x.update < succession.count
    ∧ x.message ∈ succession.due x.update := by
  have hcount : succession.count = 2 := rfl
  simp [sent, due_zero, due_one, hcount]

/-- A tracker that holds what is in neither whitelist. -/
def astray : Tracker :=
  { Tracker.new "ethereum" with keys := SortedMap.empty.insert "0x03" (), lastSnapshotId := some 0 }

/-- Everything was delivered. -/
theorem recorded_sent {i : Nat} (hi : i < 2) : ∀ payload ∈ succession.recorded .full i,
    ⟨i, payload⟩ ∈ sent.map (Succession.parcel .full) := by
  intro payload hpayload
  rw [succession.recorded_eq hi] at hpayload
  obtain ⟨m, hm, rfl⟩ := List.mem_map.mp hpayload
  have hentry : ⟨i, m⟩ ∈ sent := by
    match i with
    | 0 =>
      rw [due_zero] at hm
      rw [List.mem_singleton.mp hm]
      exact List.mem_cons_self
    | 1 =>
      rw [due_one] at hm
      simp only [List.mem_cons, List.not_mem_nil, or_false] at hm
      rcases hm with rfl | rfl
      · simp [sent]
      · simp [sent]
  exact List.mem_map_of_mem hentry

/-- The tracker has the new pool behind the delivery. -/
theorem tracked_new : ∃ t', astray.feed
      ((sent.map (Succession.parcel .full)).map (·.payload)) = .ok t'
    ∧ t'.keys.keys = ["0x02"]
    ∧ ∀ key ∈ t'.keys.keys, ∃ r, r.key = key ∧ t'.records.find? key = some r := by
  have horder : InOrder Parcel.round (sent.map (Succession.parcel .full)) :=
    .of_pairwise (by simp [sent, Succession.parcel])
  have hdecode : InboundMessage.decode (Succession.parcel .full ⟨0, whole⟩).payload
      = .ok (whole.inbound .full) :=
    Succession.decode_parcel legible (s := succession) (x := ⟨0, whole⟩) (by decide)
      List.mem_cons_self
  have hbefore : astray.IsBefore (whole.inbound .full).snapshotId := by
    intro last hlast
    cases hlast
    decide
  obtain ⟨⟨t', ht', htracked⟩, -⟩ := Succession.tracked_of_delivered legible
    (Succession.delivers_parcels sent_due) horder rfl List.mem_cons_self hdecode rfl hbefore
  obtain ⟨hkeys, hrecords⟩ := htracked 1 (by decide) (by decide)
    (by simp [sent, Succession.parcel]) fun i _ hi => recorded_sent (Nat.lt_succ_of_le hi)
  refine ⟨t', ht', hkeys, fun key hkey => ?_⟩
  obtain ⟨r, hr, hfind, -⟩ := hrecords rfl key hkey
  exact ⟨r, hr, hfind⟩

end Replacement

end PoolFeed
