import PoolFeed.Proofs.Track.Update

/-!
# At-least-once delivery

Messages are delivered at least once: each may come again at any time behind its first delivery, and
the messages of one update may come in either order. Trackers drop what comes again, so that only
first deliveries count; and of these, the ones of the last update stand behind all others.

## Main statements

* `InOrder.exists_firsts` — a tracker makes of a delivery what it makes of the first deliveries
* `Line.CaughtUp.follow_next` — the messages of the next update keep a tracker caught up
* `Line.caughtUp_follow` — a delivery with everything from a full update on leaves a tracker caught
  up
-/

namespace PoolFeed

/-! ## Deliveries -/

/-- Whether first deliveries come in the order of some index. -/
def InOrder {α : Type} (index : α → Nat) (d : List α) : Prop :=
  ∀ front x back, d = front ++ x :: back → x ∉ front → ∀ y ∈ front, index y ≤ index x

namespace InOrder

variable {α : Type} {index : α → Nat} {d : List α}

theorem of_append {e : List α} (h : InOrder index (d ++ e)) : InOrder index d := by
  intro front x back hd
  refine h front x (back ++ e) ?_
  rw [hd, List.append_assoc]
  rfl

theorem of_pairwise (h : d.Pairwise (index · ≤ index ·)) : InOrder index d := by
  rintro front x back rfl - y hy
  exact (List.pairwise_append.mp h).2.2 y hy x List.mem_cons_self

/-- What is in order under different names is in order. -/
theorem of_map {β : Type} {index : β → Nat} {f : α → β}
    (hinj : ∀ x ∈ d, ∀ y ∈ d, f x = f y → x = y) (h : InOrder index (d.map f)) :
    InOrder (index ∘ f) d := by
  rintro front x back rfl hx y hy
  refine h (front.map f) (f x) (back.map f) ?_ ?_ (f y) (List.mem_map_of_mem hy)
  · rw [List.map_append, List.map_cons]
  · intro hmem
    obtain ⟨z, hz, heq⟩ := List.mem_map.mp hmem
    have hsame : z = x := hinj z (List.mem_append_left _ hz) x
      (List.mem_append_right _ List.mem_cons_self) heq
    exact hx (hsame ▸ hz)

/-- **A tracker makes of a delivery what it makes of the first deliveries.** -/
theorem exists_firsts (h : InOrder index d) (message : α → InboundMessage) (t : Tracker) :
    ∃ firsts : List α, firsts.Nodup ∧ firsts.Pairwise (index · ≤ index ·)
      ∧ (∀ x, x ∈ firsts ↔ x ∈ d)
      ∧ t.follow (firsts.map message) = t.follow (d.map message) := by
  induction d using List.reverseRecOn with
  | nil => exact ⟨[], .nil, .nil, fun _ => Iff.rfl, rfl⟩
  | append_singleton d x ih =>
    obtain ⟨firsts, hnodup, hsorted, hmem, hfollow⟩ := ih h.of_append
    -- A redelivery is stale and drops out; a first delivery goes behind the ones before it.
    by_cases hx : x ∈ d
    · refine ⟨firsts, hnodup, hsorted, fun y => ?_, ?_⟩
      · rw [hmem, List.mem_append, List.mem_singleton]
        exact ⟨Or.inl, fun hy => hy.elim id fun hy => hy ▸ hx⟩
      · have hseen : ¬ (t.follow (d.map message)).Admits (message x) :=
          Tracker.not_admits_follow_of_mem (List.mem_map_of_mem hx) t
        rw [List.map_append, Tracker.follow_append, hfollow]
        exact (Tracker.after_of_not_admits hseen).symm
    · refine ⟨firsts ++ [x], ?_, ?_, fun y => ?_, ?_⟩
      · refine List.nodup_append.mpr ⟨hnodup, List.nodup_singleton x, ?_⟩
        rintro y hy z hz rfl
        exact hx ((hmem x).mp (List.mem_singleton.mp hz ▸ hy))
      · refine List.pairwise_append.mpr ⟨hsorted, List.pairwise_singleton _ x, ?_⟩
        intro y hy z hz
        rw [List.mem_singleton.mp hz]
        exact h d x [] rfl hx y ((hmem y).mp hy)
      · rw [List.mem_append, List.mem_append, hmem]
      · rw [List.map_append, List.map_append, Tracker.follow_append, Tracker.follow_append,
          hfollow]

/-- What is sorted by an index and does not pass `n` ends with what stands at `n`. -/
theorem exists_split {n : Nat} (hsorted : d.Pairwise (index · ≤ index ·))
    (hle : ∀ x ∈ d, index x ≤ n) : ∃ front back, d = front ++ back
      ∧ (∀ x ∈ front, index x < n) ∧ ∀ x ∈ back, index x = n := by
  induction d with
  | nil => exact ⟨[], [], rfl, nofun, nofun⟩
  | cons x d ih =>
    obtain ⟨hx, hd⟩ := List.pairwise_cons.mp hsorted
    by_cases hlt : index x < n
    · obtain ⟨front, back, rfl, hfront, hback⟩ :=
        ih hd fun y hy => hle y (List.mem_cons_of_mem x hy)
      exact ⟨x :: front, back, rfl, List.forall_mem_cons.mpr ⟨hlt, hfront⟩, hback⟩
    · refine ⟨[], x :: d, rfl, nofun, List.forall_mem_cons.mpr ⟨?_, fun y hy => ?_⟩⟩
      · have := hle x List.mem_cons_self
        omega
      · have := hle y (List.mem_cons_of_mem x hy)
        have := hx y hy
        omega

end InOrder

/-! ## Lines of updates -/

/--
The updates of a chain, so many of them. Each sends its whitelist, or what changed since the update
in front of it.
-/
structure Line (chain : String) where
  count : Nat
  header : Nat → Header
  items : Nat → Whitelist
  messages : Nat → List ChangeMessage
  on_chain : ∀ i < count, (header i).chain = chain
  id_lt : ∀ i, i + 1 < count → (header i).snapshotId < (header (i + 1)).snapshotId
  sends : ∀ i < count, messages i = [.ofWhitelist (header i) (items i)]
    ∨ ∃ old, messages i = Cycle.changeMessages (header i) (Diff.between old (items i))
      ∧ ∀ j, i = j + 1 → old = items j

namespace Line

/-- A message of one of the updates of a line. -/
structure Entry where
  update : Nat
  message : ChangeMessage

variable {chain : String} {l : Line chain} {channel : Channel} {k n : Nat} {t : Tracker}

theorem id_strict {i j : Nat} (hij : i < j) (hj : j < l.count) :
    (l.header i).snapshotId < (l.header j).snapshotId := by
  induction j with
  | zero => omega
  | succ j ih =>
    have hnext := l.id_lt j hj
    rcases Nat.lt_succ_iff_lt_or_eq.mp hij with hlt | rfl
    · exact Int.lt_trans (ih hlt (by omega)) hnext
    · exact hnext

theorem header_of_mem {i : Nat} (hi : i < l.count) {m : ChangeMessage} (hm : m ∈ l.messages i) :
    m.header = l.header i := by
  rcases l.sends i hi with heq | ⟨old, heq, -⟩
  · rw [heq] at hm
    rw [List.mem_singleton.mp hm]
    rfl
  · rw [heq] at hm
    rcases Diff.mem_changeMessages hm with rfl | rfl
    · rfl
    · rfl

theorem nodup_messages {i : Nat} (hi : i < l.count) : (l.messages i).Nodup := by
  rcases l.sends i hi with heq | ⟨old, heq, -⟩
  · rw [heq]
    exact List.nodup_singleton _
  · rw [heq]
    exact Diff.nodup_changeMessages

/-- An update with a full message sends nothing else. -/
theorem messages_of_full {i : Nat} (hi : i < l.count) {m : ChangeMessage} (hm : m ∈ l.messages i)
    (hkind : m.kind = .full) : l.messages i = [.ofWhitelist (l.header i) (l.items i)] := by
  rcases l.sends i hi with heq | ⟨old, heq, -⟩
  · exact heq
  · rw [heq] at hm
    rcases Diff.mem_changeMessages hm with rfl | rfl
    · cases hkind
    · cases hkind

/-- The messages of an update are told apart by their kinds. -/
theorem eq_of_kind_eq {i : Nat} (hi : i < l.count) {m m' : ChangeMessage} (hm : m ∈ l.messages i)
    (hm' : m' ∈ l.messages i) (hkind : m.kind = m'.kind) : m = m' := by
  rcases l.sends i hi with heq | ⟨old, heq, -⟩
  · rw [heq] at hm hm'
    rw [List.mem_singleton.mp hm, List.mem_singleton.mp hm']
  · rw [heq] at hm hm'
    rcases Diff.mem_changeMessages hm with rfl | rfl
    · rcases Diff.mem_changeMessages hm' with rfl | rfl
      · rfl
      · cases hkind
    · rcases Diff.mem_changeMessages hm' with rfl | rfl
      · cases hkind
      · rfl

/-! ## What is known behind an update -/

/-- Whether a pool object is that of the last message, in the updates `k` to `n`, with its key. -/
def Latest (l : Line chain) (k n : Nat) (r : PoolRecord) : Prop :=
  ∃ i m, k ≤ i ∧ i ≤ n ∧ m ∈ l.messages i ∧ r ∈ m.records
    ∧ (∀ m' ∈ l.messages i, r.key ∈ m'.keys → m' = m)
    ∧ ∀ j, i < j → j ≤ n → ∀ m' ∈ l.messages j, r.key ∉ m'.keys

/-- A tracker that has what was sent in the updates `k` to `n`, and nothing newer. -/
structure CaughtUp (l : Line chain) (channel : Channel) (k n : Nat) (t : Tracker) : Prop where
  chain : t.chain = chain
  past : t.IsBefore ((l.header n).snapshotId + 1)
  keys : t.keys.keys = (l.items n).keys
  records : channel = .full →
    ∀ key ∈ t.keys.keys, ∃ r, r.key = key ∧ t.records.find? key = some r ∧ l.Latest k n r

/-- The only message of an update with a key, behind which there is no other update. -/
theorem latest_self {m : ChangeMessage} {r : PoolRecord} (hkn : k ≤ n) (hm : m ∈ l.messages n)
    (hr : r ∈ m.records) (honly : ∀ m' ∈ l.messages n, r.key ∈ m'.keys → m' = m) :
    l.Latest k n r := by
  refine ⟨n, m, hkn, Nat.le_refl n, hm, hr, honly, ?_⟩
  intro j hnj hjn
  omega

/-- What the next update does not name stays the latest. -/
theorem Latest.next {r : PoolRecord} (h : l.Latest k n r)
    (hnext : ∀ m ∈ l.messages (n + 1), r.key ∉ m.keys) : l.Latest k (n + 1) r := by
  obtain ⟨i, m, hki, hin, hm, hr, honly, hlast⟩ := h
  refine ⟨i, m, hki, by omega, hm, hr, honly, ?_⟩
  intro j hij hjn
  by_cases hj : j = n + 1
  · rw [hj]
    exact hnext
  · exact hlast j hij (by omega)

/-- The messages of an update leave a tracker no further than its id. -/
theorem past_follow (hn : n < l.count) (ht : t.IsBefore (l.header n).snapshotId)
    {ms : List ChangeMessage} (hms : ms.Perm (l.messages n)) :
    (t.follow (ms.map (·.inbound channel))).IsBefore ((l.header n).snapshotId + 1) := by
  refine Tracker.isBefore_follow (ht.mono (by omega)) fun m hm => ?_
  obtain ⟨m', hm', rfl⟩ := List.mem_map.mp hm
  show m'.header.snapshotId < _
  rw [header_of_mem hn (hms.mem_iff.mp hm')]
  exact Int.lt_succ _

/-- A full update leaves any tracker caught up that was not past it. -/
theorem caughtUp_full (hn : n < l.count) (hkn : k ≤ n)
    (hfull : l.messages n = [.ofWhitelist (l.header n) (l.items n)]) (hchain : t.chain = chain)
    (ht : t.IsBefore (l.header n).snapshotId) {ms : List ChangeMessage}
    (hms : ms.Perm (l.messages n)) :
    l.CaughtUp channel k n (t.follow (ms.map (·.inbound channel))) := by
  have hheader : t.chain = (l.header n).chain := hchain.trans (l.on_chain n hn).symm
  have hsent : ms = [.ofWhitelist (l.header n) (l.items n)] :=
    List.perm_singleton.mp (hfull ▸ hms)
  have hkeys : (t.follow (ms.map (·.inbound channel))).keys.keys = (l.items n).keys := by
    rw [hsent]
    exact Tracker.keys_follow_full hheader ht _
  refine ⟨(Tracker.chain_follow _ _).trans hchain, past_follow hn ht hms, hkeys, ?_⟩
  rintro rfl key hkey
  rw [hkeys] at hkey
  obtain ⟨r, hr, rfl⟩ := Whitelist.exists_record_of_mem_keys hkey
  refine ⟨r, rfl, ?_, latest_self hkn (m := .ofWhitelist (l.header n) (l.items n)) ?_ hr ?_⟩
  · rw [hsent]
    exact Tracker.find?_follow_full hheader ht hr
  · rw [hfull]
    exact List.mem_cons_self
  · intro m' hm' _
    rw [hfull] at hm'
    exact List.mem_singleton.mp hm'

/-- **The messages of the next update keep a tracker caught up.** -/
theorem CaughtUp.follow_next (h : l.CaughtUp channel k n t) (hn : n + 1 < l.count) (hkn : k ≤ n)
    {ms : List ChangeMessage} (hms : ms.Perm (l.messages (n + 1))) :
    l.CaughtUp channel k (n + 1) (t.follow (ms.map (·.inbound channel))) := by
  have hid := l.id_lt n hn
  have ht : t.IsBefore (l.header (n + 1)).snapshotId := h.past.mono (by omega)
  rcases l.sends (n + 1) hn with hfull | ⟨old, hchange, hold⟩
  · exact caughtUp_full hn (by omega) hfull h.chain ht hms
  obtain rfl := hold n rfl
  have hheader : t.chain = (l.header (n + 1)).chain := h.chain.trans (l.on_chain _ hn).symm
  have hperm := hms
  rw [hchange] at hperm
  have hkeys : (t.follow (ms.map (·.inbound channel))).keys.keys = (l.items (n + 1)).keys :=
    Tracker.keys_follow_between hperm hheader ht h.keys
  refine ⟨(Tracker.chain_follow _ _).trans h.chain, past_follow hn ht hms, hkeys, ?_⟩
  rintro rfl key hkey
  rw [hkeys] at hkey
  obtain ⟨hcame, hstayed⟩ := Tracker.find?_follow_change Diff.nodup_addedKeys
    (fun _ => Diff.notMem_removed) hperm hheader ht
  have hremoved : key ∉ (Diff.between (l.items n) (l.items (n + 1))).removed :=
    fun hrem => (Diff.mem_removed.mp hrem).2 hkey
  -- A key that came is in the addition; any other was there before, and no message names it.
  by_cases hadded : key ∈ (Diff.between (l.items n) (l.items (n + 1))).addedKeys
  · obtain ⟨r, hr, rfl⟩ := List.mem_map.mp hadded
    have hsent : (Diff.between (l.items n) (l.items (n + 1))).addition (l.header (n + 1))
        ∈ l.messages (n + 1) := by
      rw [hchange]
      exact Diff.addition_mem_changeMessages (List.ne_nil_of_mem hr)
    refine ⟨r, rfl, hcame r hr, latest_self (by omega) hsent hr fun m' hm' hkey' => ?_⟩
    · rw [hchange] at hm'
      rcases Diff.mem_changeMessages hm' with rfl | rfl
      · rfl
      · exact absurd hkey' hremoved
  · have hbefore : key ∈ t.keys.keys := by
      rw [h.keys]
      exact Classical.byContradiction fun hnot => hadded (Diff.mem_addedKeys.mpr ⟨hkey, hnot⟩)
    obtain ⟨r, rfl, hfind, hlatest⟩ := h.records rfl key hbefore
    refine ⟨r, rfl, (hstayed _ hadded hremoved).trans hfind, hlatest.next fun m' hm' => ?_⟩
    rw [hchange] at hm'
    rcases Diff.mem_changeMessages hm' with rfl | rfl
    · exact hadded
    · exact hremoved

/-! ## What is known behind a delivery -/

/-- The last update of a sorted delivery stands at its end, with all of its messages. -/
theorem exists_last {sent : List Entry} (hnodup : sent.Nodup)
    (hsorted : sent.Pairwise (·.update ≤ ·.update)) (hn : n < l.count)
    (hsent : ∀ x ∈ sent, x.message ∈ l.messages x.update) (hle : ∀ x ∈ sent, x.update ≤ n)
    (hall : ∀ m ∈ l.messages n, ⟨n, m⟩ ∈ sent) :
    ∃ front back, sent = front ++ back ∧ (∀ x ∈ front, x.update < n) ∧ (∀ x ∈ back, x.update = n)
      ∧ (back.map (·.message)).Perm (l.messages n) := by
  obtain ⟨front, back, rfl, hfront, hback⟩ := InOrder.exists_split hsorted hle
  refine ⟨front, back, rfl, hfront, hback, ?_⟩
  -- Entries of one update are told apart by their messages, so none of those is there twice.
  have hinj : ∀ x ∈ back, ∀ y ∈ back, x.message = y.message → x = y := by
    rintro ⟨i, m⟩ hx ⟨j, m'⟩ hy rfl
    obtain rfl : i = n := hback _ hx
    obtain rfl : j = i := hback _ hy
    rfl
  refine (List.perm_ext_iff_of_nodup ?_ (nodup_messages hn)).mpr fun m => ⟨?_, fun hm => ?_⟩
  · exact (List.nodup_append.mp hnodup).2.1.map_on hinj
  · intro hm
    obtain ⟨x, hx, rfl⟩ := List.mem_map.mp hm
    have hmem := hsent x (List.mem_append_right _ hx)
    rw [hback x hx] at hmem
    exact hmem
  · rcases List.mem_append.mp (hall m hm) with hx | hx
    · exact absurd (hfront _ hx) (Nat.lt_irrefl n)
    · exact List.mem_map.mpr ⟨_, hx, rfl⟩

/-- Behind a sorted delivery of everything from a full update on, any tracker is caught up. -/
theorem caughtUp_sorted {sent : List Entry} (hchain : t.chain = chain) (hkn : k ≤ n)
    (hn : n < l.count) (hfull : l.messages k = [.ofWhitelist (l.header k) (l.items k)])
    (ht : t.IsBefore (l.header k).snapshotId) (hnodup : sent.Nodup)
    (hsorted : sent.Pairwise (·.update ≤ ·.update))
    (hsent : ∀ x ∈ sent, x.message ∈ l.messages x.update) (hle : ∀ x ∈ sent, x.update ≤ n)
    (hall : ∀ i, k ≤ i → i ≤ n → ∀ m ∈ l.messages i, ⟨i, m⟩ ∈ sent) :
    l.CaughtUp channel k n (t.follow (sent.map (·.message.inbound channel))) := by
  induction n, hkn using Nat.le_induction generalizing sent with
  | base =>
    obtain ⟨front, back, rfl, hfront, -, hback⟩ :=
      exists_last hnodup hsorted hn hsent hle (hall k (Nat.le_refl k) (Nat.le_refl k))
    -- Only older updates stand in front of the full one, so it is not stale to the tracker.
    have hbefore : (t.follow (front.map (·.message.inbound channel))).IsBefore
        (l.header k).snapshotId := by
      refine Tracker.isBefore_follow ht fun m hm => ?_
      obtain ⟨x, hx, rfl⟩ := List.mem_map.mp hm
      have hmem := hsent x (List.mem_append_left _ hx)
      have hlt := hfront x hx
      show x.message.header.snapshotId < _
      rw [header_of_mem (by omega) hmem]
      exact id_strict hlt hn
    have hlast : l.CaughtUp channel k k ((t.follow (front.map (·.message.inbound channel))).follow
        ((back.map (·.message)).map (·.inbound channel))) :=
      caughtUp_full hn (Nat.le_refl k) hfull ((Tracker.chain_follow _ _).trans hchain) hbefore hback
    rw [List.map_map] at hlast
    rw [List.map_append, Tracker.follow_append]
    exact hlast
  | succ n hkn ih =>
    obtain ⟨front, back, rfl, hfront, hlast, hback⟩ :=
      exists_last hnodup hsorted hn hsent hle (hall (n + 1) (by omega) (Nat.le_refl _))
    -- What stands in front of the last update is a delivery of everything up to the one before.
    have hcaught : l.CaughtUp channel k n (t.follow (front.map (·.message.inbound channel))) := by
      refine ih (by omega) (List.nodup_append.mp hnodup).1 (List.pairwise_append.mp hsorted).1
        (fun x hx => hsent x (List.mem_append_left _ hx))
        (fun x hx => Nat.le_of_lt_succ (hfront x hx)) fun i hki hin m hm => ?_
      rcases List.mem_append.mp (hall i hki (by omega) m hm) with hx | hx
      · exact hx
      · have hi : i = n + 1 := hlast _ hx
        omega
    have hnext := hcaught.follow_next hn hkn hback
    rw [List.map_map] at hnext
    rw [List.map_append, Tracker.follow_append]
    exact hnext

/--
**Behind a delivery of everything from a full update on, any tracker is caught up** that was not past
that update.
-/
theorem caughtUp_follow {sent : List Entry} (horder : InOrder Entry.update sent)
    (hchain : t.chain = chain) (hkn : k ≤ n) (hn : n < l.count)
    (hfull : l.messages k = [.ofWhitelist (l.header k) (l.items k)])
    (ht : t.IsBefore (l.header k).snapshotId)
    (hsent : ∀ x ∈ sent, x.message ∈ l.messages x.update) (hle : ∀ x ∈ sent, x.update ≤ n)
    (hall : ∀ i, k ≤ i → i ≤ n → ∀ m ∈ l.messages i, ⟨i, m⟩ ∈ sent) :
    l.CaughtUp channel k n (t.follow (sent.map (·.message.inbound channel))) := by
  obtain ⟨firsts, hnodup, hsorted, hmem, hfollow⟩ :=
    horder.exists_firsts (·.message.inbound channel) t
  rw [← hfollow]
  exact caughtUp_sorted hchain hkn hn hfull ht hnodup hsorted
    (fun x hx => hsent x ((hmem x).mp hx)) (fun x hx => hle x ((hmem x).mp hx))
    fun i hki hin m hm => (hmem _).mpr (hall i hki hin m hm)

end Line

end PoolFeed
