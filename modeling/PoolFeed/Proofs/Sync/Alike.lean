import PoolFeed.Proofs.Sync.Bystanders

/-!
# Benches that a chain cannot tell apart

What a cycle of a chain does depends on the counter and the snapshots of its chain, on what store
and transport were told about them, and on the clock. The clock only ever becomes a time that is
published and stored. So on two benches that agree on a chain, cycles of the chain do the same, step
by step, up to the times.

How far times may differ is settled by a view of them: those that it does not tell apart count as
the same. A view that shows every time as it is leaves no difference at all.

## Main statements

* `Cycle.Alike.step` — cycles alike stay alike
* `SyncRequest.sync_alike` — a request has the same outcome on benches alike
* `Bench.Alike.of_unmoved_left` — benches stay alike if one is moved by cycles of other chains
-/

namespace PoolFeed

open Text (Bytes)

/-! ## Messages alike -/

variable {α : Type} {view : Timestamp → α}

namespace ChangeMessage

/-- Whether two messages differ at most in their time, and not to a view. -/
structure Alike (view : Timestamp → α) (m n : ChangeMessage) : Prop where
  chain : m.header.chain = n.header.chain
  snapshotId : m.header.snapshotId = n.header.snapshotId
  timestamp : view m.header.timestamp = view n.header.timestamp
  change : m.change = n.change

theorem Alike.kind {m n : ChangeMessage} (h : m.Alike view n) : m.kind = n.kind := by
  rw [ChangeMessage.kind, ChangeMessage.kind, h.change]

theorem Alike.eq {m n : ChangeMessage} (h : m.Alike view n) (hview : Function.Injective view) :
    m = n := by
  obtain ⟨⟨chain, id, time⟩, change⟩ := m
  obtain ⟨⟨chain', id', time'⟩, change'⟩ := n
  obtain ⟨hchain, hid, htime, hchange⟩ := h
  cases hchain
  cases hid
  cases hview htime
  cases hchange
  rfl

/-- Whether two payloads of a channel differ at most in the time of their message. -/
def PayloadsAlike (view : Timestamp → α) (channel : Channel) (b b' : Bytes) : Prop :=
  b = b' ∨ ∃ m n : ChangeMessage, m.Alike view n ∧ b = m.encode channel ∧ b' = n.encode channel

theorem forall₂_payloadsAlike_self (view : Timestamp → α) (channel : Channel) (bs : List Bytes) :
    List.Forall₂ (PayloadsAlike view channel) bs bs :=
  List.forall₂_same.mpr fun _ _ => Or.inl rfl

theorem eq_of_payloadsAlike (hview : Function.Injective view) {channel : Channel}
    {bs bs' : List Bytes} (h : List.Forall₂ (PayloadsAlike view channel) bs bs') : bs = bs' := by
  refine List.forall₂_eq_eq_eq ▸ h.imp ?_
  rintro b b' (heq | ⟨m, n, hm, rfl, rfl⟩)
  · exact heq
  · rw [hm.eq hview]

/-- The messages of a change at different times. -/
theorem alike_messages {chain : String} {id : Int} {t t' : Timestamp} (ht : view t = view t')
    (items : Whitelist) {base base' : Option Snapshot}
    (hbase : base.map (fun s => (s.snapshotId, s.items))
      = base'.map fun s => (s.snapshotId, s.items)) :
    List.Forall₂ (fun m n => m.Alike view n ∧ m.header.chain = chain)
      (Cycle.messages ⟨chain, id, t⟩ items base) (Cycle.messages ⟨chain, id, t'⟩ items base') := by
  have hmessage : ∀ change, (⟨⟨chain, id, t⟩, change⟩ : ChangeMessage).Alike view
      ⟨⟨chain, id, t'⟩, change⟩ := fun change => ⟨rfl, rfl, ht, rfl⟩
  cases base with
  | none =>
    cases base' with
    | none => exact .cons ⟨hmessage _, rfl⟩ .nil
    | some s' => cases hbase
  | some s =>
    cases base' with
    | none => cases hbase
    | some s' =>
      have hitems : s.items = s'.items := (Prod.mk.inj (Option.some.inj hbase)).2
      simp only [Cycle.messages, Cycle.changeMessages]
      rw [hitems]
      refine List.rel_append ?_ ?_
      · split
        · exact .nil
        · exact .cons ⟨hmessage _, rfl⟩ .nil
      · split
        · exact .nil
        · exact .cons ⟨hmessage _, rfl⟩ .nil

end ChangeMessage

/-! ## Benches alike -/

namespace Bench

/-- Whether two benches hold the same of a chain, up to times that a view does not tell apart. -/
structure Agrees (view : Timestamp → α) (t : Topics) (chain : String) (w w' : Bench) : Prop where
  counter : w.store.counter chain = w'.store.counter chain
  contents : w.store.contents view chain = w'.store.contents view chain
  payloads : ∀ channel, List.Forall₂ (ChangeMessage.PayloadsAlike view channel)
    (w.transport.payloadsOn (t.subject chain channel))
    (w'.transport.payloadsOn (t.subject chain channel))

/-- Whether two benches hold the same of a chain. -/
structure Same (t : Topics) (chain : String) (w w' : Bench) : Prop where
  counter : w.store.counter chain = w'.store.counter chain
  editionsOf : w.store.editionsOf chain = w'.store.editionsOf chain
  payloads : ∀ channel, w.transport.payloadsOn (t.subject chain channel)
    = w'.transport.payloadsOn (t.subject chain channel)

/-- Whether two benches hold the same of a chain and were told the same about it. -/
structure Alike (view : Timestamp → α) (t : Topics) (chain : String) (w w' : Bench) : Prop
    extends Agrees view t chain w w' where
  loadsFail : w.store.loadsFail = w'.store.loadsFail
  appendsFail : w.store.appendsFail = w'.store.appendsFail
  failing : ∀ channel, w.transport.failing.contains (t.subject chain channel)
    = w'.transport.failing.contains (t.subject chain channel)
  stalled : ∀ channel, w.transport.stalled.contains (t.subject chain channel)
    = w'.transport.stalled.contains (t.subject chain channel)
  failAfter : w.transport.failAfter = w'.transport.failAfter
  /-- Where the number of payloads counts, it is the same. -/
  published : w.transport.failAfter = none
    ∨ w.transport.published.length = w'.transport.published.length

variable {t : Topics} {chain : String} {w w' : Bench}

theorem Agrees.refl (view : Timestamp → α) (t : Topics) (chain : String) (w : Bench) :
    Agrees view t chain w w :=
  ⟨rfl, rfl, fun channel => ChangeMessage.forall₂_payloadsAlike_self view channel _⟩

/-- Where times are shown as they are, nothing differs. -/
theorem Agrees.same (h : Agrees view t chain w w') (hview : Function.Injective view) :
    Same t chain w w' :=
  ⟨h.counter, MemoryStore.editionsOf_of_contents view hview h.contents,
    fun channel => ChangeMessage.eq_of_payloadsAlike hview (h.payloads channel)⟩

theorem Alike.refl (view : Timestamp → α) (t : Topics) (chain : String) (w : Bench) :
    Alike view t chain w w :=
  ⟨.refl view t chain w, rfl, rfl, fun _ => rfl, fun _ => rfl, rfl, Or.inr rfl⟩

theorem Alike.now (h : Alike view t chain w w') (time time' : Timestamp) :
    Alike view t chain { w with now := time } { w' with now := time' } :=
  ⟨⟨h.counter, h.contents, h.payloads⟩, h.loadsFail, h.appendsFail, h.failing, h.stalled,
    h.failAfter, h.published⟩

theorem Alike.latest? (h : Alike view t chain w w') :
    (w.store.latest? chain).map (fun s => (s.snapshotId, s.items))
      = (w'.store.latest? chain).map fun s => (s.snapshotId, s.items) := by
  rw [MemoryStore.latest?_contents view, MemoryStore.latest?_contents view, h.contents]

theorem Alike.nextId (h : Alike view t chain w w') {floor floor' : Option Int}
    (hfloor : floor = floor') :
    w.store.nextId chain floor = w'.store.nextId chain floor' := by
  show max (w.store.counter chain) _ + 1 = max (w'.store.counter chain) _ + 1
  rw [h.counter, hfloor]

theorem Alike.refuses (h : Alike view t chain w w') (channel : Channel) :
    w.transport.refuses (t.subject chain channel)
      = w'.transport.refuses (t.subject chain channel) := by
  rw [RecordingTransport.refuses, RecordingTransport.refuses, h.failing channel, ← h.failAfter]
  rcases h.published with hnone | hlength
  · rw [hnone]
    rfl
  · rw [hlength]

/-- Benches alike stay alike when both are given the next id. -/
theorem Alike.counted (h : Alike view t chain w w') (id : Int) :
    Alike view t chain
      { w with store := { w.store with counters := w.store.counters.insert chain id } }
      { w' with store := { w'.store with counters := w'.store.counters.insert chain id } } := by
  refine ⟨⟨?_, h.contents, h.payloads⟩, h.loadsFail, h.appendsFail, h.failing, h.stalled,
    h.failAfter, h.published⟩
  show ((w.store.counters.insert chain id).find? chain).getD 0
    = ((w'.store.counters.insert chain id).find? chain).getD 0
  rw [SortedMap.find?_insert, SortedMap.find?_insert, if_pos rfl, if_pos rfl]

/-- Benches alike stay alike when both store a snapshot of the chain. -/
theorem Alike.stored (h : Alike view t chain w w') {x x' : Snapshot} (hchain : x.chain = chain)
    (hchain' : x'.chain = chain) (hid : x.snapshotId = x'.snapshotId) (hitems : x.items = x'.items)
    (htime : view x.publishedAt = view x'.publishedAt) :
    Alike view t chain { w with store := w.store.store x }
      { w' with store := w'.store.store x' } := by
  refine ⟨⟨h.counter, ?_, h.payloads⟩, h.loadsFail, h.appendsFail, h.failing, h.stalled,
    h.failAfter, h.published⟩
  show (w.store.store x).contents view chain = (w'.store.store x').contents view chain
  rw [MemoryStore.contents_store, MemoryStore.contents_store, hchain, hchain', if_pos rfl,
    if_pos rfl, hid, hitems, htime, h.contents]

/-- Benches alike stay alike when both record a message of the chain. -/
theorem Alike.recorded (p : Publisher) (h : Alike view p.topics chain w w') {m n : ChangeMessage}
    (hm : m.Alike view n) (hchain : m.header.chain = chain) (channel : Channel) :
    Alike view p.topics chain
      { w with transport := w.transport.holding [p.emission m channel] }
      { w' with transport := w'.transport.holding [p.emission n channel] } := by
  refine ⟨⟨h.counter, h.contents, ?_⟩, h.loadsFail, h.appendsFail, h.failing, h.stalled,
    h.failAfter, ?_⟩
  · intro channel'
    have hchain' : n.header.chain = chain := hm.chain ▸ hchain
    show List.Forall₂ _ ((w.transport.holding _).payloadsOn _)
      ((w'.transport.holding _).payloadsOn _)
    rw [RecordingTransport.payloadsOn_holding, RecordingTransport.payloadsOn_holding,
      Publisher.payloadsUnder_emission hchain, Publisher.payloadsUnder_emission hchain']
    refine List.rel_append (h.payloads channel') ?_
    split
    · exact .cons (Or.inr ⟨m, n, hm, rfl, rfl⟩) .nil
    · exact .nil
  · refine h.published.imp_right fun hlength => ?_
    show (w.transport.published ++ _).length = (w'.transport.published ++ _).length
    rw [List.length_append, List.length_append, hlength]
    rfl

variable {v : Bench}

theorem Agrees.of_unmoved_left (h : Agrees view t chain w v) (hw : Unmoved t chain w w') :
    Agrees view t chain w' v where
  counter := hw.counter.trans h.counter
  contents := (MemoryStore.contents_congr view hw.editionsOf).trans h.contents
  payloads := fun channel => by rw [hw.payloads]; exact h.payloads channel

theorem Agrees.of_unmoved_right (h : Agrees view t chain v w) (hw : Unmoved t chain w w') :
    Agrees view t chain v w' where
  counter := h.counter.trans hw.counter.symm
  contents := h.contents.trans (MemoryStore.contents_congr view hw.editionsOf).symm
  payloads := fun channel => by rw [hw.payloads]; exact h.payloads channel

/-- Where payloads are not counted, a chain does not notice a move of others. -/
theorem Alike.of_unmoved_left (h : Alike view t chain w v) (hw : Unmoved t chain w w')
    (hnone : w.transport.failAfter = none) : Alike view t chain w' v where
  toAgrees := h.toAgrees.of_unmoved_left hw
  loadsFail := hw.loadsFail.trans h.loadsFail
  appendsFail := hw.appendsFail.trans h.appendsFail
  failing := fun channel => by rw [hw.failing]; exact h.failing channel
  stalled := fun channel => by rw [hw.stalled]; exact h.stalled channel
  failAfter := hw.failAfter.trans h.failAfter
  published := Or.inl (hw.failAfter.trans hnone)

theorem Alike.of_unmoved_right (h : Alike view t chain v w) (hw : Unmoved t chain w w')
    (hnone : w.transport.failAfter = none) : Alike view t chain v w' where
  toAgrees := h.toAgrees.of_unmoved_right hw
  loadsFail := h.loadsFail.trans hw.loadsFail.symm
  appendsFail := h.appendsFail.trans hw.appendsFail.symm
  failing := fun channel => by rw [hw.failing]; exact h.failing channel
  stalled := fun channel => by rw [hw.stalled]; exact h.stalled channel
  failAfter := h.failAfter.trans hw.failAfter.symm
  published := Or.inl (h.failAfter.trans hnone)

end Bench

/-! ## Cycles alike -/

namespace Publisher

variable {p : Publisher} {chain : String} {w w' : Bench}

/-- What two transports were told alike of a subject is taken by both, or by none. -/
theorem emit_alike {x y : RecordingTransport} {subject : String}
    (hrefuses : x.refuses subject = y.refuses subject)
    (hstalled : x.stalled.contains subject = y.stalled.contains subject) (b b' : Bytes) :
    (p.emit subject b x = ⟨.ok (), x.holding [(subject, b)], .zero⟩
        ∧ p.emit subject b' y = ⟨.ok (), y.holding [(subject, b')], .zero⟩)
      ∨ ∃ reason delay, p.emit subject b x = ⟨.error reason, x, delay⟩
        ∧ p.emit subject b' y = ⟨.error reason, y, delay⟩ := by
  have hpublish : ∀ (payload : Bytes) (x : RecordingTransport),
      Transport.publish subject payload x = x.publish subject payload := fun _ _ => rfl
  simp only [emit]
  rw [hpublish, hpublish, RecordingTransport.publish, RecordingTransport.publish, hrefuses,
    hstalled]
  by_cases hrefused : y.refuses subject = true
  · rw [if_pos hrefused, if_pos hrefused]
    exact Or.inr ⟨_, _, if_pos (Nat.zero_le _), if_pos (Nat.zero_le _)⟩
  · rw [if_neg hrefused, if_neg hrefused]
    by_cases hstall : y.stalled.contains subject = true
    · rw [if_pos hstall, if_pos hstall]
      refine Or.inr ?_
      simp only
      split
      · exact ⟨_, _, rfl, rfl⟩
      · exact ⟨_, _, rfl, rfl⟩
    · rw [if_neg hstall, if_neg hstall]
      exact Or.inl ⟨if_pos (Nat.zero_le _), if_pos (Nat.zero_le _)⟩

/-- A message of the chain is taken on both of two benches alike, or it fails alike. -/
theorem send_alike (h : Bench.Alike view p.topics chain w w') {m n : ChangeMessage}
    (hm : m.Alike view n) (hchain : m.header.chain = chain) (channel : Channel) :
    (p.send m channel w.transport).result = (p.send n channel w'.transport).result
      ∧ Bench.Alike view p.topics chain
        { w with transport := (p.send m channel w.transport).transport }
        { w' with transport := (p.send n channel w'.transport).transport } := by
  have hchain' : n.header.chain = chain := hm.chain ▸ hchain
  have hrecorded := h.recorded p hm hchain channel
  unfold emission at hrecorded
  rw [hchain, hchain'] at hrecorded
  unfold send
  rw [hchain, hchain']
  rcases emit_alike (p := p) (h.refuses channel) (h.stalled channel) (m.encode channel)
    (n.encode channel) with ⟨hok, hok'⟩ | ⟨reason, delay, herror, herror'⟩
  · rw [hok, hok']
    exact ⟨rfl, hrecorded⟩
  · have hfailure : p.failure m channel reason = p.failure n channel reason := by
      unfold failure
      rw [hm.chain, hm.kind]
    rw [herror, herror']
    simp only
    rw [hfailure]
    exact ⟨rfl, h⟩

end Publisher

namespace Cycle

/-- Two cycles that differ at most in times, and not to a view. -/
inductive Alike (view : Timestamp → α) (chain : String) : Cycle → Cycle → Prop
  | load : Alike view chain .load .load
  | allocate {previous previous' : Option Snapshot}
    (h : previous.map (fun s => (s.snapshotId, s.items))
      = previous'.map fun s => (s.snapshotId, s.items)) :
    Alike view chain (.allocate previous) (.allocate previous')
  | send {result : UpdateResult} {time time' : Timestamp} {delivered : List Kind}
    {m n : ChangeMessage} {channel : Channel} {rest rest' : List ChangeMessage}
    (htime : view time = view time') (h : m.Alike view n ∧ m.header.chain = chain)
    (hrest : List.Forall₂ (fun m n => m.Alike view n ∧ m.header.chain = chain) rest rest') :
    Alike view chain (.send ⟨result, time, delivered, m, channel, rest⟩)
      (.send ⟨result, time', delivered, n, channel, rest'⟩)
  | append (result : UpdateResult) {time time' : Timestamp} (htime : view time = view time') :
    Alike view chain (.append result time) (.append result time')
  | done (outcome : Except SyncError UpdateResult) :
    Alike view chain (.done outcome) (.done outcome)

variable {p : Publisher} {chain : String} {request : SyncRequest} {w w' : Bench} {c c' : Cycle}

theorem Alike.outcome? (h : Alike view chain c c') : c.outcome? = c'.outcome? := by
  cases h <;> rfl

theorem alike_sendAll {result : UpdateResult} {time time' : Timestamp}
    (htime : view time = view time') {delivered : List Kind} {ms ns : List ChangeMessage}
    (h : List.Forall₂ (fun m n => m.Alike view n ∧ m.header.chain = chain) ms ns) :
    Alike view chain (sendAll result time delivered ms) (sendAll result time' delivered ns) := by
  cases h with
  | nil => exact .append result htime
  | cons hm hrest => exact .send htime hm hrest

theorem alike_stepLoad (h : Bench.Alike view p.topics request.chain w w') :
    Bench.Alike view p.topics request.chain (stepLoad request w).world (stepLoad request w').world
      ∧ Alike view request.chain (stepLoad request w).next (stepLoad request w').next := by
  unfold stepLoad
  rw [MemoryStore.loadLatest_eq, MemoryStore.loadLatest_eq, h.loadsFail]
  by_cases hfail : w'.store.loadsFail
  · rw [if_pos hfail, if_pos hfail]
    exact ⟨h, .done _⟩
  · rw [if_neg hfail, if_neg hfail]
    exact ⟨h, .allocate h.latest?⟩

theorem alike_stepAllocate (h : Bench.Alike view p.topics request.chain w w')
    (hnow : view w.now = view w'.now) {previous previous' : Option Snapshot}
    (hprevious : previous.map (fun s => (s.snapshotId, s.items))
      = previous'.map fun s => (s.snapshotId, s.items)) :
    Bench.Alike view p.topics request.chain (stepAllocate request previous w).world
        (stepAllocate request previous' w').world
      ∧ Alike view request.chain (stepAllocate request previous w).next
        (stepAllocate request previous' w').next := by
  have hfloor : previous.map (·.snapshotId) = previous'.map (·.snapshotId) := by
    have := congrArg (Option.map Prod.fst) hprevious
    rwa [Option.map_map, Option.map_map] at this
  have hbase : (base? request previous).map (fun s => (s.snapshotId, s.items))
      = (base? request previous').map fun s => (s.snapshotId, s.items) := by
    unfold base?
    split
    · rfl
    · exact hprevious
  have hid := h.nextId hfloor
  have hresult : ∀ id, plannedResult request (base? request previous) id
      = plannedResult request (base? request previous') id := by
    intro id
    generalize base? request previous = base at hbase
    generalize base? request previous' = base' at hbase
    cases base with
    | none =>
      cases base' with
      | none => rfl
      | some s' => cases hbase
    | some s =>
      cases base' with
      | none => cases hbase
      | some s' =>
        have hitems : s.items = s'.items := (Prod.mk.inj (Option.some.inj hbase)).2
        rw [plannedResult, plannedResult, hitems]
  have hcounted := h.counted (w'.store.nextId request.chain (previous'.map (·.snapshotId)))
  have hallocate : ∀ (floor : Option Int) (s : MemoryStore),
      SnapshotStore.allocate request.chain floor s = ⟨.ok (s.nextId request.chain floor),
        { s with counters := s.counters.insert request.chain (s.nextId request.chain floor) },
        []⟩ := fun _ _ => rfl
  unfold stepAllocate
  rw [hallocate, hallocate, hid]
  simp only
  rw [hresult]
  exact ⟨hcounted, alike_sendAll hnow (ChangeMessage.alike_messages hnow request.items hbase)⟩

theorem alike_stepSend (h : Bench.Alike view p.topics chain w w') {result : UpdateResult}
    {time time' : Timestamp} (htime : view time = view time') {delivered : List Kind}
    {m n : ChangeMessage} {channel : Channel} {rest rest' : List ChangeMessage}
    (hm : m.Alike view n ∧ m.header.chain = chain)
    (hrest : List.Forall₂ (fun m n => m.Alike view n ∧ m.header.chain = chain) rest rest') :
    let s : Sending := ⟨result, time, delivered, m, channel, rest⟩
    let s' : Sending := ⟨result, time', delivered, n, channel, rest'⟩
    Bench.Alike view p.topics chain (stepSend p s w).world (stepSend p s' w').world
      ∧ Alike view chain (stepSend p s w).next (stepSend p s' w').next := by
  intro s s'
  obtain ⟨hsend, hworld⟩ := Publisher.send_alike h hm.1 hm.2 channel
  refine ⟨hworld, ?_⟩
  simp only [stepSend, s, s']
  rw [hsend]
  cases (p.send n channel w'.transport).result with
  | error e => exact .done _
  | ok =>
    cases channel with
    | minimal => exact .send htime hm hrest
    | full =>
      have hkind := hm.1.kind
      simp only [sent]
      rw [hkind]
      exact alike_sendAll htime hrest

theorem alike_stepAppend (h : Bench.Alike view p.topics request.chain w w') (result : UpdateResult)
    {time time' : Timestamp} (htime : view time = view time') :
    Bench.Alike view p.topics request.chain (stepAppend request result time w).world
        (stepAppend request result time' w').world
      ∧ Alike view request.chain (stepAppend request result time w).next
        (stepAppend request result time' w').next := by
  unfold stepAppend
  rw [MemoryStore.append_eq, MemoryStore.append_eq, h.appendsFail]
  by_cases hfail : w'.store.appendsFail
  · rw [if_pos hfail, if_pos hfail]
    exact ⟨h, .done _⟩
  · rw [if_neg hfail, if_neg hfail]
    exact ⟨h.stored rfl rfl rfl rfl htime, .done _⟩

/--
**Cycles alike stay alike**, and so do the benches they run on, if the clocks look alike when an
id is taken.
-/
theorem Alike.step (hc : Alike view request.chain c c')
    (h : Bench.Alike view p.topics request.chain w w')
    (hnow : ∀ previous, c = .allocate previous → view w.now = view w'.now) :
    Bench.Alike view p.topics request.chain (step p request w c).world (step p request w' c').world
      ∧ Alike view request.chain (step p request w c).next (step p request w' c').next := by
  cases hc with
  | load => exact alike_stepLoad h
  | allocate hprevious => exact alike_stepAllocate h (hnow _ rfl) hprevious
  | send htime hm hrest => exact alike_stepSend h htime hm hrest
  | append result htime => exact alike_stepAppend h result htime
  | done outcome => exact ⟨h, .done outcome⟩

/-- Nothing that a cycle does moves the clock. -/
theorem now_step (p : Publisher) (request : SyncRequest) (w : Bench) (c : Cycle) :
    (step p request w c).world.now = w.now := by
  cases c with
  | load => rfl
  | allocate => rfl
  | send => rfl
  | append result time =>
    simp only [step, stepAppend]
    split <;> rfl
  | done => rfl

/-- Cycles alike have the same outcome. -/
theorem Alike.runFrom {w w' : Bench} {c c' : Cycle} (hc : Alike view request.chain c c')
    (h : Bench.Alike view p.topics request.chain w w') (hnow : view w.now = view w'.now) :
    (Cycle.runFrom p request w c).outcome = (Cycle.runFrom p request w' c').outcome
      ∧ Bench.Alike view p.topics request.chain (Cycle.runFrom p request w c).world
        (Cycle.runFrom p request w' c').world := by
  cases hout : c.outcome? with
  | some outcome =>
    have hout' : c'.outcome? = some outcome := hc.outcome? ▸ hout
    rw [runFrom_of_outcome hout, runFrom_of_outcome hout']
    exact ⟨rfl, h⟩
  | none =>
    have hout' : c'.outcome? = none := hc.outcome? ▸ hout
    have hlt := step_rank_lt p request w c hout
    obtain ⟨hworld, hnext⟩ := hc.step h fun _ _ => hnow
    rw [(runFrom_step hout).1, (runFrom_step hout').1, (runFrom_step hout).2,
      (runFrom_step hout').2]
    refine Alike.runFrom hnext hworld ?_
    rw [now_step, now_step, hnow]
termination_by c.rank

end Cycle

namespace SyncRequest

variable {p : Publisher} {chain : String} {request : SyncRequest} {w w' : Bench}

/-- **A request has the same outcome on benches alike**, and leaves them alike. -/
theorem sync_alike (h : Bench.Alike view p.topics request.chain w w')
    (hnow : view w.now = view w'.now) :
    (request.sync p w).outcome = (request.sync p w').outcome
      ∧ Bench.Alike view p.topics request.chain (request.sync p w).world
        (request.sync p w').world := by
  cases hcheck : request.check with
  | error e =>
    simp only [sync, hcheck]
    exact ⟨trivial, h⟩
  | ok =>
    rw [sync_of_check hcheck, sync_of_check hcheck]
    exact Cycle.Alike.load.runFrom h hnow

end SyncRequest

end PoolFeed
