import PoolFeed.Proofs.Message.Topics
import PoolFeed.Proofs.Roundtrip.Messages
import PoolFeed.Proofs.Sync.Accounting

/-!
# What is recorded under a subject

Subjects tell chains and channels apart, so the payloads under the subject of a chain and a channel
are those of the messages that cycles of the chain sent there.

## Main statements

* `Cycle.Exit.delivered` — what a cycle adds under the subjects of its chain
* `Cycle.readable_of_mem_due` — when the messages of a cycle are readable
-/

namespace PoolFeed

open Text (Bytes)

/-! ## Payloads under a subject -/

/-- The payloads of some emissions that stand under a subject. -/
def payloadsUnder (subject : String) (sent : List (String × Bytes)) : List Bytes :=
  (sent.filter (·.1 = subject)).map (·.2)

theorem payloadsUnder_append (subject : String) (sent sent' : List (String × Bytes)) :
    payloadsUnder subject (sent ++ sent')
      = payloadsUnder subject sent ++ payloadsUnder subject sent' := by
  unfold payloadsUnder
  rw [List.filter_append, List.map_append]

/-- The payloads that a transport holds under a subject. -/
def RecordingTransport.payloadsOn (t : RecordingTransport) (subject : String) : List Bytes :=
  payloadsUnder subject t.published

theorem RecordingTransport.payloadsOn_holding (t : RecordingTransport) (subject : String)
    (sent : List (String × Bytes)) :
    (t.holding sent).payloadsOn subject = t.payloadsOn subject ++ payloadsUnder subject sent :=
  payloadsUnder_append subject t.published sent

namespace Publisher

variable {p : Publisher} {chain : String} {channel : Channel}

/-- A message stands under the subject of its own channel. -/
theorem payloadsUnder_emission {m : ChangeMessage} (hm : m.header.chain = chain)
    (channel' : Channel) : payloadsUnder (p.topics.subject chain channel) [p.emission m channel']
      = if channel' = channel then [m.encode channel] else [] := by
  unfold payloadsUnder emission
  rw [hm]
  by_cases h : channel' = channel
  · rw [if_pos h, h, List.filter_cons_of_pos (by simp)]
    rfl
  · have hne : p.topics.subject chain channel' ≠ p.topics.subject chain channel :=
      fun he => h (Topics.subject_inj he).2
    rw [if_neg h, List.filter_cons_of_neg (by simp [hne])]
    rfl

theorem payloadsUnder_emission_of_ne {m : ChangeMessage} (hm : m.header.chain ≠ chain)
    (channel' : Channel) :
    payloadsUnder (p.topics.subject chain channel) [p.emission m channel'] = [] := by
  have hne : p.topics.subject m.header.chain channel' ≠ p.topics.subject chain channel :=
    fun he => hm (Topics.subject_inj he).1
  unfold payloadsUnder emission
  rw [List.filter_cons_of_neg (by simp [hne])]
  rfl

theorem emissions_cons (p : Publisher) (m : ChangeMessage) (ms : List ChangeMessage) :
    p.emissions (m :: ms)
      = [p.emission m .minimal] ++ ([p.emission m .full] ++ p.emissions ms) :=
  rfl

/-- Under a subject of their chain stand the payloads of messages, in order. -/
theorem payloadsUnder_emissions {ms : List ChangeMessage} (h : ∀ m ∈ ms, m.header.chain = chain) :
    payloadsUnder (p.topics.subject chain channel) (p.emissions ms)
      = ms.map (·.encode channel) := by
  induction ms with
  | nil => rfl
  | cons m ms ih =>
    have hm := h m List.mem_cons_self
    rw [emissions_cons, payloadsUnder_append, payloadsUnder_append, payloadsUnder_emission hm,
      payloadsUnder_emission hm, ih fun n hn => h n (List.mem_cons_of_mem _ hn)]
    cases channel <;> rfl

/-- What was sent of a message that is due on a channel stands on the minimal channel. -/
theorem payloadsUnder_emittedBefore {m : ChangeMessage} (hm : m.header.chain = chain)
    (due : Channel) : payloadsUnder (p.topics.subject chain channel) (p.emittedBefore m due)
      = if due = .full ∧ channel = .minimal then [m.encode channel] else [] := by
  cases due with
  | minimal => rfl
  | full =>
    rw [emittedBefore, payloadsUnder_emission hm]
    cases channel <;> rfl

end Publisher

namespace Cycle

variable {p : Publisher} {request : SyncRequest} {w w' : Bench}
  {outcome : Except SyncError UpdateResult}

theorem chain_of_mem_due {m : ChangeMessage} (h : m ∈ due request w) :
    m.header.chain = request.chain := by
  rw [header_of_mem_due h]
  rfl

/-- What was sent in front of a message, as a subject of the chain shows it. -/
theorem payloadsUnder_sent {done rest : List ChangeMessage} {m : ChangeMessage}
    (hdue : due request w = done ++ m :: rest) (channel channel' : Channel) :
    ∃ ms, ms <+: due request w
      ∧ payloadsUnder (p.topics.subject request.chain channel)
        (p.emissions done ++ p.emittedBefore m channel') = ms.map (·.encode channel) := by
  have hdone : ∀ d ∈ done, d.header.chain = request.chain :=
    fun d hd => chain_of_mem_due (hdue ▸ List.mem_append_left _ hd)
  have hm : m.header.chain = request.chain :=
    chain_of_mem_due (hdue ▸ List.mem_append_right _ List.mem_cons_self)
  rw [payloadsUnder_append, Publisher.payloadsUnder_emissions hdone,
    Publisher.payloadsUnder_emittedBefore hm]
  by_cases hhalf : channel' = .full ∧ channel = .minimal
  · -- The message went out on the minimal channel only.
    rw [if_pos hhalf]
    refine ⟨done ++ [m], ?_, ?_⟩
    · rw [hdue]
      exact (List.prefix_append_right_inj _).mpr ⟨rest, rfl⟩
    · rw [List.map_append]
      rfl
  · rw [if_neg hhalf, List.append_nil]
    refine ⟨done, ?_, rfl⟩
    rw [hdue]
    exact List.prefix_append _ _

/-- Under a subject of the chain stand all messages of a cycle that has sent them. -/
theorem payloadsUnder_due (p : Publisher) (request : SyncRequest) (w : Bench)
    (channel : Channel) : payloadsUnder (p.topics.subject request.chain channel)
      (p.emissions (due request w)) = (due request w).map (·.encode channel) :=
  Publisher.payloadsUnder_emissions fun _ hm => chain_of_mem_due hm

/--
**What a cycle adds under a subject of its chain.** All of its messages if it succeeds, and none if
it fails in a way that calls for no full resync.
-/
theorem Exit.delivered (h : Exit p request w outcome w') (channel : Channel) :
    ∃ ms, ms <+: due request w
      ∧ w'.transport.payloadsOn (p.topics.subject request.chain channel)
        = w.transport.payloadsOn (p.topics.subject request.chain channel)
          ++ ms.map (·.encode channel)
      ∧ (∀ r, outcome = .ok r → ms = due request w)
      ∧ (∀ e, outcome = .error e → e.requiresFullResync = false → ms = []) := by
  have hholding := w.transport.payloadsOn_holding (p.topics.subject request.chain channel)
  cases h with
  | notLoaded => exact ⟨[], List.nil_prefix, (List.append_nil _).symm, nofun, fun _ _ _ => rfl⟩
  | @notSent hload done rest m hdue channel' reason =>
    obtain ⟨ms, hprefix, hsent⟩ := payloadsUnder_sent (p := p) hdue channel channel'
    refine ⟨ms, hprefix, (hholding _).trans (by rw [hsent]), nofun, ?_⟩
    rintro e he hresync
    cases he
    cases done with
    | nil =>
      cases channel' with
      | minimal => exact List.map_eq_nil_iff.mp hsent.symm
      | full => cases hresync
    | cons d done => cases hresync
  | notStored =>
    refine ⟨_, List.prefix_rfl, (hholding _).trans ?_, nofun, ?_⟩
    · rw [payloadsUnder_due]
    · rintro e he hresync
      cases he
      cases hresync
  | completed =>
    refine ⟨_, List.prefix_rfl, (hholding _).trans ?_, fun _ _ => rfl, nofun⟩
    rw [payloadsUnder_due]

/-! ## Readable messages -/

theorem records_of_mem_due {m : ChangeMessage} (h : m ∈ due request w) {r : PoolRecord}
    (hr : r ∈ m.records) : r ∈ request.items.records := by
  rcases mem_due_cases h with rfl | ⟨s, -, rfl | rfl⟩
  · exact hr
  · exact (Diff.mem_added.mp hr).1
  · cases hr

theorem normalizeKey_of_mem_due {m : ChangeMessage} (h : m ∈ due request w) {k : String}
    (hk : k ∈ m.keys) : normalizeKey k = k := by
  have hrecords : ∀ {rs : List PoolRecord}, k ∈ rs.map (·.key) → normalizeKey k = k := by
    intro rs hmem
    obtain ⟨r, -, rfl⟩ := List.mem_map.mp hmem
    exact r.key_normal
  rcases mem_due_cases h with rfl | ⟨s, -, rfl | rfl⟩
  · exact hrecords hk
  · exact hrecords hk
  · exact Whitelist.normalizeKey_of_mem_keys (Diff.mem_removed.mp hk).1

/--
The messages of a cycle are readable if its id has 64 bits, its time is one of the calendar and, on
the full channel, the pool objects of its whitelist read back.
-/
theorem readable_of_mem_due {channel : Channel} (hlow : -2 ^ 63 ≤ issuedId request w)
    (hhigh : issuedId request w < 2 ^ 63) (hnow : w.now.Valid)
    (hitems : channel = .full → ∀ r ∈ request.items.records, r.Legible) :
    ∀ m ∈ due request w, m.Readable channel := by
  intro m hm
  have hheader := header_of_mem_due hm
  exact
    { id_low := by rw [hheader]; exact hlow
      id_high := by rw [hheader]; exact hhigh
      timestamp := by rw [hheader]; exact hnow
      keys := fun k hk => normalizeKey_of_mem_due hm hk
      records := fun hfull r hr => hitems hfull r (records_of_mem_due hm hr) }

end Cycle

end PoolFeed
