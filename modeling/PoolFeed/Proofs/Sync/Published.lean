import PoolFeed.Proofs.Sync.Announced
import PoolFeed.Proofs.Sync.Changes
import PoolFeed.Proofs.Whitelist.Canonical

/-!
# What a cycle publishes is coherent

The payloads of a message on the two channels are built apart from each other. They name the same
pools in the same order all the same, and this is the order of the keys, because the whitelists
behind a message are canonical. Wherever a cycle stops, what the transport took of it are such
payloads.

## Main statements

* `Cycle.coherent_of_mem_messages` — the messages of a cycle are coherent
* `Cycle.Reaches.published` — what was taken at any point of a cycle
* `Whitelist.canonical_and_coherent` — whitelists are canonical, and so is what is published of them
-/

namespace PoolFeed

open Text (Bytes)

/-! ## Payloads -/

/-- Whether a payload is the text of an object that has a list under a name, and has it once. -/
def Carries (payload : Bytes) (name : String) (items : List Json) : Prop :=
  ∃ fields, payload = Text.encode (Json.object fields).chars
    ∧ (name, .array items) ∈ fields ∧ (fields.map (·.1)).Nodup

namespace ChangeMessage

/-- A message whose payloads name the same pools, in the order of the keys. -/
structure Coherent (m : ChangeMessage) : Prop where
  /-- The minimal payload lists the keys. -/
  minimal : Carries (m.encode .minimal) "pools" (m.keys.map .string)
  /-- The full payload of a removal lists them too. -/
  removed : m.kind = .remove → Carries (m.encode .full) "pool_addresses" (m.keys.map .string)
  /-- Every other full payload lists pool objects, of which the keys are the addresses. -/
  carried : m.kind ≠ .remove → ∃ pools, Carries (m.encode .full) "pools" pools
    ∧ pools.map PoolRecord.address? = m.keys.map some
  increasing : m.keys.Pairwise (· < ·)

/-- The names of the fields of a message are different from each other. -/
theorem nodup_wireFields (m : ChangeMessage) (channel : Channel) :
    ((m.wireFields channel).map (·.1)).Nodup := by
  simp only [wireFields, List.map_cons, List.map_nil]
  rcases m.poolsField_cases channel with hfield | hfield
  · rw [hfield]
    show ["type", "pools", "chain", "timestamp", "snapshot_id"].Nodup
    decide
  · rw [hfield]
    show ["type", "pool_addresses", "chain", "timestamp", "snapshot_id"].Nodup
    decide

/-- A payload carries the pools of its message, under the name that they have on the channel. -/
theorem carries_encode {m : ChangeMessage} {channel : Channel} {name : String} {items : List Json}
    (h : m.poolsField channel = (name, .array items)) : Carries (m.encode channel) name items := by
  refine ⟨m.wireFields channel, rfl, ?_, m.nodup_wireFields channel⟩
  rw [wireFields, h]
  exact List.mem_cons_of_mem _ List.mem_cons_self

theorem map_address? (rs : List PoolRecord) :
    (rs.map (·.attributes)).map PoolRecord.address? = (rs.map (·.key)).map some := by
  rw [List.map_map, List.map_map]
  refine List.map_congr_left fun r _ => ?_
  exact PoolRecord.address?_object.mpr r.address_eq

/-- **A message whose keys increase is coherent.** -/
theorem coherent_of_increasing {m : ChangeMessage} (h : m.keys.Pairwise (· < ·)) : m.Coherent where
  minimal := by
    refine carries_encode ?_
    obtain ⟨_, change⟩ := m
    cases change <;> rfl
  removed := by
    intro hkind
    refine carries_encode ?_
    obtain ⟨_, change⟩ := m
    cases change with
    | remove ks => rfl
    | full rs => cases hkind
    | add rs => cases hkind
  carried := by
    intro hkind
    obtain ⟨_, change⟩ := m
    cases change with
    | remove ks => exact absurd rfl hkind
    | full rs => exact ⟨_, carries_encode rfl, map_address? rs⟩
    | add rs => exact ⟨_, carries_encode rfl, map_address? rs⟩
  increasing := h

end ChangeMessage

/-- What a transport took are payloads of coherent messages, each on the minimal channel first. -/
def PublishedCoherently (p : Publisher) (t t' : RecordingTransport) : Prop :=
  ∃ ms taken, t' = t.holding taken ∧ taken <+: p.emissions ms ∧ ∀ m ∈ ms, m.Coherent

theorem PublishedCoherently.refl (p : Publisher) (t : RecordingTransport) :
    PublishedCoherently p t t :=
  ⟨[], [], t.holding_nil.symm, List.prefix_refl _, nofun⟩

namespace Cycle

/-- **The messages of a cycle are coherent.** -/
theorem coherent_of_mem_messages {header : Header} {items : Whitelist} {base : Option Snapshot}
    {m : ChangeMessage} (h : m ∈ messages header items base) : m.Coherent := by
  refine ChangeMessage.coherent_of_increasing ?_
  cases base with
  | none =>
    rw [List.mem_singleton.mp h]
    show (items.records.map (·.key)).Pairwise (· < ·)
    rw [items.map_key_records]
    exact items.keys_increasing
  | some x =>
    rcases Diff.mem_changeMessages h with rfl | rfl
    · exact Diff.addedKeys_increasing x.items items
    · exact Diff.removed_increasing x.items items

variable {σ : Type} [SnapshotStore σ] {p : Publisher} {request : SyncRequest}
  {w w' : World σ RecordingTransport} {c : Cycle} {t : RecordingTransport}

/-- One more payload of a message in turn. -/
theorem prefix_emissions (p : Publisher) (done rest : List ChangeMessage) (m : ChangeMessage)
    (channel : Channel) :
    p.emissions done ++ p.emittedBefore m channel ++ [p.emission m channel]
      <+: p.emissions (done ++ m :: rest) := by
  rw [p.emissions_append, List.append_assoc, List.prefix_append_right_inj]
  cases channel with
  | minimal => exact ⟨p.emission m .full :: p.emissions rest, rfl⟩
  | full => exact ⟨p.emissions rest, rfl⟩

/-- **A step leaves only payloads of coherent messages behind.** -/
theorem published_step (h : Announced p request t w.transport c)
    (hpublished : PublishedCoherently p t w.transport) :
    PublishedCoherently p t (step p request w c).world.transport := by
  cases c with
  | load =>
    simp only [step, stepLoad]
    exact hpublished
  | allocate previous =>
    simp only [step, stepAllocate]
    split
    · exact hpublished
    · exact hpublished
  | append result time =>
    simp only [step, stepAppend]
    split
    · exact hpublished
    · exact hpublished
  | done outcome => exact hpublished
  | send s =>
    generalize ht : w.transport = t' at h
    cases h with
    | @send plan done rest m hmessages channel =>
      simp only [step, stepSend]
      rcases p.send_cases m channel w.transport with ⟨-, htaken⟩ | ⟨_, -, hleft⟩
      · -- The payload is the next one of the plan.
        rw [htaken, ht, RecordingTransport.holding_holding]
        refine ⟨plan.messages, _, rfl, ?_, fun n hn => coherent_of_mem_messages hn⟩
        rw [hmessages]
        exact prefix_emissions p done rest m channel
      · rw [hleft]
        exact hpublished

/-- **What was taken at any point of a cycle are payloads of coherent messages.** -/
theorem Reaches.published (h : Reaches p request w w' c) :
    PublishedCoherently p w.transport w'.transport := by
  induction h with
  | load => exact .refl p _
  | step h ih => exact published_step (announced_of_reaches h) ih

end Cycle

theorem SyncRequest.published {σ : Type} [SnapshotStore σ] (request : SyncRequest) (p : Publisher)
    (w : World σ RecordingTransport) :
    PublishedCoherently p w.transport (request.sync p w).world.transport := by
  unfold sync
  split
  · exact .refl p _
  · exact (Cycle.Reaches.load.runFrom).published

/-! ## Whitelists and what is published of them -/

namespace Whitelist

/--
**However a whitelist came about, it is canonical, and what a cycle publishes of it is coherent.**
-/
theorem canonical_and_coherent {w : Whitelist} {spellings : List String}
    (h : Obtained w spellings) :
    Canonical w spellings
      ∧ ∀ {σ : Type} [SnapshotStore σ] (chain : String) (forceFull : Bool) (p : Publisher)
        (world : World σ RecordingTransport),
        PublishedCoherently p world.transport
          (SyncRequest.sync ⟨chain, w, forceFull⟩ p world).world.transport := by
  refine ⟨h.canonical, ?_⟩
  intro σ _ chain forceFull p world
  exact SyncRequest.published _ p world

/-! ### One pool in, another one out -/

namespace Respelled

def one : PoolRecord := .bare "0x1f" rfl (by decide)

def two : PoolRecord := .bare "0x2e" rfl (by decide)

/-- A whitelist to which one pool was added, and from which another one was taken. -/
def whitelist : Whitelist := ((ofRecords [one]).insert two).erase "0x1f"

theorem obtained : Obtained whitelist [" 0x2E"] := by
  have hone : one.Validated " 0x1F" :=
    .fresh (v := .object [(addressField, .string " 0x1F")]) rfl rfl
  have htwo : two.Validated " 0x2E" := .stored (v := .object []) rfl
  exact .erase (.insert (.records (.cons hone .nil)) htwo) "0x1f"

/-- The pool that is left counts once, under its key in normal spelling. -/
theorem canonical_respelled :
    Obtained whitelist [" 0x2E"] ∧ Canonical whitelist [" 0x2E"] :=
  ⟨obtained, (canonical_and_coherent obtained).1⟩

end Respelled

end Whitelist

end PoolFeed
