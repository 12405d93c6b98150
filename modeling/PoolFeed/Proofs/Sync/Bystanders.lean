import PoolFeed.Proofs.Sync.Recorded

/-!
# Chains that look on

A cycle gives ids, publishes and stores under the name of its own chain only. A step of it moves
nothing that another chain can tell, and neither does the whole of it.

## Main statements

* `Cycle.unmoved_step` — a step of a cycle leaves other chains alone
* `SyncRequest.unmoved_sync` — so does a request
-/

namespace PoolFeed

namespace Bench

/-- Whether a bench moved to another one without anything that a chain can tell. -/
structure Unmoved (t : Topics) (chain : String) (w w' : Bench) : Prop where
  counter : w'.store.counter chain = w.store.counter chain
  editionsOf : w'.store.editionsOf chain = w.store.editionsOf chain
  payloads : ∀ channel, w'.transport.payloadsOn (t.subject chain channel)
    = w.transport.payloadsOn (t.subject chain channel)
  loadsFail : w'.store.loadsFail = w.store.loadsFail
  appendsFail : w'.store.appendsFail = w.store.appendsFail
  failing : w'.transport.failing = w.transport.failing
  stalled : w'.transport.stalled = w.transport.stalled
  failAfter : w'.transport.failAfter = w.transport.failAfter

variable {t : Topics} {chain : String} {w w' : Bench}

theorem Unmoved.refl (t : Topics) (chain : String) (w : Bench) : Unmoved t chain w w :=
  ⟨rfl, rfl, fun _ => rfl, rfl, rfl, rfl, rfl, rfl⟩

theorem Unmoved.trans {w'' : Bench} (h : Unmoved t chain w w') (h' : Unmoved t chain w' w'') :
    Unmoved t chain w w'' where
  counter := h'.counter.trans h.counter
  editionsOf := h'.editionsOf.trans h.editionsOf
  payloads := fun channel => (h'.payloads channel).trans (h.payloads channel)
  loadsFail := h'.loadsFail.trans h.loadsFail
  appendsFail := h'.appendsFail.trans h.appendsFail
  failing := h'.failing.trans h.failing
  stalled := h'.stalled.trans h.stalled
  failAfter := h'.failAfter.trans h.failAfter

/-- No chain can tell what the clock shows. -/
theorem Unmoved.of_now {time : Timestamp} (h : Unmoved t chain { w with now := time } w') :
    Unmoved t chain w w' :=
  ⟨h.counter, h.editionsOf, h.payloads, h.loadsFail, h.appendsFail, h.failing, h.stalled,
    h.failAfter⟩

end Bench

namespace Cycle

/-- Whether all messages that a cycle has left are of a chain. -/
def OfChain (chain : String) : Cycle → Prop
  | .send s => s.current.header.chain = chain ∧ ∀ m ∈ s.rest, m.header.chain = chain
  | _ => True

variable {p : Publisher} {chain : String} {request : SyncRequest} {c : Cycle}

theorem ofChain_sendAll {result : UpdateResult} {time : Timestamp} {delivered : List Kind}
    {ms : List ChangeMessage} (h : ∀ m ∈ ms, m.header.chain = chain) :
    OfChain chain (sendAll result time delivered ms) := by
  cases ms with
  | nil => trivial
  | cons m rest =>
    exact ⟨h m List.mem_cons_self, fun n hn => h n (List.mem_cons_of_mem _ hn)⟩

/-- A cycle has messages of the chain of its request only. -/
theorem OfChain.step (h : OfChain request.chain c) (w : Bench) :
    OfChain request.chain (step p request w c).next := by
  cases c with
  | load =>
    simp only [Cycle.step, stepLoad]
    split <;> trivial
  | allocate previous =>
    simp only [Cycle.step, stepAllocate]
    split
    · trivial
    · next id _ =>
      refine ofChain_sendAll ?_
      intro m hm
      rw [header_of_mem_messages hm]
  | send s =>
    obtain ⟨hcurrent, hrest⟩ := h
    simp only [Cycle.step, stepSend]
    split
    · trivial
    · unfold sent
      split
      · exact ⟨hcurrent, hrest⟩
      · exact ofChain_sendAll hrest
  | append result time =>
    simp only [Cycle.step, stepAppend]
    split <;> trivial
  | done outcome => trivial

theorem unmoved_stepSend {s : Sending} (hs : s.current.header.chain ≠ chain) (w : Bench) :
    Bench.Unmoved p.topics chain w (stepSend p s w).world := by
  show Bench.Unmoved p.topics chain w
    { w with transport := (p.send s.current s.channel w.transport).transport }
  rcases p.send_cases s.current s.channel w.transport with ⟨-, htransport⟩ | ⟨_, -, htransport⟩
  · rw [htransport]
    refine { Bench.Unmoved.refl p.topics chain w with payloads := ?_ }
    intro channel
    show (w.transport.holding _).payloadsOn _ = _
    rw [RecordingTransport.payloadsOn_holding, Publisher.payloadsUnder_emission_of_ne hs,
      List.append_nil]
  · rw [htransport]
    exact .refl p.topics chain w

theorem unmoved_stepAppend (hne : chain ≠ request.chain) (result : UpdateResult) (time : Timestamp)
    (w : Bench) : Bench.Unmoved p.topics chain w (stepAppend request result time w).world := by
  unfold stepAppend
  rw [MemoryStore.append_eq]
  by_cases hfail : w.store.appendsFail
  · rw [if_pos hfail]
    exact .refl p.topics chain w
  · rw [if_neg hfail]
    exact { Bench.Unmoved.refl p.topics chain w with
      editionsOf := MemoryStore.editionsOf_store_of_ne hne }

/-- **A step of a cycle leaves other chains alone.** -/
theorem unmoved_step (hc : OfChain request.chain c) (hne : chain ≠ request.chain) (w : Bench) :
    Bench.Unmoved p.topics chain w (step p request w c).world := by
  cases c with
  | load =>
    simp only [step, stepLoad]
    rw [MemoryStore.store_loadLatest]
    exact .refl p.topics chain w
  | allocate previous =>
    refine { Bench.Unmoved.refl p.topics chain w with counter := ?_ }
    show ((w.store.counters.insert request.chain _).find? chain).getD 0 = w.store.counter chain
    rw [SortedMap.find?_insert, if_neg hne]
    rfl
  | send s => exact unmoved_stepSend (fun heq => hne (heq.symm.trans hc.1)) w
  | append result time => exact unmoved_stepAppend hne result time w
  | done outcome => exact .refl p.topics chain w

theorem unmoved_runFrom {c : Cycle} {w : Bench} (hc : OfChain request.chain c)
    (hne : chain ≠ request.chain) :
    Bench.Unmoved p.topics chain w (runFrom p request w c).world := by
  cases hout : c.outcome? with
  | some outcome =>
    rw [runFrom_of_outcome hout]
    exact .refl p.topics chain w
  | none =>
    have hlt := step_rank_lt p request w c hout
    rw [(runFrom_step hout).2]
    exact (unmoved_step hc hne w).trans (unmoved_runFrom (hc.step w) hne)
termination_by c.rank

end Cycle

/-- A request leaves other chains alone. -/
theorem SyncRequest.unmoved_sync {p : Publisher} {chain : String} {request : SyncRequest}
    (hne : chain ≠ request.chain) (w : Bench) :
    Bench.Unmoved p.topics chain w (request.sync p w).world := by
  cases hcheck : request.check with
  | error e =>
    simp only [SyncRequest.sync, hcheck]
    exact .refl p.topics chain w
  | ok =>
    rw [SyncRequest.sync_of_check hcheck]
    exact Cycle.unmoved_runFrom trivial hne

end PoolFeed
