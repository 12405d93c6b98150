import PoolFeed.Proofs.Sync.Session
import PoolFeed.Proofs.Track.Delivery

/-!
# Syncs that succeed one after the other

Each takes its changes from what the one before it stored, under a larger id, so that together they
send a line of updates.

## Main statements

* `Succession.line` — the updates of a succession
* `Succession.recorded_eq` — what each of its syncs leaves on a channel
* `Succession.readable` — all of it can be decoded
-/

namespace PoolFeed

open Text (Bytes)

/-- What is there before a round of several that are played one after the other. -/
def Round.before (p : Publisher) (start : Bench) (rounds : Nat → Round) : Nat → Bench
  | 0 => start
  | i + 1 => ((rounds i).play p (before p start rounds i)).world

/-- Syncs of a chain, so many of them, that succeed one after the other. -/
structure Succession (p : Publisher) (chain : String) where
  start : Bench
  rounds : Nat → Round
  count : Nat
  on_chain : ∀ i < count, (rounds i).request.chain = chain
  succeeds : ∀ i < count, ∃ r, ((rounds i).play p (Round.before p start rounds i)).outcome = .ok r

namespace Succession

variable {p : Publisher} {chain : String}

/-- What is there before a sync. -/
def before (s : Succession p chain) (i : Nat) : Bench := Round.before p s.start s.rounds i

/-- What a sync works with. -/
def arranged (s : Succession p chain) (i : Nat) : Bench := (s.rounds i).arrange (s.before i)

/-- The messages of a sync. -/
def due (s : Succession p chain) (i : Nat) : List ChangeMessage :=
  Cycle.due (s.rounds i).request (s.arranged i)

/-- The payloads that a sync adds on a channel. -/
def recorded (s : Succession p chain) (channel : Channel) (i : Nat) : List Bytes :=
  ((s.before (i + 1)).transport.payloadsOn (p.topics.subject chain channel)).drop
    ((s.before i).transport.payloadsOn (p.topics.subject chain channel)).length

/-- Whether everything that is sent on a channel can be read: all ids have 64 bits. -/
structure Legible (s : Succession p chain) (channel : Channel) : Prop where
  rounds : ∀ i < s.count, (s.rounds i).Legible channel
  ids : ∀ i < s.count, ∀ r, ((s.rounds i).play p (s.before i)).outcome = .ok r →
    -2 ^ 63 ≤ r.snapshotId ∧ r.snapshotId < 2 ^ 63

variable {s : Succession p chain} {channel : Channel} {i : Nat}

theorem exit (hi : i < s.count) : ∃ r, ((s.rounds i).play p (s.before i)).outcome = .ok r
    ∧ Cycle.Exit p (s.rounds i).request (s.arranged i) (.ok r) (s.before (i + 1)) := by
  obtain ⟨r, hr⟩ := s.succeeds i hi
  exact ⟨r, hr, Round.exit_of_ok hr⟩

/-- **What a sync leaves on a channel are its messages.** -/
theorem recorded_eq (hi : i < s.count) (channel : Channel) :
    s.recorded channel i = (s.due i).map (·.encode channel) := by
  obtain ⟨r, -, hexit⟩ := s.exit hi
  obtain ⟨ms, -, hpayloads, hall, -⟩ := hexit.delivered channel
  rw [hall r rfl, s.on_chain i hi] at hpayloads
  rw [recorded, hpayloads]
  exact List.drop_left

/-- A sync finds what the one before it stored. -/
theorem previous?_succ (hi : i + 1 < s.count) :
    Cycle.previous? (s.rounds (i + 1)).request (s.arranged (i + 1))
      = some (Cycle.produced (s.rounds i).request (s.arranged i)) := by
  obtain ⟨r, -, hexit⟩ := s.exit (Nat.lt_of_succ_lt hi)
  have hlatest := hexit.latest?_of_ok
  rw [s.on_chain i (Nat.lt_of_succ_lt hi)] at hlatest
  rw [Cycle.previous?, s.on_chain (i + 1) hi]
  exact hlatest

/-- The ids of a succession grow. -/
theorem issuedId_lt (hi : i + 1 < s.count) :
    Cycle.issuedId (s.rounds i).request (s.arranged i)
      < Cycle.issuedId (s.rounds (i + 1)).request (s.arranged (i + 1)) := by
  rw [Cycle.issuedId, Cycle.issuedId, s.previous?_succ hi]
  show _ < max _ (Cycle.issuedId (s.rounds i).request (s.arranged i)) + 1
  exact Int.lt_add_one_of_le (Int.le_max_right _ _)

/-- **The updates of a succession.** -/
def line (s : Succession p chain) : Line chain where
  count := s.count
  header i := Cycle.issuedHeader (s.rounds i).request (s.arranged i)
  items i := (s.rounds i).request.items
  messages := s.due
  on_chain := s.on_chain
  id_lt _ := s.issuedId_lt
  sends i hi := by
    rcases Cycle.due_eq (s.rounds i).request (s.arranged i) with hfull | ⟨x, hx, hchange⟩
    · exact Or.inl hfull
    · refine Or.inr ⟨x.items, hchange, ?_⟩
      rintro j rfl
      rw [s.previous?_succ hi] at hx
      cases hx
      rfl

/-- **Every message of a legible succession can be decoded.** -/
theorem readable (h : s.Legible channel) (hi : i < s.count) :
    ∀ m ∈ s.due i, m.Readable channel := by
  obtain ⟨r, hr, hexit⟩ := s.exit hi
  obtain ⟨hlow, hhigh⟩ := h.ids i hi r hr
  rw [hexit.snapshotId_of_ok] at hlow hhigh
  exact Cycle.readable_of_mem_due hlow hhigh (h.rounds i hi).now (h.rounds i hi).items

end Succession

end PoolFeed
