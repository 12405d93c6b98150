import Mathlib.Data.List.Permutation
import PoolFeed.Proofs.Whitelist.Keys
import PoolFeed.Sync.Cycle

/-!
# The messages of a change

A change is sent as an addition followed by a removal, each left out if it names no pool.

## Main statements

* `Diff.changeMessages_cases` — the messages of a change
* `Diff.perm_changeMessages` — the same in either order
* `Diff.changeMessages_eq_nil_iff` — whitelists with the same keys leave nothing to send
-/

namespace PoolFeed

open PoolFeed.Cycle (changeMessages)

namespace Diff

/-- The message of the pools that came. -/
def addition (d : Diff) (header : Header) : ChangeMessage := ⟨header, .add d.added⟩

/-- The message of the pools that went. -/
def removal (d : Diff) (header : Header) : ChangeMessage := ⟨header, .remove d.removed⟩

/-- **The messages of a change.** -/
theorem changeMessages_cases (d : Diff) (header : Header) :
    (d.added = [] ∧ d.removed = [] ∧ changeMessages header d = [])
      ∨ (d.added = [] ∧ d.removed ≠ [] ∧ changeMessages header d = [d.removal header])
      ∨ (d.added ≠ [] ∧ d.removed = [] ∧ changeMessages header d = [d.addition header])
      ∨ (d.added ≠ [] ∧ d.removed ≠ []
        ∧ changeMessages header d = [d.addition header, d.removal header]) := by
  unfold changeMessages
  by_cases hadd : d.added = []
  · by_cases hrem : d.removed = []
    · rw [hadd, hrem]
      exact Or.inl ⟨rfl, rfl, rfl⟩
    · rw [if_pos (by simp [hadd]), if_neg (by simp [hrem])]
      exact Or.inr (Or.inl ⟨hadd, hrem, rfl⟩)
  · rw [if_neg (by simp [hadd])]
    by_cases hrem : d.removed = []
    · rw [hrem]
      exact Or.inr (Or.inr (Or.inl ⟨hadd, rfl, rfl⟩))
    · rw [if_neg (by simp [hrem])]
      exact Or.inr (Or.inr (Or.inr ⟨hadd, hrem, rfl⟩))

variable {d : Diff} {header : Header} {m : ChangeMessage}

theorem mem_changeMessages (h : m ∈ changeMessages header d) :
    m = d.addition header ∨ m = d.removal header := by
  rcases d.changeMessages_cases header with
    ⟨-, -, heq⟩ | ⟨-, -, heq⟩ | ⟨-, -, heq⟩ | ⟨-, -, heq⟩
  · rw [heq] at h
    cases h
  · rw [heq] at h
    exact Or.inr (List.mem_singleton.mp h)
  · rw [heq] at h
    exact Or.inl (List.mem_singleton.mp h)
  · rw [heq] at h
    exact (List.mem_cons.mp h).imp_right List.mem_singleton.mp

theorem addition_mem_changeMessages (h : d.added ≠ []) :
    d.addition header ∈ changeMessages header d := by
  rcases d.changeMessages_cases header with
    ⟨hadd, -, -⟩ | ⟨hadd, -, -⟩ | ⟨-, -, heq⟩ | ⟨-, -, heq⟩
  · exact absurd hadd h
  · exact absurd hadd h
  · rw [heq]
    exact List.mem_cons_self
  · rw [heq]
    exact List.mem_cons_self

/-- The messages of a change as they may arrive: in either order. -/
theorem perm_changeMessages {ms : List ChangeMessage} (h : ms.Perm (changeMessages header d)) :
    (d.added = [] ∧ d.removed = [] ∧ ms = [])
      ∨ (d.added = [] ∧ ms = [d.removal header])
      ∨ (d.removed = [] ∧ ms = [d.addition header])
      ∨ ms = [d.addition header, d.removal header]
      ∨ ms = [d.removal header, d.addition header] := by
  rcases d.changeMessages_cases header with
    ⟨hadd, hrem, heq⟩ | ⟨hadd, -, heq⟩ | ⟨-, hrem, heq⟩ | ⟨-, -, heq⟩
  · rw [heq] at h
    exact Or.inl ⟨hadd, hrem, h.eq_nil⟩
  · rw [heq] at h
    exact Or.inr (Or.inl ⟨hadd, List.perm_singleton.mp h⟩)
  · rw [heq] at h
    exact Or.inr (Or.inr (Or.inl ⟨hrem, List.perm_singleton.mp h⟩))
  · rw [heq] at h
    exact Or.inr (Or.inr (Or.inr (List.perm_pair.mp h)))

theorem nodup_changeMessages : (changeMessages header d).Nodup := by
  have hne : d.addition header ≠ d.removal header := by
    intro h
    have hchange := congrArg ChangeMessage.change h
    cases hchange
  rcases d.changeMessages_cases header with
    ⟨-, -, heq⟩ | ⟨-, -, heq⟩ | ⟨-, -, heq⟩ | ⟨-, -, heq⟩
  · rw [heq]
    exact List.nodup_nil
  · rw [heq]
    exact List.nodup_singleton _
  · rw [heq]
    exact List.nodup_singleton _
  · rw [heq]
    exact List.nodup_cons.mpr ⟨fun h => hne (List.mem_singleton.mp h), List.nodup_singleton _⟩

/-- **Whitelists with the same keys leave nothing to send.** -/
theorem changeMessages_eq_nil_iff {old new : Whitelist} :
    changeMessages header (between old new) = [] ↔ old.keys = new.keys := by
  rw [← eq_nil_iff_keys_eq]
  rcases (between old new).changeMessages_cases header with
    ⟨hadd, hrem, heq⟩ | ⟨-, hrem, heq⟩ | ⟨hadd, -, heq⟩ | ⟨hadd, -, heq⟩
  · exact ⟨fun _ => ⟨hadd, hrem⟩, fun _ => heq⟩
  · rw [heq]
    exact ⟨nofun, fun h => absurd h.2 hrem⟩
  · rw [heq]
    exact ⟨nofun, fun h => absurd h.1 hadd⟩
  · rw [heq]
    exact ⟨nofun, fun h => absurd h.1 hadd⟩

end Diff

/-- All messages of a cycle have its header. -/
theorem Cycle.header_of_mem_messages {header : Header} {items : Whitelist} {base : Option Snapshot}
    {m : ChangeMessage} (h : m ∈ Cycle.messages header items base) : m.header = header := by
  cases base with
  | none =>
    rw [List.mem_singleton.mp h]
    rfl
  | some s =>
    rcases Diff.mem_changeMessages h with rfl | rfl
    · rfl
    · rfl

end PoolFeed
