import PoolFeed.Text.Blank

/-!
# Chain names

A chain becomes one token of a subject, so its name may hold nothing that has a meaning there.

## Main statements

* `ChainName.check_eq_ok_iff` — the names that are accepted
-/

namespace PoolFeed.ChainName

/-- Why a text cannot name a chain. -/
inductive Error where
  | empty
  /-- A separator, a wildcard or white space stands in it. -/
  | illegal (name : String)
  deriving DecidableEq, Repr

/-- The wording of an error. -/
def Error.message : Error → String
  | .empty => "Chain name cannot be empty"
  | .illegal name =>
    s!"Invalid chain name '{name}': use a single token such as 'ethereum' or 'base'"

/-- Whether a character would break a subject. -/
def isIllegal (c : Char) : Bool := c = '.' || c = '*' || c = '>' || Text.isBlank c

/-- Accepts the names that are single tokens. -/
def check (name : String) : Except Error Unit :=
  if name.toList.isEmpty then .error .empty
  else if name.toList.any isIllegal then .error (.illegal name)
  else .ok ()

/-- A name is accepted exactly when it is not empty and nothing in it would break a subject. -/
theorem check_eq_ok_iff {name : String} :
    check name = .ok () ↔ name.toList ≠ [] ∧ ∀ c ∈ name.toList, isIllegal c = false := by
  unfold check
  split
  · next h => simp_all
  · next h =>
    split
    · next h' =>
      simp only [reduceCtorEq, false_iff, not_and, Classical.not_forall]
      obtain ⟨c, hc, hi⟩ := List.any_eq_true.mp h'
      exact fun _ => ⟨c, hc, by simp [hi]⟩
    · next h' =>
      simp only [true_iff]
      refine ⟨by simpa using h, fun c hc => ?_⟩
      simp only [List.any_eq_true, not_exists, not_and] at h'
      simpa using h' c hc

end PoolFeed.ChainName
