/-!
# Routing

A broker passes a payload on to every subscription that receives its subject. A subscription names
one subject, or all subjects below one.

## Main statements

* `Routing.byFront` — a routing that looks at nothing but the front of a subject
-/

namespace PoolFeed

/-- Whether no wildcard stands in a subject. -/
def isLiteral (subject : String) : Bool := subject.toList.all (fun c => c ≠ '*' && c ≠ '>')

/-- Which subjects reach which subscriptions. -/
structure Routing where
  /-- Whether a subscription to a pattern receives a subject. -/
  Receives : String → String → Prop
  /-- Without a wildcard, a subscription receives the subject that it names. -/
  receives_literal : ∀ {pattern subject : String}, isLiteral pattern →
    (Receives pattern subject ↔ subject = pattern)
  /-- With a wildcard at its end, it receives every subject that has at least one more token. -/
  receives_below : ∀ {front subject : String}, isLiteral front →
    (Receives (front ++ ".>") subject ↔ ∃ rest, rest ≠ "" ∧ subject = front ++ "." ++ rest)

namespace Routing

theorem isLiteral_append (s s' : String) : isLiteral (s ++ s') = (isLiteral s && isLiteral s') := by
  rw [isLiteral, String.toList_append, List.all_append]
  rfl

theorem isLiteral_below (front : String) : isLiteral (front ++ ".>") = false := by
  have hwild : isLiteral ".>" = false := by decide
  rw [isLiteral_append, hwild, Bool.and_false]

/-- Whether a subject is the one that a pattern names, or goes on from the front of the pattern. -/
def GoesOn (pattern subject : String) : Prop :=
  subject = pattern ∧ isLiteral pattern
    ∨ ∃ front rest, pattern = front ++ ".>" ∧ rest ≠ "" ∧ subject = front ++ "." ++ rest

/-- A routing that looks at nothing but the front of a subject. -/
def byFront : Routing where
  Receives := GoesOn
  receives_literal := by
    intro pattern subject h
    refine ⟨?_, fun he => Or.inl ⟨he, h⟩⟩
    rintro (⟨he, -⟩ | ⟨front, -, rfl, -⟩)
    · exact he
    · rw [isLiteral_below] at h
      cases h
  receives_below := by
    intro front subject _
    refine ⟨?_, fun ⟨rest, hne, he⟩ => Or.inr ⟨front, rest, rfl, hne, he⟩⟩
    rintro (⟨-, h⟩ | ⟨front', rest, hpattern, hne, he⟩)
    · rw [isLiteral_below] at h
      cases h
    · have hlist := congrArg String.toList hpattern
      rw [String.toList_append, String.toList_append] at hlist
      cases String.toList_inj.mp (List.append_cancel_right hlist)
      exact ⟨rest, hne, he⟩

end Routing

end PoolFeed
