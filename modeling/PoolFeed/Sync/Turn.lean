/-!
# Turns

Those who share a thread are given time in turns. In one turn things that are shared can be taken
so often. Who takes one thing more keeps it, and goes on in the next turn.
-/

namespace PoolFeed

/-- A turn. -/
structure Turn where
  /-- How often something shared can still be taken. -/
  left : Nat

namespace Turn

/-- How often something shared can be taken in a turn. -/
def allowance : Nat := 128

/-- A turn in which nothing was taken yet. -/
def fresh : Turn := ⟨allowance⟩

/-- Whether nothing can be taken any more. -/
def isOver (t : Turn) : Bool := t.left = 0

/-- The turn in which something shared has been taken. When this one is over it is the next. -/
def take (t : Turn) : Turn :=
  if t.isOver then ⟨allowance - 1⟩ else ⟨t.left - 1⟩

/-- The turn in which so many things have been taken, one after the other. -/
def takeTimes : Nat → Turn → Turn
  | 0, t => t
  | n + 1, t => takeTimes n t.take

end Turn

end PoolFeed
