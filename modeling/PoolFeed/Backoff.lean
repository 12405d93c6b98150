import PoolFeed.Event

/-!
# Trying again

An operation that fails is tried again, a fixed number of times, with a pause between attempts that
doubles each time. Attempts are counted in 32 bits and pauses have a longest value; beyond either,
the computation overflows.

What is done is kept apart from when it is done: how long a pause takes is for a timer to say, which
is not part of this library.

## Main statements

* `retry_ending_ne_overflow` — nothing overflows where the longest pause and the count of attempts
  have room to spare
-/

namespace PoolFeed.Backoff

/-- What an attempt came to, and what was reported of it. -/
structure Attempt (ε β : Type) where
  result : Except ε β
  events : List Event

/-- How trying ended. -/
inductive Ending (ε β : Type) where
  | success (value : β)
  /-- The last attempt failed too. -/
  | failure (error : ε)
  /-- No attempt is left, and there was no error to tell of. -/
  | unexplained
  /-- A count or a pause does not fit its type. -/
  | overflow
  deriving Repr

/-- What is done while trying. -/
inductive Step where
  | attempt
  | pause (length : Duration)
  deriving DecidableEq, Repr

/-- How trying went. -/
structure Run (ε β : Type) where
  ending : Ending ε β
  steps : List Step
  events : List Event

/-- The pauses of a run, in order. -/
def Run.pauses (r : Run ε β) : List Duration :=
  r.steps.filterMap fun step => match step with
    | .attempt => none
    | .pause length => some length

/-- How trying ends when no attempt is left, by the error of the last one. -/
def Ending.exhausted : Option ε → Ending ε β
  | some e => .failure e
  | none => .unexplained

/-- A run behind some steps that were reported by some events. -/
def Run.behind (steps : List Step) (events : List Event) (r : Run ε β) : Run ε β :=
  ⟨r.ending, steps ++ r.steps, events ++ r.events⟩

/-- The number of values of a count of attempts. -/
def countLimit : Nat := 1 <<< 32

/--
Makes `left` attempts, the first of which has number `n`, or fewer if one succeeds. A failure that
is not the last one allowed is followed by a pause. So far `lastError` is what the attempt before
came to.
-/
def tryFrom (attempt : Nat → Attempt ε β) (maxRetries : Nat) :
    Nat → Nat → Duration → Option ε → Run ε β
  | 0, _, _, lastError => ⟨.exhausted lastError, [], []⟩
  | left + 1, n, pause, _ =>
    let a := attempt n
    match a.result with
    | .ok value => ⟨.success value, [.attempt], a.events⟩
    | .error e =>
      if n < maxRetries then
        if countLimit ≤ maxRetries + 1 then ⟨.overflow, [.attempt], a.events⟩
        else
          let steps := [.attempt, .pause pause]
          let events := a.events ++ [.retrying (n + 1) (maxRetries + 1) pause]
          -- The next pause is computed when this one is over, whether or not there will be one.
          match pause.doubled? with
          | none => ⟨.overflow, steps, events⟩
          | some pause' =>
            (tryFrom attempt maxRetries left (n + 1) pause' (some e)).behind steps events
      else (tryFrom attempt maxRetries left (n + 1) pause (some e)).behind [.attempt] a.events

/-- Makes attempts until one succeeds, with so many retries and such a first pause. -/
def retry (maxRetries : Nat) (firstPause : Duration) (attempt : Nat → Attempt ε β) : Run ε β :=
  tryFrom attempt maxRetries (maxRetries + 1) 0 firstPause none

section behind

variable (steps : List Step) (events : List Event) (r : Run ε β)

@[simp] theorem Run.ending_behind : (r.behind steps events).ending = r.ending := rfl

@[simp] theorem Run.steps_behind : (r.behind steps events).steps = steps ++ r.steps := rfl

end behind

/-! ## When it is done -/

/-- What waits for pauses. -/
structure Timer where
  /-- When a pause is over that begins at a time and is to have a length. -/
  finish (time length : Duration) : Duration

/-- When attempts begin, if they take no time and all begins at a time. -/
def startTimes (timer : Timer) : Duration → List Step → List Duration
  | _, [] => []
  | time, .attempt :: steps => time :: startTimes timer time steps
  | time, .pause length :: steps => startTimes timer (timer.finish time length) steps

/-- When each attempt began, counted from the first. -/
def Run.startedAt (timer : Timer) (r : Run ε β) : List Duration := startTimes timer .zero r.steps

/-! ## Overflows -/

theorem ending_tryFrom_ne_overflow (attempt : Nat → Attempt ε β) (maxRetries left n : Nat)
    (pause : Duration) (lastError : Option ε) (hcount : maxRetries + 1 < countLimit)
    (hpause : pause.nanoseconds <<< (maxRetries - n) ≤ Duration.longest.nanoseconds) :
    (tryFrom attempt maxRetries left n pause lastError).ending ≠ .overflow := by
  induction left generalizing n pause lastError with
  | zero => cases lastError <;> simp [tryFrom, Ending.exhausted]
  | succ left ih =>
    unfold tryFrom
    simp only
    split
    · simp
    · split
      · next hn =>
        rw [if_neg (by omega)]
        have hdouble : (2 * pause.nanoseconds) <<< (maxRetries - (n + 1))
            ≤ Duration.longest.nanoseconds := by
          rw [show maxRetries - n = maxRetries - (n + 1) + 1 by omega,
            Nat.shiftLeft_succ_inside] at hpause
          exact hpause
        have hle : 2 * pause.nanoseconds ≤ Duration.longest.nanoseconds := by
          rw [Nat.shiftLeft_eq] at hdouble
          exact Nat.le_trans (Nat.le_mul_of_pos_right _ Nat.one_le_two_pow) hdouble
        rw [Duration.doubled?, if_pos hle]
        exact ih (n + 1) ⟨2 * pause.nanoseconds⟩ _ hdouble
      · next hn =>
        refine ih (n + 1) pause _ ?_
        rw [show maxRetries - (n + 1) = maxRetries - n by omega]
        exact hpause

/-- Nothing overflows where the count of attempts and the longest pause have room to spare. -/
theorem retry_ending_ne_overflow (maxRetries : Nat) (firstPause : Duration)
    (attempt : Nat → Attempt ε β) (hcount : maxRetries + 1 < countLimit)
    (hpause : firstPause.nanoseconds <<< maxRetries ≤ Duration.longest.nanoseconds) :
    (retry maxRetries firstPause attempt).ending ≠ .overflow :=
  ending_tryFrom_ne_overflow attempt _ _ _ _ _ hcount hpause

/-- What is said of a failure without an error. -/
def unexplained : String := "Operation failed after retries"

/-- The result of trying, where nothing overflowed, with an error for a failure that has none. -/
def Ending.result (fallback : ε) : (e : Ending ε β) → e ≠ .overflow → Except ε β
  | .success value, _ => .ok value
  | .failure e, _ => .error e
  | .unexplained, _ => .error fallback
  | .overflow, h => absurd rfl h

end PoolFeed.Backoff
