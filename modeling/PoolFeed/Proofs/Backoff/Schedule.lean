import Mathlib.Algebra.BigOperators.Intervals
import Mathlib.Data.ENat.Lattice
import PoolFeed.Backoff

/-!
# When attempts are made

Attempts are made up to the first one that succeeds, or up to the last one that is allowed, with a
pause between any two that doubles each time. Trying ends in what the last attempt came to, unless
one of the pauses computed on the way, of which the last is never waited for, is longer than any
span, or there is no number for the count of attempts.

When attempts begin is up to the timer that waits for the pauses. All that is assumed of it is that
it counts milliseconds, and it is assumed by name.

## Main statements

* `isLast_of_eq_min` — the last attempt is the first that succeeds, or the last that is allowed
* `tryFrom_of_fits`, `ending_tryFrom_of_not_fits` — the course of trying, by its last attempt
* `startTimes_course` — when the attempts of a course begin, by the timer
* `startFrom_zero_eq` — when they begin by a timer that counts milliseconds
* `retry_schedule` — which attempts are made, when, and what comes of them
* `retry_overflow_iff` — when a computation overflows, and how trying ends otherwise
-/

namespace PoolFeed.Backoff

variable {ε β : Type}

/-! ## Attempts -/

def Attempt.Fails (a : Attempt ε β) : Prop := ∃ e, a.result = .error e

theorem Attempt.not_fails_iff {a : Attempt ε β} : ¬ a.Fails ↔ ∃ value, a.result = .ok value := by
  unfold Fails
  cases a.result <;> simp

/-- The end of trying with an attempt that came to a result. -/
def Ending.ofResult : Except ε β → Ending ε β
  | .ok value => .success value
  | .error e => .failure e

theorem Ending.ofResult_ne_overflow (r : Except ε β) : ofResult r ≠ .overflow := by
  cases r <;> exact nofun

theorem Ending.ofResult_ne_unexplained (r : Except ε β) : ofResult r ≠ .unexplained := by
  cases r <;> exact nofun

/-- The number of the first attempt that succeeds, which is infinite if none does. -/
noncomputable def firstSuccess (attempt : Nat → Attempt ε β) : ℕ∞ :=
  ⨅ (n : ℕ) (_ : ¬ (attempt n).Fails), (n : ℕ∞)

theorem le_firstSuccess_iff {attempt : Nat → Attempt ε β} {n : ℕ} :
    (n : ℕ∞) ≤ firstSuccess attempt ↔ ∀ i < n, (attempt i).Fails := by
  rw [firstSuccess, le_iInf₂_iff]
  simp only [Nat.cast_le]
  refine forall_congr' fun i => ?_
  rw [← not_lt, not_imp_not]

theorem lt_firstSuccess_iff {attempt : Nat → Attempt ε β} {n : ℕ} :
    (n : ℕ∞) < firstSuccess attempt ↔ ∀ i ≤ n, (attempt i).Fails := by
  have hsucc : (n : ℕ∞) < firstSuccess attempt ↔ ((n + 1 : ℕ) : ℕ∞) ≤ firstSuccess attempt := by
    rw [Nat.cast_add_one, ENat.add_one_le_iff (ENat.natCast_ne_top n)]
  rw [hsucc, le_firstSuccess_iff]
  exact forall_congr' fun i => imp_congr_left Nat.lt_succ_iff

/-- The attempts in front of the last one fail, and it succeeds or is the last that is allowed. -/
structure IsLast (attempt : Nat → Attempt ε β) (maxRetries last : ℕ) : Prop where
  fails : ∀ i < last, (attempt i).Fails
  le : last ≤ maxRetries
  decides : (∃ value, (attempt last).result = .ok value) ∨ last = maxRetries

/-- **The last attempt is the first that succeeds, or the last that is allowed.** -/
theorem isLast_of_eq_min {attempt : Nat → Attempt ε β} {maxRetries last : ℕ}
    (h : (last : ℕ∞) = min (firstSuccess attempt) maxRetries) :
    IsLast attempt maxRetries last := by
  have hfails : ∀ i < last, (attempt i).Fails :=
    le_firstSuccess_iff.mp (h.le.trans (min_le_left _ _))
  refine ⟨hfails, Nat.cast_le.mp (h.le.trans (min_le_right _ _)), ?_⟩
  rcases min_choice (firstSuccess attempt) (maxRetries : ℕ∞) with hmin | hmin
  · refine .inl (Attempt.not_fails_iff.mp fun hlast => ?_)
    have hlt : (last : ℕ∞) < firstSuccess attempt := lt_firstSuccess_iff.mpr fun i hi =>
      hi.lt_or_eq.elim (hfails i) fun heq => heq ▸ hlast
    exact hlt.ne (h.trans hmin)
  · exact .inr (Nat.cast_inj.mp (h.trans hmin))

theorem exists_last (attempt : Nat → Attempt ε β) (maxRetries : ℕ) :
    ∃ last : ℕ, (last : ℕ∞) = min (firstSuccess attempt) maxRetries :=
  ENat.ne_top_iff_exists.mp
    (ne_top_of_le_ne_top (ENat.natCast_ne_top maxRetries) (min_le_right _ _))

/-! ## Pauses -/

/-- A pause that was doubled some times. -/
def doubledPause (pause : Duration) (times : ℕ) : Duration := ⟨pause.nanoseconds * 2 ^ times⟩

theorem doubledPause_zero (pause : Duration) : doubledPause pause 0 = pause :=
  congrArg Duration.mk (Nat.mul_one _)

theorem doubledPause_succ (pause : Duration) (times : ℕ) :
    doubledPause pause (times + 1) = doubledPause (doubledPause pause 1) times := by
  simp only [doubledPause, pow_succ', pow_zero, mul_one, mul_assoc]

/-- An attempt behind a pause that was doubled some times. -/
def laterAttempt (firstPause : Duration) (times : ℕ) : List Step :=
  [.pause (doubledPause firstPause times), .attempt]

/-- The steps up to a last attempt: a doubling pause between any two, and none behind the last. -/
def course (firstPause : Duration) (last : ℕ) : List Step :=
  .attempt :: (List.range last).flatMap (laterAttempt firstPause)

theorem course_succ (pause : Duration) (last : ℕ) :
    course pause (last + 1) = .attempt :: .pause pause :: course (doubledPause pause 1) last := by
  have hlater : (List.range last).flatMap (fun i => laterAttempt pause i.succ)
      = (List.range last).flatMap (laterAttempt (doubledPause pause 1)) :=
    List.flatMap_congr fun i _ => by rw [laterAttempt, doubledPause_succ]; rfl
  rw [course, List.range_succ_eq_map, List.flatMap_cons, List.flatMap_map, hlater, laterAttempt,
    doubledPause_zero]
  rfl

/-! ## Timers -/

/-- Whether a span is made up of whole milliseconds. -/
def InMilliseconds (d : Duration) : Prop := 1000000 ∣ d.nanoseconds

/--
A timer that counts milliseconds: from a whole millisecond on, a pause of whole milliseconds is over
when it is to be, unless it is longer than the longest that the timer can wait for.
-/
structure Timer.CountsMilliseconds (timer : Timer) (longest : Duration) : Prop where
  finish_eq : ∀ {time pause : Duration}, InMilliseconds time → InMilliseconds pause →
    pause.nanoseconds ≤ longest.nanoseconds → timer.finish time pause = time.plus pause

section times

variable {timer : Timer}

/-- When an attempt begins, if the first one begins at a time and attempts take none. -/
def startFrom (timer : Timer) (time firstPause : Duration) : ℕ → Duration
  | 0 => time
  | n + 1 => timer.finish (startFrom timer time firstPause n) (doubledPause firstPause n)

theorem startFrom_succ (timer : Timer) (time pause : Duration) (n : ℕ) :
    startFrom timer time pause (n + 1)
      = startFrom timer (timer.finish time pause) (doubledPause pause 1) n := by
  induction n with
  | zero => simp only [startFrom, doubledPause_zero]
  | succ n ih =>
    rw [startFrom, ih, doubledPause_succ pause n]
    rfl

/-- **When the attempts of a course begin:** each when the pauses in front of it are over. -/
theorem startTimes_course (timer : Timer) (time pause : Duration) (last : ℕ) :
    startTimes timer time (course pause last)
      = (List.range (last + 1)).map (startFrom timer time pause) := by
  induction last generalizing time pause with
  | zero => rfl
  | succ last ih =>
    rw [course_succ, startTimes, startTimes, ih, List.range_succ_eq_map (n := last + 1),
      List.map_cons, List.map_map]
    exact congrArg (time :: ·)
      (List.map_congr_left fun n _ => (startFrom_succ timer time pause n).symm)

/-- **When attempts begin by a timer that counts milliseconds**, as far as it can wait. -/
theorem startFrom_zero_eq {longest firstPause : Duration} {n : ℕ}
    (htimer : timer.CountsMilliseconds longest) (hwhole : InMilliseconds firstPause)
    (h : ∀ i < n, (doubledPause firstPause i).nanoseconds ≤ longest.nanoseconds) :
    startFrom timer .zero firstPause n = ⟨firstPause.nanoseconds * (2 ^ n - 1)⟩ := by
  induction n with
  | zero => rfl
  | succ n ih =>
    have htime : InMilliseconds ⟨firstPause.nanoseconds * (2 ^ n - 1)⟩ := hwhole.mul_right _
    have hpause : InMilliseconds (doubledPause firstPause n) := hwhole.mul_right _
    have hpow : 2 ^ (n + 1) - 1 = (2 ^ n - 1) + 2 ^ n := by
      have := Nat.one_le_two_pow (n := n)
      omega
    rw [startFrom, ih fun i hi => h i (hi.trans n.lt_succ_self),
      htimer.finish_eq htime hpause (h n n.lt_succ_self), hpow, mul_add]
    rfl

end times

/-! ## One attempt -/

section step

variable {attempt : Nat → Attempt ε β} {maxRetries left n : ℕ} {pause : Duration} {e : ε}
  (lastError : Option ε)

theorem tryFrom_of_ok {value : β} (h : (attempt n).result = .ok value) (pause : Duration) :
    tryFrom attempt maxRetries (left + 1) n pause lastError
      = ⟨.success value, [.attempt], (attempt n).events⟩ := by
  simp only [tryFrom, h]

theorem tryFrom_of_error_last (h : (attempt maxRetries).result = .error e) (pause : Duration) :
    tryFrom attempt maxRetries 1 maxRetries pause lastError
      = ⟨.failure e, [.attempt], (attempt maxRetries).events⟩ := by
  simp [tryFrom, h, Run.behind, Ending.exhausted]

theorem tryFrom_of_error (h : (attempt n).result = .error e) (hn : n < maxRetries)
    (hcount : maxRetries + 1 < countLimit)
    (hpause : (doubledPause pause 1).nanoseconds ≤ Duration.longest.nanoseconds) :
    tryFrom attempt maxRetries (left + 1) n pause lastError
      = (tryFrom attempt maxRetries left (n + 1) (doubledPause pause 1) (some e)).behind
        [.attempt, .pause pause]
        ((attempt n).events ++ [.retrying (n + 1) (maxRetries + 1) pause]) := by
  have hdouble : pause.doubled? = some (doubledPause pause 1) := by
    rw [doubledPause, pow_one, mul_comm] at hpause ⊢
    exact if_pos hpause
  simp only [tryFrom, h, hn, if_true, Nat.not_le_of_lt hcount, if_false, hdouble]

theorem ending_tryFrom_of_overflow (h : (attempt n).result = .error e) (hn : n < maxRetries)
    (hover : countLimit ≤ maxRetries + 1
      ∨ Duration.longest.nanoseconds < (doubledPause pause 1).nanoseconds) :
    (tryFrom attempt maxRetries (left + 1) n pause lastError).ending = .overflow := by
  simp only [tryFrom, h, hn, if_true]
  split
  · rfl
  · next hcount =>
    have hpause := hover.resolve_left hcount
    rw [doubledPause, pow_one, mul_comm] at hpause
    rw [Duration.doubled?, if_neg (Nat.not_le_of_lt hpause)]

end step

/-! ## The course of trying -/

section course

variable {attempt : Nat → Attempt ε β} {maxRetries left n k : ℕ} {pause : Duration}

/-- The last attempt ends trying with its result. -/
theorem tryFrom_of_isLast (h : IsLast attempt maxRetries n) (hleft : n + left = maxRetries)
    (pause : Duration) (lastError : Option ε) :
    tryFrom attempt maxRetries (left + 1) n pause lastError
      = ⟨.ofResult (attempt n).result, [.attempt], (attempt n).events⟩ := by
  cases hresult : (attempt n).result with
  | ok value => rw [tryFrom_of_ok lastError hresult, Ending.ofResult]
  | error e =>
    obtain ⟨value, hok⟩ | rfl := h.decides
    · rw [hresult] at hok
      cases hok
    · obtain rfl : left = 0 := by omega
      rw [tryFrom_of_error_last lastError hresult, Ending.ofResult]

/-- **Where everything fits, trying ends in what the last attempt came to**, without a pause behind
it. -/
theorem tryFrom_of_fits (h : IsLast attempt maxRetries (n + k)) (hleft : n + left = maxRetries)
    (hcount : maxRetries + 1 < countLimit)
    (hpause : (doubledPause pause k).nanoseconds ≤ Duration.longest.nanoseconds)
    (lastError : Option ε) :
    let r := tryFrom attempt maxRetries (left + 1) n pause lastError
    r.ending = .ofResult (attempt (n + k)).result ∧ r.steps = course pause k := by
  -- The pauses ahead are those of a run whose first pause is the next one.
  induction k generalizing n left pause lastError with
  | zero =>
    intro r
    have hr : r = _ := tryFrom_of_isLast h hleft pause lastError
    rw [hr]
    exact ⟨rfl, rfl⟩
  | succ k ih =>
    intro r
    obtain ⟨e, he⟩ := h.fails n (by omega)
    have hle := h.le
    have hn : n < maxRetries := by omega
    obtain ⟨left, rfl⟩ : ∃ left', left = left' + 1 := ⟨left - 1, by omega⟩
    have hnext : n + (k + 1) = n + 1 + k := by omega
    rw [doubledPause_succ] at hpause
    rw [hnext] at h ⊢
    have hfirst : (doubledPause pause 1).nanoseconds ≤ Duration.longest.nanoseconds :=
      le_trans (Nat.le_mul_of_pos_right _ Nat.one_le_two_pow) hpause
    have hr : r = _ := tryFrom_of_error lastError he hn hcount hfirst
    have hbehind : n + 1 + left = maxRetries := by omega
    obtain ⟨hending, hsteps⟩ := ih h hbehind hpause (some e)
    rw [hr, course_succ]
    exact ⟨hending, by rw [Run.steps_behind, hsteps]; rfl⟩

/-- **Where a count or a pause does not fit, a computation overflows**, also if it is the pause that
would follow the last attempt. -/
theorem ending_tryFrom_of_not_fits (h : IsLast attempt maxRetries (n + k))
    (hleft : n + left = maxRetries) (hk : 0 < k)
    (hover : countLimit ≤ maxRetries + 1
      ∨ Duration.longest.nanoseconds < (doubledPause pause k).nanoseconds)
    (lastError : Option ε) :
    (tryFrom attempt maxRetries (left + 1) n pause lastError).ending = .overflow := by
  induction k generalizing n left pause lastError with
  | zero => cases hk
  | succ k ih =>
    obtain ⟨e, he⟩ := h.fails n (by omega)
    have hle := h.le
    have hn : n < maxRetries := by omega
    by_cases hnow : countLimit ≤ maxRetries + 1
        ∨ Duration.longest.nanoseconds < (doubledPause pause 1).nanoseconds
    · exact ending_tryFrom_of_overflow lastError he hn hnow
    · obtain ⟨hcount, hfirst⟩ := not_or.mp hnow
      have hlater := hover.resolve_left hcount
      have hpos : 0 < k := by
        refine Nat.pos_of_ne_zero ?_
        rintro rfl
        exact hfirst hlater
      obtain ⟨left, rfl⟩ : ∃ left', left = left' + 1 := ⟨left - 1, by omega⟩
      rw [doubledPause_succ] at hlater
      rw [show n + (k + 1) = n + 1 + k by omega] at h
      rw [tryFrom_of_error lastError he hn (Nat.lt_of_not_le hcount) (Nat.le_of_not_lt hfirst)]
      exact ih h (by omega) hpos (.inr hlater) _

end course

/-! ## Trying -/

/--
**Attempts are made on schedule.** The last attempt is the first that succeeds, or the last that is
allowed. A doubling pause is waited for between any two attempts and none behind the last one, and
each attempt begins when the timer says that the pauses in front of it are over. Trying ends in a
success exactly if one of the attempts that are allowed succeeds, else in the error of the last. By
a timer that counts milliseconds and can wait for all of them, `n` pauses take `2 ^ n - 1` times the
first.
-/
theorem retry_schedule (attempt : Nat → Attempt ε β) (maxRetries : ℕ) (firstPause : Duration)
    (hcount : maxRetries + 1 < countLimit)
    (hpause : firstPause.nanoseconds * 2 ^ maxRetries ≤ Duration.longest.nanoseconds) :
    let r := retry maxRetries firstPause attempt
    ∃ last : ℕ, (last : ℕ∞) = min (firstSuccess attempt) maxRetries
      ∧ r.steps = course firstPause last
      ∧ (firstSuccess attempt ≤ maxRetries → ∃ value, (attempt last).result = .ok value
        ∧ r.ending = .success value)
      ∧ (maxRetries < firstSuccess attempt → ∃ e, (attempt last).result = .error e
        ∧ r.ending = .failure e)
      ∧ r.ending ≠ .unexplained
      ∧ ∀ timer : Timer,
        r.startedAt timer = (List.range (last + 1)).map (startFrom timer .zero firstPause)
        ∧ ∀ longest, timer.CountsMilliseconds longest → InMilliseconds firstPause → ∀ n,
          (∀ i < n, firstPause.nanoseconds * 2 ^ i ≤ longest.nanoseconds) →
            startFrom timer .zero firstPause n = ⟨firstPause.nanoseconds * (2 ^ n - 1)⟩ := by
  intro r
  obtain ⟨last, hmin⟩ := exists_last attempt maxRetries
  have hlast := isLast_of_eq_min hmin
  have hfits : (doubledPause firstPause last).nanoseconds ≤ Duration.longest.nanoseconds :=
    le_trans (Nat.mul_le_mul_left _ (Nat.pow_le_pow_right two_pos hlast.le)) hpause
  have hcourse := tryFrom_of_fits (n := 0) (k := last) (by rwa [Nat.zero_add])
    (Nat.zero_add maxRetries) hcount hfits none
  rw [Nat.zero_add] at hcourse
  obtain ⟨hending, hsteps⟩ := hcourse
  refine ⟨last, hmin, hsteps, fun hle => ?_, fun hlt => ?_, ?_, fun timer => ⟨?_, ?_⟩⟩
  · have hfirst : ¬ (last : ℕ∞) < firstSuccess attempt := by
      rw [hmin, min_eq_left hle]
      exact lt_irrefl _
    have hnot : ¬ (attempt last).Fails := fun hfail => hfirst (lt_firstSuccess_iff.mpr fun i hi =>
      hi.lt_or_eq.elim (hlast.fails i) fun heq => heq ▸ hfail)
    obtain ⟨value, hvalue⟩ := Attempt.not_fails_iff.mp hnot
    exact ⟨value, hvalue, hending.trans (by rw [hvalue, Ending.ofResult])⟩
  · obtain ⟨e, he⟩ := lt_firstSuccess_iff.mp hlt last hlast.le
    exact ⟨e, he, hending.trans (by rw [he, Ending.ofResult])⟩
  · exact hending ▸ Ending.ofResult_ne_unexplained _
  · exact (congrArg (startTimes timer .zero) hsteps).trans (startTimes_course ..)
  · exact fun longest htimer hwhole n h => startFrom_zero_eq htimer hwhole h

/-! ## A timer -/

/-- A span in milliseconds, of which it takes as many as it needs. -/
def roundedUp (d : Duration) : Duration := .ofMilliseconds ((d.nanoseconds + 999999) / 1000000)

/-- Thirty years of 365 days. -/
def thirtyYears : Duration := .ofSeconds (30 * 365 * 86400)

/-- A timer that counts milliseconds and does not wait for longer than thirty years. -/
def thirtyYearTimer : Timer := ⟨fun time pause => roundedUp (time.plus (pause.atMost thirtyYears))⟩

theorem roundedUp_eq_self {d : Duration} (h : InMilliseconds d) : roundedUp d = d := by
  obtain ⟨n, hn⟩ := h
  obtain ⟨nanoseconds⟩ := d
  simp only at hn
  subst hn
  refine congrArg Duration.mk ?_
  simp only
  omega

theorem thirtyYearTimer_counts : thirtyYearTimer.CountsMilliseconds thirtyYears where
  finish_eq := by
    intro time pause htime hpause hle
    have hmost : pause.atMost thirtyYears = pause := congrArg Duration.mk (Nat.min_eq_left hle)
    have hsum : InMilliseconds (time.plus pause) := Nat.dvd_add htime hpause
    show roundedUp (time.plus (pause.atMost thirtyYears)) = _
    rw [hmost, roundedUp_eq_self hsum]

namespace ThirdTime

/-- Two attempts fail, and all others succeed. -/
def attempt (n : ℕ) : Attempt String ℕ := ⟨if n < 2 then .error "down" else .ok n, []⟩

/-- The third of four attempts succeeds, and is made after pauses of one and two seconds. -/
theorem schedule_of_seconds :
    let r := retry 3 (.ofSeconds 1) attempt
    3 + 1 < countLimit ∧ (Duration.ofSeconds 1).nanoseconds * 2 ^ 3 ≤ Duration.longest.nanoseconds
      ∧ thirtyYearTimer.CountsMilliseconds thirtyYears ∧ InMilliseconds (.ofSeconds 1)
      ∧ r.steps = [.attempt, .pause (.ofSeconds 1), .attempt, .pause (.ofSeconds 2), .attempt]
      ∧ r.startedAt thirtyYearTimer = [.zero, .ofSeconds 1, .ofSeconds 3]
      ∧ r.ending = .success 2
      ∧ ∃ last : ℕ, (last : ℕ∞) = min (firstSuccess attempt) (3 : ℕ)
        ∧ r.steps = course (.ofSeconds 1) last
        ∧ r.startedAt thirtyYearTimer
          = (List.range (last + 1)).map (startFrom thirtyYearTimer .zero (.ofSeconds 1))
        ∧ startFrom thirtyYearTimer .zero (.ofSeconds 1) 2 = .ofSeconds 3 := by
  intro r
  have hwhole : InMilliseconds (.ofSeconds 1) := ⟨1000, rfl⟩
  obtain ⟨last, hmin, hsteps, -, -, -, htimes⟩ :=
    retry_schedule attempt 3 (.ofSeconds 1) (by decide) (by decide)
  obtain ⟨hstarted, hexact⟩ := htimes thirtyYearTimer
  exact ⟨by decide, by decide, thirtyYearTimer_counts, hwhole, by decide, by decide, rfl, last,
    hmin, hsteps, hstarted, hexact thirtyYears thirtyYearTimer_counts hwhole 2 (by decide)⟩

end ThirdTime

namespace OffSchedule

/-- A millisecond more than thirty years. -/
def longPause : Duration := .ofMilliseconds 946080000001

def nanosecond : Duration := ⟨1⟩

/-- One attempt fails, and all others succeed. -/
def attempt (n : ℕ) : Attempt String ℕ := ⟨if n < 1 then .error "x" else .ok n, []⟩

/--
The second attempt does not wait for all of a pause that is too long, and waits for longer than a
nanosecond behind a pause of one.
-/
theorem second_early_or_late :
    1 + 1 < countLimit ∧ longPause.nanoseconds * 2 ^ 1 ≤ Duration.longest.nanoseconds
      ∧ (retry 1 longPause attempt).steps = [.attempt, .pause longPause, .attempt]
      ∧ (retry 1 longPause attempt).startedAt thirtyYearTimer = [.zero, thirtyYears]
      ∧ thirtyYears ≠ ⟨longPause.nanoseconds * (2 ^ 1 - 1)⟩
      ∧ (retry 1 nanosecond attempt).steps = [.attempt, .pause nanosecond, .attempt]
      ∧ (retry 1 nanosecond attempt).startedAt thirtyYearTimer = [.zero, .ofMilliseconds 1]
      ∧ Duration.ofMilliseconds 1 ≠ ⟨nanosecond.nanoseconds * (2 ^ 1 - 1)⟩ := by
  decide

end OffSchedule

/--
**When a computation overflows.** Trying goes on until the last attempt, which is the first that
succeeds or the last that is allowed. It overflows on the way exactly if the last is not the first,
and the attempts cannot be counted or the pause that would follow the last is longer than any span.
Else it ends in what the last attempt came to.
-/
theorem retry_overflow_iff (attempt : Nat → Attempt ε β) (maxRetries : ℕ)
    (firstPause : Duration) :
    ∃ last : ℕ, (last : ℕ∞) = min (firstSuccess attempt) maxRetries
      ∧ ((retry maxRetries firstPause attempt).ending = .overflow
        ↔ 0 < last ∧ (countLimit ≤ maxRetries + 1
          ∨ Duration.longest.nanoseconds < firstPause.nanoseconds * 2 ^ last))
      ∧ ((retry maxRetries firstPause attempt).ending ≠ .overflow →
        (retry maxRetries firstPause attempt).ending = .ofResult (attempt last).result) := by
  obtain ⟨last, hmin⟩ := exists_last attempt maxRetries
  have hlast : IsLast attempt maxRetries (0 + last) := by
    rw [Nat.zero_add]
    exact isLast_of_eq_min hmin
  have hleft : 0 + maxRetries = maxRetries := Nat.zero_add _
  refine ⟨last, hmin, ?_⟩
  by_cases hover : 0 < last ∧ (countLimit ≤ maxRetries + 1
      ∨ Duration.longest.nanoseconds < firstPause.nanoseconds * 2 ^ last)
  · have hending := ending_tryFrom_of_not_fits hlast hleft hover.1 hover.2 none
    exact ⟨iff_of_true hending hover, fun hne => absurd hending hne⟩
  · have hending : (retry maxRetries firstPause attempt).ending
        = .ofResult (attempt last).result := by
      rcases Nat.eq_zero_or_pos last with rfl | hpos
      · exact congrArg Run.ending (tryFrom_of_isLast hlast hleft firstPause none)
      · obtain ⟨hcount, hpause⟩ := not_or.mp (not_and.mp hover hpos)
        have hcourse := tryFrom_of_fits hlast hleft (Nat.lt_of_not_le hcount)
          (Nat.le_of_not_lt hpause) none
        rw [Nat.zero_add] at hcourse
        exact hcourse.1
    exact ⟨iff_of_false (hending ▸ Ending.ofResult_ne_overflow _) hover, fun _ => hending⟩

namespace NeverWaited

/-- All attempts fail. -/
def attempt (_ : ℕ) : Attempt String ℕ := ⟨.error "x", []⟩

/--
The pause that would follow the last attempt cannot be computed, and as many attempts as there are
numbers for retries cannot be counted.
-/
theorem overflow_behind_last :
    74 < countLimit ∧ (Duration.ofMilliseconds 1).nanoseconds ≤ Duration.longest.nanoseconds
      ∧ (retry 74 (.ofMilliseconds 1) attempt).ending = .overflow
      ∧ (retry (countLimit - 1) .zero attempt).ending = .overflow :=
  ⟨by decide, by decide, rfl, rfl⟩

end NeverWaited

end PoolFeed.Backoff
