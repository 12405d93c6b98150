/-!
# Spans of time

A span is a whole number of nanoseconds, written in the largest unit of which it holds at least
one.
-/

namespace PoolFeed

/-- A span of time. -/
structure Duration where
  nanoseconds : Nat
  deriving DecidableEq, Repr, Inhabited

namespace Duration

/-- The span of no time. -/
def zero : Duration := ⟨0⟩

/-- The longest span there is: a second short of `2^64` seconds, and all but a nanosecond of it. -/
def longest : Duration := ⟨(1000000000 <<< 64) - 1⟩

def ofSeconds (n : Nat) : Duration := ⟨n * 1000000000⟩

def ofMilliseconds (n : Nat) : Duration := ⟨n * 1000000⟩

/-- A span after another. -/
def plus (a b : Duration) : Duration := ⟨a.nanoseconds + b.nanoseconds⟩

/-- A span, or another one if that is shorter. -/
def atMost (a b : Duration) : Duration := ⟨min a.nanoseconds b.nanoseconds⟩

/-- The whole milliseconds of a span. -/
def milliseconds (d : Duration) : Nat := d.nanoseconds / 1000000

/-- Twice a span, if there is a span that long. -/
def doubled? (d : Duration) : Option Duration :=
  if 2 * d.nanoseconds ≤ longest.nanoseconds then some ⟨2 * d.nanoseconds⟩ else none

/-- The digits of a fraction of `places` places, without zeros at the end. -/
def fractionDigits (places n : Nat) : List Char :=
  let digits := Nat.toDigits 10 n
  let padded := List.replicate (places - digits.length) '0' ++ digits
  (padded.reverse.dropWhile (· = '0')).reverse

/-- A count of nanoseconds in units of `10^places` nanoseconds. -/
def inUnits (places n : Nat) (unit : String) : String :=
  let fraction := fractionDigits places (n % Nat.pow 10 places)
  toString (n / Nat.pow 10 places)
    ++ (if n % Nat.pow 10 places = 0 then "" else "." ++ String.ofList fraction) ++ unit

/-- The text of a span, in seconds, milliseconds, microseconds or nanoseconds. -/
def text (d : Duration) : String :=
  let n := d.nanoseconds
  if 1000000000 ≤ n then inUnits 9 n "s"
  else if 1000000 ≤ n then inUnits 6 n "ms"
  else if 1000 ≤ n then inUnits 3 n "µs"
  else inUnits 0 n "ns"

end Duration

end PoolFeed
