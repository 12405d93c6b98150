import PoolFeed.Time.Calendar

/-!
# Points in time

A point in time in UTC, to the nanosecond. A leap second is the second before it with a nanosecond
part of a full second or more, so it sorts behind that second and ahead of the next.
-/

namespace PoolFeed

/-- A point in time: seconds since 1 January 1970 and nanoseconds, leap seconds apart. -/
structure Timestamp where
  seconds : Int
  /-- Below `10^9`, or below `2 * 10^9` in a leap second. -/
  nanoseconds : Nat
  deriving DecidableEq, Repr, Inhabited

namespace Timestamp

/-- A natural number with at least so many digits. -/
def padded (width n : Nat) : String :=
  let digits := Nat.toDigits 10 n
  String.ofList (List.replicate (width - digits.length) '0' ++ digits)

/-- A year: four digits, or a sign and at least four outside the years 0 to 9999. -/
def yearText (year : Int) : String :=
  if 0 ≤ year ∧ year ≤ 9999 then padded 4 year.toNat
  else (if year < 0 then "-" else "+") ++ padded 4 year.natAbs

/-- A fraction of a second in three, six or nine digits, the fewest that lose nothing. -/
def fractionText (nanoseconds : Nat) : String :=
  if nanoseconds = 0 then ""
  else if nanoseconds % 1000000 = 0 then "." ++ padded 3 (nanoseconds / 1000000)
  else if nanoseconds % 1000 = 0 then "." ++ padded 6 (nanoseconds / 1000)
  else "." ++ padded 9 nanoseconds

/-- The date and time of day, without an offset. A leap second is written as second 60. -/
def localText (t : Timestamp) : String :=
  let date := Calendar.Date.ofDays (t.seconds / 86400)
  let ofDay := (t.seconds % 86400).toNat
  let second := ofDay % 60 + t.nanoseconds / 1000000000
  yearText date.year ++ "-" ++ padded 2 date.month ++ "-" ++ padded 2 date.day ++ "T"
    ++ padded 2 (ofDay / 3600) ++ ":" ++ padded 2 (ofDay / 60 % 60) ++ ":" ++ padded 2 second
    ++ fractionText (t.nanoseconds % 1000000000)

/-- The text of a point in time, the offset written as `Z`. -/
def text (t : Timestamp) : String := t.localText ++ "Z"

/-- The text of a point in time, the offset written out. -/
def textWithOffset (t : Timestamp) : String := t.localText ++ "+00:00"

/-- 1 January 2000, the point from which databases count. -/
def databaseEpoch : Int := 946684800

/--
The point in time as a database keeps it, to the microsecond. What is lost is cut off towards the
epoch of databases, and a leap second becomes the second behind it.
-/
def toMicroseconds (t : Timestamp) : Timestamp :=
  let sinceEpoch : Int := (t.seconds - databaseEpoch) * 1000000000 + t.nanoseconds
  let micros := sinceEpoch.tdiv 1000
  ⟨databaseEpoch + micros / 1000000, (micros % 1000000).toNat * 1000⟩

end Timestamp

end PoolFeed
