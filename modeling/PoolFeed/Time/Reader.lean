import PoolFeed.Text.Blank
import PoolFeed.Time.Timestamp

/-!
# Reading points in time

A lenient form of RFC 3339. Parts may have fewer digits than usual, and white space may stand in
front of every number, every separator of the date and the time, and the offset.
-/

namespace PoolFeed.Timestamp

open Text (isBlank trimFront)

/-- Why a text is no point in time. -/
inductive ReadError where
  /-- The text ends where more is due. -/
  | tooShort
  /-- A character that does not belong there. -/
  | malformed
  /-- A number outside the range of its part, or a date that does not exist. -/
  | outOfRange
  /-- A local time whose point in time is beyond the calendar. -/
  | impossible
  /-- More text behind the offset. -/
  | tooLong
  deriving DecidableEq, Repr

/-- The wording of an error. -/
def ReadError.message : ReadError → String
  | .tooShort => "premature end of input"
  | .malformed => "input contains invalid characters"
  | .outOfRange => "input is out of range"
  | .impossible => "no possible date and time matching input"
  | .tooLong => "trailing input"

/-- What is left of a text behind a part of it. -/
abbrev Rest := List Char

def digitValue (c : Char) : Nat := c.toNat - '0'.toNat

def digitsValue (ds : List Char) : Nat := ds.foldl (fun n c => 10 * n + digitValue c) 0

/-- A number of one digit or more, of which at most `width` are taken. -/
def number (width : Nat) (s : List Char) : Except ReadError (Nat × Rest) :=
  let ds := (s.take width).takeWhile Char.isDigit
  if ds.isEmpty then .error (if s.isEmpty then .tooShort else .malformed)
  else
    let n := digitsValue ds
    if n < 1 <<< 63 then .ok (n, s.drop ds.length) else .error .outOfRange

/-- A part of a date or time within its range, blanks in front of it skipped. -/
def part (least greatest : Nat) (s : List Char) : Except ReadError (Nat × Rest) := do
  let (n, rest) ← number 2 (trimFront s)
  if least ≤ n ∧ n ≤ greatest then .ok (n, rest) else .error .outOfRange

/-- A year: up to four digits, or a sign and any number of them. -/
def year (s : List Char) : Except ReadError (Int × Rest) := do
  let s := trimFront s
  let (n, rest) : Int × Rest ←
    match s with
    | '-' :: more => (number more.length more).map (fun p => (-(p.1 : Int), p.2))
    | '+' :: more => (number more.length more).map (fun p => ((p.1 : Int), p.2))
    | _ => (number 4 s).map (fun p => ((p.1 : Int), p.2))
  if -2147483648 ≤ n ∧ n < 2147483648 then .ok (n, rest) else .error .outOfRange

/-- A separator, blanks in front of it skipped. -/
def separator (c : Char) (s : List Char) : Except ReadError Rest :=
  match trimFront s with
  | [] => .error .tooShort
  | d :: rest => if d = c then .ok rest else .error .malformed

/-- The fraction of a second in nanoseconds, if there is one; digits beyond the ninth are passed. -/
def fraction (s : List Char) : Except ReadError (Nat × Rest) :=
  match s with
  | '.' :: more => do
    let (_, _) ← number 9 more
    let ds := (more.take 9).takeWhile Char.isDigit
    .ok (digitsValue ds * Nat.pow 10 (9 - ds.length), more.dropWhile Char.isDigit)
  | _ => .ok (0, s)

def twoDigits (s : List Char) : Except ReadError (Char × Char × Rest) :=
  match s with
  | [] => .error .tooShort
  | [c] => .error (if c.toNat < 0x80 then .tooShort else .malformed)
  | a :: b :: rest => if a.isDigit && b.isDigit then .ok (a, b, rest) else .error .malformed

/-- Whether a text begins with the letters `UTC`, in any case. -/
def startsWithUtc (s : List Char) : Bool := (s.take 3).map Char.toLower == ['u', 't', 'c']

def offsetSign (s : List Char) : Except ReadError (Int × Rest) :=
  match s with
  | [] => .error .tooShort
  | c :: rest =>
    if c = '+' then .ok (1, rest)
    else if c = '-' ∨ c = '−' then .ok (-1, rest)
    else .error .malformed

/-- An offset from UTC in seconds. -/
def offset (s : List Char) : Except ReadError (Int × Rest) :=
  if startsWithUtc s then .ok (0, s.drop 3)
  else
    match s with
    | 'Z' :: rest => .ok (0, rest)
    | 'z' :: rest => .ok (0, rest)
    | _ => do
      let (sign, s) ← offsetSign s
      let (h₁, h₂, s) ← twoDigits s
      let (m₁, m₂, s) ← twoDigits (s.dropWhile (fun c => c = ':' || isBlank c))
      if 6 ≤ digitValue m₁ then .error .outOfRange
      else
        let hours := 10 * digitValue h₁ + digitValue h₂
        let minutes := 10 * digitValue m₁ + digitValue m₂
        .ok (sign * (hours * 3600 + minutes * 60 : Nat), s)

/-- The `T` between date and time. -/
def dateEnd (s : List Char) : Except ReadError Rest :=
  match s with
  | [] => .error .tooShort
  | c :: rest => if c = 't' ∨ c = 'T' ∨ c = ' ' then .ok rest else .error .malformed

/-- The point in time of a text. -/
def read (s : List Char) : Except ReadError Timestamp := do
  let (year, s) ← year s
  let s ← separator '-' s
  let (month, s) ← part 1 12 s
  let s ← separator '-' s
  let (day, s) ← part 1 31 s
  let s ← dateEnd s
  let (hour, s) ← part 0 23 s
  let s ← separator ':' s
  let (minute, s) ← part 0 59 s
  let s ← separator ':' s
  let (second, s) ← part 0 60 s
  let (nanoseconds, s) ← fraction s
  let (offset, s) ← offset (trimFront s)
  if !(trimFront s).isEmpty then .error .tooLong
  else
    let date : Calendar.Date := ⟨year, month, day⟩
    if !date.isValid || 86400 ≤ offset.natAbs then .error .outOfRange
    else
      let leap := second = 60
      -- A leap second is the one before it with another second's worth of nanoseconds.
      let ofDay : Nat := hour * 3600 + minute * 60 + (if leap then 59 else second)
      let seconds := date.toDays * 86400 + ofDay - offset
      if Calendar.yearInRange (Calendar.Date.ofDays (seconds / 86400)).year then
        .ok ⟨seconds, nanoseconds + (if leap then 1000000000 else 0)⟩
      else .error .impossible

end PoolFeed.Timestamp
