import PoolFeed.Decimal.Binary64

/-!
# Shortest decimal text

The fewest decimal digits that read back as a given binary64 number, and their layout.

A number stands for every real that rounds to it: an interval around it whose ends belong to it
when its significand is even. For one digit, two digits and so on up to seventeen, the two
neighbours of the number on that decimal grid are tested against the interval. The first grid with
a hit gives the digits, and of two hits the nearer one is taken.
-/

namespace PoolFeed

namespace Binary64

/-- Decimal digits `digits * 10^exponent`. -/
structure Decimal where
  digits : Nat
  exponent : Int
  deriving DecidableEq, Repr

/-- The number of decimal digits of a natural number. -/
def digitCount (n : Nat) : Nat := (Nat.toDigits 10 n).length

/-- The exponent of the first decimal digit of the positive fraction `num / den`. -/
def leadingExponent (num den : Nat) : Int :=
  let guess : Int := (digitCount num : Int) - (digitCount den : Int)
  let reaches : Bool :=
    match guess with
    | .ofNat e => decide (den * Nat.pow 10 e ≤ num)
    | .negSucc e => decide (den ≤ num * Nat.pow 10 (e + 1))
  if reaches then guess else guess - 1

/-- `a / b < c / d` on fractions. -/
def fractionLt (a b c d : Nat) : Bool := a * d < c * b

/--
The interval of reals that round to a number, as the fractions `low / den` and `high / den`.

Below a power of two the numbers lie twice as dense, so there the lower end is half as far.
-/
def interval (x : Binary64) : Nat × Nat × Nat :=
  let atPower := x.significand = 1 <<< 52 ∧ x.exponent ≠ -1074
  let low := if atPower then 4 * x.significand - 1 else 4 * x.significand - 2
  let high := 4 * x.significand + 2
  match x.exponent with
  | .ofNat e => (low <<< e, high <<< e, 4)
  | .negSucc e => (low, high, 4 <<< (e + 1))

/-- Whether a decimal reads back as the number. -/
def readsBack (x : Binary64) (d : Decimal) : Bool :=
  let (low, high, den) := x.interval
  let (n, m) : Nat × Nat :=
    match d.exponent with
    | .ofNat e => (d.digits * Nat.pow 10 e, 1)
    | .negSucc e => (d.digits, Nat.pow 10 (e + 1))
  if x.significand % 2 = 0 then !fractionLt n m low den && !fractionLt high den n m
  else fractionLt low den n m && fractionLt n m high den

/-- The two neighbours of `num / den` on the grid of `10^exponent`, the nearer one first. -/
def neighbours (num den : Nat) (exponent : Int) : Decimal × Decimal :=
  let (n, m) : Nat × Nat :=
    match exponent with
    | .ofNat e => (num, den * Nat.pow 10 e)
    | .negSucc e => (num * Nat.pow 10 (e + 1), den)
  let below : Decimal := ⟨n / m, exponent⟩
  let above : Decimal := ⟨n / m + 1, exponent⟩
  let r := n % m
  if 2 * r < m ∨ (2 * r = m ∧ n / m % 2 = 0) then (below, above) else (above, below)

/-- Looks for the shortest decimal from the grid of `count` digits on, `tries` grids at most. -/
def searchDigits (x : Binary64) (num den : Nat) (leading : Int) : Nat → Nat → Decimal
  | 0, count => (neighbours num den (leading - (count - 1 : Nat))).1
  | tries + 1, count =>
    let (near, far) := neighbours num den (leading - (count - 1 : Nat))
    if x.readsBack near then near
    else if x.readsBack far then far
    else searchDigits x num den leading tries (count + 1)

/-- Drops zeros at the end of the digits, at most `tries` of them. -/
def Decimal.stripped : Nat → Decimal → Decimal
  | 0, d => d
  | tries + 1, d =>
    if d.digits ≠ 0 ∧ d.digits % 10 = 0 then Decimal.stripped tries ⟨d.digits / 10, d.exponent + 1⟩
    else d

/-- The shortest decimal that reads back as a number other than zero. -/
def shortest (x : Binary64) : Decimal :=
  let (num, den) := x.fraction
  Decimal.stripped 18 (searchDigits x num den (leadingExponent num den) 16 1)

end Binary64

/-! ## Layout -/

/--
How a number is laid out: the exponents of the first digit that are written positionally, and
whether a positive exponent gets a sign in the scientific form.
-/
structure NumberLayout where
  leastPositional : Int
  greatestPositional : Int
  signedExponent : Bool

namespace NumberLayout

/-- Writes digits, a point and more digits. -/
def pointed (whole fraction : String) : String := whole ++ "." ++ fraction

/-- The text of a number in a layout: the shortest digits that read back. -/
def write (layout : NumberLayout) (x : Binary64) : String :=
  let sign := if x.negative then "-" else ""
  if x.significand = 0 then sign ++ "0.0"
  else
    let d := x.shortest
    let digits := Nat.toDigits 10 d.digits
    let first : Int := d.exponent + (digits.length : Int) - 1
    -- `first` is the exponent of the first digit.
    if layout.leastPositional ≤ first ∧ first ≤ layout.greatestPositional then
      if first < 0 then
        sign ++ pointed "0" (String.ofList (List.replicate (-first - 1).toNat '0' ++ digits))
      else
        let whole := first.toNat + 1
        let padded := digits ++ List.replicate (whole - digits.length) '0'
        let rest := padded.drop whole
        sign ++ pointed (String.ofList (padded.take whole))
          (String.ofList (if rest.isEmpty then ['0'] else rest))
    else
      let exponent :=
        if first < 0 then toString first
        else (if layout.signedExponent then "+" else "") ++ toString first
      let mantissa :=
        match digits with
        | [] => "0"
        | [c] => String.singleton c
        | c :: rest => pointed (String.singleton c) (String.ofList rest)
      sign ++ mantissa ++ "e" ++ exponent

end NumberLayout

end PoolFeed
