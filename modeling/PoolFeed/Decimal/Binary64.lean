/-!
# Finite binary64 numbers

A finite binary64 number in exact form, its products and quotients, and the reading of decimal
texts. All arithmetic is on natural numbers, so nothing here depends on how a machine computes.
-/

namespace PoolFeed

/--
A finite binary64 number, `(-1)^negative * significand * 2^exponent`.

The significand is below `2^53`; it is at least `2^52` unless the exponent is the least one,
`-1074`, so that every number has one representation.
-/
structure Binary64 where
  negative : Bool
  significand : Nat
  exponent : Int
  deriving DecidableEq, Repr, Inhabited

namespace Binary64

/-- Zero, with its sign. -/
def zero (negative : Bool) : Binary64 := ⟨negative, 0, -1074⟩

/-- The quotient of two natural numbers to the nearest whole number; a tie goes to the even one. -/
def roundDiv (num den : Nat) : Nat :=
  let q := num / den
  let r := num % den
  if 2 * r < den then q
  else if den < 2 * r then q + 1
  else if q % 2 = 0 then q else q + 1

/-- The fraction `num / den` divided by `2^exponent`, as a fraction. -/
def scaleDown (num den : Nat) (exponent : Int) : Nat × Nat :=
  match exponent with
  | .ofNat e => (num, den <<< e)
  | .negSucc e => (num <<< (e + 1), den)

/-- The number nearest to the positive fraction `num / den`; `none` if that is no finite number. -/
def ofFraction? (negative : Bool) (num den : Nat) : Option Binary64 :=
  let guess : Int := max (-1074) ((num.log2 : Int) - (den.log2 : Int) - 53)
  -- The logarithms settle the exponent up to one.
  let (n₀, d₀) := scaleDown num den guess
  let exponent := if 1 <<< 53 ≤ n₀ / d₀ then guess + 1 else guess
  let (n, d) := scaleDown num den exponent
  let rounded := roundDiv n d
  -- Rounding up may reach the next power of two, which has its own exponent.
  let x : Binary64 :=
    if rounded = 1 <<< 53 then ⟨negative, 1 <<< 52, exponent + 1⟩ else ⟨negative, rounded, exponent⟩
  if 971 < x.exponent then none else some x

/-- The magnitude as a fraction. -/
def fraction (x : Binary64) : Nat × Nat :=
  match x.exponent with
  | .ofNat e => (x.significand <<< e, 1)
  | .negSucc e => (x.significand, 1 <<< (e + 1))

/-- The product of two numbers, rounded; `none` if it is not finite. -/
def mul? (x y : Binary64) : Option Binary64 :=
  let negative := x.negative != y.negative
  if x.significand = 0 ∨ y.significand = 0 then some (zero negative)
  else ofFraction? negative (x.fraction.1 * y.fraction.1) (x.fraction.2 * y.fraction.2)

/-- The quotient of two numbers, rounded; `none` if it is not finite. -/
def div? (x y : Binary64) : Option Binary64 :=
  let negative := x.negative != y.negative
  if y.significand = 0 then none
  else if x.significand = 0 then some (zero negative)
  else ofFraction? negative (x.fraction.1 * y.fraction.2) (x.fraction.2 * y.fraction.1)

/-- The number nearest to a whole number; `none` if that is not finite. -/
def ofNat? (negative : Bool) (n : Nat) : Option Binary64 :=
  if n = 0 then some (zero negative) else ofFraction? negative n 1

/-- The exponent of the greatest power of ten that is finite. -/
def greatestPower : Nat := 308

/-- A number times `10^exponent`, of which the power is rounded as well as the product. -/
def timesPower? (x : Binary64) (exponent : Nat) : Option Binary64 :=
  (ofNat? false (Nat.pow 10 exponent)).bind x.mul?

/-- A number divided by `10^exponent`, of which the power is rounded as well as the quotient. -/
def overPower? (x : Binary64) (exponent : Nat) : Option Binary64 :=
  (ofNat? false (Nat.pow 10 exponent)).bind x.div?

/-- A number divided by the greatest power of ten, so many times. Every division rounds. -/
def overGreatest? : Nat → Binary64 → Option Binary64
  | 0, x => some x
  | n + 1, x =>
    if x.significand = 0 then some x else (x.overPower? greatestPower).bind (overGreatest? n)

/--
A number divided by `10^exponent`: by the greatest power of ten as long as the exponent is beyond
it, and then by what is left of the power.
-/
def scaledDown? (x : Binary64) (exponent : Nat) : Option Binary64 :=
  let times := (exponent - 1) / greatestPower
  (overGreatest? times x).bind (·.overPower? (exponent - greatestPower * times))

/-- A number times `10^exponent`; `none` if it is not finite. -/
def scaled? (x : Binary64) : Int → Option Binary64
  | .ofNat e =>
    if e ≤ greatestPower then x.timesPower? e else if x.significand = 0 then some x else none
  | .negSucc e => x.scaledDown? (e + 1)

/--
The number that `digits * 10^exponent` is read as. The digits are rounded, and then scaled; this is
the nearest number if the digits and the power are exact, and may be a neighbour of it otherwise.
-/
def ofDecimal? (negative : Bool) (digits : Nat) (exponent : Int) : Option Binary64 :=
  (ofNat? negative digits).bind (·.scaled? exponent)

end Binary64

end PoolFeed
