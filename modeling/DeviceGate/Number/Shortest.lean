import DeviceGate.Number.Binary64

/-!
The shortest decimal of a finite number: the decimal with the fewest digits among those that round
back to the number, and of several with that many digits the one nearest to it.

* `DecimalTie`: where an exact tie goes.
* `Finite64.roundsTo`: a decimal lies in the interval of reals that round to the number.
* `Finite64.shortest`: the digits, as a natural number, and the power of ten that scales them.
-/

namespace DeviceGate

/-- Which of two decimals equally near to a number is taken. -/
inductive DecimalTie where
  | larger
  /-- The one whose last digit is even. -/
  | even
  deriving DecidableEq

namespace Finite64

/-- The number of decimal digits of a natural number; zero has one. -/
def digitCount (n : Nat) : Nat :=
  (Nat.toDigits 10 n).length

/-- The half-gap below a mantissa, in quarters of a unit: the gap is halved at the least mantissa of
an exponent that has a smaller neighbour. -/
def quarterBelow (x : Finite64) : Nat :=
  if x.mantissa = 4503599627370496 ∧ -1074 < x.exponent then 1 else 2

/-- Whether `digits * 10 ^ scale` rounds to the absolute value of the number: it lies between the
midpoints to the two neighbours, and on a midpoint only if the mantissa is even. -/
def roundsTo (x : Finite64) (digits : Nat) (scale : Int) : Bool :=
  -- all three are compared after multiplication by the same positive number
  let point := 4 * digits * Nat.pow 10 scale.toNat * x.denominator
  let unit := Nat.pow 2 x.exponent.toNat * Nat.pow 10 (-scale).toNat
  let low := (4 * x.mantissa - x.quarterBelow) * unit
  let high := (4 * x.mantissa + 2) * unit
  if x.mantissa % 2 = 0 then low ≤ point && point ≤ high else low < point && point < high

/-- The exponent of the leading decimal digit of a positive number, found on a multiple large enough
to be at least one. -/
def leadingExponent (x : Finite64) : Int :=
  (digitCount (x.numerator * Nat.pow 10 400 / x.denominator) : Int) - 1 - 400

/-- A power of ten on the grid above the leading digit is written with one digit. -/
def carried (count digits : Nat) (scale : Int) : Nat × Int :=
  if digits = Nat.pow 10 count then (1, scale + count) else (digits, scale)

/-- The decimal with `count` digits that stands for the number, if there is one: the neighbour below
and the neighbour above on that grid are tried, and of two hits the nearer is taken. -/
def candidate (x : Finite64) (tie : DecimalTie) (count : Nat) : Option (Nat × Int) :=
  let scale := x.leadingExponent - count + 1
  let num := x.numerator * Nat.pow 10 (-scale).toNat
  let den := x.denominator * Nat.pow 10 scale.toNat
  let below := num / den
  let down := 2 * (num % den) < den ∨ (2 * (num % den) = den ∧ tie = .even ∧ below % 2 = 0)
  let nearer := if down then below else below + 1
  let farther := below + (below + 1) - nearer
  if x.roundsTo nearer scale then some (carried count nearer scale)
  else if x.roundsTo farther scale then some (carried count farther scale)
  else none

/-- The digits and the scale of the shortest decimal of a positive number; seventeen digits always
suffice. -/
def shortest (x : Finite64) (tie : DecimalTie) : Nat × Int :=
  ((List.range 17).findSome? fun i => x.candidate tie (i + 1)).getD (0, 0)

end Finite64

end DeviceGate
