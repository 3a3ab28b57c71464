/-!
Binary floating-point numbers of 64 bits, as exact values rather than as machine words: a finite
number is a sign, a mantissa below `2 ^ 53` and an exponent, and every finite number has one such
form only.  All arithmetic is exact arithmetic on natural numbers followed by one rounding to the
nearest representable value, ties going to the even mantissa.

* `Finite64`: the finite numbers; `Binary64`: these with the two infinities and the NaN.
* `Binary64.ofRatio`: a quotient of natural numbers, rounded.
* `Binary64.ofInt`, `mul`, `div`, `min`, `roundHalfAway`: the operations, each correctly rounded.
* `Binary64.toInt64`: truncation towards zero, clamped to the signed 64-bit range.
-/

namespace DeviceGate

/-- A finite number `± mantissa * 2 ^ exponent` in its only form: the mantissa has all 53 bits
unless the exponent is the least one. -/
structure Finite64 where
  negative : Bool
  mantissa : Nat
  exponent : Int
  mantissa_lt : mantissa < 9007199254740992
  exponent_ge : -1074 ≤ exponent
  exponent_le : exponent ≤ 971
  normal : 4503599627370496 ≤ mantissa ∨ exponent = -1074
  deriving DecidableEq

/-- A 64-bit floating-point value. -/
inductive Binary64 where
  | finite (x : Finite64)
  | infinite (negative : Bool)
  | nan
  deriving DecidableEq

namespace Finite64

/-- Zero, of either sign. -/
def zero (negative : Bool) : Finite64 where
  negative := negative
  mantissa := 0
  exponent := -1074
  mantissa_lt := by decide
  exponent_ge := by decide
  exponent_le := by decide
  normal := Or.inr rfl

/-- The numerator of the absolute value. -/
def numerator (x : Finite64) : Nat :=
  x.mantissa * Nat.pow 2 x.exponent.toNat

/-- The denominator of the absolute value, a power of two. -/
def denominator (x : Finite64) : Nat :=
  Nat.pow 2 (-x.exponent).toNat

theorem denominator_pos (x : Finite64) : 0 < x.denominator :=
  Nat.two_pow_pos _

/-- Either of the two zeros. -/
def isZero (x : Finite64) : Bool :=
  x.mantissa = 0

/-- The same number with the other sign. -/
def neg (x : Finite64) : Finite64 :=
  { x with negative := !x.negative }

end Finite64

/-- The quotient rounded to the nearest natural number, a half going to the even neighbour. -/
def roundHalfEven (num den : Nat) : Nat :=
  let q := num / den
  let r := num % den
  if den < 2 * r ∨ (2 * r = den ∧ q % 2 = 1) then q + 1 else q

/-- The greatest `k` with `2 ^ k ≤ num / den`, for positive `num` and `den`. -/
def floorLog2Ratio (num den : Nat) : Int :=
  let k : Int := (num.log2 : Int) - (den.log2 : Int)
  if den * Nat.pow 2 k.toNat ≤ num * Nat.pow 2 (-k).toNat then k else k - 1

namespace Binary64

/-- The finite number with the given parts, or an infinity when the exponent is too large. -/
def ofParts (negative : Bool) (mantissa : Nat) (exponent : Int) : Binary64 :=
  if h : mantissa < 9007199254740992 ∧ -1074 ≤ exponent ∧ exponent ≤ 971 ∧
      (4503599627370496 ≤ mantissa ∨ exponent = -1074) then
    .finite ⟨negative, mantissa, exponent, h.1, h.2.1, h.2.2.1, h.2.2.2⟩
  else .infinite negative

/-- The quotient `± num / den` rounded to the nearest representable value; a mantissa that rounds up
to `2 ^ 53` moves to the next exponent. -/
def ofRatio (negative : Bool) (num den : Nat) : Binary64 :=
  if num = 0 then .finite (.zero negative)
  else
    let e := max (floorLog2Ratio num den - 52) (-1074)
    let m := roundHalfEven (num * Nat.pow 2 (-e).toNat) (den * Nat.pow 2 e.toNat)
    if m = 9007199254740992 then ofParts negative 4503599627370496 (e + 1) else ofParts negative m e

/-- The nearest value to an integer. -/
def ofInt (n : Int) : Binary64 :=
  ofRatio (n < 0) n.natAbs 1

/-- The nearest value to a natural number. -/
def ofNat (n : Nat) : Binary64 :=
  ofRatio false n 1

/-- The value with the other sign. -/
def neg : Binary64 → Binary64
  | .finite x => .finite x.neg
  | .infinite s => .infinite !s
  | .nan => .nan

/-- The rounded product. -/
def mul : Binary64 → Binary64 → Binary64
  | .finite x, .finite y =>
    ofRatio (x.negative != y.negative) (x.numerator * y.numerator) (x.denominator * y.denominator)
  | .infinite s, .infinite t => .infinite (s != t)
  | .infinite s, .finite y => if y.isZero then .nan else .infinite (s != y.negative)
  | .finite x, .infinite t => if x.isZero then .nan else .infinite (x.negative != t)
  | .nan, _ => .nan
  | _, .nan => .nan

/-- The rounded quotient. -/
def div : Binary64 → Binary64 → Binary64
  | .finite x, .finite y =>
    if y.isZero then (if x.isZero then .nan else .infinite (x.negative != y.negative))
    else
      ofRatio (x.negative != y.negative) (x.numerator * y.denominator)
        (x.denominator * y.numerator)
  | .infinite _, .infinite _ => .nan
  | .infinite s, .finite y => .infinite (s != y.negative)
  | .finite x, .infinite t => .finite (.zero (x.negative != t))
  | .nan, _ => .nan
  | _, .nan => .nan

/-- Strictly less; false as soon as one side is a NaN, and the two zeros are equal. -/
def lt : Binary64 → Binary64 → Bool
  | .finite x, .finite y =>
    let sx : Int := if x.negative then -(x.numerator : Int) else x.numerator
    let sy : Int := if y.negative then -(y.numerator : Int) else y.numerator
    sx * y.denominator < sy * x.denominator
  | .infinite s, .infinite t => s && !t
  | .infinite s, .finite _ => s
  | .finite _, .infinite t => !t
  | .nan, _ => false
  | _, .nan => false

/-- The smaller of two values; a NaN gives way to the other value. -/
def min : Binary64 → Binary64 → Binary64
  | .nan, y => y
  | x, .nan => x
  | x, y => if lt y x then y else x

/-- The nearest integral value, a half going away from zero. -/
def roundHalfAway : Binary64 → Binary64
  | .finite x =>
    ofRatio x.negative ((2 * x.numerator + x.denominator) / (2 * x.denominator)) 1
  | other => other

/-- The integral part. -/
def truncate (x : Finite64) : Int :=
  let n : Int := ((x.numerator / x.denominator : Nat) : Int)
  if x.negative then -n else n

/-- An integer moved into the signed 64-bit range. -/
def clamp64 (n : Int) : Int :=
  max (-9223372036854775808) (Min.min n 9223372036854775807)

/-- Truncation towards zero into the signed 64-bit range; infinities go to its ends and a NaN to
zero. -/
def toInt64 : Binary64 → Int
  | .finite x => clamp64 (truncate x)
  | .infinite s => if s then -9223372036854775808 else 9223372036854775807
  | .nan => 0

/-- Infinite, of either sign. -/
def isInfinite : Binary64 → Bool
  | .infinite _ => true
  | _ => false

/-- Either of the two zeros. -/
def isZero : Binary64 → Bool
  | .finite x => x.isZero
  | _ => false

/-- The positive zero. -/
def zero : Binary64 :=
  .finite (.zero false)

theorem clamp64_range (n : Int) :
    -9223372036854775808 ≤ clamp64 n ∧ clamp64 n < 9223372036854775808 := by
  unfold clamp64
  omega

end Binary64

end DeviceGate
