import DeviceGate.Number.Shortest

/-!
How a shortest decimal is laid out: positionally while the exponent of the leading digit is within
bounds, always with a fraction, and otherwise as a leading digit, the rest after a point, and an
exponent.

* `DecimalLayout`: the decisions, as one record.
* `DecimalLayout.signed`: the layout of signed payloads; `DecimalLayout.plain`: that of numbers in
  log lines.
* `DecimalLayout.write`: the text of a finite number.
-/

namespace DeviceGate

/-- The choices that a layout of decimals makes. -/
structure DecimalLayout where
  /-- The least exponent of the leading digit that is written positionally. -/
  lowest : Int
  /-- The greatest exponent of the leading digit that is written positionally. -/
  highest : Int
  /-- Whether an exponent that is not negative carries a plus sign. -/
  plusSign : Bool
  /-- The least number of digits of an exponent. -/
  exponentDigits : Nat
  /-- Where the digits go when two decimals are equally near. -/
  tie : DecimalTie

namespace DecimalLayout

/-- Positional from `1e-4` up to, and without, `1e16`; an exponent is signed and has two digits. -/
def signed : DecimalLayout where
  lowest := -4
  highest := 15
  plusSign := true
  exponentDigits := 2
  tie := .larger

/-- Positional from `1e-5` up to, and without, `1e16`; an exponent is signed and as short as it can
be. -/
def plain : DecimalLayout where
  lowest := -5
  highest := 15
  plusSign := true
  exponentDigits := 1
  tie := .even

/-- The digits of a natural number, padded on the left with zeros. -/
def padded (width n : Nat) : List Char :=
  let ds := Nat.toDigits 10 n
  List.replicate (width - ds.length) '0' ++ ds

/-- The digits with the point after the digit of exponent zero. -/
def positional (digits : List Char) (leading : Int) : List Char :=
  if leading < 0 then
    ['0', '.'] ++ List.replicate (-leading - 1).toNat '0' ++ digits
  else
    let before := leading.toNat + 1
    if digits.length ≤ before then
      digits ++ List.replicate (before - digits.length) '0' ++ ['.', '0']
    else digits.take before ++ ['.'] ++ digits.drop before

/-- The leading digit, the other digits after a point, and the exponent. -/
def scientific (layout : DecimalLayout) (digits : List Char) (leading : Int) : List Char :=
  let mantissa := match digits with
    | [] => []
    | [d] => [d]
    | d :: rest => d :: '.' :: rest
  let sign := if leading < 0 then ['-'] else if layout.plusSign then ['+'] else []
  mantissa ++ ['e'] ++ sign ++ padded layout.exponentDigits leading.natAbs

/-- The text of a positive number. -/
def magnitude (layout : DecimalLayout) (x : Finite64) : List Char :=
  let (number, scale) := x.shortest layout.tie
  let digits := Nat.toDigits 10 number
  let leading := scale + digits.length - 1
  if layout.lowest ≤ leading ∧ leading ≤ layout.highest then positional digits leading
  else layout.scientific digits leading

/-- The text of a finite number; both zeros are written, with their signs. -/
def write (layout : DecimalLayout) (x : Finite64) : List Char :=
  (if x.negative then ['-'] else []) ++
    (if x.isZero then ['0', '.', '0'] else layout.magnitude x)

end DecimalLayout

/-- The text of any value in the layout of signed payloads, with names for the others. -/
def Binary64.text : Binary64 → String
  | .finite x => String.ofList (DecimalLayout.signed.write x)
  | .infinite s => if s then "-inf" else "inf"
  | .nan => "NaN"

end DeviceGate
