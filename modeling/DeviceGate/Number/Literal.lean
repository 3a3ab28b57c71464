import DeviceGate.Number.Binary64

/-!
Numbers read from text, outside any document: decimal numbers with optional sign, fraction and
exponent, the names of the special values, and signed or unsigned 64-bit integers.

* `Binary64.ofText?`: a decimal or a special value, correctly rounded.
* `readUnsigned64?`, `readSigned64?`: integers, refused when out of range.
-/

namespace DeviceGate

/-- An ASCII digit. -/
def isDigit (c : Char) : Bool :=
  '0' ≤ c && c ≤ '9'

/-- The value of an ASCII digit. -/
def digitOf (c : Char) : Nat :=
  c.toNat - '0'.toNat

/-- The number that the digits spell. -/
def digitsValue (ds : List Char) : Nat :=
  ds.foldl (fun n c => 10 * n + digitOf c) 0

/-- The lower-case form of an ASCII letter. -/
def lowerAscii (s : String) : String :=
  String.ofList (s.toList.map Char.toLower)

/-- `± digits * 10 ^ scale`, rounded.  A number of digits beyond the range on either side decides
the result before any power is formed. -/
def Binary64.ofDecimal (negative : Bool) (digits : Nat) (scale : Int) : Binary64 :=
  if digits = 0 then .finite (.zero negative)
  else
    let leading := scale + (Nat.toDigits 10 digits).length
    if 400 < leading then .infinite negative
    else if leading < -400 then .finite (.zero negative)
    else .ofRatio negative (digits * Nat.pow 10 scale.toNat) (Nat.pow 10 (-scale).toNat)

/-- The exponent part, if any, which must end the text: `e`, an optional sign, digits. -/
def readExponent? : List Char → Option Int
  | [] => some 0
  | mark :: rest =>
    if mark ≠ 'e' ∧ mark ≠ 'E' then none
    else
      let (negative, ds) := match rest with
        | '-' :: ds => (true, ds)
        | '+' :: ds => (false, ds)
        | ds => (false, ds)
      if ds.isEmpty || !ds.all isDigit then none
      else some (if negative then -(digitsValue ds : Int) else digitsValue ds)

/-- An unsigned decimal: digits, optionally a point and digits, on at least one side of it a digit,
and optionally an exponent. -/
def readDecimal? (negative : Bool) (cs : List Char) : Option Binary64 :=
  let whole := cs.takeWhile isDigit
  let afterWhole := cs.dropWhile isDigit
  let (fraction, afterFraction) := match afterWhole with
    | '.' :: rest => (rest.takeWhile isDigit, rest.dropWhile isDigit)
    | rest => ([], rest)
  if whole.isEmpty && fraction.isEmpty then none
  else
    (readExponent? afterFraction).map fun e =>
      .ofDecimal negative (digitsValue (whole ++ fraction)) (e - fraction.length)

/-- A decimal or a special value, with an optional sign, filling the whole text; the special names
are read in any case. -/
def Binary64.ofText? (s : String) : Option Binary64 :=
  let (negative, rest) := match s.toList with
    | '-' :: rest => (true, rest)
    | '+' :: rest => (false, rest)
    | rest => (false, rest)
  let name := rest.map Char.toLower
  if name = "inf".toList ∨ name = "infinity".toList then some (.infinite negative)
  else if name = "nan".toList then some .nan
  else readDecimal? negative rest

/-- The natural number that a nonempty run of digits spells, if it stays below the bound. -/
def readBelow? (bound : Nat) (ds : List Char) : Option Nat :=
  if ds.isEmpty || !ds.all isDigit then none
  else
    let n := digitsValue ds
    if n < bound then some n else none

/-- An unsigned 64-bit integer with an optional plus sign. -/
def readUnsigned64? (s : String) : Option Nat :=
  match s.toList with
  | '+' :: ds => readBelow? 18446744073709551616 ds
  | ds => readBelow? 18446744073709551616 ds

/-- A signed 64-bit integer with an optional sign. -/
def readSigned64? (s : String) : Option Int :=
  match s.toList with
  | '-' :: ds => (readBelow? 9223372036854775809 ds).map fun n => -(n : Int)
  | '+' :: ds => (readBelow? 9223372036854775808 ds).map Int.ofNat
  | ds => (readBelow? 9223372036854775808 ds).map Int.ofNat

end DeviceGate
