import DeviceGate.Number.Literal
import DeviceGate.Text.Blank
import DeviceGate.Time.Span

/-!
The configured lifetime of certificates: digits and a unit, seconds where no unit stands.

* `Ttl.read`: the lifetime of a text, or why there is none.
-/

namespace DeviceGate

/-- What a text says about a lifetime. -/
inductive Ttl where
  | seconds (n : Nat)
  /-- The text is not a lifetime. -/
  | unreadable
  /-- The lifetime is longer than any span of milliseconds in 64 bits. -/
  | beyondRange
  deriving DecidableEq

namespace Ttl

/-- The longest lifetime in whole seconds. -/
def maxSeconds : Nat := Span.greatestMilliseconds / 1000

/-- The seconds of a unit. -/
def unitSeconds? : List Char → Option Nat
  | [] => some 1
  | ['s'] => some 1
  | ['m'] => some 60
  | ['h'] => some 3600
  | ['d'] => some 86400
  | _ => none

/-- The lifetime that a text spells. -/
def read (s : String) : Ttl :=
  let cs := (Text.trim s).toList
  let amount := readBelow? 9223372036854775808 (cs.takeWhile isDigit)
  let unit := unitSeconds? (cs.dropWhile isDigit)
  match amount, unit with
  | some amount, some unit =>
    if amount * unit ≤ maxSeconds then .seconds (amount * unit) else .beyondRange
  | _, _ => .unreadable

end Ttl

end DeviceGate
