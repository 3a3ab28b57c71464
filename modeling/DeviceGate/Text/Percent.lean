import DeviceGate.Text.Hex

/-!
Percent decoding of a path segment: `%` and two hexadecimal digits stand for one byte, and every
other character for its own bytes.  The bytes must then form UTF-8.

* `Percent.decode?`: the decoded text, or nothing when the bytes are no UTF-8.
-/

namespace DeviceGate.Text.Percent

/-- The byte that two hexadecimal digits stand for. -/
def byte? (high low : Char) : Option UInt8 := do
  let h ← Hex.digitValue? high
  let l ← Hex.digitValue? low
  return UInt8.ofNat (16 * h + l)

/-- The bytes of a segment; a `%` that two digits do not follow stands for itself. -/
def bytes : List Char → List UInt8
  | [] => []
  | '%' :: high :: low :: rest =>
    match byte? high low with
    | some b => b :: bytes rest
    | none => 37 :: bytes (high :: low :: rest)
  | c :: rest => (String.singleton c).toUTF8.toList ++ bytes rest

/-- The decoded text of a segment. -/
def decode? (segment : String) : Option String :=
  String.fromUTF8? (ByteArray.mk (bytes segment.toList).toArray)

end DeviceGate.Text.Percent
