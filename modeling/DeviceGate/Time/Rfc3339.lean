import DeviceGate.Number.Literal
import DeviceGate.Text.Blank
import DeviceGate.Time.Timestamp

/-!
Timestamps as text.  Writing uses three, six or nine digits of a fraction, or none, as few as are
exact.  There are two readers: a strict one for the timestamps of messages, in which every part has
its fixed width, and a lenient one for stored records, in which numbers may be short, blanks may
stand before them, and the offset may be written in several ways.

* `Timestamp.text`, `Timestamp.zuluText`: with the offset `+00:00`, with `Z`.
* `Timestamp.read?`: the strict reader; `Timestamp.readLenient?`: the lenient one.
-/

namespace DeviceGate.Timestamp

/-! ### Writing -/

/-- A number in at least so many digits. -/
def padNat (width n : Nat) : String :=
  let ds := Nat.toDigits 10 n
  String.ofList (List.replicate (width - ds.length) '0' ++ ds)

/-- A year in four digits, with a sign outside 0 to 9999. -/
def yearText (y : Int) : String :=
  if 0 ≤ y ∧ y ≤ 9999 then padNat 4 y.toNat
  else (if y < 0 then "-" else "+") ++ padNat 4 y.natAbs

/-- The fraction of a second, in the fewest groups of three digits that are exact. -/
def fractionText (nano : Nat) : String :=
  if nano = 0 then ""
  else if nano % 1000000 = 0 then "." ++ padNat 3 (nano / 1000000)
  else if nano % 1000 = 0 then "." ++ padNat 6 (nano / 1000)
  else "." ++ padNat 9 nano

/-- Date and time without an offset; a leap second is written as second 60. -/
def localText (t : Timestamp) : String :=
  let d := t.date
  let s := t.secondOfDay
  let second := s % 60 + (if t.isLeapSecond then 1 else 0)
  yearText d.year ++ "-" ++ padNat 2 d.month ++ "-" ++ padNat 2 d.day ++ "T" ++
    padNat 2 (s / 3600) ++ ":" ++ padNat 2 (s / 60 % 60) ++ ":" ++ padNat 2 second ++
    fractionText (t.nano % 1000000000)

/-- The timestamp with the offset `+00:00`. -/
def text (t : Timestamp) : String := t.localText ++ "+00:00"

/-- The timestamp with `Z` for its offset. -/
def zuluText (t : Timestamp) : String := t.localText ++ "Z"

/-! ### Parts -/

/-- The number that up to `most` digits spell, at least `least` of them, and what follows. -/
def takeNumber? (least most : Nat) (cs : List Char) : Option (Nat × List Char) :=
  let ds := (cs.take most).takeWhile isDigit
  if ds.length < least then none else some (digitsValue ds, cs.drop ds.length)

/-- The text after one given character. -/
def skipChar? (c : Char) : List Char → Option (List Char)
  | x :: rest => if x = c then some rest else none
  | [] => none

/-- The separator of date and time. -/
def skipSeparator? : List Char → Option (List Char)
  | 't' :: rest | 'T' :: rest | ' ' :: rest => some rest
  | _ => none

/-- The nanoseconds of an optional fraction, of which nine digits count. -/
def takeFraction? : List Char → Option (Nat × List Char)
  | '.' :: rest => do
    let ds := (rest.take 9).takeWhile isDigit
    if ds.isEmpty then none
    else
      some (digitsValue ds * Nat.pow 10 (9 - ds.length), (rest.drop ds.length).dropWhile isDigit)
  | cs => some (0, cs)

/-- The sign of an offset: plus, hyphen or the minus sign U+2212. -/
def takeSign? : List Char → Option (Int × List Char)
  | '+' :: rest => some (1, rest)
  | '-' :: rest | '\u2212' :: rest => some (-1, rest)
  | _ => none

/-- An offset in seconds: a sign, two digits of hours, what `between` skips, two digits of minutes.
-/
def takeOffset? (between : List Char → Option (List Char)) (cs : List Char) :
    Option (Int × List Char) :=
  match cs with
  | 'Z' :: rest | 'z' :: rest => some (0, rest)
  | cs => do
    let (sign, cs) ← takeSign? cs
    let (hours, cs) ← takeNumber? 2 2 cs
    let cs ← between cs
    let (minutes, cs) ← takeNumber? 2 2 cs
    if 59 < minutes then none else some (sign * (hours * 3600 + minutes * 60 : Nat), cs)

/-- The timestamp of the parts, if they name an existing moment in range. -/
def ofParts? (year : Int) (month day hour minute second nano : Nat) (offset : Int) :
    Option Timestamp :=
  let date : Civil := { year := year, month := month, day := day }
  if date.isValid ∧ hour ≤ 23 ∧ minute ≤ 59 ∧ second ≤ 60 ∧ -86400 < offset ∧ offset < 86400 ∧
      -262143 ≤ year ∧ year ≤ 262142 then
    let t := ofLocal date hour minute second nano offset
    if t.inRange then some t else none
  else none

/-! ### Reading -/

/-- The timestamp that fills a whole text, every part in its fixed width. -/
def readChars? (cs : List Char) : Option Timestamp := do
  let (year, cs) ← takeNumber? 4 4 cs
  let cs ← skipChar? '-' cs
  let (month, cs) ← takeNumber? 2 2 cs
  let cs ← skipChar? '-' cs
  let (day, cs) ← takeNumber? 2 2 cs
  let cs ← skipSeparator? cs
  let (hour, cs) ← takeNumber? 2 2 cs
  let cs ← skipChar? ':' cs
  let (minute, cs) ← takeNumber? 2 2 cs
  let cs ← skipChar? ':' cs
  let (second, cs) ← takeNumber? 2 2 cs
  let (nano, cs) ← takeFraction? cs
  let (offset, cs) ← takeOffset? (skipChar? ':') cs
  if cs.isEmpty then ofParts? year month day hour minute second nano offset else none

/-- The strict reader. -/
def read? (s : String) : Option Timestamp :=
  readChars? s.toList

/-- A year, of up to four digits or, with a sign, of any number. -/
def takeYear? (cs : List Char) : Option (Int × List Char) :=
  match cs with
  | '-' :: rest => (takeNumber? 1 rest.length rest).map fun p => (-(p.1 : Int), p.2)
  | '+' :: rest => (takeNumber? 1 rest.length rest).map fun p => ((p.1 : Int), p.2)
  | cs => (takeNumber? 1 4 cs).map fun p => ((p.1 : Int), p.2)

/-- A number of one or two digits after blanks. -/
def takeShort? (cs : List Char) : Option (Nat × List Char) :=
  takeNumber? 1 2 (Text.trimLeft cs)

/-- A given character after blanks. -/
def skipLenient? (c : Char) (cs : List Char) : Option (List Char) :=
  skipChar? c (Text.trimLeft cs)

/-- An offset after blanks: `UTC` in any case, `Z`, or hours and minutes with colons and blanks, or
nothing, between them. -/
def takeLenientOffset? (cs : List Char) : Option (Int × List Char) :=
  let cs := Text.trimLeft cs
  if (cs.take 3).map Char.toLower = "utc".toList then some (0, cs.drop 3)
  else takeOffset? (fun cs => some (cs.dropWhile fun c => c = ':' || Text.isBlank c)) cs

/-- The lenient reader. -/
def readLenient? (s : String) : Option Timestamp := do
  let (year, cs) ← takeYear? (Text.trimLeft s.toList)
  let cs ← skipLenient? '-' cs
  let (month, cs) ← takeShort? cs
  let cs ← skipLenient? '-' cs
  let (day, cs) ← takeShort? cs
  let cs ← skipSeparator? cs
  let (hour, cs) ← takeShort? cs
  let cs ← skipLenient? ':' cs
  let (minute, cs) ← takeShort? cs
  let cs ← skipLenient? ':' cs
  let (second, cs) ← takeShort? cs
  let (nano, cs) ← takeFraction? cs
  let (offset, cs) ← takeLenientOffset? cs
  if (Text.trimLeft cs).isEmpty then ofParts? year month day hour minute second nano offset
  else none

end DeviceGate.Timestamp
