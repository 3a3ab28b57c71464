import DeviceGate.Config.Tree
import DeviceGate.Json.Reader
import DeviceGate.Time.Rfc3339

/-!
Texts, numbers and moments as TOML writes them.

* `Toml.readText?`: a text in one of the four kinds of quotes.
* `Toml.scalar?`: a number, a truth value or a moment, given the whole word.
-/

namespace DeviceGate.Toml

/-! ### Characters and lines -/

/-- A tab or a space. -/
def isGap (c : Char) : Bool := c = ' ' || c = '\t'

/-- The text behind gaps. -/
def skipGaps (cs : List Char) : List Char := cs.dropWhile isGap

/-- A character that is no control character, the tab apart. -/
def isPlain (c : Char) : Bool :=
  c = '\t' || (32 ≤ c.toNat && c.toNat ≤ 126) || 128 ≤ c.toNat

/-- The text behind the end of a line. -/
def skipNewline? : List Char → Option (List Char)
  | '\n' :: rest => some rest
  | '\r' :: '\n' :: rest => some rest
  | _ => none

/-- The text without the end of a line at its head. -/
def dropNewline (cs : List Char) : List Char :=
  (skipNewline? cs).getD cs

/-! ### Texts -/

/-- The character of a number, unless it is a surrogate or too large. -/
def scalarValue? (n : Nat) : Option Char :=
  if n < 0xD800 ∨ (0xDFFF < n ∧ n < 0x110000) then some (Char.ofNat n) else none

/-- The character of an escape of one letter. -/
def letterEscape? : Char → Option Char
  | '"' => some '"'
  | '\\' => some '\\'
  | 'b' => some '\x08'
  | 'f' => some '\x0c'
  | 'n' => some '\n'
  | 'r' => some '\r'
  | 't' => some '\t'
  | _ => none

/-- A character before what was read behind it. -/
def before (c : Option Char) (r : Option (List Char × List Char)) :
    Option (List Char × List Char) := do
  let c ← c
  let (cs, rest) ← r
  return (c :: cs, rest)

/-- The character of a short escape in hexadecimal. -/
def escape4? (a b c d : Char) : Option Char :=
  (Json.hexUnit? a b c d).bind scalarValue?

/-- The character of a long escape in hexadecimal. -/
def escape8? (a b c d e f g h : Char) : Option Char := do
  let high ← Json.hexUnit? a b c d
  let low ← Json.hexUnit? e f g h
  scalarValue? (high * 0x10000 + low)

/-- What stands between double quotes, behind the first of them. -/
def basic? : List Char → Option (List Char × List Char)
  | [] => none
  | '"' :: rest => some ([], rest)
  | '\\' :: 'u' :: a :: b :: c :: d :: rest => before (escape4? a b c d) (basic? rest)
  | '\\' :: 'U' :: a :: b :: c :: d :: e :: f :: g :: h :: rest =>
    before (escape8? a b c d e f g h) (basic? rest)
  | '\\' :: c :: rest => before (letterEscape? c) (basic? rest)
  | c :: rest => if isPlain c && c ≠ '\\' then before (some c) (basic? rest) else none

/-- Gaps and then the end of a line follow. -/
def endsLine (cs : List Char) : Bool :=
  (skipNewline? (skipGaps cs)).isSome

/-- What stands between three double quotes on either side, behind the first three; while
`skipping`, blanks are passed over. -/
def longBasic? (skipping : Bool) : List Char → Option (List Char × List Char)
  | [] => none
  | '"' :: '"' :: '"' :: '"' :: '"' :: rest => some (['"', '"'], rest)
  | '"' :: '"' :: '"' :: '"' :: rest => some (['"'], rest)
  | '"' :: '"' :: '"' :: rest => some ([], rest)
  | '\r' :: '\n' :: rest =>
    if skipping then longBasic? true rest else before (some '\n') (longBasic? false rest)
  | '\n' :: rest =>
    if skipping then longBasic? true rest else before (some '\n') (longBasic? false rest)
  | '\\' :: 'u' :: a :: b :: c :: d :: rest => before (escape4? a b c d) (longBasic? false rest)
  | '\\' :: 'U' :: a :: b :: c :: d :: e :: f :: g :: h :: rest =>
    before (escape8? a b c d e f g h) (longBasic? false rest)
  | '\\' :: c :: rest =>
    if endsLine (c :: rest) then longBasic? true rest
    else before (letterEscape? c) (longBasic? false rest)
  | c :: rest =>
    if skipping && isGap c then longBasic? true rest
    else if isPlain c && c ≠ '\\' then before (some c) (longBasic? false rest)
    else none

/-- What stands between single quotes, behind the first of them. -/
def literal? : List Char → Option (List Char × List Char)
  | [] => none
  | '\x27' :: rest => some ([], rest)
  | c :: rest => if isPlain c then before (some c) (literal? rest) else none

/-- What stands between three single quotes on either side, behind the first three. -/
def longLiteral? : List Char → Option (List Char × List Char)
  | [] => none
  | '\x27' :: '\x27' :: '\x27' :: '\x27' :: '\x27' :: rest => some (['\x27', '\x27'], rest)
  | '\x27' :: '\x27' :: '\x27' :: '\x27' :: rest => some (['\x27'], rest)
  | '\x27' :: '\x27' :: '\x27' :: rest => some ([], rest)
  | '\r' :: '\n' :: rest => before (some '\n') (longLiteral? rest)
  | '\n' :: rest => before (some '\n') (longLiteral? rest)
  | c :: rest => if isPlain c then before (some c) (longLiteral? rest) else none

/-- A text at the head, and what follows it. -/
def readText? (cs : List Char) : Option (String × List Char) :=
  let text := match cs with
    | '"' :: '"' :: '"' :: rest => longBasic? false (dropNewline rest)
    | '"' :: rest => basic? rest
    | '\x27' :: '\x27' :: '\x27' :: rest => longLiteral? (dropNewline rest)
    | '\x27' :: rest => literal? rest
    | _ => none
  text.map fun p => (String.ofList p.1, p.2)

/-! ### Numbers -/

/-- Digits with single underscores between them; the digits come back without the underscores. -/
def digitRun? (isDigit : Char → Bool) : List Char → Option (List Char)
  | [] => none
  | [c] => if isDigit c then some [c] else none
  | c :: '_' :: rest => if isDigit c then (digitRun? isDigit rest).map (c :: ·) else none
  | c :: rest => if isDigit c then (digitRun? isDigit rest).map (c :: ·) else none

/-- The number that digits spell in a base. -/
def valueIn (base : Nat) (ds : List Char) : Option Nat :=
  ds.foldlM (fun n c => (Json.hexValue? c).map fun d => base * n + d) 0

/-- An integer of a base other than ten, whose digits are given. -/
def basedInteger? (base : Nat) (cs : List Char) : Option Int := do
  let ds ← digitRun? (fun c => ((Json.hexValue? c).map fun d => decide (d < base)).getD false) cs
  let n ← valueIn base ds
  if n < 9223372036854775808 then some n else none

/-- Sign and rest of a number. -/
def splitSign : List Char → Bool × List Char
  | '-' :: rest => (true, rest)
  | '+' :: rest => (false, rest)
  | cs => (false, cs)

/-- The digits of a whole number, which has no leading zero. -/
def wholeDigits? (cs : List Char) : Option (List Char) :=
  match digitRun? isDigit cs with
  | some ('0' :: _ :: _) => none
  | r => r

/-- An integer in 64 bits. -/
def integer? (cs : List Char) : Option Int :=
  match cs with
  | '0' :: 'x' :: ds => basedInteger? 16 ds
  | '0' :: 'o' :: ds => basedInteger? 8 ds
  | '0' :: 'b' :: ds => basedInteger? 2 ds
  | cs => do
    let (negative, ds) := splitSign cs
    let n : Int := digitsValue (← wholeDigits? ds)
    let n := if negative then -n else n
    if -9223372036854775808 ≤ n ∧ n < 9223372036854775808 then some n else none

/-- An exponent with its mark: a sign, and digits that may begin with zeros. -/
def isExponent : List Char → Bool
  | [] => false
  | mark :: rest => (mark = 'e' || mark = 'E') && (digitRun? isDigit (splitSign rest).2).isSome

/-- A number with a fraction or an exponent, or one of the special values; a positive one must be
within range. -/
def isFraction (cs : List Char) : Bool :=
  let body := (splitSign cs).2
  let marked (c : Char) : Bool := c = 'e' || c = 'E'
  let mantissa := body.takeWhile fun c => !marked c
  let exponent := body.dropWhile fun c => !marked c
  let whole := mantissa.takeWhile (· ≠ '.')
  let wellFormed := (wholeDigits? whole).isSome && (exponent.isEmpty || isExponent exponent) &&
    match mantissa.dropWhile (· ≠ '.') with
    | [] => !exponent.isEmpty
    | _ :: fraction => (digitRun? isDigit fraction).isSome
  let value := Binary64.ofText? (String.ofList (cs.filter (· ≠ '_')))
  body = "inf".toList || body = "nan".toList ||
    (wellFormed && value ≠ some (.infinite false) && value.isSome)

/-! ### Moments -/

/-- A date: year, month and day in fixed widths. -/
def date? (cs : List Char) : Option (List Char) := do
  let (year, cs) ← Timestamp.takeNumber? 4 4 cs
  let cs ← Timestamp.skipChar? '-' cs
  let (month, cs) ← Timestamp.takeNumber? 2 2 cs
  let cs ← Timestamp.skipChar? '-' cs
  let (day, cs) ← Timestamp.takeNumber? 2 2 cs
  let date : Civil := { year := year, month := month, day := day }
  if date.isValid then some cs else none

/-- A time of day: hour, minute, second and perhaps a fraction. -/
def time? (cs : List Char) : Option (List Char) := do
  let (hour, cs) ← Timestamp.takeNumber? 2 2 cs
  let cs ← Timestamp.skipChar? ':' cs
  let (minute, cs) ← Timestamp.takeNumber? 2 2 cs
  let cs ← Timestamp.skipChar? ':' cs
  let (second, cs) ← Timestamp.takeNumber? 2 2 cs
  if 23 < hour ∨ 59 < minute ∨ 60 < second then none
  else
    match cs with
    | '.' :: fraction =>
      if (fraction.head?.map isDigit).getD false then some (fraction.dropWhile isDigit) else none
    | cs => some cs

/-- Nothing, or an offset from UTC, up to the end. -/
def isOffset : List Char → Bool
  | [] => true
  | ['Z'] => true
  | ['z'] => true
  | sign :: cs =>
    (sign = '+' || sign = '-') &&
    ((do
      let (hours, cs) ← Timestamp.takeNumber? 2 2 cs
      let cs ← Timestamp.skipChar? ':' cs
      let (minutes, cs) ← Timestamp.takeNumber? 2 2 cs
      return hours ≤ 23 && minutes ≤ 59 && cs.isEmpty).getD false)

/-- A date, a time, or both with or without an offset. -/
def isMoment (cs : List Char) : Bool :=
  match date? cs with
  | some [] => true
  | some (sep :: rest) =>
    (sep = 'T' || sep = 't' || sep = ' ') && ((time? rest).map isOffset).getD false
  | none => time? cs = some []

/-- The tree of a moment, a table with a member that no setting has. -/
def momentTree (cs : List Char) : ConfigTree :=
  .table .toml [("$moment", .text (String.ofList cs))]

/-- A value without quotes and brackets. -/
def scalar? (cs : List Char) : Option ConfigTree :=
  if cs = "true".toList then some (.bool true)
  else if cs = "false".toList then some (.bool false)
  else
    match integer? cs with
    | some n => some (.integer n)
    | none =>
      if isFraction cs then some .fraction
      else if isMoment cs then some (momentTree cs)
      else none

end DeviceGate.Toml
