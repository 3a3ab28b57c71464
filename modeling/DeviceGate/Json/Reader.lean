import DeviceGate.Json.Basic
import DeviceGate.Number.Literal

/-!
Reading JSON text.  Integers that fit 64 bits stay integers; all other numbers become floating-point
numbers by a best-effort rule that rounds up to three times: the leading digits that fit 64 bits are
rounded, then multiplied or divided by a rounded power of ten.  Of repeated keys the last value
wins, a surrogate must stand in a pair, and arrays and objects nest to a depth of 127.

* `Json.read?`: the value of a whole text.
* `Json.readNumber?`, `readText?`, `readValue?`: the value at the head of a text, and what follows.
* `Json.scaledReal?`: the rule for floating-point numbers.
-/

namespace DeviceGate.Json

/-- The text after the blanks that JSON knows. -/
def skipBlanks (cs : List Char) : List Char :=
  cs.dropWhile fun c => c = ' ' || c = '\n' || c = '\t' || c = '\r'

/-- The text after a given beginning. -/
def skipWord? : List Char → List Char → Option (List Char)
  | [], cs => some cs
  | _ :: _, [] => none
  | w :: word, c :: cs => if w = c then skipWord? word cs else none

/-! ### Numbers -/

/-- `± significand * 10 ^ exponent` by the best-effort rule: one rounding for the significand, one
for the power of ten, one for the product or quotient; a small number is first divided by the
largest power until its exponent is within reach.  Nothing results when the number is too large. -/
def scaledReal? (fuel : Nat) (negative : Bool) (value : Binary64) (exponent : Int) :
    Option Finite64 :=
  match fuel with
  | 0 => none
  | fuel + 1 =>
    let finish (v : Binary64) : Option Finite64 :=
      match if negative then v.neg else v with
      | .finite x => some x
      | _ => none
    if exponent.natAbs ≤ 308 then
      if 0 ≤ exponent then finish (value.mul (.ofNat (Nat.pow 10 exponent.natAbs)))
      else finish (value.div (.ofNat (Nat.pow 10 exponent.natAbs)))
    else if value.isZero then finish value
    else if 0 ≤ exponent then none
    else scaledReal? fuel negative (value.div (.ofNat (Nat.pow 10 308))) (exponent + 308)

/-- The number with that significand, which is zero after three divisions at the latest. -/
def realOfParts? (negative : Bool) (significand : Nat) (exponent : Int) : Option Finite64 :=
  scaledReal? 5 negative (.ofNat significand) exponent

/-- Takes digits into a significand for as long as it stays below `2 ^ 64`; the digits left over
come back, the first of which would not have fitted. -/
def takeDigits (significand : Nat) : List Char → Nat × Nat × List Char
  | [] => (significand, 0, [])
  | c :: cs =>
    if isDigit c && 10 * significand + digitOf c < 18446744073709551616 then
      let (n, count, rest) := takeDigits (10 * significand + digitOf c) cs
      (n, count + 1, rest)
    else (significand, 0, c :: cs)

/-- The exponent part, if one follows, added to the exponent so far. -/
def readExponentPart? (negative : Bool) (significand : Nat) (exponent : Int) :
    List Char → Option (Json × List Char)
  | mark :: rest =>
    if mark = 'e' ∨ mark = 'E' then
      let (down, ds) := match rest with
        | '+' :: ds => (false, ds)
        | '-' :: ds => (true, ds)
        | ds => (false, ds)
      let digits := ds.takeWhile isDigit
      let after := ds.dropWhile isDigit
      if digits.isEmpty then none
      else
        let n := digitsValue digits
        if 2147483648 ≤ n then
          -- so large an exponent decides the number by itself
          if significand ≠ 0 ∧ ¬down then none else some (.real (.zero negative), after)
        else
          let e := if down then exponent - n else exponent + n
          (realOfParts? negative significand e).map fun x => (.real x, after)
    else (realOfParts? negative significand exponent).map fun x => (.real x, mark :: rest)
  | [] => (realOfParts? negative significand exponent).map fun x => (.real x, [])

/-- The digits after a point, of which there must be at least one; those beyond the significand's
capacity do not count. -/
def readFraction? (negative : Bool) (significand : Nat) (exponent : Int) (cs : List Char) :
    Option (Json × List Char) :=
  let (n, count, rest) := takeDigits significand cs
  let after := rest.dropWhile isDigit
  if count = 0 ∧ rest.length = after.length then none
  else readExponentPart? negative n (exponent - count) after

/-- What stands for a run of digits without point or exponent: an integer where one fits. -/
def wholeNumber? (negative : Bool) (n : Nat) : Option Json :=
  if negative then
    if n = 0 then some (.real (.zero true))
    else
      match Integer64.ofInt? (-(n : Int)) with
      | some k => some (.integer k)
      | none => (realOfParts? true n 0).map .real
  else (Integer64.ofInt? n).map .integer

/-- A number without its sign. -/
def readUnsigned? (negative : Bool) (cs : List Char) : Option (Json × List Char) :=
  match cs with
  | [] => none
  | first :: others =>
    if !isDigit first then none
    else
      let (n, _, rest) :=
        if first = '0' then (0, 0, others) else takeDigits 0 (first :: others)
      if first = '0' && (rest.head?.map isDigit).getD false then none
      else
        -- digits beyond the significand's capacity only scale it
        let beyond := rest.takeWhile isDigit
        let exponent : Int := beyond.length
        match rest.dropWhile isDigit with
        | '.' :: after => readFraction? negative n exponent after
        | after =>
          if beyond.isEmpty && !(after.head? == some 'e' || after.head? == some 'E') then
            (wholeNumber? negative n).map fun v => (v, after)
          else readExponentPart? negative n exponent after

/-- A number at the head of the text. -/
def readNumber? : List Char → Option (Json × List Char)
  | '-' :: rest => readUnsigned? true rest
  | cs => readUnsigned? false cs

/-! ### Texts -/

/-- The value of a hexadecimal digit of either case. -/
def hexValue? (c : Char) : Option Nat :=
  if isDigit c then some (digitOf c)
  else if 'a' ≤ c ∧ c ≤ 'f' then some (c.toNat - 'a'.toNat + 10)
  else if 'A' ≤ c ∧ c ≤ 'F' then some (c.toNat - 'A'.toNat + 10)
  else none

/-- The value of four hexadecimal digits. -/
def hexUnit? (a b c d : Char) : Option Nat := do
  let w ← hexValue? a
  let x ← hexValue? b
  let y ← hexValue? c
  let z ← hexValue? d
  return ((w * 16 + x) * 16 + y) * 16 + z

/-- The character of an escape of one letter. -/
def shortEscape? : Char → Option Char
  | '"' => some '"'
  | '\\' => some '\\'
  | '/' => some '/'
  | 'b' => some '\x08'
  | 'f' => some '\x0c'
  | 'n' => some '\n'
  | 'r' => some '\r'
  | 't' => some '\t'
  | _ => none

/-- The characters up to the closing quote, with escapes resolved, and what follows the quote.
Control characters must be escaped, and a surrogate must be the half of a pair. -/
def readChars? : List Char → Option (List Char × List Char)
  | [] => none
  | '"' :: rest => some ([], rest)
  | '\\' :: 'u' :: a :: b :: c :: d :: rest =>
    match hexUnit? a b c d with
    | none => none
    | some unit =>
      if 0xDC00 ≤ unit ∧ unit ≤ 0xDFFF then none
      else if 0xD800 ≤ unit ∧ unit ≤ 0xDBFF then
        match rest with
        | '\\' :: 'u' :: a :: b :: c :: d :: rest =>
          match hexUnit? a b c d with
          | none => none
          | some low =>
            if 0xDC00 ≤ low ∧ low ≤ 0xDFFF then
              (readChars? rest).map fun p =>
                (Char.ofNat (0x10000 + (unit - 0xD800) * 0x400 + (low - 0xDC00)) :: p.1, p.2)
            else none
        | _ => none
      else (readChars? rest).map fun p => (Char.ofNat unit :: p.1, p.2)
  | '\\' :: c :: rest =>
    match shortEscape? c with
    | none => none
    | some e => (readChars? rest).map fun p => (e :: p.1, p.2)
  | c :: rest =>
    if c.toNat < 32 || c = '\\' then none
    else (readChars? rest).map fun p => (c :: p.1, p.2)

/-- A text at the head, with its quotes. -/
def readText? : List Char → Option (String × List Char)
  | '"' :: rest => (readChars? rest).map fun p => (String.ofList p.1, p.2)
  | _ => none

/-! ### Values -/

/-- How deep arrays and objects may nest. -/
def maxDepth : Nat := 127

mutual

/-- A value at the head of the text, which may open `depth` more levels.  The fuel bounds the number
of nested calls, each of which has taken a character. -/
def readValue? (fuel depth : Nat) (cs : List Char) : Option (Json × List Char) :=
  match fuel with
  | 0 => none
  | fuel + 1 =>
    match skipBlanks cs with
    | [] => none
    | 'n' :: rest => (skipWord? ['u', 'l', 'l'] rest).map fun r => (.null, r)
    | 't' :: rest => (skipWord? ['r', 'u', 'e'] rest).map fun r => (.bool true, r)
    | 'f' :: rest => (skipWord? ['a', 'l', 's', 'e'] rest).map fun r => (.bool false, r)
    | '"' :: rest => (readText? ('"' :: rest)).map fun p => (.text p.1, p.2)
    | '[' :: rest =>
      match depth with
      | 0 => none
      | depth + 1 =>
        match skipBlanks rest with
        | ']' :: after => some (.array [], after)
        | after => (readItems? fuel depth after).map fun p => (.array p.1, p.2)
    | '\x7b' :: rest =>
      match depth with
      | 0 => none
      | depth + 1 =>
        match skipBlanks rest with
        | '\x7d' :: after => some (.object [], after)
        | after => (readMembers? fuel depth [] after).map fun p => (.object p.1, p.2)
    | c :: rest => readNumber? (c :: rest)

/-- The items of an array from the next one to the closing bracket. -/
def readItems? (fuel depth : Nat) (cs : List Char) : Option (List Json × List Char) :=
  match fuel with
  | 0 => none
  | fuel + 1 =>
    match readValue? fuel depth cs with
    | none => none
    | some (v, rest) =>
      match skipBlanks rest with
      | ',' :: more => (readItems? fuel depth more).map fun p => (v :: p.1, p.2)
      | ']' :: after => some ([v], after)
      | _ => none

/-- The members of an object from the next one to the closing brace, put among those before them. -/
def readMembers? (fuel depth : Nat) (before : List (String × Json)) (cs : List Char) :
    Option (List (String × Json) × List Char) :=
  match fuel with
  | 0 => none
  | fuel + 1 =>
    match readText? (skipBlanks cs) with
    | none => none
    | some (key, rest) =>
      match skipBlanks rest with
      | ':' :: rest =>
        match readValue? fuel depth rest with
        | none => none
        | some (v, rest) =>
          match skipBlanks rest with
          | ',' :: more => readMembers? fuel depth (putMember key v before) more
          | '\x7d' :: after => some (putMember key v before, after)
          | _ => none
      | _ => none

end

/-- The value of a text that holds nothing else. -/
def readChars (cs : List Char) : Option Json :=
  match readValue? (2 * cs.length + 2) maxDepth cs with
  | some (v, rest) => if (skipBlanks rest).isEmpty then some v else none
  | none => none

/-- The value of a text that holds nothing else. -/
def read? (s : String) : Option Json :=
  readChars s.toList

end DeviceGate.Json
