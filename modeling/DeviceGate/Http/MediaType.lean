import DeviceGate.Number.Literal

/-!
Media types, as far as they tell whether a body is JSON.

* `MediaType.isJson`: `application/json`, or a type under `application` with the suffix `json`.
-/

namespace DeviceGate.MediaType

/-- The characters of a token. -/
def isTokenChar (c : Char) : Bool :=
  c.isAlphanum || "!#$%&\x27*+-.^_\x60|~".toList.contains c

/-- The characters a quoted value may hold. -/
def isQuotedChar (c : Char) : Bool :=
  ' ' ≤ c && c ≠ '\x7f'

/-- The text behind a quoted value.  A quoted value is not empty: what follows the opening quote
belongs to it, be it another quote, and the next quote closes it. -/
def skipQuoted? : List Char → Option (List Char)
  | [] => none
  | first :: cs =>
    match isQuotedChar first, cs.dropWhile fun c => isQuotedChar c && c ≠ '"' with
    | true, '"' :: rest => some rest
    | _, _ => none

/-- Well-formed parameters, behind their semicolon. -/
def parametersValid (fuel : Nat) (cs : List Char) : Bool :=
  match fuel with
  | 0 => false
  | fuel + 1 =>
    let cs := cs.dropWhile (· = ' ')
    if cs.isEmpty then true
    else
      let name := cs.takeWhile isTokenChar
      match cs.dropWhile isTokenChar with
      | '=' :: '"' :: quoted =>
        match (skipQuoted? quoted).map fun rest => rest.dropWhile (· = ' ') with
        | some [] => !name.isEmpty
        | some (';' :: more) => !name.isEmpty && parametersValid fuel more
        | _ => false
      | '=' :: value =>
        match value.dropWhile isTokenChar with
        | [] => !name.isEmpty
        | ';' :: more =>
          !name.isEmpty && !(value.head? == some ';') && parametersValid fuel more
        | _ => false
      | _ => false

/-- A subtype and its suffix, which follows the last plus sign. -/
def splitSuffix (subtype : List Char) : List Char × Option (List Char) :=
  let suffix := (subtype.reverse.takeWhile (· ≠ '+')).reverse
  let before := subtype.take (subtype.length - suffix.length - 1)
  if suffix.length < subtype.length ∧ ¬before.isEmpty then (before, some suffix)
  else (subtype, none)

/-- The characters a field value may hold to be read as text: the visible ones of ASCII, blanks
and tabs. -/
def isFieldChar (c : Char) : Bool :=
  (' ' ≤ c && c < '\x7f') || c = '\t'

/-- Whether bodies of the media type are JSON; the bytes of a field value outside ASCII name
none. -/
def isJson (value : List UInt8) : Bool :=
  let cs := value.map fun b => (Char.ofNat b.toNat).toLower
  cs.all isFieldChar &&
  match cs.takeWhile isTokenChar, cs.dropWhile isTokenChar with
  | kind, '/' :: rest =>
    let (subtype, suffix) := splitSuffix (rest.takeWhile isTokenChar)
    let tailValid := match rest.dropWhile isTokenChar with
      | [] => true
      | ';' :: parameters =>
        !(rest.takeWhile isTokenChar).isEmpty && parametersValid (parameters.length + 1) parameters
      | _ => false
    kind = "application".toList && (subtype = "json".toList || suffix = some "json".toList) &&
      tailValid
  | _, _ => false

end DeviceGate.MediaType
