import DeviceGate.Json.Reader

/-!
Request bodies with known fields, read from left to right.  The first thing wrong decides: either
the text is no JSON, or it is JSON of another shape.  An object may hold further members, whose
values only have to be well formed; a field may stand once.  An array may stand for the object when
it holds the fields in their order.

* `BodyField`, `BodyForm`: which fields a body has, and of which kind.
* `BodyForm.read`: the fields of a body, or the first `BodyFault`.
* `Json.skipValue?`: a well-formed value of whatever depth, and what follows it.
-/

namespace DeviceGate

/-- What is wrong with a body. -/
inductive BodyFault where
  | unreadable
  | misshapen
  deriving DecidableEq

/-- The kind of value that a field holds. -/
inductive FieldKind where
  | text
  | natural
  | anything
  deriving DecidableEq

/-- A field of a body; an optional one may be missing or null. -/
structure BodyField where
  name : String
  kind : FieldKind
  optional : Bool
  deriving DecidableEq

/-- The fields of a body, in the order in which an array holds them. -/
abbrev BodyForm := List BodyField

namespace Json

/-! ### Values that nobody reads -/

/-- What follows a text whose escapes are well formed, behind its opening quote. -/
def skipText? : List Char → Option (List Char)
  | [] => none
  | '"' :: rest => some rest
  | '\\' :: 'u' :: a :: b :: c :: d :: rest =>
    if (hexUnit? a b c d).isSome then skipText? rest else none
  | '\\' :: c :: rest => if (shortEscape? c).isSome then skipText? rest else none
  | c :: rest => if c.toNat < 32 || c = '\\' then none else skipText? rest

/-- What follows one digit or more. -/
def skipDigits? (cs : List Char) : Option (List Char) :=
  if (cs.head?.map isDigit).getD false then some (cs.dropWhile isDigit) else none

/-- What follows an exponent, if one is there. -/
def skipExponent? : List Char → Option (List Char)
  | [] => some []
  | c :: rest =>
    if c = 'e' ∨ c = 'E' then
      match rest with
      | '+' :: ds | '-' :: ds => skipDigits? ds
      | ds => skipDigits? ds
    else some (c :: rest)

/-- What follows a number without a sign. -/
def skipNumber? (cs : List Char) : Option (List Char) := do
  let rest ← match cs with
    | '0' :: rest => if (rest.head?.map isDigit).getD false then none else some rest
    | cs => skipDigits? cs
  match rest with
  | '.' :: fraction => skipExponent? (← skipDigits? fraction)
  | rest => skipExponent? rest

mutual

/-- What follows a well-formed value.  The fuel bounds the number of nested calls, each of which has
taken a character. -/
def skipValue? (fuel : Nat) (cs : List Char) : Option (List Char) :=
  match fuel with
  | 0 => none
  | fuel + 1 =>
    match skipBlanks cs with
    | 'n' :: rest => skipWord? ['u', 'l', 'l'] rest
    | 't' :: rest => skipWord? ['r', 'u', 'e'] rest
    | 'f' :: rest => skipWord? ['a', 'l', 's', 'e'] rest
    | '"' :: rest => skipText? rest
    | '-' :: rest => skipNumber? rest
    | '[' :: rest =>
      match skipBlanks rest with
      | ']' :: after => some after
      | after => skipItems? fuel after
    | '\x7b' :: rest =>
      match skipBlanks rest with
      | '\x7d' :: after => some after
      | after => skipMembers? fuel after
    | cs => skipNumber? cs

/-- What follows the items of an array and its closing bracket. -/
def skipItems? (fuel : Nat) (cs : List Char) : Option (List Char) :=
  match fuel with
  | 0 => none
  | fuel + 1 =>
    match skipValue? fuel cs with
    | none => none
    | some rest =>
      match skipBlanks rest with
      | ',' :: more => skipItems? fuel more
      | ']' :: after => some after
      | _ => none

/-- What follows the members of an object and its closing brace. -/
def skipMembers? (fuel : Nat) (cs : List Char) : Option (List Char) :=
  match fuel with
  | 0 => none
  | fuel + 1 =>
    match skipBlanks cs with
    | '"' :: key =>
      match (skipText? key).map skipBlanks with
      | some (':' :: value) =>
        match skipValue? fuel value with
        | none => none
        | some rest =>
          match skipBlanks rest with
          | ',' :: more => skipMembers? fuel more
          | '\x7d' :: after => some after
          | _ => none
      | _ => none
    | _ => none

end

end Json

namespace BodyForm

open Json

/-! ### Fields -/

/-- A result of reading, and what follows it. -/
abbrev Outcome (α : Type) := Except BodyFault (α × List Char)

/-- What was read, where failing to read it means that the text is no JSON. -/
def readable {α : Type} : Option (α × List Char) → Outcome α
  | some p => .ok p
  | none => .error .unreadable

/-- The fault of a value of another kind, which must at least begin like a value. -/
def mismatch (cs : List Char) : BodyFault :=
  let wellBegun := match skipBlanks cs with
    | [] => false
    | 'n' :: rest => (skipWord? ['u', 'l', 'l'] rest).isSome
    | 't' :: rest => (skipWord? ['r', 'u', 'e'] rest).isSome
    | 'f' :: rest => (skipWord? ['a', 'l', 's', 'e'] rest).isSome
    | '"' :: rest => (readText? ('"' :: rest)).isSome
    | '[' :: _ | '\x7b' :: _ => true
    | cs => (readNumber? cs).isSome
  if wellBegun then .misshapen else .unreadable

/-- A text. -/
def readTextField (cs : List Char) : Outcome Json :=
  match skipBlanks cs with
  | '"' :: rest => readable ((readText? ('"' :: rest)).map fun p => (.text p.1, p.2))
  | cs => .error (mismatch cs)

/-- An unsigned 64-bit integer. -/
def readNaturalField (cs : List Char) : Outcome Json :=
  let cs := skipBlanks cs
  match cs with
  | c :: _ =>
    if c = '-' || isDigit c then
      match readNumber? cs with
      | none => .error .unreadable
      | some (.integer n, rest) =>
        if 0 ≤ n.val then .ok (.integer n, rest) else .error .misshapen
      | some _ => .error .misshapen
    else .error (mismatch cs)
  | [] => .error .unreadable

/-- Any value; the body itself is the first level of nesting. -/
def readAnything (cs : List Char) : Outcome Json :=
  readable (readValue? (2 * cs.length + 2) (maxDepth - 1) cs)

/-- The value of a field. -/
def readField (f : BodyField) (cs : List Char) : Outcome Json :=
  match f.optional, skipBlanks cs with
  | true, 'n' :: rest => readable ((skipWord? ['u', 'l', 'l'] rest).map fun r => (.null, r))
  | _, cs =>
    match f.kind with
    | .text => readTextField cs
    | .natural => readNaturalField cs
    | .anything => readAnything cs

/-! ### Bodies -/

/-- The fields found, when none that is required is missing. -/
def complete (form : BodyForm) (found : List (String × Json)) (rest : List Char) :
    Except BodyFault (List (String × Json) × List Char) :=
  if form.all fun f => f.optional || (found.lookup f.name).isSome then .ok (found, rest)
  else .error .misshapen

/-- The members of an object from the next one to the closing brace. -/
def readMembers (form : BodyForm) (fuel : Nat) (found : List (String × Json)) (cs : List Char) :
    Except BodyFault (List (String × Json) × List Char) :=
  match fuel with
  | 0 => .error .unreadable
  | fuel + 1 => do
    let (key, rest) ← readable (readText? (skipBlanks cs))
    let field := form.find? fun f => f.name = key
    if field.isSome && (found.lookup key).isSome then throw .misshapen
    match skipBlanks rest with
    | ':' :: value =>
      let (found, rest) ← match field with
        | some f => (readField f value).map fun p => (found ++ [(key, p.1)], p.2)
        | none => readable ((skipValue? (2 * value.length + 2) value).map fun r => (found, r))
      match skipBlanks rest with
      | ',' :: more => readMembers form fuel found more
      | '\x7d' :: after => complete form found after
      | _ => throw .unreadable
    | _ => throw .unreadable

/-- The items of an array that stands for the object: one for each field, then the closing
bracket. -/
def readItems (found : List (String × Json)) (first : Bool) :
    BodyForm → List Char → Except BodyFault (List (String × Json) × List Char)
  | [], cs =>
    match skipBlanks cs with
    | ']' :: after => .ok (found, after)
    | _ => .error .unreadable
  | f :: form, cs => do
    let cs := skipBlanks cs
    let cs ← match first, cs with
      | _, ']' :: _ => throw .misshapen
      | _, [] => throw .unreadable
      | true, cs => pure cs
      | false, ',' :: rest =>
        match skipBlanks rest with
        | [] | ']' :: _ => throw .unreadable
        | rest => pure rest
      | false, _ => throw .unreadable
    let (v, rest) ← readField f cs
    readItems (found ++ [(f.name, v)]) false form rest

/-- The fields of a body, each with its value; what follows the body does not matter. -/
def read (form : BodyForm) (text : String) : Except BodyFault (List (String × Json)) :=
  let outcome := match skipBlanks text.toList with
    | '\x7b' :: rest =>
      match skipBlanks rest with
      | '\x7d' :: after => complete form [] after
      | rest => readMembers form rest.length [] rest
    | '[' :: rest => readItems [] true form rest
    | cs => .error (mismatch cs)
  outcome.map (·.1)

end BodyForm

end DeviceGate
