import DeviceGate.Json.Basic
import DeviceGate.Number.Layout

/-!
The canonical encoding: members in the order of their keys by code point, `,` and `:` without any
blank, every character other than quotes, backslashes and control characters as itself, integers in
plain decimal and floating-point numbers in the signed layout.

* `Json.canonical`: the characters of the encoding; `Json.canonicalText`: the same as a string.
* `Json.encode`: the same with another layout of floating-point numbers; `Json.plainText`: the
  layout in which documents are exchanged.
* `Json.escapeChar`: how one character stands inside a text.
-/

namespace DeviceGate.Json

/-- A hexadecimal digit of a half byte, in lower case. -/
def escapeDigit (n : Nat) : Char :=
  Nat.digitChar (n % 16)

/-- How a character stands inside a text: short escapes where there are any, `\u` and four digits
for the other control characters. -/
def escapeChar (c : Char) : List Char :=
  match c with
  | '"' => ['\\', '"']
  | '\\' => ['\\', '\\']
  | '\n' => ['\\', 'n']
  | '\r' => ['\\', 'r']
  | '\t' => ['\\', 't']
  | '\x08' => ['\\', 'b']
  | '\x0c' => ['\\', 'f']
  | c =>
    if c.toNat < 32 then
      ['\\', 'u', '0', '0', escapeDigit (c.toNat / 16), escapeDigit c.toNat]
    else [c]

/-- A text between its quotes. -/
def encodeText (s : String) : List Char :=
  '"' :: s.toList.flatMap escapeChar ++ ['"']

/-- An integer in plain decimal. -/
def encodeInt (n : Int) : List Char :=
  if n < 0 then '-' :: Nat.toDigits 10 n.natAbs else Nat.toDigits 10 n.natAbs

/-- The parts with commas between them. -/
def joinComma : List (List Char) → List Char
  | [] => []
  | [part] => part
  | part :: rest => part ++ ',' :: joinComma rest

/-- Encoded members in the order of their keys. -/
def sortMembers (members : List (String × List Char)) : List (String × List Char) :=
  members.mergeSort fun a b => decide (a.1 ≤ b.1)

/-- A member, from its key and its encoded value. -/
def encodeMember (member : String × List Char) : List Char :=
  encodeText member.1 ++ ':' :: member.2

mutual

/-- A value with its floating-point numbers in the given layout. -/
def encode (layout : DecimalLayout) : Json → List Char
  | null => ['n', 'u', 'l', 'l']
  | bool b => if b then ['t', 'r', 'u', 'e'] else ['f', 'a', 'l', 's', 'e']
  | integer n => encodeInt n.val
  | real x => layout.write x
  | text s => encodeText s
  | array items => '[' :: joinComma (encodeItems layout items) ++ [']']
  | object members =>
    '\x7b' :: joinComma ((sortMembers (encodeMembers layout members)).map encodeMember) ++ ['\x7d']

/-- The encodings of the items of an array. -/
def encodeItems (layout : DecimalLayout) : List Json → List (List Char)
  | [] => []
  | item :: rest => encode layout item :: encodeItems layout rest

/-- The members of an object with their values encoded. -/
def encodeMembers (layout : DecimalLayout) : List (String × Json) → List (String × List Char)
  | [] => []
  | (key, value) :: rest => (key, encode layout value) :: encodeMembers layout rest

end

/-- The canonical encoding of a value. -/
def canonical (v : Json) : List Char :=
  encode .signed v

/-- The canonical encoding as a string. -/
def canonicalText (v : Json) : String :=
  String.ofList (canonical v)

/-- The encoding in which documents are exchanged, which differs from the canonical one in the
layout of floating-point numbers only. -/
def plainText (v : Json) : String :=
  String.ofList (encode .plain v)

theorem encodeItems_eq_map (layout : DecimalLayout) (items : List Json) :
    encodeItems layout items = items.map (encode layout) := by
  induction items with
  | nil => simp [encodeItems]
  | cons item rest ih => simp [encodeItems, ih]

theorem encodeMembers_eq_map (layout : DecimalLayout) (members : List (String × Json)) :
    encodeMembers layout members = members.map fun m => (m.1, encode layout m.2) := by
  induction members with
  | nil => simp [encodeMembers]
  | cons m rest ih => simp [encodeMembers, ih]

end DeviceGate.Json
