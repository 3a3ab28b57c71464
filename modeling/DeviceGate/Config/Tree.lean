import DeviceGate.Json.Basic

/-!
Configuration as a tree, whatever document it comes from, and the readers of typed records in it.  A
record stands as a table of its fields or as an array of their values; members that no field has are
passed over.

* `ConfigFormat`: the two kinds of documents, where they differ: what may stand behind the values of
  a record in an array, and what stands for no value.
* `ConfigTree`: the tree; `ConfigTree.ofJson`: the tree of a JSON value.
* `ConfigTree.record?`: the fields of a record; `ConfigRecord.required`, `optional`, `orElse`: one
  of them.
-/

namespace DeviceGate

/-- The kind of document that a value stands in. -/
inductive ConfigFormat where
  | json
  | toml
  deriving DecidableEq

/-- Whether an array may go on behind the values of a record; what follows is passed over. -/
def ConfigFormat.allowsSurplus : ConfigFormat → Bool
  | json => false
  | toml => true

/-- A configuration value. -/
inductive ConfigTree where
  | null
  | bool (b : Bool)
  | integer (n : Int)
  /-- A number that is no integer, which no setting takes. -/
  | fraction
  | text (s : String)
  | array (format : ConfigFormat) (items : List ConfigTree)
  | table (format : ConfigFormat) (members : List (String × ConfigTree))

/-- The fields of a record that are there, and whether they stand in an array. -/
structure ConfigRecord where
  members : List (String × ConfigTree)
  positional : Bool

namespace ConfigTree

mutual

/-- The tree of a JSON value. -/
def ofJson : Json → ConfigTree
  | .null => null
  | .bool b => bool b
  | .integer n => integer n.val
  | .real _ => fraction
  | .text s => text s
  | .array items => array .json (ofJsonItems items)
  | .object members => table .json (ofJsonMembers members)

/-- The trees of the items of an array. -/
def ofJsonItems : List Json → List ConfigTree
  | [] => []
  | item :: rest => ofJson item :: ofJsonItems rest

/-- The members of an object as trees. -/
def ofJsonMembers : List (String × Json) → List (String × ConfigTree)
  | [] => []
  | (key, value) :: rest => (key, ofJson value) :: ofJsonMembers rest

end

/-- The fields of a record, whose names are given in order. -/
def record? (names : List String) : ConfigTree → Option ConfigRecord
  | table _ members => some { members := members, positional := false }
  | array format items =>
    if format.allowsSurplus || items.length ≤ names.length then
      some { members := names.zip items, positional := true }
    else none
  | _ => none

/-- A text. -/
def text? : ConfigTree → Option String
  | text s => some s
  | _ => none

/-- A truth value. -/
def bool? : ConfigTree → Option Bool
  | bool b => some b
  | _ => none

/-- A signed 64-bit integer. -/
def int? : ConfigTree → Option Int
  | integer n => if -9223372036854775808 ≤ n ∧ n < 9223372036854775808 then some n else none
  | _ => none

/-- An unsigned 64-bit integer. -/
def nat? : ConfigTree → Option Nat
  | integer n => if 0 ≤ n ∧ n < 18446744073709551616 then some n.toNat else none
  | _ => none

/-- A list of values of one kind. -/
def listOf? {α : Type} (read : ConfigTree → Option α) : ConfigTree → Option (List α)
  | array _ items => items.mapM read
  | _ => none

/-- A value or null. -/
def nullable? {α : Type} (read : ConfigTree → Option α) : ConfigTree → Option (Option α)
  | null => some none
  | v => (read v).map some

/-- Whether a value stands for none: null in JSON; in TOML, which has no null, an empty table or an
empty array. -/
def isVoid : ConfigFormat → ConfigTree → Bool
  | .json, null => true
  | .toml, table _ [] => true
  | .toml, array _ [] => true
  | _, _ => false

/-- One of several names, which may also stand as the only key of a table, without a value. -/
def named? {α : Type} (ofName? : String → Option α) : ConfigTree → Option α
  | text s => ofName? s
  | table format [(s, v)] => if isVoid format v then ofName? s else none
  | _ => none

end ConfigTree

namespace ConfigRecord

/-- The value of a field. -/
def member? (r : ConfigRecord) (name : String) : Option ConfigTree :=
  r.members.lookup name

/-- A field that must be there. -/
def required {α : Type} (r : ConfigRecord) (name : String) (read : ConfigTree → Option α) :
    Option α :=
  (r.member? name).bind read

/-- A field with a value for its absence. -/
def orElse {α : Type} (r : ConfigRecord) (name : String) (absent : α)
    (read : ConfigTree → Option α) : Option α :=
  match r.member? name with
  | some v => read v
  | none => some absent

/-- A field that may be null, and in a table may be missing. -/
def optional {α : Type} (r : ConfigRecord) (name : String) (read : ConfigTree → Option α) :
    Option (Option α) :=
  match r.member? name with
  | some v => v.nullable? read
  | none => if r.positional then none else some none

end ConfigRecord

end DeviceGate
