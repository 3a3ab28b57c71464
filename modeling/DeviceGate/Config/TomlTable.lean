import DeviceGate.Config.Tree

/-!
Tables while a TOML document is being read.  A header opens a table once; dotted keys open tables of
their own, which a header may not open again; what an inline value holds is closed.

* `TomlNode`: a member of a table that may still grow.
* `TomlNode.openTable`, `openItem`, `assign`: a header, a header of an array of tables, a key with
  its value.
* `TomlNode.close`: the finished tree.
-/

namespace DeviceGate

/-- A member of a table that is being read. -/
inductive TomlNode where
  | value (v : ConfigTree)
  /-- A table: `implicit` until a header opens it, `dotted` when a dotted key made it. -/
  | table (implicit dotted : Bool) (members : List (String × TomlNode))
  /-- An array of tables: the finished ones and the members of the last one. -/
  | tables (done : List ConfigTree) (last : List (String × TomlNode))

namespace TomlNode

mutual

/-- The tree of a member. -/
def close : TomlNode → ConfigTree
  | value v => v
  | table _ _ members => .table .toml (closeMembers members)
  | tables done last => .array .toml (done ++ [.table .toml (closeMembers last)])

/-- The trees of members. -/
def closeMembers : List (String × TomlNode) → List (String × ConfigTree)
  | [] => []
  | (key, node) :: rest => (key, close node) :: closeMembers rest

end

/-- The members of a table that is being read. -/
abbrev Members := List (String × TomlNode)

/-- Changes one member, which may be missing; the change may be refused. -/
def alter (key : String) (change : Option TomlNode → Option TomlNode) : Members → Option Members
  | [] => (change none).map fun node => [(key, node)]
  | (k, node) :: rest =>
    if k = key then (change (some node)).map fun node => (k, node) :: rest
    else (alter key change rest).map fun rest => (k, node) :: rest

/-- Changes the table at the end of a path, whose missing tables are made on the way; `here` tells
whether the table at hand was made by a dotted key.  A dotted path may not enter a table that a
header has opened. -/
def within (dotted : Bool) : List String → (Bool → Members → Option Members) → Bool → Members →
    Option Members
  | [], change, here, members => change here members
  | key :: path, change, _, members =>
    alter key (fun
      | none => (within dotted path change dotted []).map (.table true dotted)
      | some (.value _) => none
      | some (.table implicit made inner) =>
        if dotted && !implicit then none
        else (within dotted path change made inner).map (.table implicit made)
      | some (.tables done last) => (within dotted path change false last).map (.tables done))
      members

/-- Opens a table, which no header and no dotted key may have made before. -/
def openTable (path : List String) (root : Members) : Option Members :=
  match path.getLast? with
  | none => none
  | some key =>
    within false path.dropLast (fun _ members =>
      alter key (fun
        | none => some (.table false false [])
        | some (.table true false inner) => some (.table false false inner)
        | some _ => none) members) false root

/-- Opens the next table of an array of tables. -/
def openItem (path : List String) (root : Members) : Option Members :=
  match path.getLast? with
  | none => none
  | some key =>
    within false path.dropLast (fun _ members =>
      alter key (fun
        | none => some (.tables [] [])
        | some (.tables done last) => 
          some (.tables (done ++ [.table .toml (closeMembers last)]) [])
        | some _ => none) members) false root

/-- Gives a dotted key of a table its value, which it may not have yet. -/
def assign (path : List String) (v : ConfigTree) (members : Members) : Option Members :=
  match path.getLast? with
  | none => none
  | some key =>
    within true path.dropLast (fun made members =>
      if made = path.dropLast.isEmpty then none
      else
        alter key (fun
          | none => some (.value v)
          | some _ => none) members) false members

/-- Gives a dotted key its value in the table that a header has opened. -/
def assignIn (header path : List String) (v : ConfigTree) (root : Members) : Option Members :=
  within false header (fun _ members => assign path v members) false root

end TomlNode

end DeviceGate
