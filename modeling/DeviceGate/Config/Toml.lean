import DeviceGate.Config.TomlScalar
import DeviceGate.Config.TomlTable

/-!
TOML documents, read line by line into a configuration tree.

* `Toml.read?`: the tree of a document.
* `Toml.readValue?`: a value at the head of a text; `Toml.readLines?`: the lines of a document.
-/

namespace DeviceGate.Toml

/-- How deep arrays and inline tables may nest, and how many parts a dotted key may have. -/
def maxDepth : Nat := 79

/-! ### Keys -/

/-- A character of a key without quotes. -/
def isBareChar (c : Char) : Bool :=
  c.isAlphanum || c = '_' || c = '-'

/-- One part of a key. -/
def readKeyPart? (cs : List Char) : Option (String × List Char) :=
  match cs with
  | '"' :: rest => (basic? rest).map fun p => (String.ofList p.1, p.2)
  | '\x27' :: rest => (literal? rest).map fun p => (String.ofList p.1, p.2)
  | cs =>
    let bare := cs.takeWhile isBareChar
    if bare.isEmpty then none else some (String.ofList bare, cs.dropWhile isBareChar)

/-- A dotted key of at most so many parts, with the gaps on either side of it. -/
def readKey? (parts : Nat) (cs : List Char) : Option (List String × List Char) :=
  match parts with
  | 0 => none
  | parts + 1 =>
    match readKeyPart? (skipGaps cs) with
    | none => none
    | some (part, rest) =>
      match skipGaps rest with
      | '.' :: more => (readKey? parts more).map fun p => (part :: p.1, p.2)
      | rest => some ([part], rest)

/-! ### Values -/

/-- The text behind a comment, if one is there. -/
def skipComment : List Char → List Char
  | '#' :: rest => rest.dropWhile isPlain
  | cs => cs

/-- The text behind gaps, comments and line ends. -/
def skipFiller (fuel : Nat) (cs : List Char) : List Char :=
  match fuel with
  | 0 => cs
  | fuel + 1 =>
    let cs := skipComment (skipGaps cs)
    match skipNewline? cs with
    | some rest => skipFiller fuel rest
    | none => cs

/-- A word ends before a blank, a comma, a bracket or a comment. -/
def isWordChar (c : Char) : Bool :=
  !(isGap c || c = '\n' || c = '\r' || c = ',' || c = ']' || c = '\x7d' || c = '#')

/-- A value without quotes and brackets; a date may be followed by a space and a time. -/
def readScalar? (cs : List Char) : Option (ConfigTree × List Char) :=
  let word := cs.takeWhile isWordChar
  let rest := cs.dropWhile isWordChar
  match rest with
  | ' ' :: c :: more =>
    if date? word = some [] && isDigit c then
      let time := (c :: more).takeWhile isWordChar
      (scalar? (word ++ ' ' :: time)).map fun v => (v, (c :: more).dropWhile isWordChar)
    else (scalar? word).map fun v => (v, rest)
  | rest => (scalar? word).map fun v => (v, rest)

mutual

/-- A value at the head of the text, which may open `depth` more levels. -/
def readValue? (fuel depth : Nat) (cs : List Char) : Option (ConfigTree × List Char) :=
  match fuel with
  | 0 => none
  | fuel + 1 =>
    match cs with
    | '"' :: _ | '\x27' :: _ => (readText? cs).map fun p => (.text p.1, p.2)
    | '[' :: rest =>
      match depth with
      | 0 => none
      | depth + 1 => (readItems? fuel depth rest).map fun p => (.array .toml p.1, p.2)
    | '\x7b' :: rest =>
      match depth with
      | 0 => none
      | depth + 1 =>
        match skipGaps rest with
        | '\x7d' :: after => some (.table .toml [], after)
        | rest => (readPairs? fuel depth [] rest).map fun p => (.table .toml p.1, p.2)
    | cs => readScalar? cs

/-- The items of an array from the next one to the closing bracket. -/
def readItems? (fuel depth : Nat) (cs : List Char) : Option (List ConfigTree × List Char) :=
  match fuel with
  | 0 => none
  | fuel + 1 =>
    match skipFiller cs.length cs with
    | ']' :: after => some ([], after)
    | cs =>
      match readValue? fuel depth cs with
      | none => none
      | some (v, rest) =>
        match skipFiller rest.length rest with
        | ',' :: more => (readItems? fuel depth more).map fun p => (v :: p.1, p.2)
        | ']' :: after => some ([v], after)
        | _ => none

/-- The members of an inline table from the next one to the closing brace. -/
def readPairs? (fuel depth : Nat) (members : TomlNode.Members) (cs : List Char) :
    Option (List (String × ConfigTree) × List Char) :=
  match fuel with
  | 0 => none
  | fuel + 1 =>
    match readKey? maxDepth cs with
    | some (key, '=' :: rest) =>
      match readValue? fuel depth (skipGaps rest) with
      | none => none
      | some (v, rest) =>
        match TomlNode.assign key v members with
        | none => none
        | some members =>
          match skipGaps rest with
          | ',' :: more => readPairs? fuel depth members more
          | '\x7d' :: after => some (TomlNode.closeMembers members, after)
          | _ => none
    | _ => none

end

/-! ### Documents -/

/-- The text behind the end of the line, before which only gaps and a comment may stand. -/
def endLine? (cs : List Char) : Option (List Char) :=
  match skipComment (skipGaps cs) with
  | [] => some []
  | cs => skipNewline? cs

/-- One line of a document that is not empty: the table that its header opened, and the tables
behind it. -/
def readLine? (header : List String) (root : TomlNode.Members) (cs : List Char) :
    Option ((List String × TomlNode.Members) × List Char) :=
  match cs with
  | '[' :: '[' :: rest =>
    match readKey? maxDepth rest with
    | some (path, ']' :: ']' :: rest) => do
      let root ← TomlNode.openItem path root
      return ((path, root), ← endLine? rest)
    | _ => none
  | '[' :: rest =>
    match readKey? maxDepth rest with
    | some (path, ']' :: rest) => do
      let root ← TomlNode.openTable path root
      return ((path, root), ← endLine? rest)
    | _ => none
  | cs =>
    match readKey? maxDepth cs with
    | some (key, '=' :: rest) => do
      let (v, rest) ← readValue? (2 * rest.length + 2) maxDepth (skipGaps rest)
      let root ← TomlNode.assignIn header key v root
      return ((header, root), ← endLine? rest)
    | _ => none

/-- The lines of a document; the fuel bounds their number. -/
def readLines? (fuel : Nat) (header : List String) (root : TomlNode.Members) (cs : List Char) :
    Option TomlNode.Members :=
  match fuel with
  | 0 => none
  | fuel + 1 =>
    match skipComment (skipGaps cs) with
    | [] => some root
    | cs =>
      match skipNewline? cs with
      | some rest => readLines? fuel header root rest
      | none =>
        match readLine? header root cs with
        | some ((header, root), rest) => readLines? fuel header root rest
        | none => none

/-- A document behind the mark of its byte order, if it begins with one. -/
def withoutMark : List Char → List Char
  | '\ufeff' :: rest => rest
  | cs => cs

/-- The tree of a document. -/
def read? (document : String) : Option ConfigTree :=
  let cs := withoutMark document.toList
  (readLines? (cs.length + 1) [] [] cs).map fun root =>
    .table .toml (TomlNode.closeMembers root)

end DeviceGate.Toml
