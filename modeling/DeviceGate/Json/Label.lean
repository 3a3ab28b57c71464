import DeviceGate.Json.Canonical
import DeviceGate.Text.Quoted

/-!
How a JSON value stands in a log line: with the kind of every part before it.

* `Json.label`: the value; `Json.labelOption`: a value that may be missing.
-/

namespace DeviceGate.Json

/-- The parts with a comma and a blank between them. -/
def commaSpaced : List String → String
  | [] => ""
  | [s] => s
  | s :: rest => s ++ ", " ++ commaSpaced rest

mutual

/-- A value with its kind. -/
def label : Json → String
  | null => "Null"
  | bool b => "Bool(" ++ toString b ++ ")"
  | integer n => "Number(" ++ toString n.val ++ ")"
  | real x => "Number(" ++ String.ofList (DecimalLayout.plain.write x) ++ ")"
  | text s => "String(" ++ Text.quoted s ++ ")"
  | array items => "Array [" ++ commaSpaced (labelItems items) ++ "]"
  | object members => "Object \x7b" ++ commaSpaced (labelMembers members) ++ "\x7d"

/-- The items of an array. -/
def labelItems : List Json → List String
  | [] => []
  | item :: rest => label item :: labelItems rest

/-- The members of an object, in their order. -/
def labelMembers : List (String × Json) → List String
  | [] => []
  | (key, value) :: rest => (Text.quoted key ++ ": " ++ label value) :: labelMembers rest

end

/-- A value that may be missing. -/
def labelOption : Option Json → String
  | some v => "Some(" ++ label v ++ ")"
  | none => "None"

end DeviceGate.Json
