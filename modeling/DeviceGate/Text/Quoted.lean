import DeviceGate.Text.Unprintable

/-!
Quoted text, as it stands in log lines and in messages that repeat a configured value: double
quotes around the text, a backslash before a quote or a backslash, short escapes for the tab, the
two line ends and the null character, and `\u{…}` with lower-case hexadecimal digits for whatever
does not print.

* `quoted`: the quoted form of a text.
* `quotedOption`: `Some("…")` or `None`.
-/

namespace DeviceGate.Text

/-- Lower-case hexadecimal digits of a number, without leading zeros. -/
def hexDigits (n : Nat) : List Char :=
  Nat.toDigits 16 n

/-- How one character stands between the quotes. -/
def quotedChar (c : Char) : List Char :=
  match c with
  | '"' => ['\\', '"']
  | '\\' => ['\\', '\\']
  | '\t' => ['\\', 't']
  | '\r' => ['\\', 'r']
  | '\n' => ['\\', 'n']
  | '\x00' => ['\\', '0']
  | c => if isUnprintable c then ['\\', 'u', '\x7b'] ++ hexDigits c.toNat ++ ['\x7d'] else [c]

/-- The text between double quotes. -/
def quoted (s : String) : String :=
  String.ofList ('"' :: s.toList.flatMap quotedChar ++ ['"'])

/-- A text that may be missing. -/
def quotedOption : Option String → String
  | some s => "Some(" ++ quoted s ++ ")"
  | none => "None"

end DeviceGate.Text
