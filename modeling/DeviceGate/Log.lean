import DeviceGate.Text.Quoted

/-!
Log lines and the context that ties the lines of one request together.

* `LogLine`: a level and a text; `LogLine.text` writes both.
* `LogContext.text`: the request and, when there is one, the subject.
* `LogContext.statement`: a line of an event with its reason and count.
-/

namespace DeviceGate

/-- The severity of a log line. -/
inductive LogLevel where
  | trace
  | debug
  | info
  | warn
  | error
  deriving DecidableEq

/-- The name of a level. -/
def LogLevel.name : LogLevel → String
  | .trace => "TRACE"
  | .debug => "DEBUG"
  | .info => "INFO"
  | .warn => "WARN"
  | .error => "ERROR"

/-- One line of the log. -/
structure LogLine where
  level : LogLevel
  message : String
  deriving DecidableEq

/-- The line with its level. -/
def LogLine.text (l : LogLine) : String :=
  l.level.name ++ " " ++ l.message

/-- What the lines of one request have in common. -/
structure LogContext where
  request : String
  subject : Option String := none
  deriving DecidableEq

namespace LogContext

/-- The same request, about the given device or client. -/
def about (c : LogContext) (subject : String) : LogContext :=
  { c with subject := some subject }

/-- The context as it stands at the head of a line. -/
def text (c : LogContext) : String :=
  match c.subject with
  | some s => "[req=" ++ c.request ++ "] [subject=" ++ s ++ "]"
  | none => "[req=" ++ c.request ++ "]"

/-- A line of an event with a reason, which may be missing, and a count. -/
def statement (c : LogContext) (level : LogLevel) (event : String) (reason : Option String)
    (count : Int) : LogLine where
  level := level
  message :=
    c.text ++ " " ++ event ++ " reason=" ++ Text.quotedOption reason ++ " count=" ++
      toString count ++ " "

end LogContext

end DeviceGate
