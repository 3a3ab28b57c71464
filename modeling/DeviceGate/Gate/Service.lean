import DeviceGate.Gate.Configuration
import DeviceGate.Text.Hex

/-!
The gate as a service: requests stand one on a line, and each has the moment of its arrival.

* `ServiceOptions.ofArguments?`: the command line.
* `HttpRequest.ofLine?`: the request of a line.
* `World.serve`: what a line leads to at a moment.
-/

namespace DeviceGate

/-- What the command line tells. -/
structure ServiceOptions where
  /-- Where the settings are; without it every setting has its default. -/
  config : Option String := none

/-- The options of the arguments, or nothing when they are not understood. -/
def ServiceOptions.ofArguments? : List String → Option ServiceOptions
  | [] => some {}
  | ["-c", path] => some { config := some path }
  | ["--config", path] => some { config := some path }
  | _ => none

/-- A word at the head of a line, and what follows the space behind it. -/
def splitWord (cs : List Char) : String × List Char :=
  (String.ofList (cs.takeWhile (· ≠ ' ')), (cs.dropWhile (· ≠ ' ')).drop 1)

/-- The request of a line: a method, a target and, if more follows, a JSON body. -/
def HttpRequest.ofLine? (id line : String) : Option HttpRequest :=
  let (method, rest) := splitWord line.toList
  let (target, body) := splitWord rest
  if method.isEmpty || target.isEmpty then none
  else
    some
      { id := id, method := method, target := target
        headers := if body.isEmpty then [] else [("content-type", "application/json")]
        body := String.ofList body }

/-- The reply on a line: its status and, if it says something, its body. -/
def Reply.line (r : Reply) : String :=
  match r.body with
  | some body => toString r.status ++ " " ++ body.json.plainText
  | none => toString r.status

namespace World

/-- The gate at a later moment, when its loop has run for as long as has passed. -/
def atMoment (w : World) (now : Timestamp) : World × List LogLine :=
  let passed := (now.second - w.state.clock.second).toNat
  let o := { w with state := { w.state with clock := now } }.perform (.advance passed)
  (o.world, o.lines)

/-- The name of the next request, which its log lines carry. -/
def drawRequestId : Act GateState String := do
  return String.ofList (Text.Hex.encode (← Gate.drawBytes 4))

/-- The reply to a line that came at a moment; what is no request is malformed. -/
def serve (w : World) (now : Timestamp) (line : String) : Reply × World × List LogLine :=
  let (w, before) := w.atMoment now
  let (reply, w, lines) := w.run do
    match HttpRequest.ofLine? (← drawRequestId) line with
    | some request => Gate.respond w.config request
    | none => return .bare 400
  (reply, w, before ++ lines)

end World

end DeviceGate
