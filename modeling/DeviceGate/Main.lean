import Std.Time.DateTime.Timestamp
import DeviceGate.Gate.Service

/-!
The command line.  `--config PATH` names the settings; requests come in on standard input, one on a
line, and replies go out on standard output.  The log is written to standard error.
-/

namespace DeviceGate.CommandLine

/-- The wall clock. -/
def readClock : IO Timestamp := do
  let nanos := (← Std.Time.Timestamp.now).toNanosecondsSinceUnixEpoch.val
  return { second := nanos.fdiv 1000000000, nano := (nanos.fmod 1000000000).toNat }

/-- Writes log lines. -/
def writeLog (lines : List LogLine) : IO Unit :=
  lines.forM fun l => IO.eprintln l.text

/-- The settings that the options name. -/
def readSettings (options : ServiceOptions) : IO (Except SettingsFault Settings) := do
  match options.config with
  | none => return .ok {}
  | some path =>
    try return Settings.ofToml (← IO.FS.readFile path)
    catch e => return .error (.missing (toString e))

/-- Answers lines until the input ends. -/
partial def answerLines (input output : IO.FS.Stream) (w : World) : IO Unit := do
  let line ← input.getLine
  if line.isEmpty then return ()
  let (reply, w, lines) := w.serve (← readClock) line.trimAsciiEnd.toString
  writeLog lines
  output.putStrLn reply.line
  output.flush
  answerLines input output w

/-- Starts the gate and lets it answer. -/
def serve (settings : Settings) : IO Unit := do
  let seed := (← IO.getRandomBytes 32).toList
  let uptime := (← IO.monoMsNow) / 1000
  let host : Host := { seed := seed, uptime := uptime }
  let (w, lines) := World.ofSettings settings true .log (← readClock) host
  let started := w.perform (.startSweeps false)
  writeLog (lines ++ started.lines)
  answerLines (← IO.getStdin) (← IO.getStdout) started.world

end DeviceGate.CommandLine

/-- Runs the gate; the exit status is 2 when the arguments and 1 when the settings are no good. -/
def main (args : List String) : IO UInt32 := do
  match DeviceGate.ServiceOptions.ofArguments? args with
  | none =>
    IO.eprintln "usage: device-gate [--config PATH]"
    return 2
  | some options =>
    match ← DeviceGate.CommandLine.readSettings options with
    | .error fault =>
      IO.eprintln fault.message
      return 1
    | .ok settings =>
      DeviceGate.CommandLine.serve settings
      return 0
