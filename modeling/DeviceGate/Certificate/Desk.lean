import DeviceGate.Audit.Trail
import DeviceGate.Certificate.Connector
import DeviceGate.Certificate.Rotation
import DeviceGate.Certificate.Scripted
import DeviceGate.Schedule

/-!
The life of the gate's certificate as one state machine: a scripted authority, the connection, the
audit trail and the rotation loop, driven by commands.

* `Desk`: the state; `DeskCommand`, `DeskAnswer`: what goes in and comes out.
* `Desk.perform`: one command; `Desk.runCycle`: one cycle of the loop.
-/

namespace DeviceGate

/-- The connection of the rehearsals. -/
abbrev RehearsedConnection := Connection BrokerSession Connector

/-- Everything around the certificate. -/
structure Desk where
  request : CertificateRequest
  authority : ScriptedAuthority
  connection : RehearsedConnection
  trail : AuditTrail
  /-- Seconds between two cycles, and after a failed one. -/
  interval : Nat
  retryInterval : Nat
  lastAcquired : Option Certificate := none
  loop : Option LoopPhase := none
  /-- The seconds that the loop's clock shows, which has run for somewhat more than a day. -/
  elapsed : Nat := 100000

/-- The certificate that an acquisition starts from. -/
inductive CurrentCertificate where
  | absent
  | lastAcquired
  | active
  | given (c : Certificate)

/-- A command. -/
inductive DeskCommand where
  | script (s : IssueScript)
  | refuseConnects (why : Option String)
  | failPublishes (why : Option String)
  | commonName
  | acquire (current : CurrentCertificate) (now : Option Timestamp)
  | swap (certificate : Option Certificate)
  | active
  | publish (topic payload : String)
  | shutdown
  | cycle
  | startLoop (signal : Bool)
  | advance (seconds : Nat)
  | signal (value : Bool)
  | dropSignal

/-- The answer to a command. -/
inductive DeskAnswer where
  | done
  | name (s : String)
  | acquired (a : AcquiredCertificate)
  | pkiFailed (e : PkiError)
  | brokerFailed (e : BrokerError)
  | active (c : Option Certificate)
  | outcome (o : RotationOutcome)
  /-- Whether the loop has ended, if there is one, and the active serial number. -/
  | loop (finished : Option Bool) (active : Option String)
  | dropped (finished : Option Bool)

namespace Desk

/-- Whether the authority is overrun, after which no answer means anything. -/
def isOverrun (d : Desk) : Bool := d.authority.overrun

/-- A call on the authority and the connection, whose events go to the trail. -/
def run {α : Type} (d : Desk) (call : Act (ScriptedAuthority × RehearsedConnection) α) :
    α × Desk × List LogLine :=
  let noted := call (d.authority, d.connection)
  let (a, authority, connection) := noted.value
  let (trail, lines) := d.trail.deliverAll noted.events
  (a, { d with authority := authority, connection := connection, trail := trail },
    noted.lines ++ lines)

/-- A call on the connection only. -/
def onConnection {α : Type} (call : Act RehearsedConnection α) :
    Act (ScriptedAuthority × RehearsedConnection) α := fun (a, c) => do
  let (x, c) ← call c
  return (x, a, c)

/-- The time. -/
def readClock : Act (ScriptedAuthority × RehearsedConnection) Timestamp := fun (a, c) =>
  let (now, a) := a.readClock
  pure (now, a, c)

/-- One cycle of rotation. -/
def cycle (request : CertificateRequest) :
    Act (ScriptedAuthority × RehearsedConnection) RotationOutcome := do
  let now ← readClock
  rotate ScriptedAuthority.authority Connector.broker request now

/-- The certificate that an acquisition starts from. -/
def resolve (d : Desk) : CurrentCertificate → Option Certificate
  | .absent => none
  | .lastAcquired => d.lastAcquired
  | .active => d.connection.activeCertificate
  | .given c => some c

/-- Acquires a certificate, now or at a given moment. -/
def acquire (d : Desk) (current : Option Certificate) (now : Option Timestamp) :
    DeskAnswer × Desk × List LogLine :=
  let call : Act (ScriptedAuthority × RehearsedConnection)
      (Except PkiError AcquiredCertificate) := do
    let now ← match now with
      | some t => pure t
      | none => readClock
    fun (a, c) => do
      let (x, a) ← acquireCertificate ScriptedAuthority.authority d.request current now a
      return (x, a, c)
  match d.run call with
  | (.ok acquired, d, lines) =>
    (.acquired acquired, { d with lastAcquired := some acquired.certificate }, lines)
  | (.error e, d, lines) => (.pkiFailed e, d, lines)

/-- The answer of a call that succeeds without a result. -/
def brokerAnswer :
    Except BrokerError Unit × Desk × List LogLine → DeskAnswer × Desk × List LogLine
  | (.ok (), d, lines) => (.done, d, lines)
  | (.error e, d, lines) => (.brokerFailed e, d, lines)

/-- The desk with another mode of its connector. -/
def withMode (d : Desk) (mode : ConnectorMode) : Desk :=
  { d with
    connection := { d.connection with connector := { d.connection.connector with mode := mode } } }

/-- The state of the loop. -/
def loopAnswer (d : Desk) : DeskAnswer :=
  .loop (d.loop.map LoopPhase.isFinished)
    (d.connection.activeCertificate.map (·.serialNumber))

/-- The line that a loop writes when it ends. -/
def stoppedLine : LogLine where
  level := .info
  message := "CERT_ROTATION_STOPPED"

/-- The line that a loop writes when it starts. -/
def startedLine (d : Desk) : LogLine where
  level := .info
  message :=
    "CERT_ROTATION_STARTED common_name=" ++ d.request.commonName ++ " interval_secs=" ++
      toString d.interval ++ " retry_secs=" ++ toString d.retryInterval

/-- One cycle of the loop, which ends with the delivery of its events; a failed one is followed by
the shorter wait. -/
def runCycle (s : Desk × List LogLine) : Nat × Desk × List LogLine :=
  let (outcome, d, lines) := s.1.run (cycle s.1.request)
  let wait := match outcome with
    | .failed _ => d.retryInterval
    | _ => d.interval
  (wait, d, s.2 ++ lines)

/-- The loop with its phase changed, and the line of its end if this is what ended it. -/
def moveLoop (d : Desk) (move : LoopPhase → LoopPhase) : Desk × List LogLine :=
  match d.loop with
  | none => (d, [])
  | some phase =>
    let next := move phase
    ({ d with loop := some next }, if phase.leaves next then [stoppedLine] else [])

/-- Runs the cycles that are due. -/
def runDue (d : Desk) : Desk × List LogLine :=
  match d.loop with
  | none => (d, [])
  | some phase =>
    let (phase, d, lines) := phase.advance runCycle d.elapsed (d, [])
    ({ d with loop := some phase }, lines)

/-- Starts the loop, whose signal may be set already; a loop that was there loses its sender. -/
def startLoop (d : Desk) (signal : Bool) : Desk × List LogLine :=
  let (d, farewell) := d.moveLoop LoopPhase.released
  let d := { d with loop := some (.waitingFrom d.elapsed d.interval) }
  let (d, stopped) := d.moveLoop (LoopPhase.notified signal)
  let (d, lines) := d.runDue
  (d, d.startedLine :: stopped ++ farewell ++ lines)

/-- One command. -/
def perform (d : Desk) : DeskCommand → DeskAnswer × Desk × List LogLine
  | .script s => (.done, { d with authority := { d.authority with script := s } }, [])
  | .refuseConnects why =>
    match d.connection.connector.mode with
    | .detached => (.done, d, [])
    | .attached _ failure => (.done, d.withMode (.attached why failure), [])
  | .failPublishes why =>
    match d.connection.connector.mode with
    | .detached => (.done, d, [])
    | .attached refusal _ => (.done, d.withMode (.attached refusal why), [])
  | .commonName => (.name d.request.commonName, d, [])
  | .acquire current now => d.acquire (d.resolve current) now
  | .swap certificate =>
    match certificate.or d.lastAcquired with
    | none => (.done, d, [])
    | some c => brokerAnswer (d.run (onConnection fun k => k.swap Connector.broker c))
  | .active => (.active d.connection.activeCertificate, d, [])
  | .publish topic payload =>
    brokerAnswer (d.run (onConnection fun k => k.publish Connector.broker topic payload.toUTF8))
  | .shutdown =>
    let (_, d, lines) :=
      d.run (onConnection fun k => do return ((), ← k.shutdown Connector.broker))
    (.done, d, lines)
  | .cycle =>
    let (outcome, d, lines) := d.run (cycle d.request)
    (.outcome outcome, d, lines)
  | .startLoop signal =>
    let (d, lines) := d.startLoop signal
    (d.loopAnswer, d, lines)
  | .advance seconds =>
    let (d, lines) := { d with elapsed := Clock.wake d.elapsed seconds }.runDue
    (d.loopAnswer, d, lines)
  | .signal value =>
    let (d, lines) := d.moveLoop (LoopPhase.notified value)
    (d.loopAnswer, d, lines)
  | .dropSignal =>
    let (d, lines) := d.moveLoop LoopPhase.released
    (.dropped (d.loop.map LoopPhase.isFinished), { d with loop := none }, lines)

end Desk

end DeviceGate
