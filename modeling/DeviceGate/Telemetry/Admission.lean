import DeviceGate.Store.Transaction
import DeviceGate.Telemetry.Integrity
import DeviceGate.Telemetry.Message
import DeviceGate.Telemetry.Payload
import DeviceGate.Telemetry.Sequence

/-!
Admission of one telemetry message.  The first failed check rejects it; a message that passes them
all is written in one transaction, and only when that is committed is its sequence number compared
with the last one.  Every rejection emits exactly one audit event.

* `Admission.examine`: the checks; `Admission.write`: the transaction.
* `Admission.process`: both, with the reports of the outcome.
* `AdmissionError`, `AdmissionRejection`: why a message was refused and how far it came.
-/

namespace DeviceGate

/-- The checkpoints of a message. -/
inductive AdmissionStage where
  | received
  | deviceChecked
  | componentChecked
  | integrityChecked
  | attachmentChecked
  | sequenceReconciled
  | committed
  deriving DecidableEq

/-- The name of a checkpoint. -/
def AdmissionStage.name : AdmissionStage → String
  | received => "RECEIVED"
  | deviceChecked => "DEVICE_CHECKED"
  | componentChecked => "COMPONENT_CHECKED"
  | integrityChecked => "INTEGRITY_CHECKED"
  | attachmentChecked => "ATTACHMENT_CHECKED"
  | sequenceReconciled => "SEQUENCE_RECONCILED"
  | committed => "COMMITTED"

/-- Why a message was refused. -/
inductive AdmissionError where
  | malformed (what : String)
  | notFound (what : String)
  | deviceState (status : String)
  | integrity (reason : String) (critical : Bool)
  | persistence
  | infrastructure (what : String)
  deriving DecidableEq

/-- The wording of a refusal. -/
def AdmissionError.message : AdmissionError → String
  | malformed what => "malformed message: " ++ what
  | notFound what => what
  | deviceState status => "device status is " ++ status ++ ", expected ONLINE"
  | integrity reason _ => "integrity check failed: " ++ reason
  | persistence => "telemetry could not be stored"
  | infrastructure what => "lookup failed: " ++ what

/-- A refusal and the last checkpoint before it. -/
structure AdmissionRejection where
  stage : AdmissionStage
  error : AdmissionError
  deriving DecidableEq

/-- What is known about a committed message. -/
structure AdmissionReceipt where
  snapshotId : Int
  rowsWritten : Nat
  gap : Option SequenceGap
  deriving DecidableEq

/-- The records that admission reads and writes. -/
structure Records where
  store : Store
  cache : Cache

/-- What is configured about admission. -/
structure Admission where
  /-- The first segment that topics must have, if any is required. -/
  topicNamespace : Option String
  /-- How many seconds a sequence number stays cached. -/
  sequenceTtl : Nat
  deriving DecidableEq

/-- A message that passed the checks. -/
structure Examined where
  device : Device
  telemetry : TelemetryPayload
  deriving DecidableEq

/-- A device takes part only while it is online. -/
def Device.checkOnline (d : Device) : Except AdmissionError Unit :=
  if d.status = .online then .ok () else .error (.deviceState d.status.name)

/-- A failed integrity check as a refusal. -/
def IntegrityCheck.result : IntegrityCheck → Except AdmissionError Unit
  | valid => .ok ()
  | rejected reason => .error (.integrity reason false)
  | tampered reason => .error (.integrity reason true)

namespace Admission

/-! ### The checks -/

/-- The outcome of a check, noted on the way. -/
abbrev Check (α : Type) := ExceptT AdmissionRejection Noted α

/-- Refuses a message behind a checkpoint. -/
def refuse {α : Type} (stage : AdmissionStage) (error : AdmissionError) : Check α :=
  throw { stage := stage, error := error }

/-- A result without notes, whose error stands behind a checkpoint. -/
def checkAt {α : Type} (stage : AdmissionStage) (r : Except AdmissionError α) : Check α :=
  match r with
  | .ok a => pure a
  | .error e => refuse stage e

/-- The answer of a look-up; a failed one is logged and refuses the message. -/
def lookUp {α : Type} (ctx : LogContext) (stage : AdmissionStage) (event what : String)
    (r : Except StoreError α) : Check α :=
  match r with
  | .ok a => pure a
  | .error e => do
    ExceptT.lift (Noted.log .error (ctx.text ++ " " ++ event ++ " error=" ++ e.message))
    refuse stage (.infrastructure what)

/-- The device that a topic names, when the topic is a telemetry channel in the right namespace. -/
def checkTopic (a : Admission) (topic : String) : Except AdmissionError String :=
  if !Topic.isTelemetry topic then .error (.malformed "topic is not a telemetry channel")
  else
    match a.topicNamespace.filter fun n => Topic.namespaceOf topic ≠ n with
    | some n => .error (.malformed ("topic outside namespace " ++ n))
    | none =>
      match Topic.deviceId? topic with
      | none => .error (.malformed "topic has no device segment")
      | some uuid => .ok uuid

/-- The envelope of a payload. -/
def checkPayload (payload : Json) : Except AdmissionError TelemetryPayload :=
  (TelemetryPayload.ofJson? payload).mapError fun fault => .malformed fault.message

/-- The registered device of a uuid, which must be online. -/
def checkDevice (s : Store) (ctx : LogContext) (uuid : String) : Check Device := do
  match ← lookUp ctx .received "DEVICE_LOOKUP_FAILED" "device lookup" (s.findDevice uuid) with
  | none => refuse .received (.notFound "device not registered")
  | some device =>
    checkAt .received device.checkOnline
    return device

/-- The component type of a name, which must be in the catalog. -/
def checkComponent (s : Store) (ctx : LogContext) (name : String) : Check ComponentType := do
  match ← lookUp ctx .deviceChecked ("COMPONENT_LOOKUP_FAILED component=" ++ name)
      "component lookup" (s.findComponentType name) with
  | none => refuse .deviceChecked (.notFound ("unsupported component type: " ++ name))
  | some component => return component

/-- Serial number and signature of the payload, in this order. -/
def checkIntegrity (ctx : LogContext) (device : Device) (payload : Json) : Check Unit := do
  let serial ← ExceptT.lift (device.checkSerial ctx payload)
  checkAt .componentChecked serial.result
  let signature ← ExceptT.lift (device.checkSignature ctx payload)
  checkAt .componentChecked signature.result

/-- The component must be wired to the device under the instance name. -/
def checkAttachment (s : Store) (ctx : LogContext) (device : Device) (component : ComponentType)
    (instanceName : String) : Check Unit := do
  let attached ← lookUp ctx .integrityChecked "ATTACHMENT_LOOKUP_FAILED" "attachment lookup"
    (s.isAttached device.id component.id instanceName)
  if !attached then
    refuse .integrityChecked
      (.notFound ("component " ++ component.name ++ " instance " ++ instanceName ++
        " not attached to device"))

/-- All checks of a message. -/
def examine (a : Admission) (s : Store) (ctx : LogContext) (topic : String) (payload : Json) :
    Check Examined := do
  let uuid ← checkAt .received (a.checkTopic topic)
  let telemetry ← checkAt .received (checkPayload payload)
  let device ← checkDevice s ctx uuid
  let component ← checkComponent s ctx telemetry.componentType
  checkIntegrity ctx device payload
  checkAttachment s ctx device component telemetry.instanceName
  return { device := device, telemetry := telemetry }

/-! ### The transaction -/

/-- The row that stores a reading. -/
def rowOf (snapshot : Snapshot) (e : Examined) (reading : Reading) : TelemetryRow where
  snapshotId := snapshot.id
  deviceId := e.device.id
  instanceName := e.telemetry.instanceName
  reading := reading

/-- Buffers several rows. -/
def insertAll (s : Store) (tx : Transaction) : List TelemetryRow → Except StoreError Transaction
  | [] => .ok tx
  | row :: rest => do
    let tx ← s.insertReading tx row
    insertAll s tx rest

/-- Buffers what a message writes: its snapshot, its rows, and the moment the device was seen. -/
def fill (s : Store) (tx : Transaction) (e : Examined) (seenAt : Timestamp) :
    Except StoreError (Snapshot × Transaction) × Store :=
  match s.snapshotFor tx e.device.id e.telemetry.snapshotId seenAt with
  | .error err => (.error err, s)
  | .ok (snapshot, tx, s) =>
    let buffered := do
      let tx ← insertAll s tx (e.telemetry.readings.map (rowOf snapshot e))
      let tx ← s.touchDevice tx e.device.id seenAt
      return (snapshot, tx)
    (buffered, s)

/-- Writes a message in one transaction and gives the snapshot that it fills; an error has been
logged and has changed nothing but the last snapshot id. -/
def write (s : Store) (ctx : LogContext) (e : Examined) (seenAt : Timestamp) :
    Noted (Option Snapshot × Store) := do
  match s.beginTransaction with
  | .error err =>
    Noted.log .error (ctx.text ++ " TELEMETRY_TX_BEGIN_FAILED error=" ++ err.message)
    return (none, s)
  | .ok tx =>
    match fill s tx e seenAt with
    | (.error err, s) =>
      Noted.log .error (ctx.text ++ " TELEMETRY_WRITE_FAILED error=" ++ err.message)
      match s.rollback tx with
      | .error err =>
        Noted.log .error (ctx.text ++ " TELEMETRY_ROLLBACK_FAILED error=" ++ err.message)
      | .ok () => pure ()
      return (none, s)
    | (.ok (snapshot, tx), s) =>
      match s.commit tx with
      | .error err =>
        Noted.log .error (ctx.text ++ " TELEMETRY_COMMIT_FAILED error=" ++ err.message)
        return (none, s)
      | .ok s => return (some snapshot, s)

/-! ### The whole way -/

/-- The gap before a committed message, if it carries a sequence number. -/
def reconcile (a : Admission) (ctx : LogContext) (e : Examined) (c : Cache) :
    Noted (Option SequenceGap × Cache) := do
  match e.telemetry.sequenceNumber with
  | some current => Sequence.reconcile ctx a.sequenceTtl e.device e.telemetry.instanceName current c
  | none =>
    Noted.log .debug (ctx.text ++ " SEQUENCE_SKIP reason=no_sequence_number")
    return (none, c)

/-- The outcome of a message and the records behind it; `now` stands for a missing moment of
capture. -/
def run (a : Admission) (now : Timestamp) (ctx : LogContext) (topic : String) (payload : Json)
    (r : Records) : Noted (Except AdmissionRejection AdmissionReceipt × Records) := do
  match ← (a.examine r.store ctx topic payload).run with
  | .error rejection => return (.error rejection, r)
  | .ok e =>
    match ← write r.store ctx e (e.telemetry.capturedAt.getD now) with
    | (none, s) =>
      return (.error { stage := .attachmentChecked, error := .persistence }, { r with store := s })
    | (some snapshot, s) =>
      let (gap, c) ← a.reconcile ctx e r.cache
      let receipt : AdmissionReceipt :=
        { snapshotId := snapshot.id, rowsWritten := e.telemetry.readings.length, gap := gap }
      return (.ok receipt, { store := s, cache := c })

/-- The event of a refusal; an integrity failure has a kind of its own. -/
def rejectionEvent (m : Message) (r : AdmissionRejection) : AuditEvent :=
  let event := match r.error with
    | .integrity _ critical =>
      (AuditEvent.of .integrityViolation "Telemetry integrity check failed").graded
        (if critical then .critical else .warning)
    | _ => (AuditEvent.of .telemetryRejected "Telemetry rejected").graded .warning
  event.byActor (Topic.deviceId? m.topic)
    |>.detail "topic" m.topic |>.detail "transport" m.transport.name
    |>.detail "stage" r.stage.name |>.detail "reason" r.error.message

/-- The report of an outcome. -/
def report (ctx : LogContext) (m : Message) :
    Except AdmissionRejection AdmissionReceipt → Noted Unit
  | .ok receipt =>
    Noted.log .info
      (ctx.text ++ " TELEMETRY_COMMITTED snapshot_id=" ++ toString receipt.snapshotId ++ " rows=" ++
        toString receipt.rowsWritten ++ " gap=" ++ toString receipt.gap.isSome)
  | .error r => do
    Noted.log .warn
      (ctx.text ++ " TELEMETRY_REJECTED stage=" ++ r.stage.name ++ " reason=" ++
        Text.quoted r.error.message)
    Noted.emit (rejectionEvent m r)

/-- One message from its arrival to its outcome. -/
def process (a : Admission) (now : Timestamp) (m : Message) (payload : Json) (r : Records) :
    Noted (Except AdmissionRejection AdmissionReceipt × Records) := do
  let ctx := m.context
  Noted.log .debug
    (ctx.text ++ " TELEMETRY_RECEIVED topic=" ++ m.topic ++ " transport=" ++ m.transport.name)
  let (outcome, r) ← a.run now ctx m.topic payload r
  report ctx m outcome
  return (outcome, r)

end Admission

end DeviceGate
