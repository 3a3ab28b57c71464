import DeviceGate.Json.Canonical
import DeviceGate.Log

/-!
Audit events: what was decided, about whom, and with which details.

* `AuditEvent`: kind, severity, description, actor and details, the details sorted by key.
* `AuditEvent.of`: an event without details, at severity `info`, by the system.
* `AuditEvent.by`, `at`, `detail`: its actor, severity and one detail more.
* `AuditEvent.logLine`: the event as a line of the log.
-/

namespace DeviceGate

/-- What an audit event records. -/
inductive AuditKind where
  | authSuccess
  | authFailed
  | deviceAuthSuccess
  | deviceAuthFailed
  | aclDenied
  | telemetryRejected
  | integrityViolation
  | dataGapDetected
  | certificateReused
  | certificateAcquiredNew
  | batchCompleted
  | batchFailed
  | purgePermissionGranted
  | purgePermissionDenied
  | deviceSecretEnrolled
  | deviceTimeout
  deriving DecidableEq

namespace AuditKind

/-- The name of a kind. -/
def name : AuditKind → String
  | authSuccess => "AUTH_SUCCESS"
  | authFailed => "AUTH_FAILED"
  | deviceAuthSuccess => "DEVICE_AUTH_SUCCESS"
  | deviceAuthFailed => "DEVICE_AUTH_FAILED"
  | aclDenied => "ACL_DENIED"
  | telemetryRejected => "TELEMETRY_REJECTED"
  | integrityViolation => "INTEGRITY_VIOLATION"
  | dataGapDetected => "DATA_GAP_DETECTED"
  | certificateReused => "CERTIFICATE_REUSED"
  | certificateAcquiredNew => "CERTIFICATE_ACQUIRED_NEW"
  | batchCompleted => "BATCH_COMPLETED"
  | batchFailed => "BATCH_FAILED"
  | purgePermissionGranted => "PURGE_PERMISSION_GRANTED"
  | purgePermissionDenied => "PURGE_PERMISSION_DENIED"
  | deviceSecretEnrolled => "DEVICE_SECRET_ENROLLED"
  | deviceTimeout => "DEVICE_TIMEOUT"

/-- Every kind, in the order of the declaration. -/
def all : List AuditKind :=
  [authSuccess, authFailed, deviceAuthSuccess, deviceAuthFailed, aclDenied, telemetryRejected,
   integrityViolation, dataGapDetected, certificateReused, certificateAcquiredNew, batchCompleted,
   batchFailed, purgePermissionGranted, purgePermissionDenied, deviceSecretEnrolled, deviceTimeout]

/-- The kind of a name. -/
def ofName? (s : String) : Option AuditKind :=
  all.find? fun k => k.name = s

theorem ofName?_name (k : AuditKind) : ofName? k.name = some k := by
  cases k <;> decide

end AuditKind

/-- How grave an event is. -/
inductive Severity where
  | info
  | warning
  | critical
  deriving DecidableEq

namespace Severity

/-- The name of a severity. -/
def name : Severity → String
  | info => "info"
  | warning => "warning"
  | critical => "critical"

/-- The severity of a name. -/
def ofName? : String → Option Severity
  | "info" => some info
  | "warning" => some warning
  | "critical" => some critical
  | _ => none

/-- The place of a severity in the order from `info` to `critical`. -/
def rank : Severity → Nat
  | info => 0
  | warning => 1
  | critical => 2

instance : Ord Severity where
  compare a b := compare a.rank b.rank

end Severity

/-- One audit event. -/
structure AuditEvent where
  kind : AuditKind
  severity : Severity
  description : String
  actor : String
  details : List (String × String)
  deriving DecidableEq

namespace AuditEvent

/-- Who acts when nobody is named. -/
def systemActor : String := "system"

/-- An event of that kind by the system. -/
def of (kind : AuditKind) (description : String) : AuditEvent where
  kind := kind
  severity := .info
  description := description
  actor := systemActor
  details := []

/-- The event with that actor; without a name, or with an empty one, the system acts. -/
def byActor (e : AuditEvent) (actor : Option String) : AuditEvent :=
  { e with actor := match actor with
      | some a => if a.isEmpty then systemActor else a
      | none => systemActor }

/-- The event with that severity. -/
def graded (e : AuditEvent) (severity : Severity) : AuditEvent :=
  { e with severity := severity }

/-- Puts a detail in its place by key order; an earlier value of the key is lost. -/
def putDetail (key value : String) : List (String × String) → List (String × String)
  | [] => [(key, value)]
  | (k, v) :: rest =>
    if key < k then (key, value) :: (k, v) :: rest
    else if key = k then (key, value) :: rest
    else (k, v) :: putDetail key value rest

/-- The event with one detail more. -/
def detail (e : AuditEvent) (key value : String) : AuditEvent :=
  { e with details := putDetail key value e.details }

/-- The details as a JSON object. -/
def detailsJson (e : AuditEvent) : Json :=
  .object (e.details.map fun d => (d.1, .text d.2))

/-- The event as a line of the log, whose level follows the severity; the severity is named unless
it is `info`. -/
def logLine (e : AuditEvent) : LogLine :=
  let severity := if e.severity = .info then "" else " severity=" ++ e.severity.name
  { level := match e.severity with
      | .info => .info
      | .warning => .warn
      | .critical => .error
    message := "AUDIT_EVENT type=" ++ e.kind.name ++ severity ++ " actor=" ++ e.actor ++
      " description=" ++ Text.quoted e.description ++ " details=" ++ e.detailsJson.canonicalText }

end AuditEvent

end DeviceGate
