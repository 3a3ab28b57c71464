import DeviceGate.Time.Timestamp
import DeviceGate.Number.Binary64

/-!
The records that decisions rest on: devices and what is wired to them, the people and organizations
that may use them, and the telemetry and batch rows that the gate itself writes.

* `Device`, `DeviceStatus`: a device and its lifecycle.
* `ComponentType`, `Attachment`: the catalog of components and their wiring.
* `User`, `Membership`, `Relationship`, `OwnershipRole`: who holds which device, and how.
* `Snapshot`, `TelemetryRow`: what an accepted message leaves behind.
* `BatchRow`, `BatchStatus`: the progress of a bulk ingestion.
-/

namespace DeviceGate

/-- The lifecycle of a device. -/
inductive DeviceStatus where
  | pending
  | provisioned
  | online
  | offline
  | timeout
  | recoveryNeeded
  | safetyLocked
  | blocked
  deriving DecidableEq

namespace DeviceStatus

/-- The name of a status. -/
def name : DeviceStatus → String
  | pending => "PENDING"
  | provisioned => "PROVISIONED"
  | online => "ONLINE"
  | offline => "OFFLINE"
  | timeout => "TIMEOUT"
  | recoveryNeeded => "RECOVERY_NEEDED"
  | safetyLocked => "SAFETY_LOCKED"
  | blocked => "BLOCKED"

/-- Every status. -/
def all : List DeviceStatus :=
  [pending, provisioned, online, offline, timeout, recoveryNeeded, safetyLocked, blocked]

/-- The status of a name. -/
def ofName? (s : String) : Option DeviceStatus :=
  all.find? fun k => k.name = s

theorem ofName?_name (k : DeviceStatus) : ofName? k.name = some k := by
  cases k <;> decide

end DeviceStatus

/-- A registered device. -/
structure Device where
  id : Int
  /-- The identifier that topics and connections use. -/
  uuid : String
  cpuSerial : Option String
  /-- The key of its signatures, once enrolled. -/
  hmacSecret : Option String
  status : DeviceStatus
  lastSeenAt : Option Timestamp
  deriving DecidableEq

/-- The text, unless it is missing or empty. -/
def nonempty? (s : Option String) : Option String :=
  s.filter fun t => !t.isEmpty

theorem nonempty?_eq_some_iff {s : Option String} {t : String} :
    nonempty? s = some t ↔ s = some t ∧ t ≠ "" := by
  simp [nonempty?, Option.filter_eq_some_iff]

theorem nonempty?_eq_none_iff {s : Option String} :
    nonempty? s = none ↔ s = none ∨ s = some "" := by
  cases s <;> simp [nonempty?, Option.filter_eq_none_iff]

/-- A supported kind of component. -/
structure ComponentType where
  id : Int
  name : String
  deriving DecidableEq

/-- A component wired to a device under an instance name. -/
structure Attachment where
  deviceId : Int
  componentTypeId : Int
  instanceName : String
  deriving DecidableEq

/-- A known user. -/
structure User where
  id : Int
  username : String
  deriving DecidableEq

/-- A user's membership in an organization. -/
structure Membership where
  organizationId : Int
  userId : Int
  active : Bool
  deriving DecidableEq

/-- What a holder may do with a device. -/
inductive OwnershipRole where
  | owner
  | operator
  | viewer
  deriving DecidableEq

namespace OwnershipRole

/-- The name of a role. -/
def name : OwnershipRole → String
  | owner => "OWNER"
  | operator => "OPERATOR"
  | viewer => "VIEWER"

/-- The role of a name. -/
def ofName? (s : String) : Option OwnershipRole :=
  [owner, operator, viewer].find? fun r => r.name = s

end OwnershipRole

/-- A link between a device and the user or the organization that holds it. -/
structure Relationship where
  deviceId : Int
  organizationId : Option Int
  userId : Option Int
  role : OwnershipRole
  active : Bool
  deriving DecidableEq

/-- The group of readings of one capture; its key is unique within a device. -/
structure Snapshot where
  id : Int
  deviceId : Int
  key : String
  capturedAt : Timestamp
  deriving DecidableEq

/-- One reading with its statistics. -/
structure Reading where
  metric : String
  unit : Option String
  value : Binary64
  avg : Binary64
  min : Binary64
  max : Binary64
  stddev : Binary64
  slope : Binary64
  sampleCount : Int
  deriving DecidableEq

/-- A stored reading. -/
structure TelemetryRow where
  snapshotId : Int
  deviceId : Int
  instanceName : String
  reading : Reading
  deriving DecidableEq

/-- The lifecycle of a bulk ingestion. -/
inductive BatchStatus where
  | pending
  | processing
  | completed
  | failed
  deriving DecidableEq

namespace BatchStatus

/-- The name of a status. -/
def name : BatchStatus → String
  | pending => "PENDING"
  | processing => "PROCESSING"
  | completed => "COMPLETED"
  | failed => "FAILED"

/-- The status of a name. -/
def ofName? (s : String) : Option BatchStatus :=
  [pending, processing, completed, failed].find? fun k => k.name = s

/-- No later update changes the status. -/
def isTerminal : BatchStatus → Bool
  | completed | failed => true
  | pending | processing => false

end BatchStatus

/-- The progress of a bulk ingestion. -/
structure BatchRow where
  batchId : String
  deviceId : String
  total : Nat
  processed : Nat
  status : BatchStatus
  createdAt : Timestamp
  completedAt : Option Timestamp
  deriving DecidableEq

end DeviceGate
