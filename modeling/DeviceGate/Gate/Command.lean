import DeviceGate.Fleet.Seed
import DeviceGate.Http.Handler

/-!
What the gate can be told, and what it answers.

* `GateCommand`: questions of the broker, messages, batches, requests over HTTP, and the direct
  calls of the record store, the cache and the audit trail.
* `GateAnswer`: the answers.
-/

namespace DeviceGate

/-- A device: the stored one of an id, or a record that the caller holds. -/
inductive DeviceChoice where
  | stored (id : Int)
  | held (d : Device)

/-- A command. -/
inductive GateCommand where
  | authenticate (c : Credentials)
  | checkDevice (device : Option DeviceChoice) (clientId : String)
  | authorize (r : AccessRequest)
  | accept (m : Message) (payload : Json)
  | reconcile (device : DeviceChoice) (instanceName : String) (sequence : Nat)
  | lastSeen (deviceId : Int) (instanceName : String)
  | cacheSet (key value : String) (ttl : Nat)
  | cacheGet (key : String)
  | cacheUnavailable (on : Bool)
  /-- From how many buffered readings on a transaction is refused the next one, if ever. -/
  | refuseReadings (limit : Option Nat)
  | sinkFailing (on : Bool)
  | fault (call : StoreCall) (down : Bool)
  | seed (s : Seed)
  | findDevice (uuid : String)
  | setStatus (deviceId : Int) (status : DeviceStatus)
  | setSecret (deviceId : Int) (secret : String)
  | devicesWithStatus (status : DeviceStatus)
  | enroll (device : DeviceChoice)
  | sweep (now : Timestamp) (timeout : Option Nat)
  | startSweeps (signal : Bool)
  | advance (seconds : Nat)
  | signal (value : Bool)
  | dropSignal
  | openBatch (deviceId : String) (total : Nat)
  | markBatch (id : String) (times : Nat)
  | batchProgress (id : String)
  | mayPurge (id : String)
  | failBatch (id reason : String)
  | insertBatch (row : BatchRow)
  | incrementBatch (id : String)
  | completeBatch (id : String) (now : Timestamp)
  | markBatchFailed (id : String) (now : Timestamp)
  | getBatch (id : String)
  | beginTransaction (name : String)
  | snapshotFor (name : String) (deviceId : Int) (key : String) (capturedAt : Timestamp)
  | insertReading (name : String) (row : TelemetryRow)
  | touchDevice (name : String) (deviceId : Int) (seenAt : Timestamp)
  | commit (name : String)
  | rollback (name : String)
  | emit (e : AuditEvent)
  | countEvents (kind : AuditKind)
  | http (r : HttpRequest)

/-- The answer to a command. -/
inductive GateAnswer where
  | done
  | decision (d : Decision)
  | checkedDevice (uuid : Option String)
  | receipt (r : AdmissionReceipt)
  | rejected (r : AdmissionRejection)
  | gap (g : Option SequenceGap)
  | lastSeen (n : Option Nat)
  | cached (value : Option String)
  | seeded (isEmpty : Bool)
  | foundDevice (id : Option Int)
  | deviceIds (ids : List Int)
  | secret (s : String) (fresh : Bool)
  | timedOut (count : Nat)
  /-- Whether the loop has ended, if there is one. -/
  | loop (finished : Option Bool)
  | opened (batchId : String)
  | progress (p : Option BatchProgress)
  | purge (granted : Bool)
  | failed (changed : Bool)
  | changed (changed : Bool)
  | batch (row : Option BatchRow)
  | snapshot (s : Snapshot)
  | count (n : Nat)
  | reply (r : Reply)
  | storeFailed (e : StoreError)
  | cacheFailed (e : CacheError)
  | ledgerFailed (e : LedgerError)
  /-- The command names something that is not there. -/
  | unknown

end DeviceGate
