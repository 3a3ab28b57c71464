import DeviceGate.Audit.Journal
import DeviceGate.Batch.Progress
import DeviceGate.Store.Basic
import DeviceGate.Text.Blank
import DeviceGate.Text.Hex

/-!
The ledger of bulk ingestions.  Items are counted one by one; a batch is completed by the one
conditional update that changes its row, and only then reported as completed.  A device may delete
its source data once its batch is completed.

* `Store.openBatch`, `markProcessed`, `batchProgress`, `mayPurge`, `failBatch`: the calls.
* `LedgerError`: why a call fails.
-/

namespace DeviceGate

/-- Why a call of the ledger fails. -/
inductive LedgerError where
  | notFound (batchId : String)
  | invalid (what : String)
  | store (e : StoreError)
  deriving DecidableEq

namespace LedgerError

/-- The wording of a failure. -/
def message : LedgerError → String
  | notFound batchId => "batch not found: " ++ batchId
  | invalid what => "invalid batch request: " ++ what
  | store e => e.message

/-- A failed count, where a missing row means a missing batch. -/
def ofCount (batchId : String) : StoreError → LedgerError
  | .notFound _ => notFound batchId
  | e => store e

end LedgerError

namespace Batch

/-- Random bytes as those of a unique id, which tells its version and its variant. -/
def stamped (randomBytes : List UInt8) : List UInt8 :=
  (randomBytes.modify 6 fun b => b &&& 0x0f ||| 0x40).modify 8 fun b => b &&& 0x3f ||| 0x80

/-- The id of a batch made from random bytes. -/
def idText (randomBytes : List UInt8) : String :=
  "batch-" ++ String.ofList (Text.Hex.encode (stamped randomBytes))

/-- The event of a completed batch. -/
def completedEvent (row : BatchRow) (id : String) : AuditEvent :=
  AuditEvent.of .batchCompleted "Bulk ingestion batch completed"
    |>.byActor (some row.deviceId)
    |>.detail "batch_id" id |>.detail "total_count" (toString row.total)

/-- The event of a failed batch. -/
def failedEvent (row : BatchRow) (id reason : String) : AuditEvent :=
  AuditEvent.of .batchFailed "Bulk ingestion batch failed"
    |>.byActor (some row.deviceId) |>.graded .warning
    |>.detail "batch_id" id |>.detail "reason" reason
    |>.detail "processed_count" (toString row.processed)

/-- The event of a purge question. -/
def purgeEvent (row : BatchRow) (id : String) (granted : Bool) : AuditEvent :=
  let event :=
    if granted then AuditEvent.of .purgePermissionGranted "Source data purge permitted"
    else (AuditEvent.of .purgePermissionDenied "Source data purge refused").graded .warning
  event.byActor (some row.deviceId)
    |>.detail "batch_id" id |>.detail "status" row.status.name
    |>.detail "processed_count" (toString row.processed)
    |>.detail "total_count" (toString row.total)

/-- The source data of a batch may be deleted. -/
def isPurgeable (row : BatchRow) : Bool :=
  row.status = .completed && row.total ≤ row.processed

end Batch

namespace Store

/-- The row of a batch, which must exist. -/
def fetchBatch (s : Store) (id : String) : Except LedgerError BatchRow :=
  match s.getBatch id with
  | .error e => .error (.store e)
  | .ok none => .error (.notFound id)
  | .ok (some row) => .ok row

/-- Opens a batch and gives its id, which the random bytes decide. -/
def openBatch (s : Store) (ctx : LogContext) (now : Timestamp) (randomBytes : List UInt8)
    (deviceId : String) (total : Nat) : Noted (Except LedgerError String × Store) := do
  if Text.isBlankText deviceId then return (.error (.invalid "device_id is required"), s)
  else if total = 0 then return (.error (.invalid "total_count must be positive"), s)
  else
    let id := Batch.idText randomBytes
    let row : BatchRow :=
      { batchId := id, deviceId := deviceId, total := total, processed := 0
        status := .processing, createdAt := now, completedAt := none }
    match s.insertBatch row with
    | .error e => return (.error (.store e), s)
    | .ok s =>
      Noted.log .info
        (ctx.text ++ " BATCH_OPENED batch=" ++ id ++ " device=" ++ deviceId ++ " total=" ++
          toString total)
      return (.ok id, s)

/-- Reports a completion, which only the update that changed the row may do. -/
def reportCompletion (ctx : LogContext) (row : BatchRow) (id : String) : Noted Unit := do
  Noted.log .info
    (ctx.text ++ " BATCH_COMPLETED batch=" ++ id ++ " processed=" ++ toString row.processed ++
      " total=" ++ toString row.total)
  Noted.emit (Batch.completedEvent row id)

/-- Completes a batch whose items are all counted, and reports it if this is what did it. -/
def completeBatch (s : Store) (ctx : LogContext) (now : Timestamp) (row : BatchRow) (id : String) :
    Noted (Except LedgerError BatchProgress × Store) := do
  match s.markCompleted id now with
  | .error e => return (.error (.store e), s)
  | .ok (changed, s) =>
    if changed then reportCompletion ctx row id
    return ((s.fetchBatch id).map BatchProgress.of, s)

/-- Counts one processed item. -/
def markProcessed (s : Store) (ctx : LogContext) (now : Timestamp) (id : String) :
    Noted (Except LedgerError BatchProgress × Store) := do
  match s.incrementProcessed id with
  | .error e => return (.error (.ofCount id e), s)
  | .ok s =>
    match s.fetchBatch id with
    | .error e => return (.error e, s)
    | .ok row =>
      if row.processed < row.total ∨ row.status.isTerminal then return (.ok (.of row), s)
      else s.completeBatch ctx now row id

/-- The progress of a batch. -/
def batchProgress (s : Store) (id : String) : Except LedgerError BatchProgress :=
  (s.fetchBatch id).map BatchProgress.of

/-- Whether the device may delete its source data. -/
def mayPurge (s : Store) (ctx : LogContext) (id : String) : Noted (Except LedgerError Bool) := do
  match s.fetchBatch id with
  | .error e => return .error e
  | .ok row =>
    let granted := Batch.isPurgeable row
    if granted then Noted.log .info (ctx.text ++ " PURGE_GRANTED batch=" ++ id)
    else
      Noted.log .warn
        (ctx.text ++ " PURGE_DENIED batch=" ++ id ++ " status=" ++ row.status.name ++
          " processed=" ++ toString row.processed ++ " total=" ++ toString row.total)
    Noted.emit (Batch.purgeEvent row id granted)
    return .ok granted

/-- Fails a batch, unless it is terminal, and tells whether it did. -/
def failBatch (s : Store) (ctx : LogContext) (now : Timestamp) (id reason : String) :
    Noted (Except LedgerError Bool × Store) := do
  match s.fetchBatch id with
  | .error e => return (.error e, s)
  | .ok row =>
    match s.markFailed id now with
    | .error e => return (.error (.store e), s)
    | .ok (changed, s) =>
      if changed then
        Noted.log .warn
          (ctx.text ++ " BATCH_FAILED batch=" ++ id ++ " reason=" ++ Text.quoted reason)
        Noted.emit (Batch.failedEvent row id reason)
      else
        Noted.log .info
          (ctx.text ++ " BATCH_FAIL_IGNORED batch=" ++ id ++ " status=" ++ row.status.name)
      return (.ok changed, s)

end Store

end DeviceGate
