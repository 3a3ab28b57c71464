import DeviceGate.Store.Basic

/-!
Telemetry transactions.  A transaction buffers what it writes; only `commit` changes the store,
after its one check, so whatever fails before leaves the tables as they were.  Drawing an id for a
new snapshot is the exception: the number is used up.

* `Transaction`: the buffer.
* `Store.begin`, `snapshotFor`, `insertReading`, `touchDevice`, `commit`, `rollback`: the calls.
-/

namespace DeviceGate

/-- What a transaction has buffered. -/
structure Transaction where
  newSnapshot : Option Snapshot := none
  rows : List TelemetryRow := []
  touched : Option (Int × Timestamp) := none

namespace Store

/-- Opens a transaction. -/
def beginTransaction (s : Store) : Except StoreError Transaction := do
  s.faults.check .beginTransaction
  return {}

/-- The snapshot of a device and a key: the stored one, the one that this transaction is about to
create, or a new one with a fresh id. -/
def snapshotFor (s : Store) (tx : Transaction) (deviceId : Int) (key : String)
    (capturedAt : Timestamp) : Except StoreError (Snapshot × Transaction × Store) := do
  s.faults.check .getOrCreateSnapshot
  match s.tables.snapshot? deviceId key with
  | some snapshot => return (snapshot, tx, s)
  | none =>
    match tx.newSnapshot.filter fun n => n.deviceId = deviceId ∧ n.key = key with
    | some snapshot => return (snapshot, tx, s)
    | none =>
      let id := s.lastSnapshotId + 1
      let snapshot : Snapshot :=
        { id := id, deviceId := deviceId, key := key, capturedAt := capturedAt }
      return (snapshot, { tx with newSnapshot := some snapshot }, { s with lastSnapshotId := id })

/-- Buffers a reading. -/
def insertReading (s : Store) (tx : Transaction) (row : TelemetryRow) :
    Except StoreError Transaction := do
  s.faults.check .insertReading
  if s.refusesReading tx.rows.length then throw (.unavailable "insert rejected")
  return { tx with rows := tx.rows ++ [row] }

/-- Buffers the moment at which a device was seen. -/
def touchDevice (s : Store) (tx : Transaction) (deviceId : Int) (seenAt : Timestamp) :
    Except StoreError Transaction := do
  s.faults.check .touchDevice
  return { tx with touched := some (deviceId, seenAt) }

/-- The tables with the new snapshot, and the rows to store: when another transaction has created
the snapshot meanwhile, that one stays and the rows move to it. -/
def placeSnapshot (t : Tables) (tx : Transaction) : Tables × List TelemetryRow :=
  match tx.newSnapshot with
  | none => (t, tx.rows)
  | some n =>
    match t.snapshot? n.deviceId n.key with
    | none => ({ t with snapshots := t.snapshots ++ [n] }, tx.rows)
    | some winner =>
      (t, tx.rows.map fun r =>
        if r.snapshotId = n.id then { r with snapshotId := winner.id } else r)

/-- Applies a transaction, which is over in either case. -/
def commit (s : Store) (tx : Transaction) : Except StoreError Store := do
  s.faults.check .commit
  match tx.touched with
  | some (id, _) => if (s.tables.device? id).isNone then throw (missingDevice id)
  | none => pure ()
  let (t, rows) := placeSnapshot s.tables tx
  let devices := match tx.touched with
    | some (id, seenAt) =>
      Tables.updateDevice id (fun d => { d with lastSeenAt := some seenAt }) t.devices
    | none => t.devices
  return { s with tables := { t with readings := t.readings ++ rows, devices := devices } }

/-- Gives a transaction up, which is over in either case. -/
def rollback (s : Store) (_tx : Transaction) : Except StoreError Unit :=
  s.faults.check .rollback

end Store

end DeviceGate
