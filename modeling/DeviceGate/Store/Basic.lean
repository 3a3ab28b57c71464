import DeviceGate.Fleet.Records
import DeviceGate.Json.Basic
import DeviceGate.Store.Error

/-!
The record store: its tables and the calls that read and change them one at a time.  Each call first
checks whether it is down.

* `Tables`: what is stored; devices stand in the order of their ids, everything else in the order of
  its arrival.
* `Store`: the tables, the last snapshot id drawn, what is switched off, and whether a count
  overran.
* `Store.findDevice`, …: the calls, each an answer or a `StoreError`, with the new store where they
  change anything.
-/

namespace DeviceGate

/-- What is stored. -/
structure Tables where
  devices : List Device := []
  componentTypes : List ComponentType := []
  attachments : List Attachment := []
  users : List User := []
  memberships : List Membership := []
  relationships : List Relationship := []
  snapshots : List Snapshot := []
  readings : List TelemetryRow := []
  batches : List BatchRow := []
  images : List (String × Json) := []

/-- The record store. -/
structure Store where
  tables : Tables := {}
  /-- The last id drawn for a snapshot. -/
  lastSnapshotId : Int := 0
  /-- Whether a transaction that has buffered so many readings is refused the next one. -/
  refusesReading : Nat → Bool := fun _ => false
  faults : Faults := .none
  /-- Whether a batch was counted on beyond 64 bits; what an overrun store holds means nothing any
  more. -/
  overrun : Bool := false

namespace Tables

/-- Puts a device in its place by id; an earlier device of that id is lost. -/
def putDevice (d : Device) : List Device → List Device
  | [] => [d]
  | x :: rest =>
    if d.id < x.id then d :: x :: rest
    else if d.id = x.id then d :: rest
    else x :: putDevice d rest

/-- The device of an id. -/
def device? (t : Tables) (id : Int) : Option Device :=
  t.devices.find? fun d => d.id = id

/-- The devices with a change to the one of that id. -/
def updateDevice (id : Int) (f : Device → Device) (devices : List Device) : List Device :=
  devices.map fun d => if d.id = id then f d else d

/-- The batch of an id. -/
def batch? (t : Tables) (id : String) : Option BatchRow :=
  t.batches.find? fun b => b.batchId = id

/-- The batches with a change to the one of that id. -/
def updateBatch (id : String) (f : BatchRow → BatchRow) (batches : List BatchRow) : List BatchRow :=
  batches.map fun b => if b.batchId = id then f b else b

/-- The snapshot of a device and a key. -/
def snapshot? (t : Tables) (deviceId : Int) (key : String) : Option Snapshot :=
  t.snapshots.find? fun s => s.deviceId = deviceId ∧ s.key = key

/-- The tables with one device more. -/
def addDevice (t : Tables) (d : Device) : Tables :=
  { t with devices := putDevice d t.devices }

/-- The tables with one component type more; one of the same name is replaced. -/
def addComponentType (t : Tables) (c : ComponentType) : Tables :=
  { t with componentTypes := (t.componentTypes.filter fun x => x.name ≠ c.name) ++ [c] }

/-- The tables with one attachment more. -/
def attach (t : Tables) (a : Attachment) : Tables :=
  { t with attachments := t.attachments ++ [a] }

/-- The tables with one user more; one of the same name is replaced. -/
def addUser (t : Tables) (u : User) : Tables :=
  { t with users := (t.users.filter fun x => x.username ≠ u.username) ++ [u] }

/-- The tables with one membership more. -/
def addMembership (t : Tables) (m : Membership) : Tables :=
  { t with memberships := t.memberships ++ [m] }

/-- The tables with one relationship more. -/
def addRelationship (t : Tables) (r : Relationship) : Tables :=
  { t with relationships := t.relationships ++ [r] }

end Tables

namespace Store

/-- What a call says about a device that is not there. -/
def missingDevice (id : Int) : StoreError :=
  .notFound ("device " ++ toString id)

/-- What a call says about a batch that is not there. -/
def missingBatch (id : String) : StoreError :=
  .notFound ("batch " ++ id)

/-! ### Devices -/

/-- The device of a uuid. -/
def findDevice (s : Store) (uuid : String) : Except StoreError (Option Device) := do
  s.faults.check .findDevice
  return s.tables.devices.find? fun d => d.uuid = uuid

/-- A change to the device of an id, which must exist. -/
def changeDevice (s : Store) (id : Int) (f : Device → Device) : Except StoreError Store :=
  match s.tables.device? id with
  | none => .error (missingDevice id)
  | some _ =>
    .ok { s with tables := { s.tables with devices := Tables.updateDevice id f s.tables.devices } }

/-- Gives a device its secret. -/
def setSecret (s : Store) (id : Int) (secret : String) : Except StoreError Store := do
  s.faults.check .setSecret
  s.changeDevice id fun d => { d with hmacSecret := some secret }

/-- Gives a device its status. -/
def updateStatus (s : Store) (id : Int) (status : DeviceStatus) : Except StoreError Store := do
  s.faults.check .updateStatus
  s.changeDevice id fun d => { d with status := status }

/-- The devices of a status, by id. -/
def devicesWithStatus (s : Store) (status : DeviceStatus) : Except StoreError (List Device) := do
  s.faults.check .devicesWithStatus
  return s.tables.devices.filter fun d => d.status = status

/-- Whether a component is wired to the device under that instance name. -/
def isAttached (s : Store) (deviceId componentTypeId : Int) (instanceName : String) :
    Except StoreError Bool := do
  s.faults.check .isAttached
  return s.tables.attachments.any fun a =>
    a.deviceId = deviceId ∧ a.componentTypeId = componentTypeId ∧ a.instanceName = instanceName

/-- The component type of a name. -/
def findComponentType (s : Store) (name : String) : Except StoreError (Option ComponentType) := do
  s.faults.check .findComponentType
  return s.tables.componentTypes.find? fun c => c.name = name

/-! ### Accounts -/

/-- The user of a name. -/
def findUser (s : Store) (username : String) : Except StoreError (Option User) := do
  s.faults.check .findUser
  return s.tables.users.find? fun u => u.username = username

/-- The memberships of a user. -/
def memberships (s : Store) (userId : Int) : Except StoreError (List Membership) := do
  s.faults.check .memberships
  return s.tables.memberships.filter fun m => m.userId = userId

/-- The relationships of a device. -/
def deviceRelationships (s : Store) (deviceId : Int) : Except StoreError (List Relationship) := do
  s.faults.check .deviceRelationships
  return s.tables.relationships.filter fun r => r.deviceId = deviceId

/-! ### Batches -/

/-- A change to the batch of an id, which must exist. -/
def changeBatch (s : Store) (id : String) (f : BatchRow → BatchRow) : Store :=
  { s with tables := { s.tables with batches := Tables.updateBatch id f s.tables.batches } }

/-- Stores a new batch. -/
def insertBatch (s : Store) (row : BatchRow) : Except StoreError Store := do
  s.faults.check .insertBatch
  match s.tables.batch? row.batchId with
  | some _ => throw (.violated ("duplicate batch " ++ row.batchId))
  | none => return { s with tables := { s.tables with batches := s.tables.batches ++ [row] } }

/-- The greatest number of items that a batch counts. -/
def greatestCount : Nat := 18446744073709551615

/-- Counts one item more. -/
def incrementProcessed (s : Store) (id : String) : Except StoreError Store := do
  s.faults.check .incrementProcessed
  match s.tables.batch? id with
  | none => throw (missingBatch id)
  | some row =>
    let s := { s with overrun := s.overrun || greatestCount ≤ row.processed }
    return s.changeBatch id fun b => { b with processed := b.processed + 1 }

/-- The batch of an id. -/
def getBatch (s : Store) (id : String) : Except StoreError (Option BatchRow) := do
  s.faults.check .getBatch
  return s.tables.batch? id

/-- Completes a batch whose items are all counted, unless it is terminal, and tells whether it did.
-/
def markCompleted (s : Store) (id : String) (now : Timestamp) :
    Except StoreError (Bool × Store) := do
  s.faults.check .markCompleted
  match s.tables.batch? id with
  | none => throw (missingBatch id)
  | some b =>
    if b.status.isTerminal ∨ b.processed < b.total then return (false, s)
    else
      return (true, s.changeBatch id fun b =>
        { b with status := .completed, completedAt := some now })

/-- Fails a batch, unless it is terminal, and tells whether it did. -/
def markFailed (s : Store) (id : String) (now : Timestamp) : Except StoreError (Bool × Store) := do
  s.faults.check .markFailed
  match s.tables.batch? id with
  | none => throw (missingBatch id)
  | some b =>
    if b.status.isTerminal then return (false, s)
    else
      return (true, s.changeBatch id fun b =>
        { b with status := .failed, completedAt := some now })

/-! ### Images -/

/-- Hands on an image message. -/
def ingestImage (s : Store) (topic : String) (payload : Json) : Except StoreError Store := do
  s.faults.check .ingestImage
  return { s with tables := { s.tables with images := s.tables.images ++ [(topic, payload)] } }

end Store

end DeviceGate
