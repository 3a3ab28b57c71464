import DeviceGate.Access.Authentication
import DeviceGate.Access.Authorization
import DeviceGate.Batch.Ledger
import DeviceGate.Digest.Sha256
import DeviceGate.Telemetry.Admission

/-!
What the calls of the gate share: the configuration, the records, the wall clock, and a source of
random bytes.

* `Entropy`, `Host`: what the gate is given by the host it runs on.
* `GateConfig`: the configuration; `GateState`: the rest.
* `Gate.readClock`, `Gate.drawBytes`: the two sources that are not computed from the records.
* `Gate.withStore`: a call that only needs the record store.
-/

namespace DeviceGate

/-- A generator of random bytes that hashes the seed with the number of the draw and of the
block. -/
def Entropy.hashed (seed : List UInt8) (draw index : Nat) : UInt8 :=
  let counters := toString draw ++ ":" ++ toString (index / 32)
  (Digest.Sha256.digest (seed ++ counters.toUTF8.toList)).getD (index % 32) 0

/-- A source of random bytes.  Its generator gives, for a seed, the bytes of each draw, and may be
any; hashing is what a source does that is not told otherwise. -/
structure Entropy where
  seed : List UInt8
  generator : List UInt8 → Nat → Nat → UInt8 := Entropy.hashed
  drawn : Nat := 0

/-- So many bytes, and the source behind them. -/
def Entropy.draw (e : Entropy) (count : Nat) : List UInt8 × Entropy :=
  ((List.range count).map (e.generator e.seed e.drawn), { e with drawn := e.drawn + 1 })

/-- What the gate is given by the host it runs on. -/
structure Host extends Entropy where
  /-- The seconds that the host's clock shows when the gate begins. -/
  uptime : Nat := 100000
  /-- What the record store says of a call that is down. -/
  storeSays : StoreCall → String := Faults.none.why

/-- What is configured. -/
structure GateConfig where
  policy : AccessPolicy
  admission : Admission
  /-- What publishing over HTTP requires, if anything. -/
  publishSecret : Option String
  /-- What the reader of JSON says of a text that it cannot read. -/
  complaint : String → String := fun _ => "not a JSON text"
  /-- The seconds after which a silent device is timed out. -/
  deviceTimeout : Nat
  /-- The seconds between two sweeps. -/
  sweepInterval : Nat

/-- What calls read and change. -/
structure GateState where
  records : Records
  clock : Timestamp
  entropy : Entropy

namespace Gate

/-- The time that passes between two looks at the clock, in nanoseconds. -/
def tick : Nat := 1000

/-- The time, which moves on a little with every look at the clock. -/
def readClock : Act GateState Timestamp :=
  modifyGet fun s => (s.clock, { s with clock := s.clock.plusNanos tick })

/-- So many random bytes. -/
def drawBytes (count : Nat) : Act GateState (List UInt8) :=
  modifyGet fun s =>
    let (bytes, entropy) := s.entropy.draw count
    (bytes, { s with entropy := entropy })

/-- The record store. -/
def getStore : Act GateState Store := do
  return (← get).records.store

/-- Replaces the record store. -/
def setStore (store : Store) : Act GateState Unit :=
  modify fun s => { s with records := { s.records with store := store } }

/-- A call that reads and changes the record store. -/
def withStore {α : Type} (f : Store → Noted (α × Store)) : Act GateState α := do
  let (a, store) ← StateT.lift (f (← getStore))
  setStore store
  return a

/-- A call that only reads the record store. -/
def fromStore {α : Type} (f : Store → Noted α) : Act GateState α := do
  StateT.lift (f (← getStore))

/-- A change of the record store, which may fail and then changes nothing. -/
def tryStore {α : Type} (f : Store → Except StoreError (α × Store)) :
    Act GateState (Except StoreError α) :=
  withStore fun s =>
    match f s with
    | .ok (a, s) => pure (.ok a, s)
    | .error e => pure (.error e, s)

/-- Whether a connection may proceed. -/
def authenticate (ctx : LogContext) (c : Credentials) : Act GateState Decision :=
  fromStore fun s => s.authenticate ctx c

/-- Whether a caller may use a topic. -/
def authorize (g : GateConfig) (ctx : LogContext) (r : AccessRequest) : Act GateState Decision :=
  fromStore fun s => g.policy.authorize s ctx r

/-- One telemetry message. -/
def accept (g : GateConfig) (m : Message) (payload : Json) :
    Act GateState (Except AdmissionRejection AdmissionReceipt) := do
  let now ← readClock
  let (outcome, records) ← StateT.lift (g.admission.process now m payload (← get).records)
  modify fun s => { s with records := records }
  return outcome

/-- Opens a batch. -/
def openBatch (ctx : LogContext) (deviceId : String) (total : Nat) :
    Act GateState (Except LedgerError String) := do
  let now ← readClock
  let randomBytes ← drawBytes 16
  withStore fun s => s.openBatch ctx now randomBytes deviceId total

/-- Counts one processed item. -/
def markProcessed (ctx : LogContext) (id : String) :
    Act GateState (Except LedgerError BatchProgress) := do
  let now ← readClock
  withStore fun s => s.markProcessed ctx now id

/-- Fails a batch. -/
def failBatch (ctx : LogContext) (id reason : String) :
    Act GateState (Except LedgerError Bool) := do
  let now ← readClock
  withStore fun s => s.failBatch ctx now id reason

/-- A device's secret, given to it if it has none. -/
def enrollSecret (ctx : LogContext) (d : Device) : Act GateState (Except StoreError String) := do
  let randomBytes ← drawBytes 32
  withStore fun s => s.enrollSecret ctx d randomBytes

end Gate

end DeviceGate
