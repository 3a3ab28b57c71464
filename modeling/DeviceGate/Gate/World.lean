import DeviceGate.Audit.Trail
import DeviceGate.Fleet.Sweep
import DeviceGate.Gate.Command
import DeviceGate.Schedule
import DeviceGate.Store.Transaction

/-!
The gate as one state machine: configuration, records, open transactions, the audit trail and the
sweep loop, driven by commands.

* `World`: the state; `World.start`: the state at the beginning, with the records of a seed.
* `World.perform`: one command; `World.performAll`: several, in order.
-/

namespace DeviceGate

/-- Everything the gate consists of. -/
structure World where
  config : GateConfig
  state : GateState
  trail : AuditTrail
  transactions : List (String × Transaction) := []
  loop : Option LoopPhase := none
  /-- The seconds that the loop's clock shows. -/
  elapsed : Nat := 0

/-- What a command leads to. -/
structure Outcome where
  answer : GateAnswer
  world : World
  lines : List LogLine

namespace World

/-- A call on the state, whose events go to the trail. -/
def run {α : Type} (w : World) (call : Act GateState α) : α × World × List LogLine :=
  let noted := call w.state
  let (a, state) := noted.value
  let (trail, lines) := w.trail.deliverAll noted.events
  (a, { w with state := state, trail := trail }, noted.lines ++ lines)

/-- A call on the state that gives the answer. -/
def answerWith (w : World) (call : Act GateState GateAnswer) : Outcome :=
  let (answer, w, lines) := w.run call
  { answer := answer, world := w, lines := lines }

/-- An answer that changes nothing and is not logged. -/
def quiet (w : World) (answer : GateAnswer) : Outcome where
  answer := answer
  world := w
  lines := []

/-- The record store. -/
def store (w : World) : Store := w.state.records.store

/-- Whether the records are overrun, after which no answer means anything. -/
def isOverrun (w : World) : Bool :=
  w.state.records.store.overrun || w.state.records.cache.overrun

/-- The world with another record store. -/
def withStore (w : World) (s : Store) : World :=
  { w with state := { w.state with records := { w.state.records with store := s } } }

/-- The world with another cache. -/
def withCache (w : World) (c : Cache) : World :=
  { w with state := { w.state with records := { w.state.records with cache := c } } }

/-- The context of direct calls. -/
def context : LogContext where
  request := "t"

/-- The device of a choice. -/
def choose (w : World) : DeviceChoice → Option Device
  | .stored id => w.store.tables.device? id
  | .held d => some d

/-- An answer that may be a failure of the record store. -/
def storeAnswer {α : Type} (answer : α → GateAnswer) : Except StoreError α → GateAnswer
  | .ok a => answer a
  | .error e => .storeFailed e

/-- An answer that may be a failure of the ledger. -/
def ledgerAnswer {α : Type} (answer : α → GateAnswer) : Except LedgerError α → GateAnswer
  | .ok a => answer a
  | .error (.store e) => .storeFailed e
  | .error e => .ledgerFailed e

/-- A question to the record store. -/
def askStore {α : Type} (w : World) (r : Except StoreError α) (answer : α → GateAnswer) : Outcome :=
  w.quiet (storeAnswer answer r)

/-- A change of the record store. -/
def changeStore {α : Type} (w : World) (r : Except StoreError (α × Store))
    (answer : α → GateAnswer) : Outcome :=
  match r with
  | .ok (a, s) => (w.withStore s).quiet (answer a)
  | .error e => w.quiet (.storeFailed e)

/-- A change of the record store that has no answer of its own. -/
def updateStore (w : World) (r : Except StoreError Store) : Outcome :=
  w.changeStore (r.map fun s => ((), s)) fun _ => .done

/-! ### Transactions -/

/-- The world with an open transaction. -/
def putTransaction (w : World) (name : String) (tx : Transaction) : World :=
  { w with transactions := (name, tx) :: w.transactions.filter fun t => t.1 ≠ name }

/-- The world without a transaction. -/
def dropTransaction (w : World) (name : String) : World :=
  { w with transactions := w.transactions.filter fun t => t.1 ≠ name }

/-- A step of an open transaction. -/
def withTransaction (w : World) (name : String) (step : Transaction → Outcome) : Outcome :=
  match w.transactions.lookup name with
  | some tx => step tx
  | none => w.quiet .unknown

/-- A write that a transaction buffers. -/
def buffer (w : World) (name : String) (r : Except StoreError Transaction) : Outcome :=
  match r with
  | .ok tx => (w.putTransaction name tx).quiet .done
  | .error e => w.quiet (.storeFailed e)

/-! ### The sweep loop -/

/-- One sweep of the loop, by the clock. -/
def sweepNow (timeout : Nat) : Act GateState Unit := do
  let now ← Gate.readClock
  match ← Gate.withStore fun s => s.sweep timeout now with
  | .ok _ => pure ()
  | .error e => Act.log .error ("SWEEP_FAILED error=" ++ e.message)

/-- One cycle of the loop, which ends with the delivery of its events. -/
def runCycle (s : World × List LogLine) : Nat × World × List LogLine :=
  let ((), w, lines) := s.1.run (sweepNow s.1.config.deviceTimeout)
  (w.config.sweepInterval, w, s.2 ++ lines)

/-- The line that a loop writes when it ends. -/
def stoppedLine : LogLine where
  level := .info
  message := "SWEEP_STOPPED"

/-- The line that a loop writes when it starts. -/
def startedLine (w : World) : LogLine where
  level := .info
  message :=
    "SWEEP_STARTED interval_secs=" ++ toString w.config.sweepInterval ++ " timeout_secs=" ++
      toString w.config.deviceTimeout

/-- Whether the loop has ended, if there is one. -/
def loopAnswer (w : World) : GateAnswer :=
  .loop (w.loop.map LoopPhase.isFinished)

/-- The loop with its phase changed, and the line of its end if this is what ended it. -/
def moveLoop (w : World) (move : LoopPhase → LoopPhase) : World × List LogLine :=
  match w.loop with
  | none => (w, [])
  | some phase =>
    let next := move phase
    ({ w with loop := some next }, if phase.leaves next then [stoppedLine] else [])

/-- Runs the sweeps that are due. -/
def runDue (w : World) : World × List LogLine :=
  match w.loop with
  | none => (w, [])
  | some phase =>
    let (phase, w, lines) := phase.advance runCycle w.elapsed (w, [])
    ({ w with loop := some phase }, lines)

/-- Starts the loop, whose signal may be set already; a loop that was there loses its sender. -/
def startLoop (w : World) (signal : Bool) : Outcome :=
  let (w, farewell) := w.moveLoop LoopPhase.released
  let w := { w with loop := some (.waitingFrom w.elapsed w.config.sweepInterval) }
  let (w, stopped) := w.moveLoop (LoopPhase.notified signal)
  let (w, lines) := w.runDue
  { answer := w.loopAnswer
    world := w
    lines := w.startedLine :: stopped ++ farewell ++ lines }

/-- Moves the loop's clock on. -/
def advance (w : World) (seconds : Nat) : Outcome :=
  let (w, lines) := { w with elapsed := Clock.wake w.elapsed seconds }.runDue
  { answer := w.loopAnswer, world := w, lines := lines }

/-- Sets the loop's signal. -/
def signal (w : World) (value : Bool) : Outcome :=
  let (w, lines) := w.moveLoop (LoopPhase.notified value)
  { answer := w.loopAnswer, world := w, lines := lines }

/-- Lets the sender of the loop's signal go, and then the loop. -/
def dropSignal (w : World) : Outcome :=
  let (w, lines) := w.moveLoop LoopPhase.released
  { answer := w.loopAnswer, world := { w with loop := none }, lines := lines }

/-! ### Calls -/

/-- The device that was chosen, reported if there is none. -/
def checkDevice (device : Option Device) (clientId : String) : Act GateState GateAnswer := do
  let found ← StateT.lift (reportUnknownDevice context device clientId)
  return .checkedDevice (found.map (·.uuid))

/-- One telemetry message. -/
def accept (g : GateConfig) (m : Message) (payload : Json) : Act GateState GateAnswer := do
  match ← Gate.accept g m payload with
  | .ok receipt => return .receipt receipt
  | .error rejection => return .rejected rejection

/-- The gap before a sequence number. -/
def reconcile (g : GateConfig) (device : Device) (instanceName : String) (sequence : Nat) :
    Act GateState GateAnswer := do
  let (gap, cache) ← StateT.lift
    (Sequence.reconcile context g.admission.sequenceTtl device instanceName sequence
      (← get).records.cache)
  modify fun s => { s with records := { s.records with cache := cache } }
  return .gap gap

/-- The last sequence number of a device's instance. -/
def lastSeen (w : World) (deviceId : Int) (instanceName : String) : Outcome :=
  match w.state.records.cache.lastSeen deviceId instanceName with
  | (.ok n, c) => (w.withCache c).quiet (.lastSeen n)
  | (.error e, c) => (w.withCache c).quiet (.cacheFailed e)

/-- A cached value. -/
def cacheGet (w : World) (key : String) : Outcome :=
  match w.state.records.cache.get key with
  | .ok (value, c) => (w.withCache c).quiet (.cached value)
  | .error e => w.quiet (.cacheFailed e)

/-- Caches a value. -/
def cacheSet (w : World) (key value : String) (ttl : Nat) : Outcome :=
  match w.state.records.cache.set key value ttl with
  | .ok c => (w.withCache c).quiet .done
  | .error e => w.quiet (.cacheFailed e)

/-- A device's secret. -/
def enroll (d : Device) : Act GateState GateAnswer := do
  match ← Gate.enrollSecret context d with
  | .ok secret => return .secret secret (nonempty? d.hmacSecret).isNone
  | .error e => return .storeFailed e

/-- Counts several items, up to the first failure. -/
def markBatch (id : String) : Nat → Option BatchProgress → Act GateState GateAnswer
  | 0, last => return .progress last
  | times + 1, _ => do
    match ← Gate.markProcessed context id with
    | .ok p => markBatch id times (some p)
    | .error e => return ledgerAnswer (fun _ : Unit => .done) (.error e)

/-- The sink of the trail, made to fail or to work again. -/
def switchSink (failing : Bool) : AuditSink → AuditSink
  | .memory _ => .memory failing
  | sink => sink

/-- One command. -/
def perform (w : World) : GateCommand → Outcome
  | .authenticate c => w.answerWith (.decision <$> Gate.authenticate context c)
  | .checkDevice device clientId => w.answerWith (checkDevice (device.bind w.choose) clientId)
  | .authorize r => w.answerWith (.decision <$> Gate.authorize w.config context r)
  | .accept m payload => w.answerWith (accept w.config m payload)
  | .reconcile device instanceName sequence =>
    match w.choose device with
    | some d => w.answerWith (reconcile w.config d instanceName sequence)
    | none => w.quiet .unknown
  | .lastSeen deviceId instanceName => w.lastSeen deviceId instanceName
  | .cacheSet key value ttl => w.cacheSet key value ttl
  | .cacheGet key => w.cacheGet key
  | .cacheUnavailable on =>
    (w.withCache { w.state.records.cache with unavailable := on }).quiet .done
  | .refuseReadings limit =>
    let refuses (buffered : Nat) : Bool := limit.any fun n => n ≤ buffered
    (w.withStore { w.store with refusesReading := refuses }).quiet .done
  | .sinkFailing on =>
    let trail := { w.trail with sink := switchSink on w.trail.sink }
    { w with trail := trail }.quiet .done
  | .fault call down =>
    (w.withStore { w.store with faults := w.store.faults.switch call down }).quiet .done
  | .seed s =>
    { answer := .seeded s.isEmpty
      world := w.withStore { w.store with tables := s.apply w.store.tables }
      lines := [s.appliedLine] }
  | .findDevice uuid => w.askStore (w.store.findDevice uuid) fun d => .foundDevice (d.map (·.id))
  | .setStatus id status => w.updateStore (w.store.updateStatus id status)
  | .setSecret id secret => w.updateStore (w.store.setSecret id secret)
  | .devicesWithStatus status =>
    w.askStore (w.store.devicesWithStatus status) fun ds => .deviceIds (ds.map (·.id))
  | .enroll device =>
    match w.choose device with
    | some d => w.answerWith (enroll d)
    | none => w.quiet .unknown
  | .sweep now timeout =>
    w.answerWith (storeAnswer .timedOut <$>
      Gate.withStore fun s => s.sweep (timeout.getD w.config.deviceTimeout) now)
  | .startSweeps signal => w.startLoop signal
  | .advance seconds => w.advance seconds
  | .signal value => w.signal value
  | .dropSignal => w.dropSignal
  | .openBatch deviceId total =>
    w.answerWith (ledgerAnswer .opened <$> Gate.openBatch context deviceId total)
  | .markBatch id times => w.answerWith (markBatch id times none)
  | .batchProgress id =>
    w.quiet (ledgerAnswer (fun p => .progress (some p)) (w.store.batchProgress id))
  | .mayPurge id =>
    w.answerWith (ledgerAnswer .purge <$> Gate.fromStore fun s => s.mayPurge context id)
  | .failBatch id reason => w.answerWith (ledgerAnswer .failed <$> Gate.failBatch context id reason)
  | .insertBatch row => w.updateStore (w.store.insertBatch row)
  | .incrementBatch id => w.updateStore (w.store.incrementProcessed id)
  | .completeBatch id now => w.changeStore (w.store.markCompleted id now) .changed
  | .markBatchFailed id now => w.changeStore (w.store.markFailed id now) .changed
  | .getBatch id => w.askStore (w.store.getBatch id) .batch
  | .beginTransaction name => w.buffer name w.store.beginTransaction
  | .snapshotFor name deviceId key capturedAt =>
    w.withTransaction name fun tx =>
      match w.store.snapshotFor tx deviceId key capturedAt with
      | .ok (snapshot, tx, s) => ((w.withStore s).putTransaction name tx).quiet (.snapshot snapshot)
      | .error e => w.quiet (.storeFailed e)
  | .insertReading name row =>
    w.withTransaction name fun tx => w.buffer name (w.store.insertReading tx row)
  | .touchDevice name deviceId seenAt =>
    w.withTransaction name fun tx => w.buffer name (w.store.touchDevice tx deviceId seenAt)
  | .commit name =>
    w.withTransaction name fun tx => (w.dropTransaction name).updateStore (w.store.commit tx)
  | .rollback name =>
    w.withTransaction name fun tx =>
      (w.dropTransaction name).askStore (w.store.rollback tx) fun _ => .done
  | .emit e => w.answerWith (do Act.emit e; return .done)
  | .countEvents kind => w.quiet (.count (w.trail.ofKind kind).length)
  | .http r => w.answerWith (.reply <$> Gate.respond w.config r)

/-- Several commands, in order. -/
def performAll (w : World) : List GateCommand → List (GateAnswer × List LogLine) × World
  | [] => ([], w)
  | c :: rest =>
    let o := w.perform c
    let (others, w) := o.world.performAll rest
    ((o.answer, o.lines) :: others, w)

/-- The world at the beginning, and the report of its seed. -/
def start (config : GateConfig) (seed : Seed) (sink : AuditSink) (clock : Timestamp)
    (host : Host) : World × List LogLine :=
  ({ config := config
     state :=
      { records :=
          { store :=
              { tables := seed.apply {}, faults := { Faults.none with why := host.storeSays } }
            cache := { now := host.uptime } }
        clock := clock
        entropy := host.toEntropy }
     trail := { sink := sink }
     elapsed := host.uptime },
   [seed.appliedLine])

end World

end DeviceGate
