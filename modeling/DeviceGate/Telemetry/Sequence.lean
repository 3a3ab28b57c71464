import DeviceGate.Audit.Journal
import DeviceGate.Fleet.Records
import DeviceGate.Number.Literal
import DeviceGate.Store.Cache
import DeviceGate.Text.Blank

/-!
Sequence numbers and their gaps.  A device stamps its messages with `date * 100000 + counter`; the
last number of each device and instance is cached, and a jump within one date is a gap.

* `Sequence.gap?`: the numbers missed between two messages.
* `Cache.lastSeen`: the cached number; `Sequence.reconcile`: the gap before a number, which is then
  cached.  Nothing that the cache does is a failure of the message.
-/

namespace DeviceGate

/-- Counters missed within one date. -/
structure SequenceGap where
  dateBucket : Nat
  firstMissing : Nat
  lastMissing : Nat
  deriving DecidableEq

namespace Sequence

/-- How many counters a date has. -/
def bucketSize : Nat := 100000

/-- The date and the counter of a number. -/
def split (full : Nat) : Nat × Nat :=
  (full / bucketSize, full % bucketSize)

end Sequence

/-- How many counters were missed. -/
def SequenceGap.missed (g : SequenceGap) : Nat :=
  g.lastMissing - g.firstMissing + 1

namespace Sequence

/-- The counters between two numbers of one date, if there are any. -/
def gap? (last current : Nat) : Option SequenceGap :=
  let (lastDate, lastCounter) := split last
  let (date, counter) := split current
  if date = lastDate ∧ lastCounter + 1 < counter then
    some { dateBucket := date, firstMissing := lastCounter + 1, lastMissing := counter - 1 }
  else none

/-- The cache key of a device and an instance. -/
def key (deviceId : Int) (instanceName : String) : String :=
  "seq:" ++ toString deviceId ++ ":" ++ instanceName

/-- The counter stands still or goes back within one date. -/
def isRegression (last current : Nat) : Bool :=
  (split current).1 = (split last).1 && (split current).2 ≤ (split last).2

/-- The event of a gap. -/
def gapEvent (device : Device) (instanceName : String) (g : SequenceGap) : AuditEvent :=
  AuditEvent.of .dataGapDetected "Telemetry sequence gap detected"
    |>.byActor (some device.uuid) |>.graded .warning
    |>.detail "device_id" (toString device.id) |>.detail "instance_name" instanceName
    |>.detail "date_bucket" (toString g.dateBucket)
    |>.detail "first_missing" (toString g.firstMissing)
    |>.detail "last_missing" (toString g.lastMissing)
    |>.detail "missed_count" (toString g.missed)

end Sequence

/-- The last number of a device's instance, if one is cached. -/
def Cache.lastSeen (c : Cache) (deviceId : Int) (instanceName : String) :
    Except CacheError (Option Nat) × Cache :=
  let key := Sequence.key deviceId instanceName
  match c.get key with
  | .error e => (.error e, c)
  | .ok (none, c) => (.ok none, c)
  | .ok (some raw, c) =>
    match readUnsigned64? (Text.trim raw) with
    | some n => (.ok (some n), c)
    | none => (.error (.corrupt key raw), c)

namespace Sequence

/-- The last number, where a cache that does not answer has no history. -/
def history (ctx : LogContext) : Except CacheError (Option Nat) → Noted (Option Nat)
  | .ok previous => pure previous
  | .error (.corrupt key value) => do
    Noted.log .warn
      (ctx.text ++ " SEQUENCE_CACHE_CORRUPT key=" ++ key ++ " value=" ++ Text.quoted value)
    return none
  | .error e => do
    Noted.log .error (ctx.text ++ " SEQUENCE_CACHE_READ_FAILED error=" ++ e.message)
    return none

/-- The gap between a number and the one before it, reported. -/
def reportGap (ctx : LogContext) (device : Device) (instanceName : String) (previous : Option Nat)
    (current : Nat) : Noted (Option SequenceGap) := do
  match previous with
  | none => return none
  | some last =>
    if isRegression last current then
      Noted.log .info
        (ctx.text ++ " SEQUENCE_REGRESSION instance=" ++ instanceName ++ " last=" ++
          toString last ++ " current=" ++ toString current)
    match gap? last current with
    | none => return none
    | some g =>
      Noted.log .warn
        (ctx.text ++ " DATA_GAP_DETECTED instance=" ++ instanceName ++ " bucket=" ++
          toString g.dateBucket ++ " missing=" ++ toString g.firstMissing ++ "..=" ++
          toString g.lastMissing)
      Noted.emit (gapEvent device instanceName g)
      return some g

/-- Caches a number; a cache that refuses is reported and stays as it is. -/
def remember (ctx : LogContext) (ttl : Nat) (deviceId : Int) (instanceName : String) (current : Nat)
    (c : Cache) : Noted Cache := do
  let key := key deviceId instanceName
  match c.set key (toString current) ttl with
  | .ok c => return c
  | .error e =>
    Noted.log .error
      (ctx.text ++ " SEQUENCE_CACHE_WRITE_FAILED key=" ++ key ++ " error=" ++ e.message)
    return c

/-- The gap before a number, which is cached for `ttl` seconds in any case. -/
def reconcile (ctx : LogContext) (ttl : Nat) (device : Device) (instanceName : String)
    (current : Nat) (c : Cache) : Noted (Option SequenceGap × Cache) := do
  let (seen, c) := c.lastSeen device.id instanceName
  let previous ← history ctx seen
  let gap ← reportGap ctx device instanceName previous current
  let c ← remember ctx ttl device.id instanceName current c
  return (gap, c)

end Sequence

end DeviceGate
