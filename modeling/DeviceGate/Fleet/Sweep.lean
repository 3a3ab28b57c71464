import DeviceGate.Audit.Journal
import DeviceGate.Store.Basic
import DeviceGate.Time.Rfc3339

/-!
The sweep that times silent devices out: every online device that was never seen, or not within the
timeout, moves to `TIMEOUT`.

* `Device.isStaleAfter`: the condition, for a timeout of any number of nanoseconds;
  `Device.isStale`: for one of whole seconds.
* `Store.sweepAfter`, `Store.sweep`: one sweep over all devices.
-/

namespace DeviceGate

/-- The device was not seen within so many nanoseconds before `now`; one seen in the future is not
stale. -/
def Device.isStaleAfter (d : Device) (nanos : Nat) (now : Timestamp) : Bool :=
  match d.lastSeenAt with
  | none => true
  | some seen => Span.ofNanos nanos < now.since seen

/-- The device was not seen within so many seconds before `now`. -/
def Device.isStale (d : Device) (timeout : Nat) (now : Timestamp) : Bool :=
  d.isStaleAfter (timeout * 1000000000) now

namespace Sweep

/-- The context of a sweep's log lines. -/
def context : LogContext where
  request := "sweep"

/-- The moment a device was last seen, as log lines have it. -/
def seenLabel : Option Timestamp → String
  | some t => "Some(" ++ t.zuluText ++ ")"
  | none => "None"

/-- The event of a device that stopped reporting. -/
def timeoutEvent (d : Device) : AuditEvent :=
  AuditEvent.of .deviceTimeout "Device stopped reporting"
    |>.byActor (some d.uuid) |>.graded .warning
    |>.detail "device_id" (toString d.id)
    |>.detail "last_seen_at" (match d.lastSeenAt with
      | some t => t.text
      | none => "never")

end Sweep

namespace Store

/-- Times one device out and tells whether that worked. -/
def timeOut (s : Store) (d : Device) : Noted (Bool × Store) := do
  let ctx := Sweep.context.about d.uuid
  match s.updateStatus d.id .timeout with
  | .error e =>
    Noted.log .error (ctx.text ++ " DEVICE_TIMEOUT_UPDATE_FAILED error=" ++ e.message)
    return (false, s)
  | .ok s =>
    Noted.log .info (ctx.text ++ " DEVICE_TIMEOUT last_seen_at=" ++ Sweep.seenLabel d.lastSeenAt)
    Noted.emit (Sweep.timeoutEvent d)
    return (true, s)

/-- Times several devices out and counts those that it worked for. -/
def timeOutAll (s : Store) : List Device → Noted (Nat × Store)
  | [] => return (0, s)
  | d :: rest => do
    let (moved, s) ← s.timeOut d
    let (count, s) ← s.timeOutAll rest
    return (count + (if moved then 1 else 0), s)

/-- Times the online devices out that are stale after so many nanoseconds, and counts them. -/
def sweepAfter (s : Store) (nanos : Nat) (now : Timestamp) :
    Noted (Except StoreError Nat × Store) := do
  match s.devicesWithStatus .online with
  | .error e => return (.error e, s)
  | .ok online =>
    let (count, s) ← s.timeOutAll (online.filter fun d => d.isStaleAfter nanos now)
    if 0 < count then
      Noted.log .info
        (Sweep.context.text ++ " SWEEP_COMPLETE timed_out=" ++ toString count ++ " online=" ++
          toString online.length)
    return (.ok count, s)

/-- Times the stale online devices out and counts them, the timeout in seconds. -/
def sweep (s : Store) (timeout : Nat) (now : Timestamp) :
    Noted (Except StoreError Nat × Store) :=
  s.sweepAfter (timeout * 1000000000) now

end Store

end DeviceGate
