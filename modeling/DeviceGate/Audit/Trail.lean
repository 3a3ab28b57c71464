import DeviceGate.Audit.Journal

/-!
The audit trail: where emitted events go.  A sink that cannot take an event costs the event, which
is counted and reported in the log, and nothing else.

* `AuditTrail.deliver`: one event handed to the sink; `AuditTrail.deliverAll`: several, in order.
* `AuditTrail.length_recorded_add_failed`: a memory sink records or counts every event.
-/

namespace DeviceGate

/-- Why a sink does not take an event. -/
inductive AuditError where
  | rejected (reason : String)
  | unavailable (reason : String)

/-- The wording of the failure. -/
def AuditError.message : AuditError → String
  | rejected reason => "audit sink rejected event: " ++ reason
  | unavailable reason => "audit sink unavailable: " ++ reason

/-- Where events go. -/
inductive AuditSink where
  /-- Kept in memory, unless the sink is failing. -/
  | memory (failing : Bool)
  /-- Written to the log. -/
  | log
  /-- The queue has ended; nothing arrives. -/
  | closed

/-- A sink, what it has recorded, and how many events were lost. -/
structure AuditTrail where
  sink : AuditSink
  recorded : List AuditEvent := []
  failed : Nat := 0

namespace AuditTrail

/-- An event handed to the sink, and the log lines of doing so. -/
def deliver (trail : AuditTrail) (e : AuditEvent) : AuditTrail × List LogLine :=
  match trail.sink with
  | .memory false => ({ trail with recorded := trail.recorded ++ [e] }, [])
  | .memory true =>
    ({ trail with failed := trail.failed + 1 },
      [{ level := .error
         message :=
          "AUDIT_WRITE_FAILED type=" ++ e.kind.name ++ " actor=" ++ e.actor ++ " error=" ++
            (AuditError.unavailable "sink offline").message }])
  | .log => (trail, [e.logLine])
  | .closed =>
    ({ trail with failed := trail.failed + 1 },
      [{ level := .error, message := "AUDIT_OUTBOX_CLOSED dropped_type=" ++ e.kind.name }])

/-- Several events, in order. -/
def deliverAll (trail : AuditTrail) : List AuditEvent → AuditTrail × List LogLine
  | [] => (trail, [])
  | e :: rest =>
    let (trail, first) := trail.deliver e
    let (trail, others) := trail.deliverAll rest
    (trail, first ++ others)

/-- The recorded events of a kind. -/
def ofKind (trail : AuditTrail) (kind : AuditKind) : List AuditEvent :=
  trail.recorded.filter fun e => e.kind = kind

theorem sink_deliver (trail : AuditTrail) (e : AuditEvent) :
    (trail.deliver e).1.sink = trail.sink := by
  unfold deliver
  split <;> rfl

theorem length_recorded_add_failed (trail : AuditTrail) (es : List AuditEvent) (failing : Bool)
    (h : trail.sink = .memory failing) :
    (trail.deliverAll es).1.recorded.length + (trail.deliverAll es).1.failed =
      trail.recorded.length + trail.failed + es.length := by
  induction es generalizing trail with
  | nil => rfl
  | cons e rest ih =>
    have step : (trail.deliver e).1.recorded.length + (trail.deliver e).1.failed =
        trail.recorded.length + trail.failed + 1 := by
      unfold deliver
      cases failing <;> simp [h] <;> omega
    have := ih (trail.deliver e).1 ((sink_deliver trail e).trans h)
    simp only [deliverAll, List.length_cons]
    omega

end AuditTrail

end DeviceGate
