import DeviceGate.Proofs.Audit.Attestation

/-!
How a message came.  Neither the id of a message nor the transport that brought it has a say in what
becomes of it: they only stand in its log lines, and the transport in the event of its rejection.

* `AuditEvent.via`: an event with another transport.
* `Admission.value_process_eq`: messages of one topic and one payload have the same outcome.
* `Admission.events_process_eq`: and the same events, each with its own transport.
-/

namespace DeviceGate

namespace AuditEvent

/-- The event with another transport, if it names one. -/
def via (t : Transport) (e : AuditEvent) : AuditEvent :=
  { e with details := e.details.map fun d => (d.1, if d.1 = "transport" then t.name else d.2) }

section Via

variable (t : Transport) (e : AuditEvent)

@[simp] lemma via_of (kind : AuditKind) (description : String) :
    (of kind description).via t = of kind description :=
  rfl

@[simp] lemma via_byActor (actor : Option String) :
    (e.byActor actor).via t = (e.via t).byActor actor :=
  rfl

@[simp] lemma via_graded (severity : Severity) :
    (e.graded severity).via t = (e.via t).graded severity :=
  rfl

/-- Of all details, only the transport becomes another one. -/
@[simp] lemma via_detail (key value : String) :
    (e.detail key value).via t =
      (e.via t).detail key (if key = "transport" then t.name else value) :=
  retold_detail "transport" t.name e key value

end Via

end AuditEvent

namespace Sequence

section Context

variable (ctx ctx' : LogContext)

lemma value_history_eq (seen : Except CacheError (Option ℕ)) :
    (history ctx seen).value = (history ctx' seen).value := by
  rcases seen with e | previous
  · cases e <;> simp only [history, Noted.value_bind, Noted.value_pure]
  · rfl

lemma value_remember_eq (ttl : ℕ) (deviceId : ℤ) (instanceName : String) (current : ℕ)
    (c : Cache) :
    (remember ctx ttl deviceId instanceName current c).value =
      (remember ctx' ttl deviceId instanceName current c).value := by
  rw [remember, remember]
  rcases c.set (key deviceId instanceName) (toString current) ttl with e | after
  · simp only [Noted.value_bind, Noted.value_pure]
  · rfl

/-- The gap before a number is the same for whatever is logged about it. -/
lemma value_reconcile_eq (ttl : ℕ) (device : Device) (instanceName : String) (current : ℕ)
    (c : Cache) :
    (reconcile ctx ttl device instanceName current c).value =
      (reconcile ctx' ttl device instanceName current c).value := by
  rcases hseen : c.lastSeen device.id instanceName with ⟨seen, c'⟩
  have hgap := fun ctx => (reportGap_eq ctx device instanceName current (history ctx' seen).value).1
  simp only [reconcile, hseen, Noted.value_bind, Noted.value_pure, value_history_eq ctx ctx',
    value_remember_eq ctx ctx', hgap]

/-- The event of a gap names no transport. -/
lemma via_gapEvent (t : Transport) (device : Device) (instanceName : String) (g : SequenceGap) :
    (gapEvent device instanceName g).via t = gapEvent device instanceName g := by
  simp [gapEvent]

end Context

end Sequence

namespace Admission

section Context

variable (a : Admission) (ctx ctx' : LogContext)

lemma value_checkSerial_eq (d : Device) (payload : Json) :
    (d.checkSerial ctx payload).value = (d.checkSerial ctx' payload).value := by
  rw [Device.checkSerial, Device.checkSerial]
  rcases nonempty? d.cpuSerial with _ | serial
  · simp only [Noted.value_bind, Noted.value_pure]
  · rcases (payload.member? "cpu_serial").bind Json.text? with _ | claimed
    · simp only [Noted.value_bind, Noted.value_pure]
    · simp only [apply_ite Noted.value, Noted.value_bind, Noted.value_pure]

lemma value_checkSignature_eq (d : Device) (payload : Json) :
    (d.checkSignature ctx payload).value = (d.checkSignature ctx' payload).value := by
  rw [Device.checkSignature, Device.checkSignature]
  rcases nonempty? d.hmacSecret with _ | secret
  · simp only [Noted.value_bind, Noted.value_pure]
  · rcases (payload.member? Signature.field).bind Json.text? with _ | provided
    · simp only [Noted.value_bind, Noted.value_pure]
    · simp only [apply_ite Noted.value, Noted.value_bind, Noted.value_pure]

/-- The checks of a message are the same for whatever is logged about them. -/
lemma outcome_examine_eq (s : Store) (topic : String) (payload : Json) :
    outcome (a.examine s ctx topic payload) = outcome (a.examine s ctx' topic payload) := by
  simp only [examine, checkDevice, checkComponent, checkIntegrity, checkAttachment, outcome_bind,
    outcome_checkAt, outcome_lookUp, outcome_lift, value_checkSerial_eq ctx ctx',
    value_checkSignature_eq ctx ctx']

lemma value_reconcile_eq (e : Examined) (c : Cache) :
    (a.reconcile ctx e c).value = (a.reconcile ctx' e c).value := by
  rw [reconcile, reconcile]
  rcases e.telemetry.sequenceNumber with _ | current
  · simp only [Noted.value_bind, Noted.value_pure]
  · exact Sequence.value_reconcile_eq ..

/-- The events of a gap are the same, too, and name no transport. -/
lemma events_reconcile_eq (t : Transport) (e : Examined) (c : Cache) :
    (a.reconcile ctx e c).events = (a.reconcile ctx' e c).events.map (AuditEvent.via t) := by
  rw [reconcile, reconcile]
  rcases e.telemetry.sequenceNumber with _ | current
  · rfl
  · simp only [Sequence.events_reconcile, Sequence.value_reconcile_eq ctx ctx', List.map_map,
      Function.comp_def, Sequence.via_gapEvent]

/-- The whole way of a message is the same for whatever is logged about it. -/
lemma value_run_eq (now : Timestamp) (topic : String) (payload : Json) (r : Records) :
    (a.run now ctx topic payload r).value = (a.run now ctx' topic payload r).value := by
  have hexamine := a.outcome_examine_eq ctx ctx' r.store topic payload
  rw [outcome, outcome] at hexamine
  rw [run, run, Noted.value_bind, Noted.value_bind, hexamine]
  rcases (a.examine r.store ctx' topic payload).run.value with rejection | e
  · rfl
  · have hwrite : (write r.store ctx e (e.telemetry.capturedAt.getD now)).value =
        (write r.store ctx' e (e.telemetry.capturedAt.getD now)).value := by
      rw [value_write, value_write]
    simp only [Noted.value_bind, hwrite]
    rcases (write r.store ctx' e (e.telemetry.capturedAt.getD now)).value with ⟨_ | snapshot, s⟩
    · rfl
    · simp only [Noted.value_bind, Noted.value_pure, value_reconcile_eq a ctx ctx']

end Context

variable {a : Admission} {now : Timestamp} {m m' : Message} {payload : Json} {r : Records}

/-- **A message by whatever way.**  Messages of one topic and one payload have the same outcome. -/
lemma value_process_eq (h : m.topic = m'.topic) :
    (a.process now m payload r).value = (a.process now m' payload r).value := by
  rw [value_process, value_process, h]
  exact a.value_run_eq ..

/-- The event of a rejection tells the transport of the message. -/
lemma rejectionEvent_eq (h : m.topic = m'.topic) (rejection : AdmissionRejection) :
    rejectionEvent m rejection = (rejectionEvent m' rejection).via m.transport := by
  rw [rejectionEvent, rejectionEvent, h]
  cases rejection.error <;> simp

/-- They emit the same events, each with its own transport. -/
lemma events_process_eq (h : m.topic = m'.topic) :
    (a.process now m payload r).events =
      (a.process now m' payload r).events.map (AuditEvent.via m.transport) := by
  have hvalue : (a.process now m payload r).value = (a.process now m' payload r).value :=
    value_process_eq h
  rcases houtcome : (a.process now m payload r).value.1 with rejection | receipt
  · have houtcome' : (a.process now m' payload r).value.1 = .error rejection := by
      rw [← hvalue, houtcome]
    rw [events_process_of_error houtcome, events_process_of_error houtcome', List.map_singleton,
      rejectionEvent_eq h]
  · have houtcome' : (a.process now m' payload r).value.1 = .ok receipt := by
      rw [← hvalue, houtcome]
    obtain ⟨uuid, t, d, c, hclears, -, hevents⟩ := process_eq_ok houtcome
    obtain ⟨uuid', t', d', c', hclears', -, hevents'⟩ := process_eq_ok houtcome'
    obtain ⟨rfl, rfl⟩ := hclears.unique (h ▸ hclears')
    rw [hevents, hevents']
    exact a.events_reconcile_eq ..

end Admission

end DeviceGate
