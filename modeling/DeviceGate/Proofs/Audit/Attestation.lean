import DeviceGate.Proofs.Access.Policy
import DeviceGate.Proofs.Audit.Emission
import DeviceGate.Proofs.Telemetry.GapHistory

/-!
The events agree with the decisions.  Whatever the records hold and whatever is down, a decision on
a connection comes with one event that says how it went; an access is reported when it is denied; a
message is reported once when it is rejected, and when it is admitted only for a gap before it; and
a purge question is reported when it is answered.

* `Decision.ConnectionReport`, `Decision.AccessReport`, `Admission.MessageReport`,
  `Batch.PurgeReport`: what the events of an outcome say.
* `Admission.SerialMismatch`: a message that names the serial number of another machine.
* `World.reports_agree`: the events of the four commands are the reports of their answers.
-/

namespace DeviceGate

/-! ### Reports -/

/-- One event says whether a connection was let in. -/
def Decision.ConnectionReport (d : Decision) (events : List AuditEvent) : Prop :=
  ∃ e, events = [e] ∧
    (d = .allow ↔ e.kind = .authSuccess ∨ e.kind = .deviceAuthSuccess) ∧
    (d ≠ .allow ↔ e.kind = .authFailed ∨ e.kind = .deviceAuthFailed)

/-- A denied access is reported with its reason, an allowed one is not. -/
def Decision.AccessReport : Decision → List AuditEvent → Prop
  | .allow, events => events = []
  | .deny reason, events =>
      ∃ e, events = [e] ∧ e.kind = .aclDenied ∧ e.details.lookup "reason" = some reason

/-- The integrity of the message failed. -/
def AdmissionError.isIntegrity : AdmissionError → Bool
  | integrity _ _ => true
  | _ => false

/-- The hardware may have been tampered with. -/
def AdmissionError.isGrave : AdmissionError → Bool
  | integrity _ critical => critical
  | _ => false

namespace Admission

/-- The message comes to the check of its serial number, and names another one than the device
has. -/
def SerialMismatch (a : Admission) (s : Store) (topic : String) (payload : Json) : Prop :=
  ∃ t d c serial claimed, a.Reaches s topic payload (.supported t d c) ∧
    d.cpuSerial = some serial ∧ serial ≠ "" ∧
    payload.member? "cpu_serial" = some (.text claimed) ∧ claimed ≠ serial

/-- A rejected message is reported once, with the checkpoint and the wording of its rejection; an
admitted one is reported for a gap only. -/
def MessageReport (mismatch : Prop) :
    Except AdmissionRejection AdmissionReceipt → List AuditEvent → Prop
  | .error rejection, events =>
      ∃ e, events = [e] ∧
        e.kind = (if rejection.error.isIntegrity then .integrityViolation else .telemetryRejected) ∧
        (e.severity = .critical ↔ mismatch) ∧ (e.severity = .warning ↔ ¬ mismatch) ∧
        e.details.lookup "stage" = some rejection.stage.name ∧
        e.details.lookup "reason" = some rejection.error.message
  | .ok receipt, events =>
      events.map (·.kind) = if receipt.gap.isSome then [.dataGapDetected] else []

end Admission

/-- A purge question that is answered is reported with its answer, another one is not. -/
def Batch.PurgeReport : Except LedgerError Bool → List AuditEvent → Prop
  | .ok granted, events =>
      events.map (·.kind) =
        [if granted then .purgePermissionGranted else .purgePermissionDenied]
  | .error _, events => events = []

/-! ### Connections -/

namespace Decision.ConnectionReport

variable {e : AuditEvent}

lemma allow (h : e.kind = .authSuccess ∨ e.kind = .deviceAuthSuccess) :
    Decision.allow.ConnectionReport [e] := by
  refine ⟨e, rfl, by simpa using h, ?_⟩
  rcases h with h | h <;> simp [h]

lemma deny {reason : String} (h : e.kind = .authFailed ∨ e.kind = .deviceAuthFailed) :
    (Decision.deny reason).ConnectionReport [e] := by
  refine ⟨e, rfl, ?_, by simpa using h⟩
  rcases h with h | h <;> simp [h]

end Decision.ConnectionReport

namespace Store

lemma connectionReport_user (s : Store) (ctx : LogContext) (name : String)
    (clientId : Option String) :
    (s.authenticateUser ctx name clientId).value.ConnectionReport
      (s.authenticateUser ctx name clientId).events := by
  rw [authenticateUser]
  rcases s.findUser name with e | _ | user
  · exact .deny (.inl rfl)
  · exact .deny (.inl rfl)
  · exact .allow (.inl rfl)

lemma connectionReport_device (s : Store) (ctx : LogContext) (clientId : String) :
    (s.authenticateDevice ctx clientId).value.ConnectionReport
      (s.authenticateDevice ctx clientId).events := by
  rw [authenticateDevice]
  rcases s.findDevice clientId with e | _ | device
  · exact .deny (.inr rfl)
  · exact .deny (.inr rfl)
  · exact .allow (.inr rfl)

/-- A decision on a connection is reported once. -/
lemma connectionReport (s : Store) (ctx : LogContext) (c : Credentials) :
    (s.authenticate ctx c).value.ConnectionReport (s.authenticate ctx c).events := by
  rw [authenticate]
  split
  · exact connectionReport_user ..
  · exact connectionReport_device ..
  · exact .deny (.inl rfl)

end Store

/-! ### Accesses -/

namespace AccessPolicy

/-- A denied access is reported once. -/
lemma accessReport (policy : AccessPolicy) (s : Store) (ctx : LogContext) (r : AccessRequest) :
    (policy.authorize s ctx r).value.AccessReport (policy.authorize s ctx r).events := by
  rw [authorize]
  split
  · exact rfl
  · simp only [Noted.value_bind, Noted.events_bind, events_evaluate, Noted.value_pure,
      Noted.events_pure, List.nil_append, List.append_nil]
    rcases (policy.evaluate s ctx (nonempty? r.username) r).value with _ | reason
    · exact rfl
    · refine ⟨_, rfl, rfl, ?_⟩
      simp [AuditEvent.detail, AuditEvent.lookup_putDetail]

end AccessPolicy

/-! ### Messages -/

namespace Sequence

lemma events_history (ctx : LogContext) (seen : Except CacheError (Option ℕ)) :
    (history ctx seen).events = [] := by
  rcases seen with e | previous
  · cases e <;> rfl
  · rfl

/-- Whatever the cache says, the events of reconciling a number are those of its gap. -/
lemma events_reconcile (ctx : LogContext) (ttl : ℕ) (device : Device) (instanceName : String)
    (current : ℕ) (c : Cache) :
    (reconcile ctx ttl device instanceName current c).events =
      (reconcile ctx ttl device instanceName current c).value.1.toList.map
        (gapEvent device instanceName) := by
  rcases hseen : c.lastSeen device.id instanceName with ⟨seen, c'⟩
  obtain ⟨hvalue, hevents⟩ :=
    reportGap_eq ctx device instanceName current (history ctx seen).value
  simp only [reconcile, hseen, Noted.value_bind, Noted.events_bind, Noted.value_pure,
    Noted.events_pure, events_history, events_remember, List.nil_append, List.append_nil, hevents,
    hvalue]

end Sequence

namespace Admission

lemma kind_rejectionEvent (m : Message) (rejection : AdmissionRejection) :
    (rejectionEvent m rejection).kind =
      if rejection.error.isIntegrity then .integrityViolation else .telemetryRejected := by
  rw [rejectionEvent]
  cases rejection.error <;> rfl

lemma severity_rejectionEvent (m : Message) (rejection : AdmissionRejection) :
    (rejectionEvent m rejection).severity =
      if rejection.error.isGrave then .critical else .warning := by
  rw [rejectionEvent]
  cases rejection.error <;> rfl

lemma severity_eq_critical_iff {m : Message} {rejection : AdmissionRejection} :
    (rejectionEvent m rejection).severity = .critical ↔ rejection.error.isGrave = true := by
  rw [severity_rejectionEvent]
  cases rejection.error.isGrave <;> simp

lemma severity_eq_warning_iff {m : Message} {rejection : AdmissionRejection} :
    (rejectionEvent m rejection).severity = .warning ↔ ¬ rejection.error.isGrave = true := by
  rw [severity_rejectionEvent]
  cases rejection.error.isGrave <;> simp

lemma lookup_stage_rejectionEvent (m : Message) (rejection : AdmissionRejection) :
    (rejectionEvent m rejection).details.lookup "stage" = some rejection.stage.name := by
  simp [rejectionEvent, AuditEvent.detail, AuditEvent.lookup_putDetail]

lemma lookup_reason_rejectionEvent (m : Message) (rejection : AdmissionRejection) :
    (rejectionEvent m rejection).details.lookup "reason" = some rejection.error.message := by
  simp [rejectionEvent, AuditEvent.detail, AuditEvent.lookup_putDetail]

/-- The gravest rejection is that of a serial number of another machine. -/
lemma FirstFailure.isGrave_iff {a : Admission} {s : Store} {topic : String} {payload : Json}
    {rejection : AdmissionRejection} (h : a.FirstFailure s topic payload rejection) :
    rejection.error.isGrave = true ↔ a.SerialMismatch s topic payload := by
  constructor
  · intro hgrave
    obtain ⟨st, hst, hfails⟩ := h
    cases hfails with
    | serialMismatch hserial hne hclaimed hother =>
        exact ⟨_, _, _, _, _, hst, hserial, hne, hclaimed, hother⟩
    | _ => cases hgrave
  · rintro ⟨t, d, c, serial, claimed, hst, hserial, hne, hclaimed, hother⟩
    rw [h.unique ⟨_, hst, .serialMismatch hserial hne hclaimed hother⟩]
    rfl

/-- Whatever the cache says, the events of reconciling a message are those of its gap. -/
lemma kinds_reconcile (a : Admission) (ctx : LogContext) (e : Examined) (c : Cache) :
    (a.reconcile ctx e c).events.map (·.kind) =
      if (a.reconcile ctx e c).value.1.isSome then [.dataGapDetected] else [] := by
  rw [reconcile]
  rcases e.telemetry.sequenceNumber with _ | current
  · rfl
  · simp only [Sequence.events_reconcile]
    cases (Sequence.reconcile ctx a.sequenceTtl e.device e.telemetry.instanceName current c).value.1
    · rfl
    · rfl

/-- An outcome is reported once, if it is to be reported at all. -/
lemma messageReport (a : Admission) (now : Timestamp) (m : Message) (payload : Json) (r : Records) :
    MessageReport (a.SerialMismatch r.store m.topic payload) (a.process now m payload r).value.1
      (a.process now m payload r).events := by
  rcases houtcome : (a.process now m payload r).value.1 with rejection | receipt
  · have hgrave := (process_eq_error_iff.1 houtcome).isGrave_iff
    refine ⟨rejectionEvent m rejection, events_process_of_error houtcome,
      kind_rejectionEvent m rejection, severity_eq_critical_iff.trans hgrave,
      severity_eq_warning_iff.trans (not_congr hgrave), lookup_stage_rejectionEvent m rejection,
      lookup_reason_rejectionEvent m rejection⟩
  · obtain ⟨_, t, d, _, -, hvalue, hevents⟩ := process_eq_ok houtcome
    have hkinds := kinds_reconcile a m.context ⟨d, t⟩ r.cache
    rw [hvalue, ← hevents] at hkinds
    exact hkinds

end Admission

/-! ### Purges -/

/-- A purge question that is answered is reported once. -/
lemma Store.purgeReport (s : Store) (ctx : LogContext) (id : String) :
    Batch.PurgeReport (s.mayPurge ctx id).value (s.mayPurge ctx id).events := by
  rw [mayPurge]
  rcases s.fetchBatch id with e | row
  · exact rfl
  · dsimp only
    cases Batch.isPurgeable row with
    | true => exact rfl
    | false => exact rfl

/-! ### The gate -/

namespace World

/-- A question to the record store emits what the store emits. -/
lemma emissions_fromStore {w : World} {α : Type} {command : GateCommand}
    (ask : World → Store → Noted α) (f : α → GateAnswer)
    (hperform : ∀ w : World, w.perform command = w.answerWith (f <$> Gate.fromStore (ask w)))
    (hask : ∀ trail, ask (w.onTrail trail) = ask w) :
    w.emissions command = (ask w w.store).events := by
  rw [emissions_answerWith (fun w => f <$> Gate.fromStore (ask w)) hperform fun trail => by
    rw [hask trail]]
  -- neither reading the state nor turning the answer into one of the gate notes anything
  change Note.events ([] ++ [] ++ ((ask w w.store).notes ++ []) ++ []) = _
  simp [Noted.events]

/-- **The events agree with the decisions.**  Whatever the gate has come to and whatever is down,
the events of a decision are its report: one for a connection, one for an access that is denied, one
for a message that is rejected or leaves a gap, and one for a purge question that is answered. -/
theorem reports_agree (w : World) :
    (∀ c, ∃ d : Decision, (w.perform (.authenticate c)).answer = .decision d ∧
      d.ConnectionReport (w.emissions (.authenticate c))) ∧
    (∀ r, ∃ d : Decision, (w.perform (.authorize r)).answer = .decision d ∧
      d.AccessReport (w.emissions (.authorize r))) ∧
    (∀ m payload, ∃ outcome, (w.perform (.accept m payload)).answer = .ofOutcome outcome ∧
      Admission.MessageReport (w.config.admission.SerialMismatch w.store m.topic payload) outcome
        (w.emissions (.accept m payload))) ∧
    (∀ id, ∃ answer, (w.perform (.mayPurge id)).answer = ledgerAnswer .purge answer ∧
      Batch.PurgeReport answer (w.emissions (.mayPurge id))) := by
  refine ⟨fun c => ⟨_, rfl, ?_⟩, fun r => ⟨_, rfl, ?_⟩, fun m payload => ⟨_, answer_accept, ?_⟩,
    fun id => ⟨_, rfl, ?_⟩⟩
  · rw [emissions_fromStore (fun _ s => s.authenticate context c) .decision (fun _ => rfl)
      fun _ => rfl]
    exact w.store.connectionReport context c
  · rw [emissions_fromStore (fun w s => w.config.policy.authorize s context r) .decision
      (fun _ => rfl) fun _ => rfl]
    exact w.config.policy.accessReport w.store context r
  · rw [emissions_answerWith (fun w => World.accept w.config m payload) (fun _ => rfl) fun _ => rfl,
      accept_eq]
    exact w.config.admission.messageReport w.state.clock m payload w.state.records
  · rw [emissions_fromStore (fun _ s => s.mayPurge context id) (ledgerAnswer .purge) (fun _ => rfl)
      fun _ => rfl]
    exact w.store.purgeReport context id

end World

end DeviceGate
