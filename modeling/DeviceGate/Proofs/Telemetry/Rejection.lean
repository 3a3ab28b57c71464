import DeviceGate.Gate.World
import DeviceGate.Proofs.Audit.Trail
import DeviceGate.Proofs.Telemetry.Answer

/-!
What a rejected message leaves behind: its rejection in the audit trail, and nothing else.  Every
write is buffered in a transaction that is not committed, and the sequence cache is only asked about
messages that are.

* `World.Untouched`: the later world holds the same records, and knows of no other gap.
* `Admission.events_process_of_error`: the one event of a rejected message.
* `World.untouched_of_rejected`: a rejected message leaves the world untouched.
* `World.untouched_of_all_rejected`: so do many of them, one after the other.
-/

namespace DeviceGate

/-- The records of the later world are those of the earlier one, except that snapshot ids may have
been drawn, and no gap has been recorded in between. -/
structure World.Untouched (w after : World) : Prop where
  store : w.store.OnlyDrew after.store
  cache : after.state.records.cache = w.state.records.cache
  config : after.config = w.config
  transactions : after.transactions = w.transactions
  gaps : after.trail.ofKind .dataGapDetected = w.trail.ofKind .dataGapDetected

/-! ### What checks and transactions emit -/

lemma Device.events_checkSerial (d : Device) (ctx : LogContext) (payload : Json) :
    (d.checkSerial ctx payload).events = [] := by
  rw [Device.checkSerial]
  rcases nonempty? d.cpuSerial with _ | serial
  · rfl
  · rcases (payload.member? "cpu_serial").bind Json.text? with _ | claimed
    · rfl
    · by_cases heq : claimed = serial
      · simp only [heq, if_true]
        rfl
      · simp only [heq, if_false]
        rfl

lemma Device.events_checkSignature (d : Device) (ctx : LogContext) (payload : Json) :
    (d.checkSignature ctx payload).events = [] := by
  rw [Device.checkSignature]
  rcases nonempty? d.hmacSecret with _ | secret
  · rfl
  · rcases (payload.member? Signature.field).bind Json.text? with _ | provided
    · rfl
    · by_cases hagrees : Signature.agrees (Signature.sign secret payload) provided = true
      · simp only [hagrees, if_true]
        rfl
      · simp only [hagrees]
        rfl

namespace Admission

/-- The check emits no event, whatever it gives. -/
def EmitsNothing {α : Type} (x : Check α) : Prop :=
  x.run.events = []

section EmitsNothing

variable {α β : Type}

lemma EmitsNothing.pure (v : α) : EmitsNothing (Pure.pure v) :=
  rfl

lemma EmitsNothing.refuse (stage : AdmissionStage) (error : AdmissionError) :
    EmitsNothing (Admission.refuse stage error : Check α) :=
  rfl

lemma EmitsNothing.lift {x : Noted α} (h : x.events = []) : EmitsNothing (ExceptT.lift x) := by
  simpa [EmitsNothing] using h

lemma EmitsNothing.bind {x : Check α} {f : α → Check β} (h : EmitsNothing x)
    (h' : ∀ v, EmitsNothing (f v)) : EmitsNothing (x >>= f) := by
  rw [EmitsNothing] at h ⊢
  rw [ExceptT.run_bind, Noted.events_bind, h]
  rcases x.run.value with rejection | v
  · rfl
  · exact h' v

lemma EmitsNothing.checkAt (stage : AdmissionStage) (r : Except AdmissionError α) :
    EmitsNothing (Admission.checkAt stage r) := by
  cases r with
  | ok v => exact .pure v
  | error e => exact .refuse stage e

lemma EmitsNothing.lookUp (ctx : LogContext) (stage : AdmissionStage) (event what : String)
    (r : Except StoreError α) : EmitsNothing (Admission.lookUp ctx stage event what r) := by
  cases r with
  | ok v => exact .pure v
  | error e => exact .bind (.lift rfl) fun _ => .refuse stage _

end EmitsNothing

/-- No check of a message emits an event. -/
lemma emitsNothing_examine (a : Admission) (s : Store) (ctx : LogContext) (topic : String)
    (payload : Json) : EmitsNothing (a.examine s ctx topic payload) := by
  refine .bind (.checkAt _ _) fun uuid => .bind (.checkAt _ _) fun telemetry => ?_
  refine .bind ?device fun device => .bind ?component fun component => ?_
  case device =>
    refine .bind (.lookUp ..) fun found => ?_
    cases found with
    | none => exact .refuse _ _
    | some d => exact .bind (.checkAt _ _) fun _ => .pure _
  case component =>
    refine .bind (.lookUp ..) fun found => ?_
    cases found with
    | none => exact .refuse _ _
    | some c => exact .pure _
  refine .bind ?integrity fun _ => .bind ?attachment fun _ => .pure _
  case integrity =>
    refine .bind (.lift (device.events_checkSerial ctx payload)) fun _ => .bind (.checkAt _ _) ?_
    exact fun _ => .bind (.lift (device.events_checkSignature ctx payload)) fun _ => .checkAt _ _
  case attachment =>
    refine .bind (.lookUp ..) fun attached => ?_
    cases attached with
    | true => exact .pure _
    | false => exact .refuse _ _

/-- No transaction emits an event. -/
lemma events_write (s : Store) (ctx : LogContext) (e : Examined) (seenAt : Timestamp) :
    (write s ctx e seenAt).events = [] := by
  rw [write]
  rcases s.beginTransaction with err | tx
  · rfl
  · rcases hfill : fill s tx e seenAt with ⟨err | ⟨snapshot, tx'⟩, after⟩
    · rcases hrollback : after.rollback tx with err | _
      · simp [hfill, hrollback, Noted.events]
      · simp [hfill, hrollback, Noted.events]
    · rcases hcommit : after.commit tx' with err | committed
      · simp [hfill, hcommit, Noted.events]
      · simp [hfill, hcommit, Noted.events]

/-- A message that ends in a rejection has emitted nothing on the way there. -/
lemma events_run_of_error {a : Admission} {now : Timestamp} {ctx : LogContext} {topic : String}
    {payload : Json} {r : Records} {rejection : AdmissionRejection}
    (h : (a.run now ctx topic payload r).value.1 = .error rejection) :
    (a.run now ctx topic payload r).events = [] := by
  have hexamine := a.emitsNothing_examine r.store ctx topic payload
  rw [EmitsNothing] at hexamine
  rw [run] at h ⊢
  rw [Noted.value_bind] at h
  rw [Noted.events_bind, hexamine]
  generalize (a.examine r.store ctx topic payload).run.value = examined at h ⊢
  rcases examined with rejection' | e
  · rfl
  · have hwrite := events_write r.store ctx e (e.telemetry.capturedAt.getD now)
    simp only [Noted.value_bind, Noted.events_bind] at h ⊢
    rw [hwrite]
    generalize (write r.store ctx e (e.telemetry.capturedAt.getD now)).value = written at h ⊢
    rcases written with ⟨_ | snapshot, s⟩
    · rfl
    · -- reconciliation runs only here, behind a committed transaction
      simp at h

/-- The event of a rejection is not that of a gap. -/
lemma kind_rejectionEvent_ne (m : Message) (rejection : AdmissionRejection) :
    (rejectionEvent m rejection).kind ≠ .dataGapDetected := by
  rw [rejectionEvent]
  cases rejection.error <;> simp [AuditEvent.byActor, AuditEvent.detail, AuditEvent.graded,
    AuditEvent.of]

/-- The one event of a rejected message is that of its rejection. -/
lemma events_process_of_error {a : Admission} {now : Timestamp} {m : Message} {payload : Json}
    {r : Records} {rejection : AdmissionRejection}
    (h : (a.process now m payload r).value.1 = .error rejection) :
    (a.process now m payload r).events = [rejectionEvent m rejection] := by
  have hrun : (a.run now m.context m.topic payload r).value.1 = .error rejection := by
    simpa [process] using h
  have hevents := events_run_of_error hrun
  simp only [process, Noted.events_bind, hevents, hrun, report, Noted.events_pure]
  rfl

end Admission

/-! ### The world -/

/-- The outcome of a message as an answer of the gate. -/
def GateAnswer.ofOutcome : Except AdmissionRejection AdmissionReceipt → GateAnswer
  | .ok admitted => .receipt admitted
  | .error rejection => .rejected rejection

namespace World

/-- What becomes of a message that is sent to the gate. -/
def processed (w : World) (m : Message) (payload : Json) :
    Noted (Except AdmissionRejection AdmissionReceipt × Records) :=
  w.config.admission.process w.state.clock m payload w.state.records

variable {w : World} {m : Message} {payload : Json}

/-- The call gives and emits what becomes of the message, and moves the clock on. -/
lemma accept_eq : World.accept w.config m payload w.state =
    ⟨(GateAnswer.ofOutcome (w.processed m payload).value.1,
        { w.state with
          records := (w.processed m payload).value.2
          clock := w.state.clock.plusNanos Gate.tick }),
      (w.processed m payload).notes⟩ := by
  simp only [World.accept, Gate.accept, Gate.readClock, modifyGet, MonadStateOf.modifyGet,
    StateT.modifyGet, bind, StateT.bind, get, getThe, MonadStateOf.get, StateT.get, StateT.lift,
    modify, pure, processed]
  rcases w.config.admission.process w.state.clock m payload w.state.records with
    ⟨⟨rejection | receipt, records⟩, notes⟩
  · change Noted.mk _ (notes ++ [] ++ [] ++ []) = _
    simp only [List.append_nil]
    rfl
  · change Noted.mk _ (notes ++ [] ++ [] ++ []) = _
    simp only [List.append_nil]
    rfl

lemma answer_accept : (w.perform (.accept m payload)).answer =
    GateAnswer.ofOutcome (w.processed m payload).value.1 := by
  simp only [perform, answerWith, run, accept_eq]

lemma world_accept : (w.perform (.accept m payload)).world =
    { w with
      state :=
        { w.state with
          records := (w.processed m payload).value.2
          clock := w.state.clock.plusNanos Gate.tick }
      trail := (w.trail.deliverAll (w.processed m payload).events).1 } := by
  simp only [perform, answerWith, run, accept_eq]
  rfl

/-- A message that is answered with a rejection has ended in it. -/
lemma processed_of_rejected {rejection : AdmissionRejection}
    (h : (w.perform (.accept m payload)).answer = .rejected rejection) :
    (w.processed m payload).value.1 = .error rejection := by
  rw [answer_accept] at h
  rcases hended : (w.processed m payload).value.1 with rejection' | receipt
  · rw [hended] at h
    cases h
    rfl
  · rw [hended] at h
    cases h

/-- A message that is answered with a receipt has ended in it. -/
lemma processed_of_receipt {receipt : AdmissionReceipt}
    (h : (w.perform (.accept m payload)).answer = .receipt receipt) :
    (w.processed m payload).value.1 = .ok receipt := by
  rw [answer_accept] at h
  rcases hended : (w.processed m payload).value.1 with rejection | receipt'
  · rw [hended] at h
    cases h
  · rw [hended] at h
    cases h
    rfl

lemma Untouched.refl (w : World) : w.Untouched w :=
  ⟨.refl _, rfl, rfl, rfl, rfl⟩

lemma Untouched.trans {w' w'' : World} (h : w.Untouched w') (h' : w'.Untouched w'') :
    w.Untouched w'' where
  store := h.store.trans h'.store
  cache := h'.cache.trans h.cache
  config := h'.config.trans h.config
  transactions := h'.transactions.trans h.transactions
  gaps := h'.gaps.trans h.gaps

/-- A message that ends in a rejection leaves the world untouched. -/
lemma untouched_of_processed {rejection : AdmissionRejection}
    (h : (w.processed m payload).value.1 = .error rejection) :
    w.Untouched (w.perform (.accept m payload)).world := by
  obtain ⟨s, hrecords, hdrew⟩ := Admission.records_of_process_eq_error h
  have hevents := Admission.events_process_of_error h
  rw [world_accept]
  constructor
  · change w.store.OnlyDrew (w.processed m payload).value.2.store
    rw [processed, hrecords]
    exact hdrew
  · change (w.processed m payload).value.2.cache = w.state.records.cache
    rw [processed, hrecords]
  · rfl
  · rfl
  · refine AuditTrail.ofKind_deliverAll ?_
    rw [processed, hevents]
    simpa using Admission.kind_rejectionEvent_ne m rejection

/-- **Rejected messages leave no trace.**  Whatever was done before and whatever is down, a message
that is answered with a rejection leaves the world untouched, and no event that it emits is that of
a gap. -/
theorem untouched_of_rejected (w : World) (m : Message) (payload : Json)
    (rejection : AdmissionRejection)
    (h : (w.perform (.accept m payload)).answer = .rejected rejection) :
    w.Untouched (w.perform (.accept m payload)).world ∧
    ∀ e ∈ (World.accept w.config m payload w.state).events, e.kind ≠ .dataGapDetected := by
  have hended := processed_of_rejected h
  refine ⟨untouched_of_processed hended, ?_⟩
  have hevents : (World.accept w.config m payload w.state).events =
      [Admission.rejectionEvent m rejection] := by
    rw [accept_eq]
    exact Admission.events_process_of_error hended
  rw [hevents]
  simpa using Admission.kind_rejectionEvent_ne m rejection

/-- A gate with the records of a sample, on the host of these. -/
def sample (faults : Faults) : World where
  config :=
    { policy := { superusers := [], rules := [] }
      admission := { topicNamespace := none, sequenceTtl := 60 }
      publishSecret := none
      deviceTimeout := 300
      sweepInterval := 60 }
  state :=
    { records := Admission.Sample.records faults
      clock := ⟨0, 0⟩
      entropy := { seed := [] } }
  trail := { sink := .memory false }
  elapsed := 1

/-- A message that clears every check is still rejected when its transaction cannot be committed. -/
lemma answer_sample :
    ((sample (Faults.none.switch .commit true)).perform
      (.accept Admission.Sample.message Admission.Sample.payload)).answer =
      .rejected ⟨.attachmentChecked, .persistence⟩ := by
  have hfaults : ∀ call ∈ [StoreCall.findDevice, .findComponentType, .isAttached],
      Faults.none.switch .commit true call = false := by decide
  have hattached := Admission.reaches_attached_iff.2 ⟨_, _, Admission.Sample.clears 60 hfaults⟩
  have hdown : ¬ (Admission.Sample.records (Faults.none.switch .commit true)).store.Takes
      Admission.Sample.telemetry.readings.length := by
    intro htakes
    exact absurd htakes.commits (by decide)
  have hended : ((sample (Faults.none.switch .commit true)).processed Admission.Sample.message
      Admission.Sample.payload).value.1 = .error ⟨.attachmentChecked, .persistence⟩ :=
    Admission.process_eq_error_iff.2 ⟨_, hattached, .transaction hdown⟩
  rw [answer_accept, hended, GateAnswer.ofOutcome]

/-- It leaves no trace. -/
theorem untouched_sample :
    (sample (Faults.none.switch .commit true)).Untouched
      ((sample (Faults.none.switch .commit true)).perform
        (.accept Admission.Sample.message Admission.Sample.payload)).world :=
  (untouched_of_rejected _ _ _ _ answer_sample).1

/-- Messages that are all rejected leave the world untouched, however many there are. -/
theorem untouched_of_all_rejected (w : World) (messages : List (Message × Json))
    (h : ∀ step ∈ (w.performAll (messages.map fun p => .accept p.1 p.2)).1,
      ∃ rejection, step.1 = .rejected rejection) :
    w.Untouched (w.performAll (messages.map fun p => .accept p.1 p.2)).2 := by
  induction messages generalizing w with
  | nil => exact .refl w
  | cons p rest ih =>
      simp only [List.map_cons, performAll, List.forall_mem_cons] at h ⊢
      obtain ⟨⟨rejection, hfirst⟩, hrest⟩ := h
      have hstep := untouched_of_processed (processed_of_rejected hfirst)
      exact hstep.trans (ih _ hrest)

end World

end DeviceGate
