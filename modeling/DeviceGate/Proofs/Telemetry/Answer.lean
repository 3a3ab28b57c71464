import DeviceGate.Proofs.Telemetry.Checkpoints

/-!
The answer to a message.  A message is admitted or refused as its checks and its transaction say;
but a message that is committed may still get no answer, if it asks the cache to keep its sequence
number for longer than the cache's clock counts.

* `Admission.answer?`: what the sender of a message learns.
* `Admission.Overreaches`: the message asks too much of the cache's clock.
* `Admission.run_cases`: how a message ends, and what has become of the cache then.
* `Admission.answer?_iff`: the answers, each under its exact condition.
-/

namespace DeviceGate

/-! ### The clock of the cache -/

/-- Asking for a value may drop its entry, and does nothing else to the cache. -/
lemma Cache.entries_of_get {c after : Cache} {key : String} {value : Option String}
    (h : c.get key = .ok (value, after)) : ∃ entries, after = { c with entries := entries } := by
  rw [Cache.get, bind_eq_ok_iff] at h
  obtain ⟨-, -, h⟩ := h
  split at h
  · obtain ⟨-, hafter⟩ := by simpa [pure_eq_ok_iff] using h
    exact ⟨c.entries, hafter⟩
  · split at h
    · obtain ⟨-, hafter⟩ := by simpa [pure_eq_ok_iff] using h
      exact ⟨_, hafter⟩
    · obtain ⟨-, hafter⟩ := by simpa [pure_eq_ok_iff] using h
      exact ⟨c.entries, hafter⟩

/-- So does looking up the last number. -/
lemma Cache.entries_of_lastSeen (c : Cache) (deviceId : Int) (instanceName : String) :
    ∃ entries, (c.lastSeen deviceId instanceName).2 = { c with entries := entries } := by
  rw [Cache.lastSeen]
  rcases hget : c.get (Sequence.key deviceId instanceName) with e | ⟨_ | raw, after⟩
  · exact ⟨c.entries, rfl⟩
  · obtain ⟨entries, hafter⟩ := Cache.entries_of_get hget
    exact ⟨entries, by simp only [hafter]⟩
  · obtain ⟨entries, hafter⟩ := Cache.entries_of_get hget
    refine ⟨entries, ?_⟩
    rcases hnumber : readUnsigned64? (Text.trim raw) with _ | n
    · simp only [hnumber, hafter]
    · simp only [hnumber, hafter]

namespace Sequence

/-- Keeping a number overruns a cache that answers and whose clock does not count that far. -/
lemma overrun_remember (ctx : LogContext) (ttl : Nat) (deviceId : Int) (instanceName : String)
    (current : Nat) (c : Cache) :
    (remember ctx ttl deviceId instanceName current c).value.overrun = true ↔
      c.overrun = true ∨ (c.unavailable = false ∧ Clock.after? c.now ttl = none) := by
  rw [remember, Cache.set, Cache.check]
  cases hunavailable : c.unavailable with
  | true => simp [bind, Except.bind]
  | false =>
      rcases hmoment : Clock.after? c.now ttl with _ | moment
      · simp [bind, Except.bind, pure, Except.pure]
      · simp [bind, Except.bind, pure, Except.pure]

/-- So does reconciling one. -/
lemma overrun_reconcile (ctx : LogContext) (ttl : Nat) (device : Device) (instanceName : String)
    (current : Nat) (c : Cache) :
    (reconcile ctx ttl device instanceName current c).value.2.overrun = true ↔
      c.overrun = true ∨ (c.unavailable = false ∧ Clock.after? c.now ttl = none) := by
  obtain ⟨entries, hseen⟩ := c.entries_of_lastSeen device.id instanceName
  simp only [reconcile, Noted.value_bind, Noted.value_pure, overrun_remember, hseen]

end Sequence

namespace Admission

/-- The message asks the cache to keep its sequence number, and the cache's clock does not count
that far. -/
def Overreaches (a : Admission) (payload : Json) (c : Cache) : Prop :=
  ∃ t current, TelemetryPayload.ofJson? payload = .ok t ∧ t.sequenceNumber = some current ∧
    c.unavailable = false ∧ Clock.after? c.now a.sequenceTtl = none

/-- What the sender of a message learns: nothing, if the cache overruns on the way. -/
def answer? (a : Admission) (now : Timestamp) (m : Message) (payload : Json) (r : Records) :
    Option (Except AdmissionRejection AdmissionReceipt) :=
  let (answer, after) := (a.process now m payload r).value
  if after.cache.overrun then none else some answer

variable {a : Admission}

/-! ### How a message ends -/

/-- Reconciling a message overruns the cache exactly when the message asks too much of it. -/
lemma overrun_reconcile {payload : Json} {e : Examined}
    (hread : TelemetryPayload.ofJson? payload = .ok e.telemetry) (ctx : LogContext) (c : Cache) :
    (a.reconcile ctx e c).value.2.overrun = true ↔
      c.overrun = true ∨ a.Overreaches payload c := by
  rw [reconcile]
  rcases hnumber : e.telemetry.sequenceNumber with _ | current
  · have hnot : ¬ a.Overreaches payload c := by
      rintro ⟨t, current, ht, hcurrent, -⟩
      rw [hread] at ht
      cases ht
      rw [hnumber] at hcurrent
      cases hcurrent
    simp [hnot]
  · have hiff : a.Overreaches payload c ↔
        c.unavailable = false ∧ Clock.after? c.now a.sequenceTtl = none := by
      constructor
      · rintro ⟨_, _, -, -, h⟩
        exact h
      · intro h
        exact ⟨e.telemetry, current, hread, hnumber, h⟩
    rw [hiff]
    exact Sequence.overrun_reconcile ..

/-- The device that was found is the first one of its uuid. -/
lemma find?_of_findDevice {s : Store} {uuid : String} {d : Device}
    (h : s.findDevice uuid = .ok (some d)) :
    d.uuid = uuid ∧ s.tables.devices.find? (fun x => x.uuid = d.uuid) = some d := by
  rw [Store.findDevice, Faults.check_bind_eq_ok_iff, pure_eq_ok_iff] at h
  have huuid : d.uuid = uuid := by simpa using List.find?_some h.2.symm
  exact ⟨huuid, huuid ▸ h.2.symm⟩

/-- It is registered. -/
lemma device?_isSome_of_findDevice {s : Store} {uuid : String} {d : Device}
    (h : s.findDevice uuid = .ok (some d)) : (s.tables.device? d.id).isSome = true := by
  rw [Tables.device?, List.find?_isSome]
  exact ⟨d, List.mem_of_find?_eq_some (find?_of_findDevice h).2, by simp⟩

/-- A message ends at the first check that fails, with no more than a snapshot id drawn, or it
passes every check; only then has the cache been asked for anything. -/
lemma run_cases (now : Timestamp) (ctx : LogContext) (topic : String) (payload : Json)
    (r : Records) :
    (∃ rejection s,
      (a.run now ctx topic payload r).value = (.error rejection, { r with store := s }) ∧
      r.store.OnlyDrew s ∧ a.FirstFailure r.store topic payload rejection) ∨
    (∃ receipt after, (a.run now ctx topic payload r).value = (.ok receipt, after) ∧
      a.Admissible r.store topic payload ∧
      (after.cache.overrun = true ↔ r.cache.overrun = true ∨ a.Overreaches payload r.cache)) := by
  have hleads : a.Leads r.store topic payload .arrived
      ((outcome (a.examine r.store ctx topic payload)).map fun e =>
        .attached e.telemetry e.device) := leads_examine
  rw [outcome] at hleads
  rw [run]
  rw [Noted.value_bind]
  generalize (a.examine r.store ctx topic payload).run.value = examined at hleads ⊢
  rcases examined with rejection | e
  · exact .inl ⟨rejection, r.store, rfl, .refl _, hleads⟩
  · obtain ⟨uuid, c, hclears⟩ := reaches_attached_iff.1 hleads
    have hwrite := exists_write_eq_some_iff r.store ctx e (e.telemetry.capturedAt.getD now)
      (device?_isSome_of_findDevice hclears.registered)
    have hdrew := @onlyDrew_of_write_eq_none r.store ctx e (e.telemetry.capturedAt.getD now)
    simp only [Noted.value_bind]
    generalize (write r.store ctx e (e.telemetry.capturedAt.getD now)).value = written
      at hwrite hdrew ⊢
    rcases written with ⟨_ | snapshot, s⟩
    · refine .inl ⟨_, s, rfl, hdrew rfl, _, hleads, .transaction ?_⟩
      rw [← hwrite]
      simp
    · refine .inr ⟨_, _, rfl, ⟨uuid, _, _, c, hclears, hwrite.1 ⟨snapshot, rfl⟩⟩, ?_⟩
      exact overrun_reconcile hclears.read ctx r.cache

/-- The value of a message is that of its way through the checks; the reports only add to the
log. -/
lemma value_process (now : Timestamp) (m : Message) (payload : Json) (r : Records) :
    (a.process now m payload r).value = (a.run now m.context m.topic payload r).value := by
  simp [process]

/-- A message ends in a rejection exactly when that is what the first check that fails says. -/
lemma process_eq_error_iff {now : Timestamp} {m : Message} {payload : Json} {r : Records}
    {rejection : AdmissionRejection} :
    (a.process now m payload r).value.1 = .error rejection ↔
      a.FirstFailure r.store m.topic payload rejection := by
  rw [value_process]
  rcases a.run_cases now m.context m.topic payload r with
    ⟨rejection', s, heq, -, hfirst⟩ | ⟨receipt, after, heq, hadmissible, -⟩
  · rw [heq]
    constructor
    · intro h
      cases h
      exact hfirst
    · intro h
      rw [hfirst.unique h]
  · rw [heq]
    constructor
    · intro h
      cases h
    · intro h
      exact absurd hadmissible h.not_admissible

/-- A message that is committed has cleared the checks, and the store has taken it. -/
lemma admissible_of_process_eq_ok {now : Timestamp} {m : Message} {payload : Json} {r : Records}
    {receipt : AdmissionReceipt} (h : (a.process now m payload r).value.1 = .ok receipt) :
    a.Admissible r.store m.topic payload := by
  rw [value_process] at h
  rcases a.run_cases now m.context m.topic payload r with
    ⟨rejection, s, heq, -⟩ | ⟨receipt', after, -, hadmissible, -⟩
  · rw [heq] at h
    cases h
  · exact hadmissible

/-- A message that ends in a rejection has at most drawn a snapshot id. -/
lemma records_of_process_eq_error {now : Timestamp} {m : Message} {payload : Json} {r : Records}
    {rejection : AdmissionRejection}
    (h : (a.process now m payload r).value.1 = .error rejection) :
    ∃ s, (a.process now m payload r).value.2 = { r with store := s } ∧ r.store.OnlyDrew s := by
  rw [value_process] at h ⊢
  rcases a.run_cases now m.context m.topic payload r with
    ⟨rejection', s, heq, hdrew, -⟩ | ⟨receipt, after, heq, -⟩
  · exact ⟨s, by rw [heq], hdrew⟩
  · rw [heq] at h
    cases h

/-- **The answers to a message.**  As long as the cache means anything, a message is admitted
exactly when it clears every check and the store takes it, unless it asks too much of the cache's
clock; it is refused exactly as the first check that fails says; and it gets no answer in the
remaining case, although the store has taken it then. -/
theorem answer?_iff (a : Admission) (now : Timestamp) (m : Message) (payload : Json) (r : Records)
    (hcache : r.cache.overrun = false) :
    ((∃ receipt, a.answer? now m payload r = some (.ok receipt)) ↔
      a.Admissible r.store m.topic payload ∧ ¬ a.Overreaches payload r.cache) ∧
    (∀ rejection, a.answer? now m payload r = some (.error rejection) ↔
      a.FirstFailure r.store m.topic payload rejection) ∧
    (a.answer? now m payload r = none ↔
      a.Admissible r.store m.topic payload ∧ a.Overreaches payload r.cache) := by
  have herror : ∀ rejection, a.FirstFailure r.store m.topic payload rejection ↔
      (a.process now m payload r).value.1 = .error rejection :=
    fun _ => process_eq_error_iff.symm
  simp only [answer?, herror, value_process]
  rcases a.run_cases now m.context m.topic payload r with
    ⟨rejection, s, heq, -, hfirst⟩ | ⟨receipt, after, heq, hadmissible, hoverrun⟩
  · simp [heq, hcache, hfirst.not_admissible]
  · by_cases hover : a.Overreaches payload r.cache
    · have : after.cache.overrun = true := hoverrun.2 (.inr hover)
      simp [heq, this, hadmissible, hover]
    · have : after.cache.overrun = false := by
        rw [← Bool.not_eq_true, hoverrun]
        simp [hcache, hover]
      simp [heq, this, hadmissible, hover]

/-! ### A message that clears every check -/

namespace Sample

/-- A registered device. -/
def device : Device where
  id := 1
  uuid := "D1"
  cpuSerial := some "10000000abcdef01"
  hmacSecret := some "S3cr3t-device-key"
  status := .online
  lastSeenAt := none

/-- A component that is wired to it. -/
def component : ComponentType where
  id := 3
  name := "DHT22"

/-- Records that know both, on a host that has been up for a second. -/
def records (faults : Faults) : Records where
  store :=
    { tables :=
        { devices := [device]
          componentTypes := [component]
          attachments := [{ deviceId := 1, componentTypeId := 3, instanceName := "gl" }] }
      faults := faults }
  cache := { now := 1 }

/-- The topic on which the device speaks. -/
def message : Message where
  id := "r1"
  topic := "ares4/D1/telemetry"
  transport := .mqtt

/-- What it says, with a sequence number. -/
def payload : Json :=
  .object
    [("component_type", .text "DHT22"), ("cpu_serial", .text "10000000abcdef01"),
     ("data", .array []), ("instance_name", .text "gl"), ("sequence_number", .ofNat 7),
     ("signature", .text "2ca020fef7c207c363bb35465f43a8a429671cdfd1a64eb4b11ed4baff9a315f"),
     ("snapshot_id", .text "snap-1")]

/-- The envelope of what it says. -/
def telemetry : TelemetryPayload where
  componentType := "DHT22"
  instanceName := "gl"
  snapshotId := "snap-1"
  capturedAt := none
  sequenceNumber := some 7
  readings := []

lemma signedText_payload :
    Signature.signedText payload =
      "\x7b\"component_type\":\"DHT22\",\"cpu_serial\":\"10000000abcdef01\",\"data\":[]," ++
        "\"instance_name\":\"gl\",\"sequence_number\":7,\"snapshot_id\":\"snap-1\"\x7d" := by
  cbv

lemma hasSigned : device.HasSigned payload := by
  refine ⟨_, _, rfl, by decide, rfl, ?_⟩
  rw [Signature.sign, signedText_payload]
  decide +kernel

/-- The message clears every check when no look-up is down. -/
lemma clears {faults : Faults} (sequenceTtl : Nat)
    (h : ∀ call ∈ [StoreCall.findDevice, .findComponentType, .isAttached], faults call = false) :
    (Admission.mk none sequenceTtl).Clears (records faults).store message.topic payload "D1"
      telemetry device component where
  onChannel := by decide
  inNamespace := by simp
  addressed := by decide
  read := by rfl
  registered := Faults.check_bind_of_up (h _ (by decide)) _
  online := rfl
  supported := Faults.check_bind_of_up (h _ (by decide)) _
  recognized := ⟨_, rfl, by decide, rfl⟩
  signed := hasSigned
  attached := Faults.check_bind_of_up (h _ (by decide)) _

lemma admissible (sequenceTtl : Nat) :
    (Admission.mk none sequenceTtl).Admissible (records .none).store message.topic payload :=
  ⟨"D1", telemetry, device, component, clears sequenceTtl fun _ _ => rfl,
    ⟨rfl, rfl, fun _ => rfl, fun _ _ => rfl, rfl, rfl⟩⟩

end Sample

/-- The message is admitted when its sequence number is to be kept for a minute, and gets no answer
when it is to be kept for as long as the clock counts. -/
theorem answer?_sample :
    (∃ receipt, (Admission.mk none 60).answer? ⟨0, 0⟩ Sample.message Sample.payload
      (Sample.records .none) = some (.ok receipt)) ∧
    (Admission.mk none Clock.greatest).answer? ⟨0, 0⟩ Sample.message Sample.payload
      (Sample.records .none) = none := by
  constructor
  · refine (answer?_iff _ _ _ _ _ rfl).1.2 ⟨Sample.admissible 60, ?_⟩
    rintro ⟨_, _, -, -, -, hclock⟩
    exact absurd hclock (by decide)
  · refine (answer?_iff _ _ _ _ _ rfl).2.2.2 ⟨Sample.admissible Clock.greatest, ?_⟩
    exact ⟨Sample.telemetry, 7, by rfl, rfl, rfl, by decide⟩

end Admission

end DeviceGate
