import DeviceGate.Proofs.Telemetry.Rejection
import DeviceGate.Proofs.Telemetry.SequenceCache
import DeviceGate.Proofs.Telemetry.Transmission

/-!
The gaps that are reported are those of the committed messages.  Messages come one after the other,
of any devices and instances, and some of them are rejected; in between the records change and time
goes by.  As long as the cache serves, it knows of each device and instance the number of the last
message that was admitted, and nothing else has a say in the gap of the next one.

* `Admission.Course`: the records, and the sequence numbers of the messages admitted so far.
* `Admission.Course.run`: the course of some messages, with what happens in between.
* `Admission.run_eq_ok`: what an admitted message has done to the cache.
* `Admission.Course.keeps_run`: the cache knows the numbers that have been admitted.
* `Admission.Course.serves_run`: no entry is over in a run that is shorter than their lifetime.
* `Admission.Course.gap_run`: the gaps that are reported, and the numbers that are known.
-/

namespace DeviceGate.Admission

/-! ### Admitted messages -/

section Admitted

variable {a : Admission} {now : Timestamp} {ctx : LogContext} {topic : String} {payload : Json}
  {r last : Records} {receipt : AdmissionReceipt}

/-- A message that is admitted has cleared the checks; its gap and its events are those of
reconciling it, behind the transaction. -/
lemma run_eq_ok (h : (a.run now ctx topic payload r).value = (.ok receipt, last)) :
    ∃ uuid t d c, a.Clears r.store topic payload uuid t d c ∧
      (a.reconcile ctx ⟨d, t⟩ r.cache).value = (receipt.gap, last.cache) ∧
      (a.run now ctx topic payload r).events = (a.reconcile ctx ⟨d, t⟩ r.cache).events := by
  have hleads : a.Leads r.store topic payload .arrived
      ((outcome (a.examine r.store ctx topic payload)).map fun e =>
        .attached e.telemetry e.device) := leads_examine
  have hexamine := a.emitsNothing_examine r.store ctx topic payload
  rw [outcome] at hleads
  rw [EmitsNothing] at hexamine
  rw [run] at h ⊢
  rw [Noted.value_bind] at h
  rw [Noted.events_bind, hexamine]
  generalize (a.examine r.store ctx topic payload).run.value = examined at hleads h ⊢
  rcases examined with rejection | e
  · cases h
  · obtain ⟨uuid, c, hclears⟩ := reaches_attached_iff.1 hleads
    have hwrite := events_write r.store ctx e (e.telemetry.capturedAt.getD now)
    simp only [Noted.value_bind, Noted.events_bind] at h ⊢
    rw [hwrite]
    generalize (write r.store ctx e (e.telemetry.capturedAt.getD now)).value = written at h ⊢
    rcases written with ⟨_ | snapshot, s⟩
    · cases h
    · refine ⟨uuid, _, _, c, hclears, ?_, ?_⟩
      · cases h
        rfl
      · simp

/-- The reports of an admitted message only add to the log. -/
lemma process_eq_ok {m : Message} (h : (a.process now m payload r).value.1 = .ok receipt) :
    ∃ uuid t d c, a.Clears r.store m.topic payload uuid t d c ∧
      (a.reconcile m.context ⟨d, t⟩ r.cache).value =
        (receipt.gap, (a.process now m payload r).value.2.cache) ∧
      (a.process now m payload r).events = (a.reconcile m.context ⟨d, t⟩ r.cache).events := by
  rw [value_process] at h ⊢
  rcases hrun : (a.run now m.context m.topic payload r).value with ⟨answer, last⟩
  rw [hrun] at h
  obtain rfl : answer = .ok receipt := h
  obtain ⟨uuid, t, d, c, hclears, hvalue, hevents⟩ := run_eq_ok hrun
  have hreports : (a.process now m payload r).events =
      (a.run now m.context m.topic payload r).events := by
    simp [process, hrun, report, Noted.events]
  exact ⟨uuid, t, d, c, hclears, hvalue, hreports.trans hevents⟩

end Admitted

section Reconcile

variable (a : Admission) (ctx : LogContext) {c : Cache} {h : Sequence.History}

/-- The gap before a message, by the numbers that are known. -/
def gapOf (h : Sequence.History) (d : Device) (t : TelemetryPayload) : Option SequenceGap :=
  t.sequenceNumber.bind fun current =>
    (h.lookup (d.id, t.instanceName)).bind fun last => Sequence.gap? last current

lemma reconcile_eq (hkeeps : c.Keeps h) (hserves : c.Serves) (d : Device) (t : TelemetryPayload) :
    (a.reconcile ctx ⟨d, t⟩ c).value.1 = gapOf h d t ∧
      (a.reconcile ctx ⟨d, t⟩ c).events =
        (gapOf h d t).toList.map (Sequence.gapEvent d t.instanceName) := by
  rw [reconcile, gapOf]
  rcases t.sequenceNumber with _ | current
  · exact ⟨rfl, rfl⟩
  · exact Sequence.reconcile_eq ctx a.sequenceTtl d t.instanceName current hkeeps hserves

/-- Only a number is kept. -/
lemma reconcile_snd (hserves : c.Serves) (d : Device) (t : TelemetryPayload) :
    (a.reconcile ctx ⟨d, t⟩ c).value.2 =
      match t.sequenceNumber with
      | none => c
      | some current =>
          (Sequence.remember ctx a.sequenceTtl d.id t.instanceName current c).value := by
  rw [reconcile]
  rcases t.sequenceNumber with _ | current
  · rfl
  · exact Sequence.reconcile_snd ctx a.sequenceTtl d t.instanceName current hserves

end Reconcile

/-! ### Courses -/

/-- The number that a message carries, for the device of its topic and the instance that it
names. -/
def numbered? (s : Store) (m : Message) (payload : Json) : Option ((ℤ × String) × ℕ) := do
  let uuid ← Topic.deviceId? m.topic
  let device ← (s.findDevice uuid).toOption.join
  let t ← (TelemetryPayload.ofJson? payload).toOption
  let number ← t.sequenceNumber
  return ((device.id, t.instanceName), number)

/-- What happens: a message comes, the records are changed in whatever way, or time goes by. -/
inductive Happening where
  | message (now : Timestamp) (m : Message) (payload : Json)
  | change (f : Store → Store)
  | wait (seconds : ℕ)

/-- The records, and the sequence numbers of the messages admitted so far, the last one first. -/
structure Course where
  records : Records
  history : Sequence.History := []

namespace Course

/-- The course behind one thing that happens.  Only the number of a message that is admitted becomes
part of the history. -/
def step (a : Admission) (c : Course) : Happening → Course
  | .message now m payload =>
      let (answer, after) := (a.process now m payload c.records).value
      { records := after
        history :=
          match answer with
          | .ok _ => (numbered? c.records.store m payload).toList ++ c.history
          | .error _ => c.history }
  | .change f => { c with records := { c.records with store := f c.records.store } }
  | .wait seconds =>
      { c with
        records :=
          { c.records with
            cache := { c.records.cache with now := c.records.cache.now + seconds } } }

/-- The course of all that happens. -/
def run (a : Admission) (c : Course) (happenings : List Happening) : Course :=
  happenings.foldl (step a) c

@[simp] lemma run_nil (a : Admission) (c : Course) : c.run a [] = c :=
  rfl

@[simp] lemma run_cons (a : Admission) (c : Course) (h : Happening) (rest : List Happening) :
    c.run a (h :: rest) = (c.step a h).run a rest :=
  rfl

@[simp] lemma history_step_change (a : Admission) (c : Course) (f : Store → Store) :
    (c.step a (.change f)).history = c.history :=
  rfl

@[simp] lemma store_step_change (a : Admission) (c : Course) (f : Store → Store) :
    (c.step a (.change f)).records.store = f c.records.store :=
  rfl

@[simp] lemma history_step_wait (a : Admission) (c : Course) (seconds : ℕ) :
    (c.step a (.wait seconds)).history = c.history :=
  rfl

@[simp] lemma store_step_wait (a : Admission) (c : Course) (seconds : ℕ) :
    (c.step a (.wait seconds)).records.store = c.records.store :=
  rfl

section Step

variable {a : Admission} {c : Course} {now : Timestamp} {m : Message} {payload : Json}

/-- A rejected message leaves cache and history as they are. -/
lemma step_of_error {rejection : AdmissionRejection}
    (h : (a.process now m payload c.records).value.1 = .error rejection) :
    (c.step a (.message now m payload)).records.cache = c.records.cache ∧
      (c.step a (.message now m payload)).history = c.history := by
  obtain ⟨s, hrecords, -⟩ := records_of_process_eq_error h
  simp only [step, h, hrecords, and_self]

/-- The number of a message that clears the checks. -/
lemma numbered?_eq {s : Store} {m : Message} {uuid : String} {t : TelemetryPayload} {d : Device}
    {component : ComponentType} (h : a.Clears s m.topic payload uuid t d component) :
    numbered? s m payload = t.sequenceNumber.map fun n => ((d.id, t.instanceName), n) := by
  simp only [numbered?, h.addressed, h.read, Option.bind_eq_bind, Option.bind_some, h.registered,
    Except.toOption, Option.join_some]
  cases t.sequenceNumber <;> rfl

lemma history_step_of_ok {receipt : AdmissionReceipt}
    (h : (a.process now m payload c.records).value.1 = .ok receipt) {uuid : String}
    {t : TelemetryPayload} {d : Device} {component : ComponentType}
    (hclears : a.Clears c.records.store m.topic payload uuid t d component) :
    (c.step a (.message now m payload)).history =
      (t.sequenceNumber.map fun n => ((d.id, t.instanceName), n)).toList ++ c.history := by
  simp only [step, h, numbered?_eq hclears]

/-- An admitted message adds its number, if it carries one, to the history and to the cache. -/
lemma step_of_ok (hserves : c.records.cache.Serves) {receipt : AdmissionReceipt}
    (h : (a.process now m payload c.records).value.1 = .ok receipt) :
    ∃ (t : TelemetryPayload) (d : Device), TelemetryPayload.ofJson? payload = .ok t ∧
      (c.step a (.message now m payload)).history =
        (t.sequenceNumber.map fun n => ((d.id, t.instanceName), n)).toList ++ c.history ∧
      (c.step a (.message now m payload)).records.cache =
        match t.sequenceNumber with
        | none => c.records.cache
        | some n => (Sequence.remember m.context a.sequenceTtl d.id t.instanceName n
            c.records.cache).value := by
  obtain ⟨uuid, t, d, component, hclears, hvalue, -⟩ := process_eq_ok h
  refine ⟨t, d, hclears.read, history_step_of_ok h hclears, ?_⟩
  rw [← reconcile_snd a m.context hserves, hvalue]
  rfl

/-- What happens keeps the cache in agreement with the history. -/
lemma keeps_step (hkeeps : c.records.cache.Keeps c.history) (hserves : c.records.cache.Serves)
    (happening : Happening) (hafter : (c.step a happening).records.cache.Serves) :
    (c.step a happening).records.cache.Keeps (c.step a happening).history := by
  cases happening with
  | change f => exact hkeeps
  | wait seconds => exact ⟨hkeeps.latest, hkeeps.bounded⟩
  | message now m payload =>
      rcases hanswer : (a.process now m payload c.records).value.1 with rejection | receipt
      · obtain ⟨hcache, hhistory⟩ := step_of_error hanswer
        rwa [hcache, hhistory]
      · obtain ⟨t, d, hread, hhistory, hcache⟩ := step_of_ok hserves hanswer
        rw [hcache] at hafter ⊢
        rw [hhistory]
        rcases hnumber : t.sequenceNumber with _ | n
        · exact hkeeps
        · rw [hnumber] at hafter
          obtain ⟨moment, hmoment⟩ :=
            Sequence.exists_after?_of_remember _ _ _ _ hserves.answers hafter.counts
          exact Sequence.keeps_remember m.context a.sequenceTtl t.instanceName n hkeeps
            hserves.answers d.id hmoment (TelemetryPayload.sequenceNumber_lt hread hnumber)

end Step

/-- A run keeps the cache in agreement with the history, as long as the cache serves. -/
lemma keeps_run {a : Admission} {c : Course} (hkeeps : c.records.cache.Keeps c.history)
    (happenings : List Happening)
    (hserves : ∀ before, before <+: happenings → (c.run a before).records.cache.Serves) :
    (c.run a happenings).records.cache.Keeps (c.run a happenings).history := by
  induction happenings generalizing c with
  | nil => exact hkeeps
  | cons happening rest ih =>
      have hfirst := hserves [] (List.nil_prefix)
      have hsecond := hserves [happening] ⟨rest, rfl⟩
      refine ih (keeps_step hkeeps hfirst happening hsecond) fun before hbefore => ?_
      exact hserves (happening :: before) ((List.prefix_cons_inj happening).2 hbefore)

/-! ### Runs that are shorter than the lifetime of an entry -/

/-- How many seconds go by. -/
def waited (happenings : List Happening) : ℕ :=
  (happenings.map fun | .wait seconds => seconds | _ => 0).sum

/-- So many seconds after the beginning of a run, the cache answers, and its entries last at least
as long as one that was made at the beginning. -/
structure Young (start ttl seconds : ℕ) (c : Cache) : Prop where
  answers : c.unavailable = false
  counts : c.overrun = false
  now_eq : c.now = start + seconds
  lasts : ∀ e ∈ c.entries, start + ttl ≤ e.2.expiresAt

section Young

variable {a : Admission} {start seconds : ℕ} {c : Course}

lemma Young.serves {ttl : ℕ} {c : Cache} (h : Young start ttl seconds c) (hlt : seconds < ttl) :
    c.Serves := by
  refine ⟨h.answers, h.counts, fun e he => ?_⟩
  have hlasts := h.lasts e he
  rw [h.now_eq]
  omega

/-- A number that is kept lasts for a whole lifetime. -/
lemma Young.remember {ttl : ℕ} {c : Cache} (h : Young start ttl seconds c)
    (hclock : start + seconds + ttl ≤ Clock.greatest) (ctx : LogContext)
    (deviceId : ℤ) (instanceName : String) (current : ℕ) :
    Young start ttl seconds (Sequence.remember ctx ttl deviceId instanceName current c).value := by
  have hmoment : Clock.after? c.now ttl = some (start + seconds + ttl) := by
    rw [Clock.after?_eq_some_iff, h.now_eq]
    exact ⟨hclock, rfl⟩
  rw [Sequence.value_remember ctx ttl instanceName current h.answers deviceId hmoment]
  refine { h with lasts := List.forall_mem_cons.2 ⟨?_, fun e he => ?_⟩ }
  · change start + ttl ≤ start + seconds + ttl
    omega
  · exact h.lasts e (List.mem_of_mem_filter he)

lemma Young.step (h : Young start a.sequenceTtl seconds c.records.cache)
    (happening : Happening) (hlt : seconds < a.sequenceTtl)
    (hclock : start + seconds + a.sequenceTtl ≤ Clock.greatest) :
    Young start a.sequenceTtl (seconds + waited [happening])
      (c.step a happening).records.cache := by
  cases happening with
  | change f => exact h
  | wait more =>
      refine { h with now_eq := ?_ }
      change c.records.cache.now + more = start + (seconds + (more + 0))
      rw [h.now_eq]
      omega
  | message now m payload =>
      rcases hanswer : (a.process now m payload c.records).value.1 with rejection | receipt
      · rw [(step_of_error hanswer).1]
        exact h
      · obtain ⟨t, d, -, -, hcache⟩ := step_of_ok (h.serves hlt) hanswer
        rw [hcache]
        rcases t.sequenceNumber with _ | n
        · exact h
        · exact h.remember hclock m.context d.id t.instanceName n

/-- The cache of a run that is shorter than the lifetime of an entry. -/
lemma Young.run (h : Young start a.sequenceTtl seconds c.records.cache)
    (happenings : List Happening) (hlt : seconds + waited happenings < a.sequenceTtl)
    (hclock : start + (seconds + waited happenings) + a.sequenceTtl ≤ Clock.greatest) :
    Young start a.sequenceTtl (seconds + waited happenings)
      (c.run a happenings).records.cache := by
  induction happenings generalizing seconds c with
  | nil => exact h
  | cons happening rest ih =>
      have hcons : waited (happening :: rest) = waited [happening] + waited rest := by
        simp [waited]
      rw [hcons] at hlt hclock
      rw [hcons, ← add_assoc]
      exact ih (h.step happening (by omega) (by omega)) (by omega) (by omega)

/-- **Lifetimes.**  An empty cache that answers serves during all of a run that is shorter than the
lifetime of an entry, as long as its clock gets that far. -/
theorem serves_run (a : Admission) (first : Records) (happenings : List Happening)
    (hempty : first.cache.entries = []) (hanswers : first.cache.unavailable = false)
    (hcounts : first.cache.overrun = false) (hwaited : waited happenings < a.sequenceTtl)
    (hclock : first.cache.now + waited happenings + a.sequenceTtl ≤ Clock.greatest)
    (before : List Happening) (hbefore : before <+: happenings) :
    (Course.run a { records := first } before).records.cache.Serves := by
  have hyoung : Young first.cache.now a.sequenceTtl 0 first.cache :=
    ⟨hanswers, hcounts, rfl, by simp [hempty]⟩
  have hle : waited before ≤ waited happenings := by
    obtain ⟨rest, rfl⟩ := hbefore
    simp [waited]
  exact (hyoung.run before (by omega) (by omega)).serves (by omega)

end Young

/-- **Gaps.**  Whatever messages of whatever devices and instances come in whatever order, and
whichever of them are rejected, the cache knows of each device and instance the number of the last
message that was admitted with one.  The gap of a message that is admitted is the one behind that
number, and the events of it are the event of that gap, if there is one; a message that is rejected
reports no gap. -/
theorem gap_run (a : Admission) (first : Records) (happenings : List Happening)
    (hempty : first.cache.entries = [])
    (hserves : ∀ before, before <+: happenings →
      (run a { records := first } before).records.cache.Serves) :
    let c := run a { records := first } happenings
    (∀ deviceId instanceName, (c.records.cache.lastSeen deviceId instanceName).1 =
      .ok (c.history.lookup (deviceId, instanceName))) ∧
    (∀ now m payload receipt, (a.process now m payload c.records).value.1 = .ok receipt →
      ∃ uuid t d component, a.Clears c.records.store m.topic payload uuid t d component ∧
        receipt.gap = gapOf c.history d t ∧
        (a.process now m payload c.records).events =
          receipt.gap.toList.map (Sequence.gapEvent d t.instanceName)) ∧
    (∀ now m payload rejection, (a.process now m payload c.records).value.1 = .error rejection →
      ∀ e ∈ (a.process now m payload c.records).events, e.kind ≠ .dataGapDetected) := by
  intro c
  have hfirst : first.cache.Keeps [] :=
    ⟨fun _ _ => by rw [hempty]; rfl, fun _ he => absurd he List.not_mem_nil⟩
  have hkeeps : c.records.cache.Keeps c.history := keeps_run hfirst happenings hserves
  have hlast : c.records.cache.Serves := hserves happenings List.prefix_rfl
  refine ⟨hkeeps.lastSeen hlast, fun now m payload receipt hok => ?_, ?_⟩
  · obtain ⟨uuid, t, d, component, hclears, hvalue, hevents⟩ := process_eq_ok hok
    obtain ⟨hgap, hreported⟩ := reconcile_eq a m.context hkeeps hlast d t
    rw [hvalue] at hgap
    refine ⟨uuid, t, d, component, hclears, hgap, ?_⟩
    rw [hevents, hreported, ← hgap]
  · intro now m payload rejection herror e he
    rw [events_process_of_error herror, List.mem_singleton] at he
    rw [he]
    exact kind_rejectionEvent_ne m rejection

end Course

/-! ### A gap -/

/-- A message that is admissible is admitted. -/
lemma exists_process_eq_ok {a : Admission} {m : Message} {payload : Json} {r : Records}
    (now : Timestamp) (h : a.Admissible r.store m.topic payload) :
    ∃ receipt, (a.process now m payload r).value.1 = .ok receipt := by
  rcases hanswer : (a.process now m payload r).value.1 with rejection | receipt
  · exact absurd h (process_eq_error_iff.1 hanswer).not_admissible
  · exact ⟨receipt, rfl⟩

/-- The history behind the first message, whatever has been written since. -/
lemma Course.history_run_first {a : Admission} {now : Timestamp} {m : Message} {payload : Json}
    {r : Records} {uuid : String} {t : TelemetryPayload} {d : Device} {component : ComponentType}
    (hclears : a.Clears r.store m.topic payload uuid t d component)
    (htakes : r.store.Takes t.readings.length) (f : Store → Store) (seconds : ℕ) :
    (run a { records := r } [.message now m payload, .change f, .wait seconds]).history =
      (t.sequenceNumber.map fun n => ((d.id, t.instanceName), n)).toList := by
  obtain ⟨receipt, hok⟩ := exists_process_eq_ok now ⟨_, _, _, _, hclears, htakes⟩
  have hstep := history_step_of_ok (c := { records := r }) hok hclears
  rw [List.append_nil] at hstep
  simp only [run_cons, run_nil, history_step_wait, history_step_change, hstep]

namespace Sample

/-- What the device of the samples says next, when two of its messages have been lost. -/
def laterPayload : Json :=
  Signature.attach "S3cr3t-device-key"
    [("component_type", .text "DHT22"), ("cpu_serial", .text "10000000abcdef01"),
     ("data", .array []), ("instance_name", .text "gl"), ("sequence_number", .ofNat 10),
     ("snapshot_id", .text "snap-2")]

/-- The envelope of what it says next. -/
def laterTelemetry : TelemetryPayload :=
  { telemetry with snapshotId := "snap-2", sequenceNumber := some 10 }

lemma clears_laterPayload (sequenceTtl : ℕ) :
    (Admission.mk none sequenceTtl).Clears (records .none).store message.topic laterPayload "D1"
      laterTelemetry device component :=
  { @clears .none sequenceTtl fun _ _ => rfl with
    read := by rfl
    recognized := ⟨_, rfl, by decide, rfl⟩
    signed := Signature.hasSigned_attach rfl (by decide) _ }

/-- The first message comes, another one writes to the records, and half a minute goes by. -/
def happenings : List Happening :=
  [.message ⟨0, 0⟩ message payload, .change fun _ => (records .none).store, .wait 30]

end Sample

/-- Two messages are missing between the first message of a device and its next one. -/
theorem Course.gap_run_sample :
    let a : Admission := ⟨none, 60⟩
    let c := Course.run a { records := Sample.records .none } Sample.happenings
    ∃ receipt,
      (a.process ⟨30, 0⟩ Sample.message Sample.laterPayload c.records).value.1 = .ok receipt ∧
        receipt.gap = some ⟨0, 8, 9⟩ := by
  intro a c
  have hserves := serves_run a (Sample.records .none) Sample.happenings rfl rfl rfl (by decide)
    (by decide)
  obtain ⟨-, hadmitted, -⟩ := gap_run a (Sample.records .none) Sample.happenings rfl hserves
  have hhistory : c.history = [((1, "gl"), 7)] := by
    have hclears := @Sample.clears .none 60 fun _ _ => rfl
    simp only [c, Sample.happenings]
    rw [history_run_first hclears ⟨rfl, rfl, fun _ => rfl, fun _ _ => rfl, rfl, rfl⟩]
    rfl
  have hstore : c.records.store = (Sample.records .none).store := by
    simp only [c, Sample.happenings, run_cons, run_nil, store_step_wait, store_step_change]
  have hclears : a.Clears c.records.store Sample.message.topic Sample.laterPayload "D1"
      Sample.laterTelemetry Sample.device Sample.component := by
    rw [hstore]
    exact Sample.clears_laterPayload 60
  have htakes : c.records.store.Takes Sample.laterTelemetry.readings.length := by
    rw [hstore]
    exact ⟨rfl, rfl, fun _ => rfl, fun _ _ => rfl, rfl, rfl⟩
  obtain ⟨receipt, hok⟩ := exists_process_eq_ok ⟨30, 0⟩ ⟨_, _, _, _, hclears, htakes⟩
  obtain ⟨uuid, t, d, component, hclears', hgap, -⟩ := hadmitted _ _ _ _ hok
  obtain ⟨rfl, rfl⟩ := hclears.unique hclears'
  refine ⟨receipt, hok, ?_⟩
  rw [hgap, hhistory]
  rfl

end DeviceGate.Admission
