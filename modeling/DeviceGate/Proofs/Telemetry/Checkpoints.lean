import DeviceGate.Proofs.Telemetry.Transaction
import Mathlib.Logic.Relation

/-!
The checkpoints of a message, in their order.  A message stands where its last passed check has left
it, and the check that stands next either lets it pass or refuses it; a refusal therefore names the
first check that fails.

* `Admission.Passes`, `Admission.Fails`: what each check asks, and how it refuses.
* `Admission.FirstFailure`: the refusal of the first check that fails.
* `Admission.Admissible`: everything that a message needs to be admitted, as one list.
* `Admission.FirstFailure.unique`, `Admission.FirstFailure.not_admissible`: a message has one
  outcome.
* `Admission.leads_examine`: the checks lead from the arrival of a message to its transaction.
-/

namespace DeviceGate

/-! ### What the checks ask -/

/-- The payload repeats the device's serial number, which must not be empty. -/
def Device.IsRepeatedBy (d : Device) (payload : Json) : Prop :=
  ∃ serial, d.cpuSerial = some serial ∧ serial ≠ "" ∧
    payload.member? "cpu_serial" = some (.text serial)

/-- The payload carries its own digest under the device's secret, which must not be empty. -/
def Device.HasSigned (d : Device) (payload : Json) : Prop :=
  ∃ secret provided, d.hmacSecret = some secret ∧ secret ≠ "" ∧
    payload.member? Signature.field = some (.text provided) ∧
    Signature.agrees (Signature.sign secret payload) provided = true

namespace Admission

/-- Where a message stands, and what is known about it there. -/
inductive Standing where
  | arrived
  | onChannel
  | inNamespace
  | addressed (uuid : String)
  | read (uuid : String) (t : TelemetryPayload)
  | registered (t : TelemetryPayload) (d : Device)
  | online (t : TelemetryPayload) (d : Device)
  | supported (t : TelemetryPayload) (d : Device) (c : ComponentType)
  | recognized (t : TelemetryPayload) (d : Device) (c : ComponentType)
  | signed (t : TelemetryPayload) (d : Device) (c : ComponentType)
  | attached (t : TelemetryPayload) (d : Device)
  | stored (t : TelemetryPayload) (d : Device)

section Checks

variable (a : Admission) (s : Store) (topic : String) (payload : Json)

/-- The next check lets a message pass. -/
inductive Passes : Standing → Standing → Prop where
  | channel : "telemetry" ∈ Topic.segments topic → Passes .arrived .onChannel
  | space : (∀ n, a.topicNamespace = some n → (Topic.segments topic).head? = some n) →
      Passes .onChannel .inNamespace
  | address {uuid} : Topic.deviceId? topic = some uuid → Passes .inNamespace (.addressed uuid)
  | envelope {uuid t} : TelemetryPayload.ofJson? payload = .ok t →
      Passes (.addressed uuid) (.read uuid t)
  | registration {uuid t d} : s.findDevice uuid = .ok (some d) →
      Passes (.read uuid t) (.registered t d)
  | status {t d} : d.status = .online → Passes (.registered t d) (.online t d)
  | catalog {t d c} : s.findComponentType t.componentType = .ok (some c) →
      Passes (.online t d) (.supported t d c)
  | serial {t d c} : d.IsRepeatedBy payload → Passes (.supported t d c) (.recognized t d c)
  | signature {t d c} : d.HasSigned payload → Passes (.recognized t d c) (.signed t d c)
  | attachment {t d c} : s.isAttached d.id c.id t.instanceName = .ok true →
      Passes (.signed t d c) (.attached t d)
  | transaction {t d} : s.Takes t.readings.length → Passes (.attached t d) (.stored t d)

/-- The next check refuses a message. -/
inductive Fails : Standing → AdmissionRejection → Prop where
  | channel : "telemetry" ∉ Topic.segments topic →
      Fails .arrived ⟨.received, .malformed "topic is not a telemetry channel"⟩
  | space {n} : a.topicNamespace = some n → (Topic.segments topic).head? ≠ some n →
      Fails .onChannel ⟨.received, .malformed ("topic outside namespace " ++ n)⟩
  | address : Topic.deviceId? topic = none →
      Fails .inNamespace ⟨.received, .malformed "topic has no device segment"⟩
  | envelope {uuid fault} : TelemetryPayload.ofJson? payload = .error fault →
      Fails (.addressed uuid) ⟨.received, .malformed fault.message⟩
  | deviceLookUp {uuid t e} : s.findDevice uuid = .error e →
      Fails (.read uuid t) ⟨.received, .infrastructure "device lookup"⟩
  | registration {uuid t} : s.findDevice uuid = .ok none →
      Fails (.read uuid t) ⟨.received, .notFound "device not registered"⟩
  | status {t d} : d.status ≠ .online →
      Fails (.registered t d) ⟨.received, .deviceState d.status.name⟩
  | componentLookUp {t d e} : s.findComponentType t.componentType = .error e →
      Fails (.online t d) ⟨.deviceChecked, .infrastructure "component lookup"⟩
  | catalog {t d} : s.findComponentType t.componentType = .ok none →
      Fails (.online t d)
        ⟨.deviceChecked, .notFound ("unsupported component type: " ++ t.componentType)⟩
  | serialUnregistered {t d c} : d.cpuSerial = none ∨ d.cpuSerial = some "" →
      Fails (.supported t d c)
        ⟨.componentChecked, .integrity "device has no registered cpu_serial" false⟩
  | serialMissing {t d c serial} : d.cpuSerial = some serial → serial ≠ "" →
      (∀ claimed, payload.member? "cpu_serial" ≠ some (.text claimed)) →
      Fails (.supported t d c) ⟨.componentChecked, .integrity "payload missing cpu_serial" false⟩
  | serialMismatch {t d c serial claimed} : d.cpuSerial = some serial → serial ≠ "" →
      payload.member? "cpu_serial" = some (.text claimed) → claimed ≠ serial →
      Fails (.supported t d c)
        ⟨.componentChecked, .integrity "cpu_serial mismatch: possible storage-medium swap" true⟩
  | secretMissing {t d c} : d.hmacSecret = none ∨ d.hmacSecret = some "" →
      Fails (.recognized t d c) ⟨.componentChecked, .integrity "device has no HMAC secret" false⟩
  | signatureMissing {t d c secret} : d.hmacSecret = some secret → secret ≠ "" →
      (∀ provided, payload.member? Signature.field ≠ some (.text provided)) →
      Fails (.recognized t d c) ⟨.componentChecked, .integrity "missing signature" false⟩
  | signatureMismatch {t d c secret provided} : d.hmacSecret = some secret → secret ≠ "" →
      payload.member? Signature.field = some (.text provided) →
      Signature.agrees (Signature.sign secret payload) provided = false →
      Fails (.recognized t d c) ⟨.componentChecked, .integrity "HMAC signature mismatch" false⟩
  | attachmentLookUp {t d c e} : s.isAttached d.id c.id t.instanceName = .error e →
      Fails (.signed t d c) ⟨.integrityChecked, .infrastructure "attachment lookup"⟩
  | attachment {t d c} : s.isAttached d.id c.id t.instanceName = .ok false →
      Fails (.signed t d c)
        ⟨.integrityChecked, .notFound ("component " ++ c.name ++ " instance " ++ t.instanceName ++
          " not attached to device")⟩
  | transaction {t d} : ¬ s.Takes t.readings.length →
      Fails (.attached t d) ⟨.attachmentChecked, .persistence⟩

/-- A message comes to stand there, one check after the other. -/
def Reaches (st : Standing) : Prop :=
  Relation.ReflTransGen (a.Passes s topic payload) .arrived st

/-- The first check that fails refuses the message in this way. -/
def FirstFailure (rejection : AdmissionRejection) : Prop :=
  ∃ st, a.Reaches s topic payload st ∧ a.Fails s topic payload st rejection

/-- What a message needs to come to its transaction, for the device, the envelope and the component
that it turns out to be about. -/
structure Clears (uuid : String) (t : TelemetryPayload) (d : Device) (c : ComponentType) :
    Prop where
  onChannel : "telemetry" ∈ Topic.segments topic
  inNamespace : ∀ n, a.topicNamespace = some n → (Topic.segments topic).head? = some n
  addressed : Topic.deviceId? topic = some uuid
  read : TelemetryPayload.ofJson? payload = .ok t
  registered : s.findDevice uuid = .ok (some d)
  online : d.status = .online
  supported : s.findComponentType t.componentType = .ok (some c)
  recognized : d.IsRepeatedBy payload
  signed : d.HasSigned payload
  attached : s.isAttached d.id c.id t.instanceName = .ok true

/-- The message clears every check, and the store takes it. -/
def Admissible : Prop :=
  ∃ uuid t d c, a.Clears s topic payload uuid t d c ∧ s.Takes t.readings.length

end Checks

/-! ### One check at a time -/

variable {a : Admission} {s : Store} {topic : String} {payload : Json}

/-- Where a message stands, the next check has one way to let it pass. -/
lemma passes_rightUnique : Relator.RightUnique (a.Passes s topic payload) := by
  intro st next next' h h'
  cases h <;> (cases h'; simp_all)

/-- An empty serial number or secret is none. -/
lemma not_usable {field : Option String} (h : field = none ∨ field = some "") {text : String}
    (hsome : field = some text) : text = "" := by
  rcases h with rfl | rfl
  · cases hsome
  · exact (Option.some.inj hsome).symm

/-- A check that lets a message pass does not refuse it. -/
lemma Fails.not_passes {st next : Standing} {rejection : AdmissionRejection}
    (h : a.Fails s topic payload st rejection) : ¬ a.Passes s topic payload st next := by
  intro h'
  cases h with
  | serialUnregistered hnone =>
      obtain ⟨serial, hserial, hne, -⟩ := by cases h' with | serial hrepeated => exact hrepeated
      exact hne (not_usable hnone hserial)
  | secretMissing hnone =>
      obtain ⟨secret, -, hsecret, hne, -⟩ := by cases h' with | signature hsigned => exact hsigned
      exact hne (not_usable hnone hsecret)
  | _ =>
      cases h'
      simp_all [Device.IsRepeatedBy, Device.HasSigned]

/-- A check refuses a message in one way. -/
lemma Fails.unique {st : Standing} {rejection rejection' : AdmissionRejection}
    (h : a.Fails s topic payload st rejection) (h' : a.Fails s topic payload st rejection') :
    rejection = rejection' := by
  cases h with
  | serialUnregistered hnone =>
      cases h' with
      | serialUnregistered => rfl
      | serialMissing hsome hne => exact absurd (not_usable hnone hsome) hne
      | serialMismatch hsome hne => exact absurd (not_usable hnone hsome) hne
  | secretMissing hnone =>
      cases h' with
      | secretMissing => rfl
      | signatureMissing hsome hne => exact absurd (not_usable hnone hsome) hne
      | signatureMismatch hsome hne => exact absurd (not_usable hnone hsome) hne
  | _ => cases h' <;> simp_all

/-- A message is refused in one way only. -/
lemma FirstFailure.unique {rejection rejection' : AdmissionRejection}
    (h : a.FirstFailure s topic payload rejection)
    (h' : a.FirstFailure s topic payload rejection') : rejection = rejection' := by
  obtain ⟨st, hst, hfails⟩ := h
  obtain ⟨st', hst', hfails'⟩ := h'
  -- the longer of the two ways passes the check at which the shorter one ends
  rcases Relation.ReflTransGen.total_of_right_unique passes_rightUnique hst hst' with hmore | hmore
  · rcases hmore.cases_head with rfl | ⟨next, hpasses, -⟩
    · exact hfails.unique hfails'
    · exact absurd hpasses hfails.not_passes
  · rcases hmore.cases_head with rfl | ⟨next, hpasses, -⟩
    · exact hfails.unique hfails'
    · exact absurd hpasses hfails'.not_passes

/-! ### What is known behind the checks -/

/-- A message that has moved on has passed the check just behind it. -/
lemma Reaches.last {st : Standing} (h : a.Reaches s topic payload st) (hne : st ≠ .arrived) :
    ∃ before, a.Reaches s topic payload before ∧ a.Passes s topic payload before st := by
  rcases Relation.ReflTransGen.cases_tail h with rfl | hlast
  · exact absurd rfl hne
  · exact hlast

/-- A message comes to its transaction exactly when it clears every check. -/
lemma reaches_attached_iff {t : TelemetryPayload} {d : Device} :
    a.Reaches s topic payload (.attached t d) ↔ ∃ uuid c, a.Clears s topic payload uuid t d c := by
  constructor
  · intro h
    obtain ⟨_, h, hlast⟩ := h.last (by simp)
    cases hlast with | attachment hattached
    obtain ⟨_, h, hlast⟩ := h.last (by simp)
    cases hlast with | signature hsigned
    obtain ⟨_, h, hlast⟩ := h.last (by simp)
    cases hlast with | serial hrecognized
    obtain ⟨_, h, hlast⟩ := h.last (by simp)
    cases hlast with | catalog hsupported
    obtain ⟨_, h, hlast⟩ := h.last (by simp)
    cases hlast with | status honline
    obtain ⟨_, h, hlast⟩ := h.last (by simp)
    cases hlast with | registration hregistered
    obtain ⟨_, h, hlast⟩ := h.last (by simp)
    cases hlast with | envelope hread
    obtain ⟨_, h, hlast⟩ := h.last (by simp)
    cases hlast with | address haddressed
    obtain ⟨_, h, hlast⟩ := h.last (by simp)
    cases hlast with | space hspace
    obtain ⟨_, h, hlast⟩ := h.last (by simp)
    cases hlast with | channel hchannel
    exact ⟨_, _, ⟨hchannel, hspace, haddressed, hread, hregistered, honline, hsupported,
      hrecognized, hsigned, hattached⟩⟩
  · rintro ⟨uuid, c, h⟩
    exact Relation.ReflTransGen.refl
      |>.tail (.channel h.onChannel) |>.tail (.space h.inNamespace) |>.tail (.address h.addressed)
      |>.tail (.envelope h.read) |>.tail (.registration h.registered) |>.tail (.status h.online)
      |>.tail (.catalog h.supported) |>.tail (.serial h.recognized) |>.tail (.signature h.signed)
      |>.tail (.attachment h.attached)

/-- A message passes every check exactly when it is admissible. -/
lemma exists_reaches_stored_iff :
    (∃ t d, a.Reaches s topic payload (.stored t d)) ↔ a.Admissible s topic payload := by
  constructor
  · rintro ⟨t, d, h⟩
    obtain ⟨_, h, hlast⟩ := h.last (by simp)
    cases hlast with | transaction htakes
    obtain ⟨uuid, c, hclears⟩ := reaches_attached_iff.1 h
    exact ⟨uuid, t, d, c, hclears, htakes⟩
  · rintro ⟨uuid, t, d, c, hclears, htakes⟩
    exact ⟨t, d, .tail (reaches_attached_iff.2 ⟨uuid, c, hclears⟩) (.transaction htakes)⟩

/-- A message is about one device, and says one thing. -/
lemma Clears.unique {uuid uuid' : String} {t t' : TelemetryPayload} {d d' : Device}
    {c c' : ComponentType} (h : a.Clears s topic payload uuid t d c)
    (h' : a.Clears s topic payload uuid' t' d' c') : t = t' ∧ d = d' := by
  obtain rfl : uuid = uuid' := Option.some.inj (h.addressed.symm.trans h'.addressed)
  exact ⟨Except.ok.inj (h.read.symm.trans h'.read),
    Option.some.inj (Except.ok.inj (h.registered.symm.trans h'.registered))⟩

/-- A message that some check refuses is not admissible. -/
lemma FirstFailure.not_admissible {rejection : AdmissionRejection}
    (h : a.FirstFailure s topic payload rejection) : ¬ a.Admissible s topic payload := by
  rw [← exists_reaches_stored_iff]
  rintro ⟨t, d, hstored⟩
  obtain ⟨st, hst, hfails⟩ := h
  rcases Relation.ReflTransGen.total_of_right_unique passes_rightUnique hst hstored with
    hmore | hmore
  · rcases hmore.cases_head with rfl | ⟨next, hpasses, -⟩
    · cases hfails
    · exact hfails.not_passes hpasses
  · rcases hmore.cases_head with rfl | ⟨next, hpasses, -⟩
    · cases hfails
    · cases hpasses

/-! ### What the checks give -/

/-- What a check gives, without what it notes on the way. -/
def outcome {α : Type} (x : Check α) : Except AdmissionRejection α :=
  x.run.value

section Outcome

variable {α β : Type}

@[simp] lemma outcome_pure (v : α) : outcome (pure v) = .ok v :=
  rfl

@[simp] lemma outcome_bind (x : Check α) (f : α → Check β) :
    outcome (x >>= f) = outcome x >>= fun v => outcome (f v) := by
  unfold outcome
  rw [ExceptT.run_bind, Noted.value_bind]
  rcases x.run.value with rejection | v
  · rfl
  · rfl

@[simp] lemma outcome_lift (x : Noted α) : outcome (ExceptT.lift x) = .ok x.value := by
  simp [outcome]

@[simp] lemma outcome_refuse (stage : AdmissionStage) (error : AdmissionError) :
    outcome (refuse stage error : Check α) = .error ⟨stage, error⟩ :=
  rfl

@[simp] lemma outcome_checkAt (stage : AdmissionStage) (r : Except AdmissionError α) :
    outcome (checkAt stage r) = r.mapError fun error => ⟨stage, error⟩ := by
  cases r <;> rfl

@[simp] lemma outcome_lookUp (ctx : LogContext) (stage : AdmissionStage) (event what : String)
    (r : Except StoreError α) :
    outcome (lookUp ctx stage event what r) =
      r.mapError fun _ => ⟨stage, .infrastructure what⟩ := by
  cases r <;> rfl

end Outcome

/-! ### The way of a message -/

/-- From one standing, the checks lead to another, or they refuse the message on the way. -/
def Leads (a : Admission) (s : Store) (topic : String) (payload : Json) (st : Standing) :
    Except AdmissionRejection Standing → Prop
  | .ok next => Relation.ReflTransGen (a.Passes s topic payload) st next
  | .error rejection => ∃ last, Relation.ReflTransGen (a.Passes s topic payload) st last ∧
      a.Fails s topic payload last rejection

lemma leads_of_passes {st next : Standing} (h : a.Passes s topic payload st next) :
    a.Leads s topic payload st (.ok next) :=
  .single h

lemma leads_of_fails {st : Standing} {rejection : AdmissionRejection}
    (h : a.Fails s topic payload st rejection) : a.Leads s topic payload st (.error rejection) :=
  ⟨st, .refl, h⟩

/-- A message goes on from where it stands. -/
lemma Leads.trans {st next : Standing} {r : Except AdmissionRejection Standing}
    (h : Relation.ReflTransGen (a.Passes s topic payload) st next)
    (h' : a.Leads s topic payload next r) : a.Leads s topic payload st r := by
  cases r with
  | ok last => exact Relation.ReflTransGen.trans h h'
  | error rejection =>
      obtain ⟨last, hlast, hfails⟩ := h'
      exact ⟨last, h.trans hlast, hfails⟩

/-- Two checks, one after the other, lead as far as both of them. -/
lemma Leads.bind {α β : Type} {st : Standing} {x : Except AdmissionRejection α}
    {f : α → Except AdmissionRejection β} {next : α → Standing} {next' : β → Standing}
    (h : a.Leads s topic payload st (x.map next))
    (h' : ∀ v, a.Leads s topic payload (next v) ((f v).map next')) :
    a.Leads s topic payload st ((x >>= f).map next') := by
  cases x with
  | ok v => exact Leads.trans h (h' v)
  | error rejection => exact h

/-- The first segment of a topic; there is one. -/
lemma namespaceOf_eq_iff {n : String} :
    Topic.namespaceOf topic = n ↔ (Topic.segments topic).head? = some n := by
  have hne : Topic.segments topic ≠ [] := by
    rw [Topic.segments]
    cases topic.toList with
    | nil => simp [Topic.splitChars]
    | cons c rest =>
        rw [Topic.splitChars]
        split
        · simp
        · split <;> simp
  rw [Topic.namespaceOf, List.headD_eq_head?_getD, List.head?_eq_some_head hne]
  simp

lemma leads_checkTopic :
    a.Leads s topic payload .arrived (((a.checkTopic topic).mapError
      (AdmissionRejection.mk .received)).map Standing.addressed) := by
  rw [checkTopic]
  by_cases htelemetry : "telemetry" ∈ Topic.segments topic
  · refine Leads.trans (.single (.channel htelemetry)) ?_
    rw [if_neg (by simpa [Topic.isTelemetry] using htelemetry)]
    rcases hspace : a.topicNamespace.filter fun n => Topic.namespaceOf topic ≠ n with _ | n
    · refine Leads.trans (.single (.space fun n hn => ?_)) ?_
      · rw [hn, Option.filter_eq_none_iff] at hspace
        exact namespaceOf_eq_iff.1 (by simpa using hspace n rfl)
      · rcases haddress : Topic.deviceId? topic with _ | uuid
        · exact leads_of_fails (.address haddress)
        · exact leads_of_passes (.address haddress)
    · obtain ⟨hn, hother⟩ := Option.filter_eq_some_iff.1 hspace
      refine leads_of_fails (.space hn ?_)
      rw [← namespaceOf_eq_iff.ne]
      simpa using hother
  · rw [if_pos (by simpa [Topic.isTelemetry] using htelemetry)]
    exact leads_of_fails (.channel htelemetry)

lemma leads_checkPayload {uuid : String} :
    a.Leads s topic payload (.addressed uuid) (((checkPayload payload).mapError
      (AdmissionRejection.mk .received)).map (Standing.read uuid)) := by
  rw [checkPayload]
  rcases h : TelemetryPayload.ofJson? payload with fault | t
  · exact leads_of_fails (.envelope h)
  · exact leads_of_passes (.envelope h)

lemma leads_checkDevice {ctx : LogContext} {uuid : String} {t : TelemetryPayload} :
    a.Leads s topic payload (.read uuid t)
      ((outcome (checkDevice s ctx uuid)).map (Standing.online t)) := by
  rw [checkDevice]
  rcases h : s.findDevice uuid with e | _ | d
  · exact leads_of_fails (.deviceLookUp h)
  · exact leads_of_fails (.registration h)
  · refine Leads.trans (.single (.registration h)) ?_
    change a.Leads s topic payload _
      ((outcome (checkAt .received d.checkOnline >>= fun _ => pure d)).map (Standing.online t))
    rw [outcome_bind, outcome_checkAt, Device.checkOnline]
    by_cases honline : d.status = .online
    · rw [if_pos honline]
      exact leads_of_passes (.status honline)
    · rw [if_neg honline]
      exact leads_of_fails (.status honline)

lemma leads_checkComponent {ctx : LogContext} {t : TelemetryPayload} {d : Device} :
    a.Leads s topic payload (.online t d)
      ((outcome (checkComponent s ctx t.componentType)).map (Standing.supported t d)) := by
  rw [checkComponent]
  rw [outcome_bind, outcome_lookUp]
  rcases h : s.findComponentType t.componentType with e | _ | c
  · exact leads_of_fails (.componentLookUp h)
  · exact leads_of_fails (.catalog h)
  · exact leads_of_passes (.catalog h)

/-- The text under a key of the payload, or none. -/
lemma bind_text?_eq_some_iff {key text : String} :
    (payload.member? key).bind Json.text? = some text ↔
      payload.member? key = some (.text text) := by
  rw [Option.bind_eq_some_iff]
  constructor
  · rintro ⟨value, hmember, htext⟩
    cases value <;> simp [Json.text?] at htext
    rw [hmember, htext]
  · intro hmember
    exact ⟨_, hmember, rfl⟩

lemma leads_checkSerial {ctx : LogContext} {t : TelemetryPayload} {d : Device} {c : ComponentType} :
    a.Leads s topic payload (.supported t d c)
      (((d.checkSerial ctx payload).value.result.mapError
        (AdmissionRejection.mk .componentChecked)).map fun _ => Standing.recognized t d c) := by
  rw [Device.checkSerial]
  rcases hregistered : nonempty? d.cpuSerial with _ | serial
  · exact leads_of_fails (.serialUnregistered (nonempty?_eq_none_iff.1 hregistered))
  · obtain ⟨hserial, hne⟩ := nonempty?_eq_some_iff.1 hregistered
    rcases hclaimed : (payload.member? "cpu_serial").bind Json.text? with _ | claimed
    · refine leads_of_fails (.serialMissing hserial hne fun claimed hmember => ?_)
      rw [bind_text?_eq_some_iff.2 hmember] at hclaimed
      cases hclaimed
    · have hmember := bind_text?_eq_some_iff.1 hclaimed
      by_cases heq : claimed = serial
      · simp only [heq, if_true]
        exact leads_of_passes (.serial ⟨serial, hserial, hne, heq ▸ hmember⟩)
      · simp only [heq, if_false]
        exact leads_of_fails (.serialMismatch hserial hne hmember heq)

lemma leads_checkSignature {ctx : LogContext} {t : TelemetryPayload} {d : Device}
    {c : ComponentType} :
    a.Leads s topic payload (.recognized t d c)
      (((d.checkSignature ctx payload).value.result.mapError
        (AdmissionRejection.mk .componentChecked)).map fun _ => Standing.signed t d c) := by
  rw [Device.checkSignature]
  rcases henrolled : nonempty? d.hmacSecret with _ | secret
  · exact leads_of_fails (.secretMissing (nonempty?_eq_none_iff.1 henrolled))
  · obtain ⟨hsecret, hne⟩ := nonempty?_eq_some_iff.1 henrolled
    rcases hprovided : (payload.member? Signature.field).bind Json.text? with _ | provided
    · refine leads_of_fails (.signatureMissing hsecret hne fun provided hmember => ?_)
      rw [bind_text?_eq_some_iff.2 hmember] at hprovided
      cases hprovided
    · have hmember := bind_text?_eq_some_iff.1 hprovided
      rcases hagrees : Signature.agrees (Signature.sign secret payload) provided with _ | _
      · simp only [hagrees, Bool.false_eq_true, if_false]
        exact leads_of_fails (.signatureMismatch hsecret hne hmember hagrees)
      · simp only [hagrees, if_true]
        exact leads_of_passes (.signature ⟨secret, provided, hsecret, hne, hmember, hagrees⟩)

lemma leads_checkIntegrity {ctx : LogContext} {t : TelemetryPayload} {d : Device}
    {c : ComponentType} :
    a.Leads s topic payload (.supported t d c)
      ((outcome (checkIntegrity ctx d payload)).map fun _ => Standing.signed t d c) := by
  simp only [checkIntegrity, outcome_bind, outcome_lift, outcome_checkAt]
  exact leads_checkSerial.bind fun _ => leads_checkSignature

lemma leads_checkAttachment {ctx : LogContext} {t : TelemetryPayload} {d : Device}
    {c : ComponentType} :
    a.Leads s topic payload (.signed t d c)
      ((outcome (checkAttachment s ctx d c t.instanceName)).map fun _ =>
        Standing.attached t d) := by
  rw [checkAttachment]
  rw [outcome_bind, outcome_lookUp]
  rcases h : s.isAttached d.id c.id t.instanceName with e | _ | _
  · exact leads_of_fails (.attachmentLookUp h)
  · exact leads_of_fails (.attachment h)
  · exact leads_of_passes (.attachment h)

/-- The checks of a message lead from its arrival to the transaction. -/
lemma leads_examine {ctx : LogContext} :
    a.Leads s topic payload .arrived
      ((outcome (a.examine s ctx topic payload)).map fun e => .attached e.telemetry e.device) := by
  simp only [examine, outcome_bind, outcome_checkAt]
  refine leads_checkTopic.bind fun uuid => ?_
  refine leads_checkPayload.bind fun t => ?_
  refine leads_checkDevice.bind fun d => ?_
  refine leads_checkComponent.bind fun c => ?_
  refine leads_checkIntegrity.bind fun _ => ?_
  refine leads_checkAttachment.bind fun _ => ?_
  exact .refl

end Admission

end DeviceGate
