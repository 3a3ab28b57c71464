import Mathlib
import DeviceGate.Proofs.Telemetry.Transport

/-!
Messages over HTTP.  A bridge publishes any message at one address, where a secret may be required;
telemetry may also come at an address of its own.  Behind the secret and behind the decoding of its
payload, a message goes by the segments of its topic, and telemetry is handed to one pipeline,
whichever of the two addresses it came to.

* `HttpRequest.Posts`: a request that posts a message to an endpoint.
* `Http.held?`: the payload of a message, which may be JSON within a text.
* `World.AnswersOnly`: a request that is answered, and that is all that happens.
* `World.Processes`: a request that is what the pipeline makes of a message.
* `World.publish_bridges`: what publishing does, next to what the address of telemetry does.
-/

namespace DeviceGate

/-- The request posts a message to an endpoint. -/
structure HttpRequest.Posts (r : HttpRequest) (e : Endpoint) (topic : String) (payload : Json) :
    Prop where
  addressed : Endpoint.ofTarget? r.target = some e
  posted : r.method = "POST"
  told : ∃ found, r.fields Http.messageForm = .ok found ∧
    found.lookup "topic" = some (.text topic) ∧ found.lookup "payload" = some payload

namespace Http

/-- What a payload holds: the JSON in its text if it is one, and otherwise itself. -/
def held? : Json → Option Json
  | .text raw => Json.read? raw
  | v => some v

lemma decodePayload_of_held {payload v : Json} (h : held? payload = some v)
    (complaint : String → String) : decodePayload complaint payload = .ok v := by
  cases payload with
  | text raw =>
      have hread : Json.read? raw = some v := h
      rw [decodePayload, hread]
  | _ =>
      obtain rfl := Option.some.inj h
      rfl

lemma decodePayload_of_unheld {payload : Json} (h : held? payload = none)
    (complaint : String → String) :
    ∃ raw, payload = .text raw ∧ decodePayload complaint payload =
      .error (.badRequest ("payload is not JSON: " ++ complaint raw)) := by
  cases payload with
  | text raw =>
      have hread : Json.read? raw = none := h
      refine ⟨raw, rfl, ?_⟩
      rw [decodePayload, hread]
  | _ => cases h

/-- The secret is presented if it is required. -/
lemma presentsSecret_iff {g : GateConfig} {r : HttpRequest} :
    presentsSecret g r = true ↔
      ∀ secret, g.publishSecret = some secret → r.header? secretHeader = some (.ofText secret) := by
  rcases hsecret : g.publishSecret with _ | secret
  · simp [presentsSecret, hsecret]
  · simp [presentsSecret, hsecret]

variable {found : List (String × Json)} {topic : String} {payload : Json}

lemma textField?_eq_some (h : found.lookup "topic" = some (.text topic)) :
    textField? found "topic" = some topic := by
  simp [textField?, field?, h, Json.text?]

/-- A payload that is null is read as one that is missing, which stands for null. -/
lemma field?_getD_eq (h : found.lookup "payload" = some payload) :
    (field? found "payload").getD .null = payload := by
  rw [field?, h]
  cases payload <;> rfl

end Http

namespace Gate

open Http

section Answers

variable {g : GateConfig} {r : HttpRequest} {topic : String} {payload v : Json} {s : GateState}

lemma respond_of_posts {e : Endpoint} (h : r.Posts e topic payload) (he : e.isReading = false) :
    respond g r = answer g r e := by
  simp [respond, h.addressed, Endpoint.answers, he, h.posted]

/-- Behind its secret, a message is routed by the kind of its topic. -/
lemma respond_publish (h : r.Posts .publish topic payload) (hsecret : presentsSecret g r = true)
    (hheld : held? payload = some v) :
    respond g r =
      match Topic.kind topic with
      | .telemetry => deliver g r topic v .mqtt
      | .image => forwardImage r.context topic v
      | .other => (do
          Act.log .warn (r.context.text ++ " PUBLISH_UNROUTABLE topic=" ++ topic)
          failWith (.badRequest ("no route for topic " ++ topic))) := by
  obtain ⟨found, hfields, htopic, hpayload⟩ := h.told
  rw [respond_of_posts h rfl]
  cases hkind : Topic.kind topic with
  | telemetry | image | other =>
      simp only [answer, withFields, hfields, answerPublish, hsecret, textField?_eq_some htopic,
        field?_getD_eq hpayload, decodePayload_of_held hheld, hkind, Option.getD_some,
        Bool.not_true, Bool.false_eq_true, if_false]

/-- Telemetry goes the same way at its own address. -/
lemma respond_telemetry (h : r.Posts .telemetry topic payload) (hheld : held? payload = some v) :
    respond g r = deliver g r topic v .http := by
  obtain ⟨found, hfields, htopic, hpayload⟩ := h.told
  rw [respond_of_posts h rfl]
  simp only [answer, withFields, hfields, answerTelemetry, textField?_eq_some htopic,
    field?_getD_eq hpayload, decodePayload_of_held hheld, Option.getD_some]

/-- Without the secret that is required, nothing happens. -/
lemma respond_of_locked (h : r.Posts .publish topic payload) (hsecret : presentsSecret g r = false)
    (s : GateState) :
    (respond g r s).value = (.ofError .unauthorized, s) ∧ (respond g r s).events = [] := by
  obtain ⟨found, hfields, -, -⟩ := h.told
  rw [respond_of_posts h rfl]
  simp only [answer, withFields, hfields, answerPublish, hsecret, Bool.not_false, if_true]
  exact ⟨rfl, rfl⟩

/-- Nor does anything where the payload is a text that holds no JSON. -/
lemma respond_of_unheld {e : Endpoint} (h : r.Posts e topic payload)
    (he : e = .publish ∧ presentsSecret g r = true ∨ e = .telemetry)
    (hheld : held? payload = none) (s : GateState) :
    ∃ raw, payload = .text raw ∧
      (respond g r s).value =
        (.ofError (.badRequest ("payload is not JSON: " ++ g.complaint raw)), s) ∧
      (respond g r s).events = [] := by
  obtain ⟨found, hfields, -, hpayload⟩ := h.told
  obtain ⟨raw, hraw, hdecode⟩ := decodePayload_of_unheld hheld g.complaint
  refine ⟨raw, hraw, ?_⟩
  rcases he with ⟨rfl, hsecret⟩ | rfl
  · rw [respond_of_posts h rfl]
    simp only [answer, withFields, hfields, answerPublish, hsecret, field?_getD_eq hpayload,
      hdecode, Bool.not_true, Bool.false_eq_true, if_false]
    exact ⟨rfl, rfl⟩
  · rw [respond_of_posts h rfl]
    simp only [answer, withFields, hfields, answerTelemetry, field?_getD_eq hpayload, hdecode]
    exact ⟨rfl, rfl⟩

/-- The pipeline reads the clock, and does the rest with the records. -/
lemma accept_eq (g : GateConfig) (m : Message) (v : Json) (s : GateState) :
    accept g m v s =
      ⟨((g.admission.process s.clock m v s.records).value.1,
        { s with
          records := (g.admission.process s.clock m v s.records).value.2
          clock := s.clock.plusNanos Gate.tick }),
        (g.admission.process s.clock m v s.records).notes⟩ := by
  refine Noted.ext rfl ?_
  change [] ++ ([] ++ (_ ++ [] ++ ([] ++ []))) = _
  simp only [List.nil_append, List.append_nil]

/-- What the caller learns about a message. -/
def replyOf : Except AdmissionRejection AdmissionReceipt → Reply
  | .ok _ => .ok .accepted
  | .error rejection => .ok (.rejected rejection.error.message)

/-- A message is handed to the pipeline, and the caller learns whether it was admitted. -/
lemma deliver_eq {m : Message} {t : Transport} (hm : m = ⟨r.id, topic, t⟩) (s : GateState) :
    (deliver g r topic v t s).value =
        (replyOf (g.admission.process s.clock m v s.records).value.1,
          { s with
            records := (g.admission.process s.clock m v s.records).value.2
            clock := s.clock.plusNanos Gate.tick }) ∧
      (deliver g r topic v t s).events =
        (g.admission.process s.clock m v s.records).events := by
  have hreply : deliver g r topic v t = accept g m v >>= fun outcome => pure (replyOf outcome) := by
    rw [deliver, hm]
    congr 1
    funext outcome
    cases outcome <;> rfl
  rw [hreply]
  simp [bind, StateT.bind, Act.pure_apply, accept_eq, Noted.events]

/-- A call on the record store leaves the rest of the state. -/
lemma withStore_eq {α : Type} (f : Store → Noted (α × Store)) (s : GateState) :
    withStore f s =
      ⟨((f s.records.store).value.1,
        { s with records := { s.records with store := (f s.records.store).value.2 } }),
        (f s.records.store).notes⟩ := by
  refine Noted.ext rfl ?_
  change [] ++ [] ++ (_ ++ [] ++ ([] ++ [])) = _
  simp only [List.nil_append, List.append_nil]

lemma tryStore_of_ok {α : Type} {f : Store → Except StoreError (α × Store)} {a : α}
    {store : Store} (h : f s.records.store = .ok (a, store)) :
    tryStore f s = ⟨(.ok a, { s with records := { s.records with store := store } }), []⟩ := by
  rw [tryStore, withStore_eq, h]
  rfl

lemma tryStore_of_error {α : Type} {f : Store → Except StoreError (α × Store)} {e : StoreError}
    (h : f s.records.store = .error e) : tryStore f s = ⟨(.error e, s), []⟩ := by
  rw [tryStore, withStore_eq, h]
  rfl

/-- An image is handed on. -/
lemma forwardImage_of_up (ctx : LogContext) (topic : String) (v : Json)
    (h : s.records.store.faults .ingestImage = false) :
    let images := s.records.store.tables.images ++ [(topic, v)]
    let store := { s.records.store with tables := { s.records.store.tables with images := images } }
    (forwardImage ctx topic v s).value =
        (.ok .accepted, { s with records := { s.records with store := store } }) ∧
      (forwardImage ctx topic v s).events = [] := by
  intro images store
  have hingest : s.records.store.ingestImage topic v = .ok store :=
    Faults.check_bind_of_up h _
  have htry := tryStore_of_ok (s := s) (f := fun s => (s.ingestImage topic v).map fun s => ((), s))
    (congrArg (Except.map fun s => ((), s)) hingest)
  simp only [forwardImage, bind, StateT.bind, htry]
  exact ⟨rfl, rfl⟩

/-- Where that fails, nothing happens. -/
lemma forwardImage_of_down (ctx : LogContext) (topic : String) (v : Json)
    (h : s.records.store.faults .ingestImage = true) :
    (forwardImage ctx topic v s).value =
        (⟨500, some (.failure "internal server error")⟩, s) ∧
      (forwardImage ctx topic v s).events = [] := by
  have hingest : s.records.store.ingestImage topic v = .error _ :=
    Faults.check_bind_of_down h _
  have htry := tryStore_of_error (s := s)
    (f := fun s => (s.ingestImage topic v).map fun s => ((), s))
    (congrArg (Except.map fun s => ((), s)) hingest)
  simp only [forwardImage, bind, StateT.bind, htry]
  exact ⟨rfl, rfl⟩

/-- A request that presents the secret is answered as if none were required. -/
lemma respond_unlocked (h : r.Posts .publish topic payload) (hsecret : presentsSecret g r = true) :
    respond g r = respond { g with publishSecret := none } r := by
  obtain ⟨found, hfields, -, -⟩ := h.told
  have hopen : presentsSecret { g with publishSecret := none } r = true := rfl
  have hdeliver : deliver { g with publishSecret := none } = deliver g := rfl
  rw [respond_of_posts h rfl, respond_of_posts h rfl]
  simp only [answer, withFields, hfields, answerPublish, hsecret, hopen, hdeliver]

end Answers

end Gate

namespace World

/-- The request is answered, and that is all that happens. -/
structure AnswersOnly (w : World) (r : HttpRequest) (reply : Reply) : Prop where
  answer : (w.perform (.http r)).answer = .reply reply
  world : (w.perform (.http r)).world = w
  emissions : w.emissions (.http r) = []

/-- One image is handed on, and that is all that happens. -/
structure Ingests (w : World) (r : HttpRequest) (topic : String) (v : Json) : Prop where
  answer : (w.perform (.http r)).answer = .reply (.ok .accepted)
  world : (w.perform (.http r)).world =
    w.withStore
      { w.store with
        tables := { w.store.tables with images := w.store.tables.images ++ [(topic, v)] } }
  emissions : w.emissions (.http r) = []

/-- The request is what the pipeline makes of one message: the caller learns whether it is admitted,
the records are those behind it, and its events are handed to the trail. -/
structure Processes (w : World) (r : HttpRequest) (m : Message) (v : Json) : Prop where
  answer : (w.perform (.http r)).answer = .reply (Gate.replyOf (w.processed m v).value.1)
  world : (w.perform (.http r)).world =
    { w with
      state :=
        { w.state with
          records := (w.processed m v).value.2
          clock := w.state.clock.plusNanos Gate.tick }
      trail := (w.trail.deliverAll (w.processed m v).events).1 }
  emissions : w.emissions (.http r) = (w.processed m v).events

/-- Two requests are answered alike and do the same; their events only differ in the transport that
they name, and it is these that the trail is handed. -/
structure Bridges (w : World) (r r' : HttpRequest) : Prop where
  answer : (w.perform (.http r)).answer = (w.perform (.http r')).answer
  world : ∀ trail,
    (w.perform (.http r)).world.onTrail trail = (w.perform (.http r')).world.onTrail trail
  emissions : w.emissions (.http r) = (w.emissions (.http r')).map (AuditEvent.via .mqtt)
  emissions' : w.emissions (.http r') = (w.emissions (.http r)).map (AuditEvent.via .http)
  trail : (w.perform (.http r)).world.trail = (w.trail.deliverAll (w.emissions (.http r))).1
  trail' : (w.perform (.http r')).world.trail = (w.trail.deliverAll (w.emissions (.http r'))).1

/-- The gate without a secret for publishing. -/
def unlocked (w : World) : World :=
  { w with config := { w.config with publishSecret := none } }

section Requests

variable {w : World} {r r' : HttpRequest} {topic : String} {payload v : Json}

lemma perform_http (w : World) (r : HttpRequest) :
    w.perform (.http r) = w.answerWith (.reply <$> Gate.respond w.config r) :=
  rfl

section Act

variable (w : World) (act : Act GateState Reply)

/-- The reply becomes the answer. -/
lemma map_reply (s : GateState) :
    (GateAnswer.reply <$> act : Act GateState GateAnswer) s =
      ⟨(.reply (act s).value.1, (act s).value.2), (act s).notes⟩ := by
  refine Noted.ext rfl ?_
  change _ ++ [] = _
  exact List.append_nil _

lemma answer_answerWith :
    (w.answerWith (.reply <$> act)).answer = .reply (act w.state).value.1 := by
  simp only [answerWith, run, map_reply]

/-- The rest is as the call leaves it, and its events go to the trail. -/
lemma world_answerWith :
    (w.answerWith (.reply <$> act)).world =
      { w with
        state := (act w.state).value.2
        trail := (w.trail.deliverAll (act w.state).events).1 } := by
  simp only [answerWith, run, map_reply]
  rfl

lemma events_map_reply (s : GateState) :
    ((GateAnswer.reply <$> act : Act GateState GateAnswer) s).events = (act s).events := by
  rw [map_reply]
  rfl

end Act

lemma answer_http :
    (w.perform (.http r)).answer = .reply (Gate.respond w.config r w.state).value.1 := by
  rw [perform_http, answer_answerWith]

lemma emissions_http : w.emissions (.http r) = (Gate.respond w.config r w.state).events := by
  have hreply : ∀ w : World, w.perform (.http r) =
      w.answerWith ((fun w : World => .reply <$> Gate.respond w.config r) w) :=
    fun w => perform_http w r
  rw [emissions_answerWith _ hreply fun _ => rfl, events_map_reply]

lemma world_http :
    (w.perform (.http r)).world =
      { w with
        state := (Gate.respond w.config r w.state).value.2
        trail := (w.trail.deliverAll (w.emissions (.http r))).1 } := by
  rw [perform_http, world_answerWith, emissions_http]

/-- What a reply that changes nothing comes to. -/
lemma answersOnly_of_respond {reply : Reply}
    (hvalue : (Gate.respond w.config r w.state).value = (reply, w.state))
    (hevents : (Gate.respond w.config r w.state).events = []) : w.AnswersOnly r reply where
  answer := by rw [answer_http, hvalue]
  world := by rw [world_http, emissions_http, hevents, hvalue]; rfl
  emissions := by rw [emissions_http, hevents]

lemma unlocked_of_presented (hr : r.Posts .publish topic payload)
    (hsecret : Http.presentsSecret w.config r = true) :
    (w.perform (.http r)).answer = (w.unlocked.perform (.http r)).answer ∧
      (w.perform (.http r)).world =
        { (w.unlocked.perform (.http r)).world with config := w.config } ∧
      w.emissions (.http r) = w.unlocked.emissions (.http r) := by
  have hsame : Gate.respond w.config r = Gate.respond w.unlocked.config r :=
    Gate.respond_unlocked hr hsecret
  have hstate : w.unlocked.state = w.state := rfl
  have htrail : w.unlocked.trail = w.trail := rfl
  refine ⟨?_, ?_, ?_⟩
  · rw [answer_http, answer_http, hsame, hstate]
  · simp only [world_http, emissions_http, hsame, hstate, htrail]
    rfl
  · rw [emissions_http, emissions_http, hsame, hstate]

lemma ingests_of_respond
    (hup : w.store.faults .ingestImage = false)
    (h : Gate.respond w.config r = Gate.forwardImage r.context topic v) :
    w.Ingests r topic v := by
  obtain ⟨hvalue, hevents⟩ := Gate.forwardImage_of_up r.context topic v (s := w.state) hup
  rw [← h] at hvalue hevents
  constructor
  · rw [answer_http, hvalue]
  · rw [world_http, emissions_http, hevents, hvalue]
    rfl
  · rw [emissions_http, hevents]

lemma processes_of_respond {t : Transport}
    (h : Gate.respond w.config r = Gate.deliver w.config r topic v t) :
    w.Processes r ⟨r.id, topic, t⟩ v := by
  obtain ⟨hvalue, hevents⟩ := Gate.deliver_eq (g := w.config) (v := v) rfl w.state
  rw [← h] at hvalue hevents
  have hemissions : w.emissions (.http r) = (w.processed ⟨r.id, topic, t⟩ v).events :=
    emissions_http.trans hevents
  exact ⟨by rw [answer_http, hvalue]; rfl, by rw [world_http, hemissions, hvalue]; rfl, hemissions⟩

/-- The pipeline makes the same of a message whichever way it came. -/
lemma Processes.bridges {m m' : Message} (h : w.Processes r m v) (h' : w.Processes r' m' v)
    (htopic : m.topic = m'.topic) (hmqtt : m.transport = .mqtt) (hhttp : m'.transport = .http) :
    w.Bridges r r' := by
  have hsame : (w.processed m v).value = (w.processed m' v).value :=
    Admission.value_process_eq htopic
  refine ⟨?_, fun trail => ?_, ?_, ?_, ?_, ?_⟩
  · rw [h.answer, h'.answer, hsame]
  · simp only [h.world, h'.world, hsame, onTrail]
  · rw [h.emissions, h'.emissions, ← hmqtt]
    exact Admission.events_process_eq htopic
  · rw [h.emissions, h'.emissions, ← hhttp]
    exact Admission.events_process_eq htopic.symm
  · rw [h.world, h.emissions]
  · rw [h'.world, h'.emissions]

/-- **One gate, one pipeline.**  Two requests post the same message: one of them publishes it, and
the other one brings it to the address of telemetry.  Publishing without the secret that is required
is refused, and nothing happens; with it, all is as if none were required.  A payload that is a text
without JSON is refused at both addresses.  Otherwise the topic decides: what has a segment
`telemetry` is answered and treated as at the address of telemetry, where the pipeline gets it; what
has a segment `images` is handed on as an image, unless that fails, and for all else there is no
route. -/
theorem publish_bridges (w : World) (hr : r.Posts .publish topic payload)
    (hr' : r'.Posts .telemetry topic payload) :
    (∀ secret, w.config.publishSecret = some secret →
      r.header? Http.secretHeader ≠ some (.ofText secret) →
      w.AnswersOnly r ⟨401, some (.failure "unauthorized")⟩) ∧
    ((∀ secret, w.config.publishSecret = some secret →
        r.header? Http.secretHeader = some (.ofText secret)) →
      ((w.perform (.http r)).answer = (w.unlocked.perform (.http r)).answer ∧
        (w.perform (.http r)).world =
          { (w.unlocked.perform (.http r)).world with config := w.config } ∧
        w.emissions (.http r) = w.unlocked.emissions (.http r)) ∧
      (Http.held? payload = none → ∃ raw, payload = .text raw ∧ w.AnswersOnly r
        ⟨400, some (.failure ("payload is not JSON: " ++ w.config.complaint raw))⟩) ∧
      ∀ v, Http.held? payload = some v →
        ("telemetry" ∈ Topic.segments topic →
          w.Bridges r r' ∧ w.Processes r ⟨r.id, topic, .mqtt⟩ v) ∧
        ("telemetry" ∉ Topic.segments topic → "images" ∈ Topic.segments topic →
          (w.store.faults .ingestImage = false → w.Ingests r topic v) ∧
          (w.store.faults .ingestImage = true →
            w.AnswersOnly r ⟨500, some (.failure "internal server error")⟩)) ∧
        ("telemetry" ∉ Topic.segments topic → "images" ∉ Topic.segments topic →
          w.AnswersOnly r ⟨400, some (.failure ("no route for topic " ++ topic))⟩)) ∧
    (Http.held? payload = none → ∃ raw, payload = .text raw ∧ w.AnswersOnly r'
      ⟨400, some (.failure ("payload is not JSON: " ++ w.config.complaint raw))⟩) ∧
    ∀ v, Http.held? payload = some v → w.Processes r' ⟨r'.id, topic, .http⟩ v := by
  have hprocesses' (v : Json) (hheld : Http.held? payload = some v) :
      w.Processes r' ⟨r'.id, topic, .http⟩ v :=
    processes_of_respond (Gate.respond_telemetry hr' hheld)
  refine ⟨fun secret hrequired hother => ?_, fun hpresented => ?_, fun hheld => ?_, hprocesses'⟩
  · have hsecret : Http.presentsSecret w.config r = false := by
      rw [← Bool.not_eq_true, Http.presentsSecret_iff]
      exact fun h => hother (h secret hrequired)
    obtain ⟨hvalue, hevents⟩ := Gate.respond_of_locked hr hsecret w.state
    exact answersOnly_of_respond hvalue hevents
  · have hsecret := Http.presentsSecret_iff.mpr hpresented
    refine ⟨unlocked_of_presented hr hsecret, fun hheld => ?_, fun v hheld => ⟨?_, ?_, ?_⟩⟩
    · obtain ⟨raw, hraw, hvalue, hevents⟩ :=
        Gate.respond_of_unheld hr (.inl ⟨rfl, hsecret⟩) hheld w.state
      exact ⟨raw, hraw, answersOnly_of_respond hvalue hevents⟩
    · intro htelemetry
      have hkind : Topic.kind topic = .telemetry := by
        simp [Topic.kind, Topic.isTelemetry, htelemetry]
      have hrespond : Gate.respond w.config r = Gate.deliver w.config r topic v .mqtt := by
        rw [Gate.respond_publish hr hsecret hheld, hkind]
      have hprocesses := processes_of_respond hrespond
      exact ⟨hprocesses.bridges (hprocesses' v hheld) rfl rfl rfl, hprocesses⟩
    · intro htelemetry himages
      have hkind : Topic.kind topic = .image := by
        simp [Topic.kind, Topic.isTelemetry, Topic.isImage, htelemetry, himages]
      have hrespond : Gate.respond w.config r = Gate.forwardImage r.context topic v := by
        rw [Gate.respond_publish hr hsecret hheld, hkind]
      refine ⟨fun hup => ingests_of_respond hup hrespond, fun hdown => ?_⟩
      obtain ⟨hvalue, hevents⟩ :=
        Gate.forwardImage_of_down r.context topic v (s := w.state) hdown
      rw [← hrespond] at hvalue hevents
      exact answersOnly_of_respond hvalue hevents
    · intro htelemetry himages
      have hkind : Topic.kind topic = .other := by
        simp [Topic.kind, Topic.isTelemetry, Topic.isImage, htelemetry, himages]
      have hrespond := Gate.respond_publish hr hsecret hheld
      rw [hkind] at hrespond
      exact answersOnly_of_respond (by rw [hrespond]; rfl) (by rw [hrespond]; rfl)
  · obtain ⟨raw, hraw, hvalue, hevents⟩ :=
      Gate.respond_of_unheld hr' (.inr rfl) hheld w.state
    exact ⟨raw, hraw, answersOnly_of_respond hvalue hevents⟩

end Requests

namespace Sample

/-- A body whose payload is JSON within a text, which a device has signed. -/
def body : String :=
  "\x7b\"topic\":\"ares4/D1/telemetry\",\"payload\":\"\x7b" ++
    "\\\"component_type\\\":\\\"DHT22\\\",\\\"cpu_serial\\\":\\\"10000000abcdef01\\\"," ++
    "\\\"data\\\":[],\\\"instance_name\\\":\\\"gl\\\",\\\"sequence_number\\\":7," ++
    "\\\"signature\\\":" ++
    "\\\"2ca020fef7c207c363bb35465f43a8a429671cdfd1a64eb4b11ed4baff9a315f\\\"," ++
    "\\\"snapshot_id\\\":\\\"snap-1\\\"\x7d\"\x7d"

/-- The text in it. -/
def raw : String :=
  "\x7b\"component_type\":\"DHT22\",\"cpu_serial\":\"10000000abcdef01\",\"data\":[]," ++
    "\"instance_name\":\"gl\",\"sequence_number\":7,\"signature\":" ++
    "\"2ca020fef7c207c363bb35465f43a8a429671cdfd1a64eb4b11ed4baff9a315f\"," ++
    "\"snapshot_id\":\"snap-1\"\x7d"

/-- A request that posts it. -/
def request (target : String) : HttpRequest where
  id := "r1"
  method := "POST"
  target := target
  headers := [("content-type", "application/json")]
  body := body

set_option maxRecDepth 20000 in
lemma read_body : BodyForm.read Http.messageForm body =
    .ok [("topic", .text "ares4/D1/telemetry"), ("payload", .text raw)] := by
  cbv

set_option maxRecDepth 20000 in
lemma held_raw : Http.held? (.text raw) = some Admission.Sample.payload := by
  cbv

lemma posts {target : String} {e : Endpoint} (h : Endpoint.ofTarget? target = some e) :
    (request target).Posts e "ares4/D1/telemetry" (.text raw) where
  addressed := h
  posted := rfl
  told := by
    have hjson : (request target).saysJson = true := by cbv
    have hsmall : ¬ HttpRequest.greatestBody < body.utf8ByteSize := by decide +kernel
    refine ⟨[("topic", .text "ares4/D1/telemetry"), ("payload", .text raw)], ?_, rfl, rfl⟩
    have hbody : (request target).body = body := rfl
    simp only [HttpRequest.fields, hjson, hbody, hsmall, read_body, Bool.not_true,
      Bool.false_eq_true, if_false]

end Sample

open Sample in
/-- A message that a device has signed is admitted at either address. -/
theorem publish_bridges_sample :
    (request "/publish").Posts .publish "ares4/D1/telemetry" (.text raw) ∧
    (request "/telemetry").Posts .telemetry "ares4/D1/telemetry" (.text raw) ∧
    (sample .none).Bridges (request "/publish") (request "/telemetry") ∧
    ((sample .none).perform (.http (request "/publish"))).answer = .reply (.ok .accepted) := by
  have hr : (request "/publish").Posts .publish _ _ := posts (by decide)
  have hr' : (request "/telemetry").Posts .telemetry _ _ := posts (by decide)
  obtain ⟨-, hopen, -⟩ := publish_bridges (sample .none) hr hr'
  obtain ⟨hbridges, hprocesses⟩ := ((hopen nofun).2.2 _ held_raw).1 (by decide)
  refine ⟨hr, hr', hbridges, ?_⟩
  obtain ⟨receipt, hadmitted⟩ := Admission.exists_process_eq_ok ⟨0, 0⟩
    (m := ⟨"r1", "ares4/D1/telemetry", .mqtt⟩) (r := Admission.Sample.records .none)
    (Admission.Sample.admissible 60)
  have hok : ((sample .none).processed ⟨"r1", "ares4/D1/telemetry", .mqtt⟩
      Admission.Sample.payload).value.1 = .ok receipt := hadmitted
  rw [hprocesses.answer]
  exact congrArg (fun outcome => GateAnswer.reply (Gate.replyOf outcome)) hok

end World

end DeviceGate
