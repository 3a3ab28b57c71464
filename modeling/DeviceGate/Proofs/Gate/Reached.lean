import DeviceGate.Gate.Service
import DeviceGate.Proofs.Http.Publish
import DeviceGate.Proofs.Store.Growth

/-!
The worlds that the gate comes to.  It starts with the records of a seed, and from then on takes
commands and serves requests, in any order.  Whatever these are, the record store grows: it stays
tidy, and keeps the snapshots that it has.

* `Gate.Grows`: the call makes the record store grow, whatever it is called on.
* `World.grows_perform`, `World.grows_serve`: so do all commands and all requests.
* `World.Later`, `World.Reached`: the worlds that a world, or the gate, comes to.
* `World.Later.grows`, `World.Reached.tidy`: what holds of them.
-/

namespace DeviceGate

/-! ### Calls on the state -/

namespace Gate

/-- Whatever it is called on, the call makes the record store grow. -/
structure Grows {α : Type} (act : Act GateState α) : Prop where
  store : ∀ s : GateState, s.records.store.Grows (act s).value.2.records.store

namespace Grows

section Calls

variable {α β : Type}

lemma pure (a : α) : Grows (Pure.pure a) :=
  ⟨fun _ => .refl _⟩

lemma bind {act : Act GateState α} {f : α → Act GateState β} (h : Grows act)
    (h' : ∀ a, Grows (f a)) : Grows (act >>= f) :=
  ⟨fun s => (h.store s).trans ((h' (act s).value.1).store (act s).value.2)⟩

lemma map {act : Act GateState α} (h : Grows act) (f : α → β) : Grows (f <$> act) :=
  ⟨fun s => h.store s⟩

lemma lift (x : Noted α) : Grows (StateT.lift x) :=
  ⟨fun _ => .refl _⟩

lemma log (level : LogLevel) (message : String) : Grows (Act.log level message) :=
  .lift _

lemma readClock : Grows Gate.readClock :=
  ⟨fun _ => .refl _⟩

lemma drawBytes (count : ℕ) : Grows (Gate.drawBytes count) :=
  ⟨fun _ => .refl _⟩

lemma withStore {f : Store → Noted (α × Store)} (h : ∀ s : Store, s.Grows (f s).value.2) :
    Grows (Gate.withStore f) :=
  ⟨fun s => h s.records.store⟩

lemma fromStore (f : Store → Noted α) : Grows (Gate.fromStore f) :=
  ⟨fun _ => .refl _⟩

lemma tryStore {f : Store → Except StoreError (α × Store)}
    (h : ∀ s a after, f s = .ok (a, after) → s.Grows after) : Grows (Gate.tryStore f) := by
  refine withStore fun s => ?_
  rcases hanswer : f s with e | ⟨a, after⟩
  · exact .refl s
  · exact h s a after hanswer

/-! ### Calls of the gate -/

lemma accept (g : GateConfig) (m : Message) (payload : Json) : Grows (Gate.accept g m payload) := by
  refine ⟨fun s => ?_⟩
  rw [Gate.accept_eq]
  exact .of_process g.admission s.clock m payload s.records

lemma openBatch (ctx : LogContext) (deviceId : String) (total : ℕ) :
    Grows (Gate.openBatch ctx deviceId total) :=
  .bind .readClock fun _ => .bind (.drawBytes 16) fun _ =>
    .withStore fun s => .of_openBatch s ctx _ _ deviceId total

lemma markProcessed (ctx : LogContext) (id : String) : Grows (Gate.markProcessed ctx id) :=
  .bind .readClock fun _ => .withStore fun s => .of_markProcessed s ctx _ id

lemma failBatch (ctx : LogContext) (id reason : String) : Grows (Gate.failBatch ctx id reason) :=
  .bind .readClock fun _ => .withStore fun s => .of_failBatch s ctx _ id reason

lemma enrollSecret (ctx : LogContext) (d : Device) : Grows (Gate.enrollSecret ctx d) :=
  .bind (.drawBytes 32) fun _ => .withStore fun s => .of_enrollSecret s ctx d _

/-! ### Requests -/

lemma failWith (e : ApiError) : Grows (Gate.failWith e) := by
  cases e with
  | internal detail => exact .bind (.log ..) fun _ => .pure _
  | badRequest | unauthorized | notFound => exact .pure _

lemma replyWith (r : Except ApiError ReplyBody) : Grows (Gate.replyWith r) := by
  cases r with
  | ok body => exact .pure _
  | error e => exact .failWith e

lemma answerAcl (g : GateConfig) (r : HttpRequest) (found : List (String × Json)) :
    Grows (Gate.answerAcl g r found) := by
  rw [Gate.answerAcl]
  split
  · exact .bind (.fromStore _) fun _ => .pure _
  · exact .bind (.log ..) fun _ => .pure _

lemma deliver (g : GateConfig) (r : HttpRequest) (topic : String) (payload : Json) (t : Transport) :
    Grows (Gate.deliver g r topic payload t) := by
  refine .bind (.accept ..) fun answer => ?_
  cases answer with
  | ok receipt => exact .pure _
  | error rejection => exact .pure _

lemma forwardImage (ctx : LogContext) (topic : String) (payload : Json) :
    Grows (Gate.forwardImage ctx topic payload) := by
  refine .bind (.tryStore fun s a after h => ?_) fun answer => ?_
  · rcases hingested : s.ingestImage topic payload with e | ingested
    · rw [hingested] at h
      cases h
    · rw [hingested] at h
      cases h
      exact .of_upkeep (u := .ingestImage topic payload) hingested
  · cases answer with
    | ok done => exact .bind (.log ..) fun _ => .pure _
    | error e => exact .failWith _

lemma answerPublish (g : GateConfig) (r : HttpRequest) (found : List (String × Json)) :
    Grows (Gate.answerPublish g r found) := by
  rw [Gate.answerPublish]
  split
  · exact .bind (.log ..) fun _ => .failWith _
  · split
    · exact .failWith _
    · split
      · exact .deliver ..
      · exact .forwardImage ..
      · exact .bind (.log ..) fun _ => .failWith _

lemma answerTelemetry (g : GateConfig) (r : HttpRequest) (found : List (String × Json)) :
    Grows (Gate.answerTelemetry g r found) := by
  rw [Gate.answerTelemetry]
  split
  · exact .failWith _
  · exact .deliver ..

lemma answerOpenBatch (r : HttpRequest) (found : List (String × Json)) :
    Grows (Gate.answerOpenBatch r found) := by
  refine .bind (.openBatch ..) fun answer => ?_
  cases answer with
  | ok id => exact .pure _
  | error e => exact .failWith _

lemma answerBatch {call : Act GateState (Except LedgerError α)} (h : Grows call)
    (body : α → ReplyBody) : Grows (Gate.answerBatch call body) :=
  .bind h fun _ => .replyWith _

lemma withFields {r : HttpRequest} {form : BodyForm}
    {answer : List (String × Json) → Act GateState Reply} (h : ∀ found, Grows (answer found)) :
    Grows (Gate.withFields r form answer) := by
  rw [Gate.withFields]
  split
  · exact h _
  · exact .pure _

lemma withId {segment : String} {answer : String → Act GateState Reply}
    (h : ∀ id, Grows (answer id)) : Grows (Gate.withId segment answer) := by
  rw [Gate.withId]
  split
  · exact h _
  · exact .pure _

lemma answer (g : GateConfig) (r : HttpRequest) (e : Endpoint) : Grows (Gate.answer g r e) := by
  cases e with
  | health | superuser => exact .pure _
  | auth => exact .withFields fun _ => .bind (.fromStore _) fun _ => .pure _
  | acl => exact .withFields (.answerAcl g r)
  | publish => exact .withFields (.answerPublish g r)
  | telemetry => exact .withFields (.answerTelemetry g r)
  | batches => exact .withFields (.answerOpenBatch r)
  | batch segment => exact .withId fun _ => .answerBatch (.fromStore _) _
  | processed segment => exact .withId fun _ => .answerBatch (.markProcessed ..) _
  | purge segment => exact .withId fun _ => .answerBatch (.fromStore _) _

/-- **Requests.**  Whatever is requested, the reply makes the record store grow. -/
lemma respond (g : GateConfig) (r : HttpRequest) : Grows (Gate.respond g r) := by
  rw [Gate.respond]
  split
  · exact .pure _
  · split
    · exact .pure _
    · exact .bind (.answer g r _) fun _ => .pure _

end Calls

end Grows

end Gate

/-! ### The world -/

/-- What a cycle keeps, the cycles that fall due keep. -/
lemma LoopPhase.runUntil_keeps {σ : Type} {cycle : σ → ℕ × σ} {P : σ → Prop}
    (h : ∀ s, P s → P (cycle s).2) (target deadline : ℕ) {s : σ} (hs : P s) :
    P (runUntil cycle target deadline s).2 := by
  fun_induction runUntil cycle target deadline s with
  | case1 deadline s hdue wait s' hcycle hnone =>
      have hnext := h s hs
      rwa [hcycle] at hnext
  | case2 deadline s hdue wait s' hcycle next hnext hlater ih =>
      have hkept := h s hs
      rw [hcycle] at hkept
      exact ih hkept
  | case3 deadline s hdue wait s' hcycle next hnext hlater =>
      have hkept := h s hs
      rwa [hcycle] at hkept
  | case4 deadline s hdue => exact hs

namespace World

section Grows

variable {w : World} {α : Type}

lemma grows_run {act : Act GateState α} (h : Gate.Grows act) :
    w.store.Grows (w.run act).2.1.store :=
  h.store w.state

lemma grows_answerWith {act : Act GateState GateAnswer} (h : Gate.Grows act) :
    w.store.Grows (w.answerWith act).world.store :=
  h.store w.state

lemma grows_changeStore {r : Except StoreError (α × Store)} {answer : α → GateAnswer}
    (h : ∀ a s, r = .ok (a, s) → w.store.Grows s) :
    w.store.Grows (w.changeStore r answer).world.store := by
  rcases r with e | ⟨a, s⟩
  · exact .refl _
  · exact h a s rfl

lemma grows_updateStore {r : Except StoreError Store} (h : ∀ s, r = .ok s → w.store.Grows s) :
    w.store.Grows (w.updateStore r).world.store := by
  rcases r with e | s
  · exact .refl _
  · exact h s rfl

lemma grows_choose (device : DeviceChoice) {act : Device → Act GateState GateAnswer}
    (h : ∀ d, Gate.Grows (act d)) :
    w.store.Grows (match w.choose device with
      | some d => w.answerWith (act d)
      | none => w.quiet .unknown).world.store := by
  rcases w.choose device with _ | d
  · exact .refl _
  · exact grows_answerWith (h d)

lemma grows_withTransaction {name : String} {step : Transaction → Outcome}
    (h : ∀ tx, w.store.Grows (step tx).world.store) :
    w.store.Grows (w.withTransaction name step).world.store := by
  rw [withTransaction]
  rcases w.transactions.lookup name with _ | tx
  · exact .refl _
  · exact h tx

lemma grows_buffer (name : String) (r : Except StoreError Transaction) :
    w.store.Grows (w.buffer name r).world.store := by
  cases r with
  | ok tx => exact .refl _
  | error e => exact .refl _

lemma grows_snapshotFor (name : String) (tx : Transaction) (deviceId : Int) (key : String)
    (capturedAt : Timestamp) :
    w.store.Grows (match w.store.snapshotFor tx deviceId key capturedAt with
      | .ok (snapshot, tx, s) => ((w.withStore s).putTransaction name tx).quiet (.snapshot snapshot)
      | .error e => w.quiet (.storeFailed e)).world.store := by
  rcases hasked : w.store.snapshotFor tx deviceId key capturedAt with e | ⟨snapshot, tx', s⟩
  · exact .refl _
  · exact .of_onlyDrew (Store.onlyDrew_of_snapshotFor hasked).1

/-! ### Calls of the cache -/

lemma grows_lastSeen (deviceId : Int) (instanceName : String) :
    w.store.Grows (w.lastSeen deviceId instanceName).world.store := by
  rw [lastSeen]
  rcases w.state.records.cache.lastSeen deviceId instanceName with ⟨e | n, c⟩
  · exact .refl _
  · exact .refl _

lemma grows_cacheGet (key : String) : w.store.Grows (w.cacheGet key).world.store := by
  rw [cacheGet]
  rcases w.state.records.cache.get key with e | ⟨value, c⟩
  · exact .refl _
  · exact .refl _

lemma grows_cacheSet (key value : String) (ttl : ℕ) :
    w.store.Grows (w.cacheSet key value ttl).world.store := by
  rw [cacheSet]
  rcases w.state.records.cache.set key value ttl with e | c
  · exact .refl _
  · exact .refl _

/-! ### The sweep loop -/

lemma grows_sweepNow (timeout : ℕ) : Gate.Grows (sweepNow timeout) := by
  refine .bind .readClock fun now => .bind (.withStore fun s => .of_sweep s _ now) fun swept => ?_
  cases swept with
  | ok count => exact .pure _
  | error e => exact .log ..

lemma grows_runCycle (s : World × List LogLine) : s.1.store.Grows (runCycle s).2.1.store :=
  grows_run (w := s.1) (grows_sweepNow _)

lemma grows_runDue (w : World) : w.store.Grows w.runDue.1.store := by
  rw [runDue]
  rcases w.loop with _ | phase
  · exact .refl _
  · cases phase with
    | waiting deadline =>
        exact LoopPhase.runUntil_keeps (P := fun s => w.store.Grows s.1.store)
          (fun s hs => hs.trans (grows_runCycle s)) w.elapsed deadline (s := (w, [])) (.refl _)
    | finished | stranded => exact .refl _

lemma store_moveLoop (w : World) (move : LoopPhase → LoopPhase) :
    (w.moveLoop move).1.store = w.store := by
  rw [moveLoop]
  rcases w.loop with _ | phase
  · rfl
  · rfl

lemma store_begun (value : Bool) (w : World) : (w.begun value).store = w.store := by
  rw [begun, store_moveLoop]
  exact store_moveLoop w _

/-! ### All commands -/

lemma grows_markBatch (id : String) (times : ℕ) (last : Option BatchProgress) :
    Gate.Grows (markBatch id times last) := by
  induction times generalizing last with
  | zero => exact .pure _
  | succ times ih =>
      refine .bind (.markProcessed ..) fun answer => ?_
      cases answer with
      | ok p => exact ih (some p)
      | error e => exact .pure _

/-- **Commands.**  Whatever the command is, the record store grows. -/
lemma grows_perform (w : World) (command : GateCommand) :
    w.store.Grows (w.perform command).world.store := by
  cases command with
  | authenticate | authorize | mayPurge => exact grows_answerWith (.map (.fromStore _) _)
  | checkDevice => exact grows_answerWith (.bind (.lift _) fun _ => .pure _)
  | accept m payload =>
      refine grows_answerWith (.bind (.accept ..) fun answer => ?_)
      cases answer with
      | ok receipt => exact .pure _
      | error rejection => exact .pure _
  | reconcile device instanceName sequence =>
      exact grows_choose device fun d => ⟨fun _ => .refl _⟩
  | lastSeen deviceId instanceName => exact grows_lastSeen deviceId instanceName
  | cacheSet key value ttl => exact grows_cacheSet key value ttl
  | cacheGet key => exact grows_cacheGet key
  | cacheUnavailable | sinkFailing | findDevice | devicesWithStatus | batchProgress | getBatch
  | countEvents => exact .refl _
  | refuseReadings | fault => exact .of_eq rfl rfl
  | seed records => exact .of_upkeep (u := .seed records) rfl
  | setStatus id status =>
      exact grows_updateStore fun s h => .of_upkeep (u := .updateStatus id status) h
  | setSecret id secret =>
      exact grows_updateStore fun s h => .of_upkeep (u := .setSecret id secret) h
  | enroll device =>
      refine grows_choose device fun d => .bind (.enrollSecret ..) fun answer => ?_
      cases answer with
      | ok secret => exact .pure _
      | error e => exact .pure _
  | sweep now timeout =>
      exact grows_answerWith (.map (.withStore fun s => .of_sweep s _ now) _)
  | startSweeps value =>
      have hgrows := grows_runDue (w.begun value)
      rwa [store_begun] at hgrows
  | advance seconds => exact grows_runDue { w with elapsed := Clock.wake w.elapsed seconds }
  | signal value =>
      have hsame : (w.perform (.signal value)).world.store = w.store := store_moveLoop w _
      rw [hsame]
      exact .refl _
  | dropSignal =>
      have hsame : (w.perform .dropSignal).world.store = w.store := store_moveLoop w _
      rw [hsame]
      exact .refl _
  | openBatch deviceId total => exact grows_answerWith (.map (.openBatch ..) _)
  | markBatch id times => exact grows_answerWith (grows_markBatch id times none)
  | failBatch id reason => exact grows_answerWith (.map (.failBatch ..) _)
  | insertBatch row => exact grows_updateStore fun s h => .of_upkeep (u := .insertBatch row) h
  | incrementBatch id =>
      exact grows_updateStore fun s h => .of_upkeep (u := .incrementProcessed id) h
  | completeBatch => exact grows_changeStore fun _ s h => .of_markCompleted h
  | markBatchFailed => exact grows_changeStore fun _ s h => .of_markFailed h
  | beginTransaction name => exact grows_buffer name _
  | snapshotFor name deviceId key capturedAt =>
      exact grows_withTransaction fun tx => grows_snapshotFor name tx deviceId key capturedAt
  | insertReading name | touchDevice name =>
      exact grows_withTransaction fun tx => grows_buffer name _
  | commit name =>
      refine grows_withTransaction fun tx => ?_
      exact grows_updateStore (w := w.dropTransaction name) fun s h => .of_commit h
  | rollback => exact grows_withTransaction fun _ => .refl _
  | emit => exact grows_answerWith (.bind (.lift _) fun _ => .pure _)
  | http r => exact grows_answerWith (.map (.respond w.config r) _)

/-- **Requests.**  Whatever comes over the wire, and whenever it comes, the record store grows. -/
lemma grows_serve (w : World) (now : Timestamp) (line : String) :
    w.store.Grows (w.serve now line).2.1.store := by
  have hmoment : w.store.Grows (w.atMoment now).1.store :=
    grows_perform { w with state := { w.state with clock := now } } _
  have hdraw : Gate.Grows drawRequestId := .bind (.drawBytes 4) fun _ => .pure _
  rw [serve]
  rcases hat : w.atMoment now with ⟨w', before⟩
  rw [hat] at hmoment
  dsimp only
  generalize hrun : w'.run _ = served
  have hserved : w'.store.Grows served.2.1.store := by
    rw [← hrun]
    refine grows_run (.bind hdraw fun id => ?_)
    rcases HttpRequest.ofLine? id line with _ | r
    · exact .pure _
    · exact .respond w'.config r
  exact hmoment.trans hserved

end Grows

/-! ### What the gate comes to -/

/-- The worlds that a world comes to, by whatever commands and requests. -/
inductive Later (w : World) : World → Prop where
  | now : Later w w
  | perform {w' : World} (command : GateCommand) : Later w w' → Later w (w'.perform command).world
  | serve {w' : World} (moment : Timestamp) (line : String) :
      Later w w' → Later w (w'.serve moment line).2.1

/-- The gate may come to this world. -/
def Reached (w : World) : Prop :=
  ∃ config seed sink clock host, (start config seed sink clock host).1.Later w

/-- **Growth.**  A later world has grown. -/
lemma Later.grows {w w' : World} (h : w.Later w') : w.store.Grows w'.store := by
  induction h with
  | now => exact .refl _
  | @perform w' command _ ih => exact ih.trans (grows_perform w' command)
  | @serve w' moment line _ ih => exact ih.trans (grows_serve w' moment line)

/-- **Tidiness.**  Whatever the gate comes to is tidy. -/
lemma Reached.tidy {w : World} (h : w.Reached) : w.store.tables.Tidy := by
  obtain ⟨config, seed, sink, clock, host, hlater⟩ := h
  have hempty : Tables.Tidy {} := ⟨List.Pairwise.nil, List.nodup_nil⟩
  exact hlater.grows.tidy (hempty.seed seed)

end World

end DeviceGate
