import DeviceGate.Gate.World
import DeviceGate.Proofs.Audit.Trail

/-!
What the gate emits.  The trail is where events go; no command other than those that are about the
trail itself looks at it, so that what a command answers, what it does to the rest of the gate and
what it emits are the same whatever the trail is and whatever has become of earlier events.

* `World.onTrail`: the world with another trail; `World.emissions`: the events of a command.
* `World.Blind`: a call that does not look at the trail.
* `World.exists_blind_perform`: the commands that do not look at it.
* `World.perform_onTrail`, `World.performAll_onTrail`: a command, and a session, on another trail.
* `World.undisturbed`: the session on a trail that loses nothing, with what it answers and emits;
  `World.emitted_eq_told`: it records the events of its calls.
-/

namespace DeviceGate

/-- The command sets the sink of the trail, or asks what has been recorded. -/
def GateCommand.isAboutTrail : GateCommand → Bool
  | sinkFailing _ | countEvents _ => true
  | _ => false

/-- A command that is not about the trail. -/
structure GateCall where
  command : GateCommand
  blind : command.isAboutTrail = false

namespace World

/-- The world with another trail. -/
def onTrail (w : World) (trail : AuditTrail) : World :=
  { w with trail := trail }

@[simp] lemma onTrail_onTrail (w : World) (trail trail' : AuditTrail) :
    (w.onTrail trail).onTrail trail' = w.onTrail trail' :=
  rfl

/-- The events that a command emits, which are those that a trail that loses nothing records. -/
def emissions (w : World) (command : GateCommand) : List AuditEvent :=
  ((w.onTrail .fresh).perform command).world.trail.recorded

/-- Whatever the trail is, the call gives the same answer and leads to the same world, except that
the trail is handed these events. -/
def Blind (w : World) (call : World → Outcome) (events : List AuditEvent) : Prop :=
  ∀ trail, (call (w.onTrail trail)).answer = (call w).answer ∧
    (call (w.onTrail trail)).world = (call w).world.onTrail (trail.deliverAll events).1

variable {w : World}

/-- A call on the state hands its events to the trail. -/
lemma blind_answerWith (act : World → Act GateState GateAnswer)
    (h : ∀ trail, act (w.onTrail trail) = act w) :
    w.Blind (fun w => w.answerWith (act w)) (act w w.state).events := by
  intro trail
  simp only [answerWith, run, h trail]
  exact ⟨rfl, rfl⟩

/-- So does a call on a device that is chosen first. -/
lemma exists_blind_choose (device : DeviceChoice) {act : World → Device → Act GateState GateAnswer}
    (h : ∀ trail, act (w.onTrail trail) = act w) :
    ∃ events, w.Blind (fun w => match w.choose device with
      | some d => w.answerWith (act w d)
      | none => w.quiet .unknown) events := by
  have hsame : ∀ trail, (w.onTrail trail).choose device = w.choose device := fun _ => rfl
  rcases hchosen : w.choose device with _ | d
  · refine ⟨[], fun trail => ?_⟩
    simp only [hsame, hchosen]
    exact ⟨rfl, rfl⟩
  · refine ⟨(act w d w.state).events, fun trail => ?_⟩
    simp only [hsame, hchosen]
    exact blind_answerWith (fun w => act w d) (fun trail => congrFun (h trail) d) trail

/-! ### Calls that emit nothing -/

section Store

variable {α : Type}

lemma blind_quiet {change : World → World} {answer : World → GateAnswer}
    (hchange : ∀ trail, change (w.onTrail trail) = (change w).onTrail trail)
    (hanswer : ∀ trail, answer (w.onTrail trail) = answer w) :
    w.Blind (fun w => (change w).quiet (answer w)) [] :=
  fun trail => ⟨hanswer trail, hchange trail⟩

lemma blind_changeStore {change : World → World} {r : World → Except StoreError (α × Store)}
    (hchange : ∀ trail, change (w.onTrail trail) = (change w).onTrail trail)
    (hr : ∀ trail, r (w.onTrail trail) = r w) (answer : α → GateAnswer) :
    w.Blind (fun w => (change w).changeStore (r w) answer) [] := by
  intro trail
  simp only [hr trail, hchange trail]
  rcases r w with e | ⟨a, s⟩
  · exact ⟨rfl, rfl⟩
  · exact ⟨rfl, rfl⟩

lemma blind_buffer {r : World → Except StoreError Transaction}
    (hr : ∀ trail, r (w.onTrail trail) = r w) (name : String) :
    w.Blind (fun w => w.buffer name (r w)) [] := by
  intro trail
  simp only [hr trail]
  rcases r w with e | tx
  · exact ⟨rfl, rfl⟩
  · exact ⟨rfl, rfl⟩

lemma blind_withTransaction (name : String) {step : World → Transaction → Outcome}
    (h : ∀ tx, w.Blind (fun w => step w tx) []) :
    w.Blind (fun w => w.withTransaction name (step w)) [] := by
  intro trail
  simp only [withTransaction]
  have hsame : (w.onTrail trail).transactions.lookup name = w.transactions.lookup name := rfl
  rw [hsame]
  rcases w.transactions.lookup name with _ | tx
  · exact ⟨rfl, rfl⟩
  · exact h tx trail

lemma blind_snapshotFor (name : String) (tx : Transaction) (deviceId : Int) (key : String)
    (capturedAt : Timestamp) :
    w.Blind (fun w => match w.store.snapshotFor tx deviceId key capturedAt with
      | .ok (snapshot, tx, s) => ((w.withStore s).putTransaction name tx).quiet (.snapshot snapshot)
      | .error e => w.quiet (.storeFailed e)) [] := by
  intro trail
  have hsame : (w.onTrail trail).store = w.store := rfl
  simp only [hsame]
  rcases w.store.snapshotFor tx deviceId key capturedAt with e | ⟨snapshot, tx, s⟩
  · exact ⟨rfl, rfl⟩
  · exact ⟨rfl, rfl⟩

end Store

section Cache

lemma blind_lastSeen (deviceId : Int) (instanceName : String) :
    w.Blind (fun w => w.lastSeen deviceId instanceName) [] := by
  intro trail
  have hsame : (w.onTrail trail).state.records.cache = w.state.records.cache := rfl
  simp only [lastSeen, hsame]
  rcases w.state.records.cache.lastSeen deviceId instanceName with ⟨e | n, c⟩
  · exact ⟨rfl, rfl⟩
  · exact ⟨rfl, rfl⟩

lemma blind_cacheGet (key : String) : w.Blind (fun w => w.cacheGet key) [] := by
  intro trail
  have hsame : (w.onTrail trail).state.records.cache = w.state.records.cache := rfl
  simp only [cacheGet, hsame]
  rcases w.state.records.cache.get key with e | ⟨value, c⟩
  · exact ⟨rfl, rfl⟩
  · exact ⟨rfl, rfl⟩

lemma blind_cacheSet (key value : String) (ttl : Nat) :
    w.Blind (fun w => w.cacheSet key value ttl) [] := by
  intro trail
  have hsame : (w.onTrail trail).state.records.cache = w.state.records.cache := rfl
  simp only [cacheSet, hsame]
  rcases w.state.records.cache.set key value ttl with e | c
  · exact ⟨rfl, rfl⟩
  · exact ⟨rfl, rfl⟩

end Cache

/-! ### The sweep loop -/

/-- A cycle of the loop hands its events to the trail. -/
lemma exists_runCycle_onTrail {s s' : World × List LogLine} {wait : ℕ}
    (h : runCycle s = (wait, s')) :
    ∃ events, ∀ trail lines, ∃ lines',
      runCycle (s.1.onTrail trail, lines) =
        (wait, s'.1.onTrail (trail.deliverAll events).1, lines') := by
  obtain ⟨rfl, rfl⟩ := Prod.mk.inj h
  exact ⟨(sweepNow s.1.config.deviceTimeout s.1.state).events, fun _ _ => ⟨_, rfl⟩⟩

/-- So do the cycles that fall due, one after the other. -/
lemma exists_runUntil_onTrail (target deadline : ℕ) (s : World × List LogLine) :
    ∃ events, ∀ trail lines,
      let o := LoopPhase.runUntil runCycle target deadline s
      let o' := LoopPhase.runUntil runCycle target deadline (s.1.onTrail trail, lines)
      o'.1 = o.1 ∧ o'.2.1 = o.2.1.onTrail (trail.deliverAll events).1 := by
  fun_induction LoopPhase.runUntil runCycle target deadline s with
  | case1 deadline s hdue wait s' hcycle hnone =>
      obtain ⟨events, hevents⟩ := exists_runCycle_onTrail hcycle
      refine ⟨events, fun trail lines => ?_⟩
      obtain ⟨lines', hother⟩ := hevents trail lines
      rw [LoopPhase.runUntil, if_pos hdue, hother]
      simp only [hnone, and_self]
  | case2 deadline s hdue wait s' hcycle next hnext hlater ih =>
      obtain ⟨events, hevents⟩ := exists_runCycle_onTrail hcycle
      obtain ⟨later, hlast⟩ := ih
      refine ⟨events ++ later, fun trail lines => ?_⟩
      obtain ⟨lines', hother⟩ := hevents trail lines
      have hunfold : LoopPhase.runUntil runCycle target deadline (s.1.onTrail trail, lines) =
          LoopPhase.runUntil runCycle target next
            (s'.1.onTrail (trail.deliverAll events).1, lines') := by
        rw [LoopPhase.runUntil, if_pos hdue, hother]
        simp only [hnext, if_pos hlater]
      rw [hunfold, AuditTrail.deliverAll_append]
      exact hlast (trail.deliverAll events).1 lines'
  | case3 deadline s hdue wait s' hcycle next hnext hlater =>
      obtain ⟨events, hevents⟩ := exists_runCycle_onTrail hcycle
      refine ⟨events, fun trail lines => ?_⟩
      obtain ⟨lines', hother⟩ := hevents trail lines
      rw [LoopPhase.runUntil, if_pos hdue, hother]
      simp only [hnext, if_neg hlater, and_self]
  | case4 deadline s hdue =>
      refine ⟨[], fun trail lines => ?_⟩
      rw [LoopPhase.runUntil, if_neg hdue]
      exact ⟨rfl, rfl⟩

/-- The sweeps that are due hand their events to the trail. -/
lemma exists_runDue_onTrail (w : World) :
    ∃ events, ∀ trail,
      (w.onTrail trail).runDue.1 = w.runDue.1.onTrail (trail.deliverAll events).1 := by
  rcases hloop : w.loop with _ | phase
  · refine ⟨[], fun trail => ?_⟩
    have hother : (w.onTrail trail).loop = none := hloop
    simp only [runDue, hloop, hother, AuditTrail.deliverAll_nil]
  · cases phase with
    | waiting deadline =>
        obtain ⟨events, hevents⟩ := exists_runUntil_onTrail w.elapsed deadline (w, [])
        refine ⟨events, fun trail => ?_⟩
        obtain ⟨hphase, hworld⟩ := hevents trail []
        have hother : (w.onTrail trail).loop = some (.waiting deadline) := hloop
        have helapsed : (w.onTrail trail).elapsed = w.elapsed := rfl
        simp only [runDue, hloop, hother, LoopPhase.advance, helapsed, hphase, hworld]
        rfl
    | finished | stranded =>
        refine ⟨[], fun trail => ?_⟩
        have hother : (w.onTrail trail).loop = w.loop := rfl
        simp only [runDue, hother, hloop, LoopPhase.advance, AuditTrail.deliverAll_nil]
        rfl

lemma moveLoop_onTrail (trail : AuditTrail) (move : LoopPhase → LoopPhase) :
    (w.onTrail trail).moveLoop move =
      ((w.moveLoop move).1.onTrail trail, (w.moveLoop move).2) := by
  have hsame : (w.onTrail trail).loop = w.loop := rfl
  rw [moveLoop, moveLoop, hsame]
  rcases w.loop with _ | phase
  · rfl
  · rfl

/-- What runs the sweeps that are due, and answers whether the loop has ended, hands the events of
the sweeps to the trail. -/
lemma exists_blind_runDue {call : World → Outcome} (change : World → World)
    (hanswer : ∀ w, (call w).answer = (change w).runDue.1.loopAnswer)
    (hworld : ∀ w, (call w).world = (change w).runDue.1)
    (hchange : ∀ trail, change (w.onTrail trail) = (change w).onTrail trail) :
    ∃ events, w.Blind call events := by
  obtain ⟨events, hevents⟩ := exists_runDue_onTrail (change w)
  refine ⟨events, fun trail => ?_⟩
  rw [hanswer, hanswer, hworld, hworld, hchange, hevents]
  exact ⟨rfl, rfl⟩

/-- The world whose loop has begun anew, and has been told its signal. -/
def begun (value : Bool) (w : World) : World :=
  let w := (w.moveLoop LoopPhase.released).1
  let w := { w with loop := some (.waitingFrom w.elapsed w.config.sweepInterval) }
  (w.moveLoop (LoopPhase.notified value)).1

lemma begun_onTrail (value : Bool) (trail : AuditTrail) :
    (w.onTrail trail).begun value = (w.begun value).onTrail trail := by
  simp only [begun, moveLoop_onTrail]
  rfl

/-! ### All commands -/

/-- **Blindness.**  A command that is not about the trail does not look at it. -/
lemma exists_blind_perform (w : World) {command : GateCommand}
    (h : command.isAboutTrail = false) :
    ∃ events, w.Blind (fun w => w.perform command) events := by
  cases command with
  | sinkFailing _ | countEvents _ => cases h
  | authenticate _ | checkDevice _ _ | authorize _ | accept _ _ | sweep _ _ | openBatch _ _
  | markBatch _ _ | mayPurge _ | failBatch _ _ | emit _ | http _ =>
      exact ⟨_, blind_answerWith _ fun _ => rfl⟩
  | reconcile device _ _ | enroll device => exact exists_blind_choose device fun _ => rfl
  | cacheUnavailable _ | refuseReadings _ | fault _ _ | seed _ | findDevice _ | devicesWithStatus _
  | batchProgress _ | getBatch _ => exact ⟨[], fun _ => ⟨rfl, rfl⟩⟩
  | lastSeen deviceId instanceName => exact ⟨[], blind_lastSeen deviceId instanceName⟩
  | cacheSet key value ttl => exact ⟨[], blind_cacheSet key value ttl⟩
  | cacheGet key => exact ⟨[], blind_cacheGet key⟩
  | setStatus _ _ | setSecret _ _ | insertBatch _ | incrementBatch _ | completeBatch _ _
  | markBatchFailed _ _ => exact ⟨[], blind_changeStore (fun _ => rfl) (fun _ => rfl) _⟩
  | beginTransaction name => exact ⟨[], blind_buffer (fun _ => rfl) name⟩
  | insertReading name _ | touchDevice name _ _ =>
      exact ⟨[], blind_withTransaction name fun _ => blind_buffer (fun _ => rfl) name⟩
  | commit name =>
      exact ⟨[], blind_withTransaction name fun _ =>
        blind_changeStore (fun _ => rfl) (fun _ => rfl) _⟩
  | rollback name =>
      exact ⟨[], blind_withTransaction name fun _ => blind_quiet (fun _ => rfl) fun _ => rfl⟩
  | snapshotFor name deviceId key capturedAt =>
      exact ⟨[], blind_withTransaction name fun tx =>
        blind_snapshotFor name tx deviceId key capturedAt⟩
  | startSweeps value =>
      exact exists_blind_runDue (begun value) (fun _ => rfl) (fun _ => rfl) (begun_onTrail value)
  | advance seconds =>
      exact exists_blind_runDue (fun w => { w with elapsed := Clock.wake w.elapsed seconds })
        (fun _ => rfl) (fun _ => rfl) fun _ => rfl
  | signal value =>
      refine ⟨[], fun trail => ?_⟩
      simp only [perform, signal, moveLoop_onTrail]
      exact ⟨rfl, rfl⟩
  | dropSignal =>
      refine ⟨[], fun trail => ?_⟩
      simp only [perform, dropSignal, moveLoop_onTrail]
      exact ⟨rfl, rfl⟩

lemma Blind.emissions {command : GateCommand} {events : List AuditEvent}
    (h : w.Blind (fun w => w.perform command) events) : w.emissions command = events := by
  rw [World.emissions, (h .fresh).2, AuditTrail.deliverAll_fresh]
  rfl

/-- The events of a command that is a call on the state are those of the call. -/
lemma emissions_answerWith {command : GateCommand} (act : World → Act GateState GateAnswer)
    (hperform : ∀ w : World, w.perform command = w.answerWith (act w))
    (hact : ∀ trail, act (w.onTrail trail) = act w) :
    w.emissions command = (act w w.state).events := by
  refine Blind.emissions ?_
  simp only [hperform]
  exact blind_answerWith act hact

/-- **A command on another trail.**  A command that is not about the trail gives the same answer
whatever the trail is, and hands it the same events; what else it does is the same. -/
lemma perform_onTrail (w : World) (trail : AuditTrail) {command : GateCommand}
    (h : command.isAboutTrail = false) :
    ((w.onTrail trail).perform command).answer = (w.perform command).answer ∧
    ((w.onTrail trail).perform command).world =
      (w.perform command).world.onTrail (trail.deliverAll (w.emissions command)).1 := by
  obtain ⟨events, hblind⟩ := exists_blind_perform w h
  rw [hblind.emissions]
  exact hblind trail

/-! ### Sessions -/

/-- The session of some calls, on a trail that loses nothing. -/
def undisturbed (w : World) (calls : List GateCall) : List (GateAnswer × List LogLine) × World :=
  (w.onTrail .fresh).performAll (calls.map (·.command))

/-- What the calls answer. -/
def answers (w : World) (calls : List GateCall) : List GateAnswer :=
  (w.undisturbed calls).1.map (·.1)

/-- The events that the calls emit. -/
def emitted (w : World) (calls : List GateCall) : List AuditEvent :=
  (w.undisturbed calls).2.trail.recorded

lemma performAll_cons_onTrail (w : World) (trail : AuditTrail) (c : GateCall)
    (rest : List GateCommand) :
    let after := (w.perform c.command).world.onTrail (trail.deliverAll (w.emissions c.command)).1
    (((w.onTrail trail).performAll (c.command :: rest)).1.map (·.1) =
      (w.perform c.command).answer :: (after.performAll rest).1.map (·.1)) ∧
    ((w.onTrail trail).performAll (c.command :: rest)).2 = (after.performAll rest).2 := by
  obtain ⟨hanswer, hworld⟩ := perform_onTrail w trail c.blind
  simp only [performAll, hanswer, hworld, List.map_cons, and_self]

lemma exists_performAll_onTrail (w : World) (calls : List GateCall) :
    ∃ (last : World) (events : List AuditEvent), ∀ trail,
      ((w.onTrail trail).performAll (calls.map (·.command))).1.map (·.1) = w.answers calls ∧
      ((w.onTrail trail).performAll (calls.map (·.command))).2 =
        last.onTrail (trail.deliverAll events).1 := by
  induction calls generalizing w with
  | nil => exact ⟨w, [], fun _ => ⟨rfl, rfl⟩⟩
  | cons c calls ih =>
      obtain ⟨last, events, hrest⟩ := ih (w.perform c.command).world
      have hcall := fun trail => performAll_cons_onTrail w trail c (calls.map (·.command))
      refine ⟨last, w.emissions c.command ++ events, fun trail => ⟨?_, ?_⟩⟩
      · rw [answers, undisturbed, List.map_cons, (hcall trail).1, (hcall .fresh).1, (hrest _).1,
          (hrest _).1]
      · rw [List.map_cons, (hcall trail).2, (hrest _).2, AuditTrail.deliverAll_append]

/-- **A session on another trail.**  Its calls give the same answers, and the trail is handed the
same events; what else it does is the same. -/
lemma performAll_onTrail (w : World) (trail : AuditTrail) (calls : List GateCall) :
    ((w.onTrail trail).performAll (calls.map (·.command))).1.map (·.1) = w.answers calls ∧
    ((w.onTrail trail).performAll (calls.map (·.command))).2 =
      (w.undisturbed calls).2.onTrail (trail.deliverAll (w.emitted calls)).1 := by
  obtain ⟨last, events, h⟩ := exists_performAll_onTrail w calls
  have hundisturbed : (w.undisturbed calls).2 =
      last.onTrail { AuditTrail.fresh with recorded := events } := by
    rw [undisturbed, (h .fresh).2, AuditTrail.deliverAll_fresh]
  have hemitted : w.emitted calls = events := by
    rw [emitted, hundisturbed]
    rfl
  rw [hundisturbed, hemitted]
  exact h trail

lemma answers_cons (w : World) (c : GateCall) (calls : List GateCall) :
    w.answers (c :: calls) =
      (w.perform c.command).answer :: (w.perform c.command).world.answers calls := by
  rw [answers, undisturbed, List.map_cons, (performAll_cons_onTrail w .fresh c _).1,
    (performAll_onTrail _ _ calls).1]

/-- The first call of a session is followed by a session of the others. -/
lemma undisturbed_cons (w : World) (c : GateCall) (calls : List GateCall) :
    (w.undisturbed (c :: calls)).2 =
      ((w.perform c.command).world.undisturbed calls).2.onTrail
        { AuditTrail.fresh with
          recorded := w.emissions c.command ++ (w.perform c.command).world.emitted calls } := by
  rw [undisturbed, List.map_cons, (performAll_cons_onTrail w .fresh c _).2,
    (performAll_onTrail _ _ calls).2, ← AuditTrail.deliverAll_append, AuditTrail.deliverAll_fresh]

lemma emitted_cons (w : World) (c : GateCall) (calls : List GateCall) :
    w.emitted (c :: calls) =
      w.emissions c.command ++ (w.perform c.command).world.emitted calls := by
  rw [emitted, undisturbed_cons]
  rfl

/-- What the calls emit, each of them where the calls before it have led. -/
def told (w : World) : List GateCall → List AuditEvent
  | [] => []
  | c :: calls => w.emissions c.command ++ told (w.perform c.command).world calls

/-- A trail that loses nothing records what the calls emit. -/
lemma emitted_eq_told (w : World) (calls : List GateCall) : w.emitted calls = w.told calls := by
  induction calls generalizing w with
  | nil => rfl
  | cons c calls ih => rw [emitted_cons, told, ih]

end World

end DeviceGate
