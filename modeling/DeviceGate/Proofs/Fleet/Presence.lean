import DeviceGate.Proofs.Fleet.Sweep
import DeviceGate.Proofs.Gate.Committed
import DeviceGate.Proofs.Time.Since

/-!
When a device is taken for silent.  A message that is admitted is a visit of its device, which is
seen as of the capture that the message names, or else as of the clock.  A sweep goes by the last
visit alone, so that a device that reports on and on is timed out if what it said last is old.

* `Visit`, `Visit.moment`: a visit, and as of when the device is seen.
* `Presence.Course`: the records, and the visits so far; `Presence.Course.run`: the course of
  messages and sweeps, between which calls go down and come back, and devices change their status.
* `Presence.Course.Sound`: the store knows as of when each device was last seen;
  `Presence.Course.Sound.step`, `Presence.Course.Sound.run`: this is kept.
* `Presence.Course.timesOut_iff`: whom a sweep times out.
* `Presence.Course.timed_out_by_capture`: one that has reported in time is timed out only by the
  capture that its last message names.
-/

namespace DeviceGate

/-- A message of a device that was admitted. -/
structure Visit where
  deviceId : ℤ
  /-- The clock when the message was admitted. -/
  clock : Timestamp
  /-- The moment of capture, if the message names one. -/
  captured : Option Timestamp
  deriving DecidableEq

/-- The moment as of which the device is seen. -/
def Visit.moment (v : Visit) : Timestamp := v.captured.getD v.clock

/-! ### When devices were last seen -/

namespace Store

variable {s after : Store}

/-- The moment as of which a device was last seen; of one that was never seen, none; of one that is
not registered, not even that. -/
def seenAt (s : Store) (id : ℤ) : Option (Option Timestamp) :=
  (s.tables.device? id).map Device.lastSeenAt

lemma seenAt_of_devices (h : after.tables.devices = s.tables.devices) (id : ℤ) :
    after.seenAt id = s.seenAt id := by
  rw [seenAt, Tables.device?, h]
  rfl

/-- Only what is about the last visit changes it. -/
lemma seenAt_updateStatus {deviceId : ℤ} {status : DeviceStatus}
    (h : s.updateStatus deviceId status = .ok after) (id : ℤ) : after.seenAt id = s.seenAt id := by
  rw [updateStatus, Faults.check_bind_eq_ok_iff, changeDevice] at h
  obtain ⟨-, h⟩ := h
  split at h
  · cases h
  · cases h
    rw [seenAt, seenAt, Tables.device?, Tables.device?,
      Tables.find?_updateDevice_id (fun _ => by rfl), Option.map_map]
    congr 1
    funext d
    split_ifs
    · rfl
    · rfl

/-- A message that goes through shows its device, and no other one, at its moment. -/
lemma seenAt_storing {e : Examined} (hid : (s.tables.device? e.device.id).isSome = true)
    (moment : Timestamp) (id : ℤ) :
    (s.storing e moment).seenAt id =
      if id = e.device.id then some (some moment) else s.seenAt id := by
  rw [seenAt, seenAt, storing, Tables.device?, Tables.device?,
    Tables.find?_updateDevice_id (fun _ => by rfl), Option.map_map]
  split_ifs with h
  · obtain ⟨d, hd⟩ := Option.isSome_iff_exists.1 hid
    rw [Tables.device?] at hd
    rw [h, hd]
    rfl
  · rfl

end Store

/-! ### Courses -/

namespace Presence

/-- The visit that a message is when it is admitted. -/
def visit? (s : Store) (now : Timestamp) (m : Message) (payload : Json) : Option Visit := do
  let uuid ← Topic.deviceId? m.topic
  let device ← (s.findDevice uuid).toOption.join
  return {
    deviceId := device.id, clock := now, captured := TelemetryPayload.capturedAtOf payload }

/-- What happens. -/
inductive Happening where
  | message (now : Timestamp) (m : Message) (payload : Json)
  | sweep (now : Timestamp)
  /-- From now on, these calls of the store are down. -/
  | outage (faults : Faults)
  /-- A device is given another status. -/
  | status (deviceId : ℤ) (status : DeviceStatus)

/-- The clock, where it is read. -/
def Happening.clock? : Happening → Option Timestamp
  | message now _ _ => some now
  | sweep now => some now
  | outage _ => none
  | status _ _ => none

/-- The readings of the clock. -/
def clocks (happenings : List Happening) : List Timestamp :=
  happenings.filterMap Happening.clock?

/-- The clock does not go back. -/
def InOrder (happenings : List Happening) : Prop := (clocks happenings).Pairwise (· ≤ ·)

/-- The records, and the visits so far, the last one first. -/
structure Course where
  records : Records
  visits : List Visit := []

namespace Course

/-- The course with the store changed. -/
def withStore (c : Course) (s : Store) : Course :=
  { c with records := { c.records with store := s } }

/-- The course behind one thing that happens. -/
def step (a : Admission) (timeout : ℕ) (c : Course) : Happening → Course
  | .message now m payload =>
      let (answer, after) := (a.process now m payload c.records).value
      { records := after
        visits :=
          match answer with
          | .ok _ => (visit? c.records.store now m payload).toList ++ c.visits
          | .error _ => c.visits }
  | .sweep now => c.withStore (c.records.store.sweep timeout now).value.2
  | .outage faults => c.withStore { c.records.store with faults := faults }
  | .status deviceId status =>
      match c.records.store.updateStatus deviceId status with
      | .ok s => c.withStore s
      | .error _ => c

/-- The course of all that happens. -/
def run (a : Admission) (timeout : ℕ) (c : Course) (happenings : List Happening) : Course :=
  happenings.foldl (step a timeout) c

@[simp] lemma run_nil (a : Admission) (timeout : ℕ) (c : Course) : c.run a timeout [] = c :=
  rfl

@[simp] lemma run_cons (a : Admission) (timeout : ℕ) (c : Course) (h : Happening)
    (rest : List Happening) :
    c.run a timeout (h :: rest) = (c.step a timeout h).run a timeout rest :=
  rfl

/-- The last visit of a device. -/
def lastVisit? (c : Course) (id : ℤ) : Option Visit :=
  c.visits.find? fun v => v.deviceId = id

/-- The ids of the devices are unique, and each device was last seen as of its last visit. -/
structure Sound (c : Course) : Prop where
  tidy : c.records.store.tables.Tidy
  seen : ∀ id v, c.lastVisit? id = some v → c.records.store.seenAt id = some (some v.moment)

/-- So it is before anything has happened. -/
lemma Sound.first {r : Records} (htidy : r.store.tables.Tidy) : Sound { records := r } :=
  ⟨htidy, fun _ _ hv => nomatch hv⟩

section Step

variable {a : Admission} {timeout : ℕ} {c : Course} {now : Timestamp} {m : Message} {payload : Json}

/-- A message that is rejected is no visit, and all devices are as they were. -/
lemma step_of_error {rejection : AdmissionRejection}
    (h : (a.process now m payload c.records).value.1 = .error rejection) :
    ∃ s, c.step a timeout (.message now m payload) = c.withStore s ∧
      c.records.store.OnlyDrew s := by
  obtain ⟨s, hrecords, hdrew⟩ := Admission.records_of_process_eq_error h
  refine ⟨s, ?_, hdrew⟩
  simp only [step, h, hrecords]
  rfl

variable (timeout now) in
/-- A message that clears the checks is a visit, and what it says is stored. -/
lemma step_of_clears {uuid : String} {t : TelemetryPayload} {d : Device} {component : ComponentType}
    (hclears : a.Clears c.records.store m.topic payload uuid t d component)
    (htakes : c.records.store.Takes t.readings.length) :
    (c.step a timeout (.message now m payload)).visits = ⟨d.id, now, t.capturedAt⟩ :: c.visits ∧
      (c.step a timeout (.message now m payload)).records.store =
        c.records.store.storing ⟨d, t⟩ (t.capturedAt.getD now) := by
  obtain ⟨entries, hdescribes⟩ := TelemetryPayload.exists_describes hclears.read
  obtain ⟨gap, hanswer, hstore⟩ := Admission.process_eq_of_clears hclears htakes now
  have hvisit : visit? c.records.store now m payload = some ⟨d.id, now, t.capturedAt⟩ := by
    simp only [visit?, hclears.addressed, hclears.registered, Option.bind_eq_bind,
      Option.bind_some, Except.toOption, Option.join_some, hdescribes.capturedAt]
    rfl
  constructor
  · simp only [step, hanswer, hvisit]
    rfl
  · exact hstore

/-- The course that stays as it is but for its store. -/
lemma Sound.withStore (h : c.Sound) {s : Store} (hgrows : c.records.store.Grows s)
    (hseen : ∀ id, s.seenAt id = c.records.store.seenAt id) : (c.withStore s).Sound where
  tidy := hgrows.tidy h.tidy
  seen id v hv := (hseen id).trans (h.seen id v hv)

/-- **One step.**  Whatever happens, each device was last seen as of its last visit. -/
lemma Sound.step (h : c.Sound) (happening : Happening) : (c.step a timeout happening).Sound := by
  cases happening with
  | outage faults => exact h.withStore (.of_eq rfl rfl) fun _ => rfl
  | sweep now =>
      exact h.withStore (.of_sweep _ timeout now) (Store.lastSeenAt_sweep h.tidy timeout now)
  | status deviceId status =>
      rcases hupdated : c.records.store.updateStatus deviceId status with e | s
      · simpa only [Course.step, hupdated] using h
      · simp only [Course.step, hupdated]
        exact h.withStore (.of_upkeep (u := .updateStatus deviceId status) hupdated)
          (Store.seenAt_updateStatus hupdated)
  | message now m payload =>
      rcases hanswer : (a.process now m payload c.records).value.1 with rejection | receipt
      · obtain ⟨s, hstep, hdrew⟩ := step_of_error hanswer
        rw [hstep]
        refine h.withStore (.of_onlyDrew hdrew) (Store.seenAt_of_devices ?_)
        rw [hdrew.tables_eq]
      · obtain ⟨uuid, t, d, component, hclears, htakes⟩ :=
          Admission.admissible_of_process_eq_ok hanswer
        obtain ⟨hvisits, hstore⟩ := step_of_clears timeout now hclears htakes
        refine ⟨(Store.Grows.of_process a now m payload c.records).tidy h.tidy, ?_⟩
        intro id v hv
        rw [lastVisit?, hvisits] at hv
        rw [hstore,
          Store.seenAt_storing (Admission.device?_isSome_of_findDevice hclears.registered)]
        by_cases hid : d.id = id
        · rw [List.find?_cons_of_pos (by simpa using hid)] at hv
          rw [if_pos hid.symm, ← Option.some.inj hv]
          rfl
        · rw [List.find?_cons_of_neg (by simpa using hid)] at hv
          rw [if_neg (Ne.symm hid)]
          exact h.seen id v hv

/-- And whatever has happened. -/
lemma Sound.run (h : c.Sound) (happenings : List Happening) :
    (c.run a timeout happenings).Sound := by
  induction happenings generalizing c with
  | nil => exact h
  | cons happening rest ih => exact ih (h.step happening)

end Step

/-! ### The last visit -/

section Last

variable {a : Admission} {timeout : ℕ} {c : Course} {happenings : List Happening} {now : Timestamp}

/-- Visits are made when the clock says so. -/
lemma clocks_step (c : Course) (happening : Happening) :
    ((c.step a timeout happening).visits.map Visit.clock).reverse.Sublist
      ((c.visits.map Visit.clock).reverse ++ happening.clock?.toList) := by
  have hkept : ((c.visits.map Visit.clock).reverse).Sublist
      ((c.visits.map Visit.clock).reverse ++ happening.clock?.toList) :=
    List.sublist_append_left ..
  cases happening with
  | outage faults => exact hkept
  | sweep now => exact hkept
  | status deviceId status =>
      rcases hupdated : c.records.store.updateStatus deviceId status with e | s
      · simp only [step, hupdated]
        exact hkept
      · simp only [step, hupdated]
        exact hkept
  | message now m payload =>
      rcases hanswer : (a.process now m payload c.records).value.1 with rejection | receipt
      · obtain ⟨s, hstep, -⟩ := step_of_error hanswer
        rw [hstep]
        exact hkept
      · obtain ⟨uuid, t, d, component, hclears, htakes⟩ :=
          Admission.admissible_of_process_eq_ok hanswer
        obtain ⟨hvisits, -⟩ := step_of_clears timeout now hclears htakes
        rw [hvisits, List.map_cons, List.reverse_cons]
        exact List.Sublist.refl _

variable (a timeout) in
lemma clocks_run (c : Course) (happenings : List Happening) :
    ((c.run a timeout happenings).visits.map Visit.clock).reverse.Sublist
      ((c.visits.map Visit.clock).reverse ++ clocks happenings) := by
  induction happenings generalizing c with
  | nil => exact List.sublist_append_left ..
  | cons happening rest ih =>
      refine (ih _).trans ?_
      have hclocks : clocks (happening :: rest) = happening.clock?.toList ++ clocks rest := by
        rw [clocks, List.filterMap_cons]
        rcases happening.clock? with _ | t
        · rfl
        · rfl
      rw [hclocks, ← List.append_assoc]
      exact (clocks_step c happening).append_right _

/-- The last visit of a device that has made one, which is not before any other of its visits. -/
lemma exists_lastVisit (horder : InOrder happenings) (first : Records)
    {w : Visit} (hw : w ∈ (run a timeout { records := first } happenings).visits) :
    ∃ v, (run a timeout { records := first } happenings).lastVisit? w.deviceId = some v ∧
      w.clock ≤ v.clock := by
  have hsublist := clocks_run a timeout { records := first } happenings
  generalize run a timeout { records := first } happenings = c at hw hsublist ⊢
  rw [List.map_nil, List.reverse_nil, List.nil_append] at hsublist
  have hlater : c.visits.Pairwise fun v w => w.clock ≤ v.clock :=
    List.pairwise_map.1 (List.pairwise_reverse.1 (List.Pairwise.sublist hsublist horder))
  obtain ⟨v, hv⟩ : ∃ v, c.lastVisit? w.deviceId = some v :=
    Option.isSome_iff_exists.1 (List.find?_isSome.2 ⟨w, hw, by simp⟩)
  obtain ⟨-, before, rest, hvisits, hbefore⟩ := List.find?_eq_some_iff_append.1 hv
  refine ⟨v, hv, ?_⟩
  rw [hvisits] at hw hlater
  obtain ⟨hv', -⟩ := List.pairwise_cons.1 (List.pairwise_append.1 hlater).2.1
  rcases List.mem_append.1 hw with hw | hw
  · exact absurd (hbefore w hw) (by simp)
  · rcases List.mem_cons.1 hw with rfl | hw
    · exact Timestamp.le_refl _
    · exact hv' w hw

variable (timeout now) in
/-- **Who is timed out.**  The last visit of a device decides, by its moment, whether a sweep that
the store answers times the device out while it is online. -/
lemma timesOut_iff (h : c.Sound) {id : ℤ} {v : Visit} (hv : c.lastVisit? id = some v) :
    c.records.store.TimesOut (c.records.store.sweep timeout now).value.2 id ↔
      c.records.store.AnswersSweep ∧
      (∃ d, c.records.store.tables.device? id = some d ∧ d.status = .online) ∧
      Span.ofSeconds timeout < now.since v.moment := by
  obtain ⟨d, hd, hseen⟩ := Option.map_eq_some_iff.1 (h.seen id v hv)
  rw [Store.timesOut_sweep_iff h.tidy, hd]
  simp [Device.isStale, Device.isStaleAfter, hseen]

end Last

end Course

/-- **Who is timed out while it reports.**  Whatever messages, sweeps and outages there have been
while the clock went on, and whatever moments of capture the messages named, the message of a device
that was admitted last decides what the next sweep does to the device.  A sweep that the store
answers times it out exactly if it is online and that message is older than the timeout: by its
capture or, if it names none, by the clock.  So a device of which some message was admitted within
the timeout is timed out only if the last one names a capture that is older.  For the latter, the
former message is not admitted in a leap second, and the last message and the sweep at most in one
that ends its day: otherwise spans need not shrink with their earlier end. -/
theorem timed_out_by_capture (a : Admission) (timeout : ℕ) (first : Records)
    (happenings : List Happening) (now : Timestamp) (htidy : first.store.tables.Tidy)
    (horder : InOrder happenings) :
    let c := Course.run a timeout { records := first } happenings
    let after := (c.records.store.sweep timeout now).value.2
    ∀ w ∈ c.visits, ∃ v, c.lastVisit? w.deviceId = some v ∧ w.clock ≤ v.clock ∧
      (c.records.store.TimesOut after w.deviceId ↔ c.records.store.AnswersSweep ∧
        (∃ d, c.records.store.tables.device? w.deviceId = some d ∧ d.status = .online) ∧
        Span.ofSeconds timeout < now.since v.moment) ∧
      (w.clock.isLeapSecond = false → v.clock.InPlace → now.InPlace →
        now.since w.clock ≤ Span.ofSeconds timeout → c.records.store.TimesOut after w.deviceId →
        ∃ captured, v.captured = some captured ∧ Span.ofSeconds timeout < now.since captured) := by
  intro c after w hw
  have hsound : c.Sound := (Course.Sound.first htidy).run happenings
  obtain ⟨v, hv, hle⟩ := Course.exists_lastVisit horder first hw
  have hiff := Course.timesOut_iff timeout now hsound hv
  refine ⟨v, hv, hle, hiff, fun hregular hvplace hplace hrecent hout => ?_⟩
  obtain ⟨-, -, hold⟩ := hiff.1 hout
  rcases hcaptured : v.captured with _ | captured
  · have hanti : now.since v.clock ≤ now.since w.clock :=
      Timestamp.since_anti hle hregular hvplace hplace
    rw [Visit.moment, hcaptured] at hold
    exact absurd hold (Span.not_lt.2 (Span.le_trans hanti hrecent))
  · rw [Visit.moment, hcaptured] at hold
    exact ⟨captured, rfl, hold⟩

namespace Sample

/-- One message of a device, and nothing else. -/
def course (payload : Json) : Course :=
  Course.run ⟨none, 60⟩ 60 { records := Admission.Sample.records .none }
    [.message ⟨1767225600, 0⟩ Admission.Sample.message payload]

/-- The store behind a sweep of it. -/
def swept (payload : Json) (now : Timestamp) : Store :=
  ((course payload).records.store.sweep 60 now).value.2

lemma tidy : (Admission.Sample.records .none).store.tables.Tidy :=
  ⟨List.pairwise_singleton .., List.nodup_nil⟩

lemma inOrder (payload : Json) :
    InOrder [.message ⟨1767225600, 0⟩ Admission.Sample.message payload] :=
  List.pairwise_singleton ..

/-- The device of the course is online, and seen as of its message. -/
lemma course_of_clears {payload : Json} {t : TelemetryPayload}
    (hclears : (Admission.mk none 60).Clears (Admission.Sample.records .none).store
      Admission.Sample.message.topic payload "D1" t Admission.Sample.device
      Admission.Sample.component) :
    (course payload).visits = [⟨1, ⟨1767225600, 0⟩, t.capturedAt⟩] ∧
      (course payload).records.store.AnswersSweep ∧
      ∃ d, (course payload).records.store.tables.device? 1 = some d ∧ d.status = .online := by
  obtain ⟨hvisits, hstore⟩ := Course.step_of_clears 60 ⟨1767225600, 0⟩
    (c := { records := Admission.Sample.records .none }) hclears
    ⟨rfl, rfl, fun _ => rfl, fun _ _ => rfl, rfl, rfl⟩
  rw [course, Course.run_cons, Course.run_nil, hstore, hvisits]
  exact ⟨rfl, ⟨rfl, rfl⟩, _, rfl, rfl⟩

lemma sound_course (payload : Json) : (course payload).Sound :=
  (Course.Sound.first tidy).run _

end Sample

open Sample in
/-- A message of a capture long ago is admitted, and one second later its device is timed out. -/
theorem timed_out_while_reporting :
    (course World.Sample.measured).visits =
        [⟨1, ⟨1767225600, 0⟩, some ⟨1714564800, 0⟩⟩] ∧
      (⟨1767225600, 0⟩ : Timestamp) ≤ ⟨1767225601, 0⟩ ∧
      (⟨1767225601, 0⟩ : Timestamp).since ⟨1767225600, 0⟩ ≤ Span.ofSeconds 60 ∧
      (course World.Sample.measured).records.store.TimesOut
        (swept World.Sample.measured ⟨1767225601, 0⟩) 1 := by
  obtain ⟨hvisits, hanswers, hd⟩ := course_of_clears World.Sample.clears_measured
  have hlast : (course World.Sample.measured).lastVisit? 1 =
      some ⟨1, ⟨1767225600, 0⟩, some ⟨1714564800, 0⟩⟩ := by
    rw [Course.lastVisit?, hvisits]
    rfl
  refine ⟨hvisits, by decide, by decide, ?_⟩
  rw [swept, Course.timesOut_iff _ _ (sound_course World.Sample.measured) hlast]
  exact ⟨hanswers, hd, by decide⟩

open Sample in
/-- A message that names no capture keeps its device online for a minute. -/
theorem timed_out_by_capture_none :
    ¬ (course Admission.Sample.payload).records.store.TimesOut
        (swept Admission.Sample.payload ⟨1767225660, 0⟩) 1 ∧
      (course Admission.Sample.payload).records.store.TimesOut
        (swept Admission.Sample.payload ⟨1767225661, 0⟩) 1 := by
  obtain ⟨hvisits, hanswers, hd⟩ := course_of_clears (Admission.Sample.clears 60 fun _ _ => rfl)
  have hw : ⟨1, ⟨1767225600, 0⟩, none⟩ ∈ (course Admission.Sample.payload).visits := by
    rw [hvisits]
    exact List.mem_singleton_self _
  have hlast {v : Visit} (hv : (course Admission.Sample.payload).lastVisit? 1 = some v) :
      v = ⟨1, ⟨1767225600, 0⟩, none⟩ := by
    rw [Course.lastVisit?, hvisits] at hv
    cases hv
    rfl
  rw [course] at hanswers hd hw
  have hruled (now : Timestamp) := timed_out_by_capture ⟨none, 60⟩ 60
    (Admission.Sample.records .none) _ now tidy (inOrder Admission.Sample.payload) _ hw
  constructor
  · rw [swept, course]
    intro hout
    obtain ⟨v, hv, -, -, hcapture⟩ := hruled ⟨1767225660, 0⟩
    rw [hlast hv] at hcapture
    obtain ⟨captured, hnone, -⟩ := hcapture rfl (by decide) (by decide) (by decide) hout
    cases hnone
  · obtain ⟨v, hv, -, hiff, -⟩ := hruled ⟨1767225661, 0⟩
    rw [hlast hv] at hiff
    rw [swept, course, hiff]
    exact ⟨hanswers, hd, by decide⟩

end Presence

end DeviceGate
