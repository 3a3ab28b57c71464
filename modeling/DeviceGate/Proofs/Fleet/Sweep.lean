import DeviceGate.Fleet.Sweep
import DeviceGate.Proofs.Store.Growth

/-!
What one sweep does to the devices.  The stale online ones are timed out, one after the other, and
nobody else is touched; a store that does not answer is left as it is.

* `Device.Overdue`: the devices that a sweep is about; `Device.swept`: a device behind a sweep.
* `Store.timeOutAll_of_up`, `Store.timeOutAll_of_down`: several devices are timed out, or none.
* `Store.sweepAfter_of_answers`, `Store.sweepAfter_of_unlisted`, `Store.sweepAfter_of_stuck`: a
  sweep, while the store answers and while it does not.
* `Store.timesOut_sweep_iff`: the devices that a sweep moves.
-/

namespace DeviceGate

namespace Device

variable {nanos : ℕ} {now : Timestamp} {d : Device}

/-- The device, timed out. -/
def timedOut (d : Device) : Device := { d with status := .timeout }

/-- The device is online, and it was never seen, or last seen more than so many nanoseconds ago. -/
def Overdue (nanos : ℕ) (now : Timestamp) (d : Device) : Prop :=
  d.status = .online ∧ ∀ seen ∈ d.lastSeenAt, Span.ofNanos nanos < now.since seen

instance (nanos : ℕ) (now : Timestamp) (d : Device) : Decidable (d.Overdue nanos now) :=
  inferInstanceAs (Decidable (_ ∧ _))

lemma isStaleAfter_eq_true_iff :
    d.isStaleAfter nanos now = true ↔
      ∀ seen ∈ d.lastSeenAt, Span.ofNanos nanos < now.since seen := by
  rw [isStaleAfter]
  rcases d.lastSeenAt with _ | seen
  · simp
  · simp

/-- The device behind a sweep at that moment. -/
def swept (nanos : ℕ) (now : Timestamp) (d : Device) : Device :=
  if d.Overdue nanos now then d.timedOut else d

@[simp] lemma id_swept (nanos : ℕ) (now : Timestamp) (d : Device) :
    (d.swept nanos now).id = d.id := by
  rw [swept]
  split_ifs
  · rfl
  · rfl

@[simp] lemma lastSeenAt_swept (nanos : ℕ) (now : Timestamp) (d : Device) :
    (d.swept nanos now).lastSeenAt = d.lastSeenAt := by
  rw [swept]
  split_ifs
  · rfl
  · rfl

end Device

namespace Store

/-- The store with other devices. -/
def withDevices (s : Store) (devices : List Device) : Store :=
  { s with tables := { s.tables with devices := devices } }

/-- The store in which the device of an id is timed out. -/
def timingOut (s : Store) (id : Int) : Store :=
  s.withDevices (Tables.updateDevice id Device.timedOut s.tables.devices)

/-- The store answers all that a sweep asks. -/
def AnswersSweep (s : Store) : Prop :=
  s.faults .devicesWithStatus = false ∧ s.faults .updateStatus = false

variable {s : Store}

/-! ### Devices that are timed out -/

/-- One device is timed out. -/
lemma timeOut_of_up (hup : s.faults .updateStatus = false) {d : Device}
    (hd : (s.tables.device? d.id).isSome = true) :
    (s.timeOut d).value = (true, s.timingOut d.id) ∧
      (s.timeOut d).events = [Sweep.timeoutEvent d] := by
  obtain ⟨found, hfound⟩ := Option.isSome_iff_exists.1 hd
  have hupdated : s.updateStatus d.id .timeout = .ok (s.timingOut d.id) := by
    rw [updateStatus, Faults.check_bind_of_up hup, changeDevice, hfound]
    rfl
  rw [timeOut, hupdated]
  exact ⟨rfl, rfl⟩

lemma timeOut_of_down (hdown : s.faults .updateStatus = true) (d : Device) :
    (s.timeOut d).value = (false, s) ∧ (s.timeOut d).events = [] := by
  rw [timeOut, updateStatus, Faults.check_bind_of_down hdown]
  exact ⟨rfl, rfl⟩

/-- Who is registered, is still registered when somebody has been timed out. -/
lemma isSome_device?_timingOut (id other : Int) :
    ((s.timingOut id).tables.device? other).isSome = (s.tables.device? other).isSome := by
  change (List.find? _ (Tables.updateDevice ..)).isSome = _
  rw [Tables.find?_updateDevice_id (fun _ => by rfl), Option.isSome_map]
  rfl

/-- Several devices are timed out: all that have the id of one of them. -/
lemma timeOutAll_of_up (hup : s.faults .updateStatus = false) {devices : List Device}
    (hdevices : ∀ d ∈ devices, (s.tables.device? d.id).isSome = true) :
    (s.timeOutAll devices).value =
        (devices.length, s.withDevices (s.tables.devices.map fun d =>
          if d.id ∈ devices.map Device.id then d.timedOut else d)) ∧
      (s.timeOutAll devices).events = devices.map Sweep.timeoutEvent := by
  induction devices generalizing s with
  | nil => simp [timeOutAll, withDevices]
  | cons d rest ih =>
      obtain ⟨hd, hrest⟩ := List.forall_mem_cons.1 hdevices
      obtain ⟨hvalue, hevents⟩ := timeOut_of_up hup hd
      obtain ⟨hvalues, hrested⟩ := ih (s := s.timingOut d.id) hup fun x hx => by
        rw [isSome_device?_timingOut]
        exact hrest x hx
      have hboth : ((s.timingOut d.id).tables.devices.map fun x =>
            if x.id ∈ rest.map Device.id then x.timedOut else x) =
          s.tables.devices.map fun x =>
            if x.id ∈ (d :: rest).map Device.id then x.timedOut else x := by
        change (Tables.updateDevice ..).map _ = _
        rw [Tables.updateDevice, List.map_map]
        refine List.map_congr_left fun x _ => ?_
        simp only [List.map_cons, List.mem_cons, Function.comp_apply]
        by_cases hx : x.id = d.id
        · simp [hx, Device.timedOut]
        · simp [hx]
      constructor
      · rw [timeOutAll, Noted.value_bind, hvalue]
        simp only [Noted.value_bind, Noted.value_pure, if_true]
        rw [hvalues, hboth]
        rfl
      · rw [timeOutAll, Noted.events_bind, hvalue, hevents]
        simp only [Noted.events_bind, Noted.events_pure, List.append_nil, hrested]
        rfl

lemma timeOutAll_of_down (hdown : s.faults .updateStatus = true) (devices : List Device) :
    (s.timeOutAll devices).value = (0, s) ∧ (s.timeOutAll devices).events = [] := by
  induction devices with
  | nil => exact ⟨rfl, rfl⟩
  | cons d rest ih =>
      obtain ⟨hvalue, hevents⟩ := timeOut_of_down hdown d
      rw [timeOutAll]
      simp [hvalue, hevents, ih]

/-! ### Sweeps -/

/-- The device of an id is the only one that has it. -/
lemma mem_map_id_filter_iff (htidy : s.tables.Tidy) {x : Device} (hx : x ∈ s.tables.devices)
    (p : Device → Bool) : x.id ∈ (s.tables.devices.filter p).map Device.id ↔ p x = true := by
  have hids : (s.tables.devices.map Device.id).Nodup :=
    List.pairwise_map.2 (htidy.devices.imp fun h => h.ne)
  simp only [List.mem_map, List.mem_filter]
  constructor
  · rintro ⟨y, ⟨hy, hp⟩, heq⟩
    rwa [← List.inj_on_of_nodup_map hids hy hx heq]
  · exact fun hp => ⟨x, ⟨hx, hp⟩, rfl⟩

lemma devicesWithStatus_of_up (hlists : s.faults .devicesWithStatus = false)
    (status : DeviceStatus) :
    s.devicesWithStatus status = .ok (s.tables.devices.filter fun d => d.status = status) := by
  rw [devicesWithStatus, Faults.check_bind_of_up hlists]
  rfl

/-- **A sweep.**  The devices that are overdue are timed out and counted, and each of them is
reported. -/
lemma sweepAfter_of_answers (htidy : s.tables.Tidy) (hanswers : s.AnswersSweep) (nanos : ℕ)
    (now : Timestamp) :
    let overdue := s.tables.devices.filter fun d => d.Overdue nanos now
    (s.sweepAfter nanos now).value =
        (.ok overdue.length, s.withDevices (s.tables.devices.map (Device.swept nanos now))) ∧
      (s.sweepAfter nanos now).events = overdue.map Sweep.timeoutEvent := by
  intro overdue
  have hstale : (s.tables.devices.filter fun d => d.status = .online).filter
      (fun d => d.isStaleAfter nanos now) = overdue := by
    rw [List.filter_filter]
    refine List.filter_congr fun d _ => ?_
    rw [Bool.eq_iff_iff]
    simp only [Bool.and_eq_true, Device.isStaleAfter_eq_true_iff, decide_eq_true_eq]
    exact and_comm
  have hknown : ∀ d ∈ overdue, (s.tables.device? d.id).isSome = true := by
    intro d hd
    rw [Tables.device?, List.find?_isSome]
    exact ⟨d, (List.mem_filter.1 hd).1, by simp⟩
  have hmoved : (s.tables.devices.map fun d =>
      if d.id ∈ overdue.map Device.id then d.timedOut else d) =
      s.tables.devices.map (Device.swept nanos now) := by
    refine List.map_congr_left fun d hd => ?_
    simp only [overdue, mem_map_id_filter_iff htidy hd, decide_eq_true_eq, Device.swept]
  obtain ⟨hvalue, hevents⟩ := timeOutAll_of_up hanswers.2 hknown
  rw [hmoved] at hvalue
  rw [sweepAfter, devicesWithStatus_of_up hanswers.1]
  simp only [Noted.value_bind, Noted.events_bind, hstale, hvalue, hevents]
  split
  · exact ⟨rfl, List.append_nil _⟩
  · exact ⟨rfl, List.append_nil _⟩

/-- A sweep that cannot list the devices fails. -/
lemma sweepAfter_of_unlisted (hdown : s.faults .devicesWithStatus = true) (nanos : ℕ)
    (now : Timestamp) :
    (s.sweepAfter nanos now).value = (.error (s.faults.error .devicesWithStatus), s) ∧
      (s.sweepAfter nanos now).events = [] := by
  rw [sweepAfter, devicesWithStatus, Faults.check_bind_of_down hdown]
  exact ⟨rfl, rfl⟩

/-- A sweep that cannot change the devices changes none. -/
lemma sweepAfter_of_stuck (hlists : s.faults .devicesWithStatus = false)
    (hdown : s.faults .updateStatus = true) (nanos : ℕ) (now : Timestamp) :
    (s.sweepAfter nanos now).value = (.ok 0, s) ∧ (s.sweepAfter nanos now).events = [] := by
  rw [sweepAfter, devicesWithStatus_of_up hlists]
  simp only [Noted.value_bind, Noted.events_bind, timeOutAll_of_down hdown, lt_irrefl, if_false]
  exact ⟨rfl, rfl⟩

/-- A store that does not answer is left as it is. -/
lemma store_sweepAfter_of_not_answers (hdown : ¬s.AnswersSweep) (nanos : ℕ) (now : Timestamp) :
    (s.sweepAfter nanos now).value.2 = s := by
  rw [AnswersSweep, not_and_or, Bool.not_eq_false, Bool.not_eq_false] at hdown
  rcases hlists : s.faults .devicesWithStatus with _ | _
  · rw [(sweepAfter_of_stuck hlists (hdown.resolve_left (by simp [hlists])) nanos now).1]
  · rw [(sweepAfter_of_unlisted hlists nanos now).1]

/-- The device of an id has moved from `ONLINE` to `TIMEOUT`. -/
def TimesOut (s after : Store) (id : Int) : Prop :=
  ∃ d d', s.tables.device? id = some d ∧ after.tables.device? id = some d' ∧
    d.status = .online ∧ d'.status = .timeout

/-- What is found of a device behind a sweep. -/
lemma device?_sweepAfter (htidy : s.tables.Tidy) (hanswers : s.AnswersSweep) (nanos : ℕ)
    (now : Timestamp) (id : Int) :
    (s.sweepAfter nanos now).value.2.tables.device? id =
      (s.tables.device? id).map (Device.swept nanos now) := by
  rw [(sweepAfter_of_answers htidy hanswers nanos now).1]
  simp only [withDevices, Tables.device?, List.find?_map, Function.comp_def, Device.id_swept]

/-- No sweep changes when a device was last seen. -/
lemma lastSeenAt_sweep (htidy : s.tables.Tidy) (timeout : ℕ) (now : Timestamp) (id : Int) :
    ((s.sweep timeout now).value.2.tables.device? id).map Device.lastSeenAt =
      (s.tables.device? id).map Device.lastSeenAt := by
  rw [sweep]
  by_cases hanswers : s.AnswersSweep
  · rw [device?_sweepAfter htidy hanswers, Option.map_map]
    simp only [Function.comp_def, Device.lastSeenAt_swept]
  · rw [store_sweepAfter_of_not_answers hanswers]

/-- **Who is timed out.**  A sweep of a store that answers moves a device exactly if it is online
and stale, and no device is moved otherwise. -/
lemma timesOut_sweep_iff (htidy : s.tables.Tidy) (timeout : ℕ) (now : Timestamp) (id : Int) :
    s.TimesOut (s.sweep timeout now).value.2 id ↔
      s.AnswersSweep ∧ ∃ d, s.tables.device? id = some d ∧ d.status = .online ∧
        d.isStale timeout now = true := by
  rw [sweep]
  by_cases hanswers : s.AnswersSweep
  · simp only [TimesOut, device?_sweepAfter htidy hanswers, Option.map_eq_some_iff, hanswers,
      true_and, Device.isStale, Device.isStaleAfter_eq_true_iff]
    constructor
    · rintro ⟨d, -, hd, ⟨d', hd', rfl⟩, honline, hout⟩
      obtain rfl := Option.some.inj (hd.symm.trans hd')
      refine ⟨d, hd, honline, ?_⟩
      by_contra hfresh
      rw [Device.swept, if_neg (fun h => hfresh h.2), honline] at hout
      cases hout
    · rintro ⟨d, hd, honline, hstale⟩
      refine ⟨d, _, hd, ⟨d, hd, rfl⟩, honline, ?_⟩
      rw [Device.swept, if_pos ⟨honline, hstale⟩]
      rfl
  · rw [store_sweepAfter_of_not_answers hanswers]
    constructor
    · rintro ⟨d, d', hd, hd', honline, hout⟩
      obtain rfl := Option.some.inj (hd.symm.trans hd')
      rw [honline] at hout
      cases hout
    · exact fun h => absurd h.1 hanswers

end Store

end DeviceGate
