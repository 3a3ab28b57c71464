import DeviceGate.Proofs.Fleet.Sweep
import DeviceGate.Proofs.Time.Since

/-!
Which devices a sweep moves, and what a second one finds.  A sweep moves the devices that are
overdue and leaves none of them behind; and as a device that is overdue stays so, a later sweep
finds the same as if there had been no earlier one.  Leap seconds are the exception: behind one, the
clock has been set back, and a device that was overdue in it need not be overdue any more.

* `Device.overdue_iff_clock`: what is overdue, in terms of the clock.
* `Device.Overdue.stays`: a device that is overdue stays so.
* `Device.swept_swept`: of two sweeps, the later one counts.
* `Store.sweep_moves_overdue`: what one sweep does, and two.
* `Store.sweep_around_leap_seconds`: what goes wrong around leap seconds.
-/

namespace DeviceGate

namespace Device

variable {nanos : ℕ} {now later seen : Timestamp} {d : Device}

/-! ### Who is overdue -/

lemma overdue_iff_online (h : d.lastSeenAt = none) : d.Overdue nanos now ↔ d.status = .online := by
  simp [Overdue, h]

lemma overdue_iff_seen (h : d.lastSeenAt = some seen) :
    d.Overdue nanos now ↔ d.status = .online ∧ (nanos : ℤ) < (now.since seen).nanos := by
  simp only [Overdue, h, Option.mem_some_iff, forall_eq']
  rfl

/-- The timeout itself is still in time. -/
lemma not_overdue_of_limit (h : d.lastSeenAt = some seen)
    (hlimit : now.since seen = Span.ofNanos nanos) : ¬d.Overdue nanos now := by
  rw [overdue_iff_seen h, hlimit]
  exact fun hover => lt_irrefl _ hover.2

/-- A device that is seen in the future is in time. -/
lemma not_overdue_of_future (h : d.lastSeenAt = some seen) (hfuture : now ≤ seen)
    (hnow : now.isLeapSecond = false) : ¬d.Overdue nanos now := by
  rw [overdue_iff_seen h]
  rintro ⟨-, hover⟩
  have := Timestamp.nanos_since_nonpos hfuture hnow
  omega

/-- In terms of the clock, a device is overdue when the timeout has run out. -/
lemma overdue_iff_clock (h : d.lastSeenAt = some seen) (hnow : now.InPlace) (hseen : seen.InPlace) :
    d.Overdue nanos now ↔ d.status = .online ∧ seen.clock + nanos < now.clock := by
  rw [overdue_iff_seen h, Timestamp.nanos_since hnow hseen, lt_sub_iff_add_lt, add_comm]

/-- A device that is overdue stays so. -/
lemma Overdue.stays (h : d.Overdue nanos now) (hlater : now ≤ later)
    (hnow : now.isLeapSecond = false) (hplace : later.InPlace)
    (hseen : ∀ seen ∈ d.lastSeenAt, seen.InPlace) : d.Overdue nanos later := by
  refine ⟨h.1, fun seen hmem => ?_⟩
  have hover : (nanos : ℤ) < (now.since seen).nanos := h.2 seen hmem
  exact hover.trans_le (Timestamp.since_mono hlater hnow hplace (hseen seen hmem))

/-! ### Behind a sweep -/

/-- A device that is timed out is not online. -/
lemma not_overdue_timedOut : ¬d.timedOut.Overdue nanos now := by
  intro hover
  cases hover.1

/-- A sweep leaves nobody behind who is overdue at that moment. -/
lemma not_overdue_swept : ¬(d.swept nanos now).Overdue nanos now := by
  rw [swept]
  split_ifs with h
  · exact not_overdue_timedOut
  · exact h

/-- Of two sweeps the later one counts, if it moves the device should the earlier one do so. -/
lemma swept_swept (h : d.Overdue nanos now → d.Overdue nanos later) :
    (d.swept nanos now).swept nanos later = d.swept nanos later := by
  by_cases hover : d.Overdue nanos now
  · rw [swept, swept, if_pos hover, if_neg not_overdue_timedOut, swept, if_pos (h hover)]
  · rw [swept, swept, if_neg hover, swept]

end Device

namespace Store

variable {s : Store} {nanos : ℕ} {now later : Timestamp}

/-- The store behind a sweep that it answers. -/
def sweptStore (s : Store) (nanos : ℕ) (now : Timestamp) : Store :=
  s.withDevices (s.tables.devices.map (Device.swept nanos now))

lemma tidy_sweptStore (htidy : s.tables.Tidy) (nanos : ℕ) (now : Timestamp) :
    (s.sweptStore nanos now).tables.Tidy where
  devices := by
    rw [sweptStore, withDevices, List.pairwise_map]
    simpa only [Device.id_swept] using htidy.devices
  snapshots := htidy.snapshots

/-- The store behind two sweeps is the one behind the later one. -/
lemma sweptStore_sweptStore
    (h : ∀ d ∈ s.tables.devices, d.Overdue nanos now → d.Overdue nanos later) :
    (s.sweptStore nanos now).sweptStore nanos later = s.sweptStore nanos later := by
  simp only [sweptStore, withDevices, List.map_map]
  congr 2
  exact List.map_congr_left fun d hd => Device.swept_swept (h d hd)

/-- Behind a sweep nobody is overdue at that moment. -/
lemma overdue_sweptStore (s : Store) (nanos : ℕ) (now : Timestamp) :
    ((s.sweptStore nanos now).tables.devices.filter fun d => d.Overdue nanos now) = [] := by
  simp only [sweptStore, withDevices, List.filter_eq_nil_iff, List.mem_map, decide_eq_true_eq]
  rintro _ ⟨d, -, rfl⟩
  exact Device.not_overdue_swept

/-- **A sweep moves the devices that are overdue.**  A sweep that the store answers times out the
devices that are online and were never seen, or more than the timeout ago; it changes nothing else,
counts them, and reports each of them.  At the limit a device is in time, and so it is if it is seen
in the future.  A second sweep at that moment finds nobody, and a later one finds the same as if the
first had not been.  A store that does not answer is left as it is, and nothing is reported. -/
theorem sweep_moves_overdue (s : Store) (htidy : s.tables.Tidy) (nanos : ℕ) (now : Timestamp) :
    let overdue := s.tables.devices.filter fun d => d.Overdue nanos now
    let after := s.withDevices (s.tables.devices.map fun d =>
      if d.Overdue nanos now then { d with status := .timeout } else d)
    (s.AnswersSweep →
      (s.sweepAfter nanos now).value = (.ok overdue.length, after) ∧
      (s.sweepAfter nanos now).events = overdue.map Sweep.timeoutEvent ∧
      (∀ e ∈ (s.sweepAfter nanos now).events, e.kind = .deviceTimeout) ∧
      (after.sweepAfter nanos now).value = (.ok 0, after) ∧
      (after.sweepAfter nanos now).events = [] ∧
      ∀ later, now ≤ later → now.isLeapSecond = false → later.InPlace →
        (∀ d ∈ s.tables.devices, d.status = .online → ∀ seen ∈ d.lastSeenAt, seen.InPlace) →
        (after.sweepAfter nanos later).value.2 = (s.sweepAfter nanos later).value.2) ∧
    (∀ d : Device, d.lastSeenAt = none → (d.Overdue nanos now ↔ d.status = .online)) ∧
    (∀ (d : Device) (seen : Timestamp), d.lastSeenAt = some seen →
      (d.Overdue nanos now ↔ d.status = .online ∧ Span.ofNanos nanos < now.since seen) ∧
      (now.since seen = Span.ofNanos nanos → ¬d.Overdue nanos now) ∧
      (now ≤ seen → now.isLeapSecond = false → ¬d.Overdue nanos now) ∧
      (now.InPlace → seen.InPlace →
        (d.Overdue nanos now ↔ d.status = .online ∧ seen.clock + nanos < now.clock))) ∧
    (s.faults .devicesWithStatus = true →
      (s.sweepAfter nanos now).value = (.error (s.faults.error .devicesWithStatus), s) ∧
      (s.sweepAfter nanos now).events = []) ∧
    (s.faults .devicesWithStatus = false → s.faults .updateStatus = true →
      (s.sweepAfter nanos now).value = (.ok 0, s) ∧ (s.sweepAfter nanos now).events = []) := by
  intro overdue after
  refine ⟨fun hanswers => ?_, fun d h => Device.overdue_iff_online h, fun d seen h => ?_,
    fun hdown => sweepAfter_of_unlisted hdown nanos now,
    fun hlists hdown => sweepAfter_of_stuck hlists hdown nanos now⟩
  · obtain ⟨hvalue, hevents⟩ := sweepAfter_of_answers htidy hanswers nanos now
    have hagain := fun later =>
      sweepAfter_of_answers (tidy_sweptStore htidy nanos now) hanswers nanos later
    have hnobody := overdue_sweptStore s nanos now
    refine ⟨hvalue, hevents, ?_, ?_, ?_, ?_⟩
    · rw [hevents]
      intro e he
      obtain ⟨d, -, rfl⟩ := List.mem_map.1 he
      rfl
    · have hsame : (s.sweptStore nanos now).sweptStore nanos now = s.sweptStore nanos now :=
        sweptStore_sweptStore fun _ _ h => h
      have hvalue := (hagain now).1
      rw [hnobody] at hvalue
      exact hvalue.trans (congrArg (Prod.mk _) hsame)
    · have hevents := (hagain now).2
      rw [hnobody] at hevents
      exact hevents
    · intro later hlater hnow hplace hseen
      have hboth : (s.sweptStore nanos now).sweptStore nanos later = s.sweptStore nanos later :=
        sweptStore_sweptStore fun d hd h => h.stays hlater hnow hplace (hseen d hd h.1)
      have hfirst : ((s.sweptStore nanos now).sweepAfter nanos later).value.2 =
          (s.sweptStore nanos now).sweptStore nanos later := by
        rw [(hagain later).1]
        rfl
      rw [(sweepAfter_of_answers htidy hanswers nanos later).1]
      exact hfirst.trans hboth
  · exact ⟨Device.overdue_iff_seen h, Device.not_overdue_of_limit h,
      Device.not_overdue_of_future h, Device.overdue_iff_clock h⟩

namespace Sample

/-- A device that is online. -/
def online (id : Int) (seen : Option Timestamp) : Device where
  id := id
  uuid := "D" ++ toString id
  cpuSerial := none
  hmacSecret := none
  status := .online
  lastSeenAt := seen

/-- Devices that were last seen ten minutes and five minutes before 2026 began, one that was never
seen, and one that is offline. -/
def fleet : Store :=
  { tables :=
      { devices :=
          [online 1 (some ⟨1767225000, 0⟩), online 2 (some ⟨1767225300, 0⟩), online 3 none,
            { online 4 none with status := .offline }] } }

lemma tidy_fleet : fleet.tables.Tidy :=
  ⟨by decide, List.nodup_nil⟩

/-- The status of a device that was online, behind several sweeps. -/
def statusBehind (seen : Timestamp) (nanos : ℕ) (sweeps : List Timestamp) : Option DeviceStatus :=
  let first : Store := { tables := { devices := [online 1 (some seen)] } }
  let after := sweeps.foldl (fun s now => (s.sweepAfter nanos now).value.2) first
  (after.tables.device? 1).map Device.status

end Sample

open Sample in
/-- After five minutes without a message, two of four devices are timed out; one nanosecond later a
third is. -/
theorem sweep_moves_overdue_fleet :
    fleet.tables.Tidy ∧ fleet.AnswersSweep ∧
      (fleet.sweepAfter 300000000000 ⟨1767225600, 0⟩).value.1 = .ok 2 ∧
      (fleet.sweepAfter 300000000000 ⟨1767225600, 0⟩).events.length = 2 ∧
      (fleet.sweepAfter 300000000000 ⟨1767225600, 1⟩).value.1 = .ok 3 ∧
      ((fleet.sweepAfter 300000000000 ⟨1767225600, 0⟩).value.2.sweepAfter 300000000000
          ⟨1767225600, 1⟩).value.2 =
        (fleet.sweepAfter 300000000000 ⟨1767225600, 1⟩).value.2 := by
  have hanswers : fleet.AnswersSweep := ⟨rfl, rfl⟩
  obtain ⟨hvalue, hevents, -, -, -, hlater⟩ :=
    (sweep_moves_overdue fleet tidy_fleet 300000000000 ⟨1767225600, 0⟩).1 hanswers
  obtain ⟨hthird, -⟩ :=
    (sweep_moves_overdue fleet tidy_fleet 300000000000 ⟨1767225600, 1⟩).1 hanswers
  refine ⟨tidy_fleet, hanswers, ?_, ?_, ?_, ?_⟩
  · rw [hvalue]
    decide
  · rw [hevents, List.length_map]
    decide
  · rw [hthird]
    decide
  · rw [hvalue]
    exact hlater ⟨1767225600, 1⟩ (by decide) (by decide) (by decide) (by decide)

open Sample in
/-- A sweep in the leap second before midnight times out a device that is seen at midnight, and one
that was last seen half a day ago, which a sweep at midnight finds in time.  So do two sweeps of
which the later one is in a leap second, or of which none is, but the device was last seen in one,
at a time of day that is before the first sweep and behind the second one. -/
theorem sweep_around_leap_seconds :
    (⟨1767311999, 1500000000⟩ : Timestamp) < ⟨1767312000, 0⟩ ∧
      statusBehind ⟨1767312000, 0⟩ 0 [⟨1767311999, 1500000000⟩] = some .timeout ∧
    (statusBehind ⟨1767268800, 0⟩ 43200000000000
        [⟨1767311999, 1500000000⟩, ⟨1767312000, 0⟩] = some .timeout ∧
      statusBehind ⟨1767268800, 0⟩ 43200000000000 [⟨1767312000, 0⟩] = some .online) ∧
    (statusBehind ⟨1767182400, 0⟩ 79259000000000
        [⟨1767261659, 900000000⟩, ⟨1767261659, 1000000000⟩] = some .timeout ∧
      statusBehind ⟨1767182400, 0⟩ 79259000000000 [⟨1767261659, 1000000000⟩] = some .online) ∧
    (statusBehind ⟨1767261659, 1500000000⟩ 50340000000000
        [⟨1767311999, 900000000⟩, ⟨1767312000, 0⟩] = some .timeout ∧
      statusBehind ⟨1767261659, 1500000000⟩ 50340000000000 [⟨1767312000, 0⟩] = some .online) := by
  decide

end Store

end DeviceGate
