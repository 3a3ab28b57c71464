import DeviceGate.Proofs.Telemetry.Answer

/-!
What a message writes that goes through.  Its rows stand behind the others and belong to one
snapshot, which is the stored one of its device and key, or else a new one under the next id; its
device is seen; and nothing else has changed.

* `Store.snapshotOf`, `Store.fresh?`: the snapshot of a message, and whether it is a new one.
* `Store.storing`: the store behind the message.
* `Admission.value_write_eq`: a store that takes a message comes to it.
* `Admission.process_eq_of_clears`: so do the records behind a message that clears the checks.
-/

namespace DeviceGate

namespace Store

section Storing

variable (s : Store) (e : Examined) (seenAt : Timestamp)

/-- The snapshot that a message creates, unless one of its device and key is stored. -/
def fresh? : Option Snapshot :=
  match s.tables.snapshot? e.device.id e.telemetry.snapshotId with
  | some _ => none
  | none =>
      some
        { id := s.lastSnapshotId + 1, deviceId := e.device.id, key := e.telemetry.snapshotId
          capturedAt := seenAt }

/-- The snapshot that a message fills. -/
def snapshotOf : Snapshot :=
  (s.tables.snapshot? e.device.id e.telemetry.snapshotId).getD
    { id := s.lastSnapshotId + 1, deviceId := e.device.id, key := e.telemetry.snapshotId
      capturedAt := seenAt }

/-- The rows of a message. -/
def rowsOf : List TelemetryRow :=
  e.telemetry.readings.map (Admission.rowOf (s.snapshotOf e seenAt) e)

/-- The store in which the id of a new snapshot has been drawn. -/
def drawing : Store :=
  { s with lastSnapshotId := ((s.fresh? e seenAt).map (·.id)).getD s.lastSnapshotId }

/-- The store behind a message that has gone through. -/
def storing : Store :=
  { s.drawing e seenAt with
    tables :=
      { s.tables with
        snapshots := s.tables.snapshots ++ (s.fresh? e seenAt).toList
        readings := s.tables.readings ++ s.rowsOf e seenAt
        devices := Tables.updateDevice e.device.id (fun d => { d with lastSeenAt := some seenAt })
          s.tables.devices } }

end Storing

/-- A new transaction is given the snapshot of its message. -/
lemma snapshotFor_eq {s : Store} (hup : s.faults .getOrCreateSnapshot = false) (e : Examined)
    (seenAt : Timestamp) :
    s.snapshotFor {} e.device.id e.telemetry.snapshotId seenAt =
      .ok (s.snapshotOf e seenAt, { newSnapshot := s.fresh? e seenAt }, s.drawing e seenAt) := by
  rw [snapshotFor, Faults.check_bind_of_up hup]
  rcases hknown : s.tables.snapshot? e.device.id e.telemetry.snapshotId with _ | snapshot
  · simp only [snapshotOf, drawing, fresh?, hknown]
    rfl
  · simp only [snapshotOf, drawing, fresh?, hknown]
    rfl

/-- A transaction that nobody has overtaken stores its snapshot and its rows, and touches its
device. -/
lemma commit_drawing_eq {s : Store} {e : Examined} {seenAt : Timestamp}
    (hup : s.faults .commit = false) (hid : (s.tables.device? e.device.id).isSome = true) :
    (s.drawing e seenAt).commit
        { newSnapshot := s.fresh? e seenAt, rows := s.rowsOf e seenAt
          touched := some (e.device.id, seenAt) } = .ok (s.storing e seenAt) := by
  refine commit_eq_ok_iff.2 ⟨hup, fun id at' heq => ?_, ?_⟩
  · cases heq
    exact hid
  · rcases hknown : s.tables.snapshot? e.device.id e.telemetry.snapshotId with _ | snapshot
    · simp [committing, placeSnapshot, storing, drawing, fresh?, hknown]
    · simp [committing, placeSnapshot, storing, drawing, fresh?, hknown]

end Store

namespace Admission

/-- A transaction that answers is filled with the rows of its message. -/
lemma fill_eq {s : Store} {e : Examined} (htakes : s.Takes e.telemetry.readings.length)
    (seenAt : Timestamp) :
    fill s {} e seenAt =
      (.ok (s.snapshotOf e seenAt,
          { newSnapshot := s.fresh? e seenAt, rows := s.rowsOf e seenAt
            touched := some (e.device.id, seenAt) }), s.drawing e seenAt) := by
  have hinsert : insertAll (s.drawing e seenAt) { newSnapshot := s.fresh? e seenAt }
      (e.telemetry.readings.map (rowOf (s.snapshotOf e seenAt) e)) =
        .ok { newSnapshot := s.fresh? e seenAt, rows := s.rowsOf e seenAt } := by
    rw [insertAll_eq_ok_iff]
    refine ⟨fun hne => htakes.inserts (by simpa using hne), fun k hk => ?_, rfl⟩
    simpa [Store.drawing] using htakes.accepts k (by simpa using hk)
  have htouch : (s.drawing e seenAt).touchDevice
      { newSnapshot := s.fresh? e seenAt, rows := s.rowsOf e seenAt } e.device.id seenAt =
        .ok { newSnapshot := s.fresh? e seenAt, rows := s.rowsOf e seenAt
              touched := some (e.device.id, seenAt) } :=
    Store.touchDevice_eq_ok_iff.2 ⟨htakes.touches, rfl⟩
  simp only [fill, Store.snapshotFor_eq htakes.groups, hinsert]
  change (Store.touchDevice _ _ _ _ >>= _, _) = _
  rw [htouch]
  rfl

/-- **What a message writes.**  A store that takes a message of a registered device has stored
it. -/
lemma value_write_eq {s : Store} (ctx : LogContext) {e : Examined} (seenAt : Timestamp)
    (hid : (s.tables.device? e.device.id).isSome = true)
    (htakes : s.Takes e.telemetry.readings.length) :
    (write s ctx e seenAt).value = (some (s.snapshotOf e seenAt), s.storing e seenAt) := by
  have hbegun : s.beginTransaction = .ok {} :=
    Store.beginTransaction_eq_ok_iff.2 ⟨htakes.begins, rfl⟩
  rw [value_write, hbegun]
  simp only [fill_eq htakes, Store.commit_drawing_eq htakes.commits hid]

/-- **What an admitted message writes.**  A message that clears the checks, and that the store
takes, is admitted under the id of its snapshot, and its rows are stored. -/
lemma process_eq_of_clears {a : Admission} {m : Message} {payload : Json} {r : Records}
    {uuid : String} {t : TelemetryPayload} {d : Device} {c : ComponentType}
    (hclears : a.Clears r.store m.topic payload uuid t d c)
    (htakes : r.store.Takes t.readings.length) (now : Timestamp) :
    let seenAt := t.capturedAt.getD now
    ∃ gap, (a.process now m payload r).value.1 =
        .ok ⟨(r.store.snapshotOf ⟨d, t⟩ seenAt).id, t.readings.length, gap⟩ ∧
      (a.process now m payload r).value.2.store = r.store.storing ⟨d, t⟩ seenAt := by
  have hleads : a.Leads r.store m.topic payload .arrived
      ((outcome (a.examine r.store m.context m.topic payload)).map fun e =>
        .attached e.telemetry e.device) := leads_examine
  rw [outcome] at hleads
  rw [value_process, run, Noted.value_bind]
  generalize (a.examine r.store m.context m.topic payload).run.value = examined at hleads ⊢
  rcases examined with rejection | ⟨d', t'⟩
  · exact absurd ⟨uuid, t, d, c, hclears, htakes⟩ (FirstFailure.not_admissible hleads)
  · obtain ⟨uuid', c', hclears'⟩ := reaches_attached_iff.1 hleads
    obtain ⟨rfl, rfl⟩ := hclears.unique hclears'
    have hwrite := value_write_eq m.context (e := ⟨d, t⟩) (t.capturedAt.getD now)
      (device?_isSome_of_findDevice hclears.registered) htakes
    simp only [Noted.value_bind, hwrite]
    exact ⟨_, rfl, rfl⟩

end Admission

end DeviceGate
