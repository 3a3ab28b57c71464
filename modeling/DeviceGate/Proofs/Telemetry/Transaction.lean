import DeviceGate.Telemetry.Admission
import Mathlib.Tactic

/-!
What the transaction of one message does.  It goes through exactly when none of its calls is down
and no reading is refused, and one that does not go through has changed nothing but the last
snapshot id.

* `Store.Takes`: the calls that a message of so many readings depends on.
* `Store.OnlyDrew`: nothing happened between two stores but the drawing of snapshot ids.
* `Admission.exists_write_eq_some_iff`: the transaction goes through exactly when the store takes
  it.
* `Admission.onlyDrew_of_write_eq_none`: otherwise it leaves no trace.
-/

namespace DeviceGate

/-- The store takes a message of `count` readings: each call of its transaction answers, and no
reading is refused.  A message without readings makes no call that inserts one. -/
structure Store.Takes (s : Store) (count : Nat) : Prop where
  begins : s.faults .beginTransaction = false
  groups : s.faults .getOrCreateSnapshot = false
  inserts : count ≠ 0 → s.faults .insertReading = false
  accepts : ∀ k < count, s.refusesReading k = false
  touches : s.faults .touchDevice = false
  commits : s.faults .commit = false

/-- The later store is the earlier one, except that snapshot ids may have been drawn. -/
def Store.OnlyDrew (s after : Store) : Prop :=
  after = { s with lastSnapshotId := after.lastSnapshotId } ∧
    s.lastSnapshotId ≤ after.lastSnapshotId

namespace Store

lemma OnlyDrew.refl (s : Store) : s.OnlyDrew s :=
  ⟨rfl, le_refl _⟩

lemma OnlyDrew.trans {s s' s'' : Store} (h : s.OnlyDrew s') (h' : s'.OnlyDrew s'') :
    s.OnlyDrew s'' := by
  constructor
  · rw [h'.1, h.1]
  · exact le_trans h.2 h'.2

lemma OnlyDrew.faults_eq {s after : Store} (h : s.OnlyDrew after) : after.faults = s.faults := by
  rw [h.1]

lemma OnlyDrew.refusesReading_eq {s after : Store} (h : s.OnlyDrew after) :
    after.refusesReading = s.refusesReading := by
  rw [h.1]

lemma OnlyDrew.tables_eq {s after : Store} (h : s.OnlyDrew after) : after.tables = s.tables := by
  rw [h.1]

/-! ### The calls of a transaction -/

lemma beginTransaction_eq_ok_iff {s : Store} {tx : Transaction} :
    s.beginTransaction = .ok tx ↔ s.faults .beginTransaction = false ∧ tx = {} := by
  rw [beginTransaction, Faults.check_bind_eq_ok_iff, pure_eq_ok_iff]

lemma insertReading_eq_ok_iff {s : Store} {tx after : Transaction} {row : TelemetryRow} :
    s.insertReading tx row = .ok after ↔
      s.faults .insertReading = false ∧ s.refusesReading tx.rows.length = false ∧
        after = { tx with rows := tx.rows ++ [row] } := by
  rw [insertReading, Faults.check_bind_eq_ok_iff]
  cases s.refusesReading tx.rows.length with
  | true => simp only [if_true, bind_eq_ok_iff, throw_ne_ok]; simp
  | false => simp [pure_eq_ok_iff]

lemma touchDevice_eq_ok_iff {s : Store} {tx after : Transaction} {id : Int} {seenAt : Timestamp} :
    s.touchDevice tx id seenAt = .ok after ↔
      s.faults .touchDevice = false ∧ after = { tx with touched := some (id, seenAt) } := by
  rw [touchDevice, Faults.check_bind_eq_ok_iff, pure_eq_ok_iff]

/-- Asking for a snapshot fails only when the call is down. -/
lemma exists_snapshotFor_eq_ok_iff {s : Store} {tx : Transaction} {id : Int} {key : String}
    {capturedAt : Timestamp} :
    (∃ found, s.snapshotFor tx id key capturedAt = .ok found) ↔
      s.faults .getOrCreateSnapshot = false := by
  simp only [snapshotFor, Faults.check_bind_eq_ok_iff]
  constructor
  · rintro ⟨found, hup, -⟩
    exact hup
  · intro hup
    split
    · exact ⟨_, hup, rfl⟩
    · split
      · exact ⟨_, hup, rfl⟩
      · exact ⟨_, hup, rfl⟩

/-- Asking for a snapshot may draw an id, and leaves the buffered rows alone. -/
lemma onlyDrew_of_snapshotFor {s after : Store} {tx tx' : Transaction} {id : Int} {key : String}
    {capturedAt : Timestamp} {snapshot : Snapshot}
    (h : s.snapshotFor tx id key capturedAt = .ok (snapshot, tx', after)) :
    s.OnlyDrew after ∧ tx'.rows = tx.rows := by
  rw [snapshotFor, Faults.check_bind_eq_ok_iff] at h
  obtain ⟨-, h⟩ := h
  split at h
  · obtain ⟨-, rfl, rfl⟩ := by simpa [pure_eq_ok_iff] using h
    exact ⟨.refl _, rfl⟩
  · split at h
    · obtain ⟨-, rfl, rfl⟩ := by simpa [pure_eq_ok_iff] using h
      exact ⟨.refl _, rfl⟩
    · obtain ⟨-, rfl, rfl⟩ := by simpa [pure_eq_ok_iff] using h
      exact ⟨⟨rfl, by simp⟩, rfl⟩

/-- A first request for a snapshot gets the stored one, or else a new one under the next id. -/
lemma snapshotFor_cases {s after : Store} {tx tx' : Transaction} {deviceId : Int} {key : String}
    {capturedAt : Timestamp} {snapshot : Snapshot} (hnone : tx.newSnapshot = none)
    (h : s.snapshotFor tx deviceId key capturedAt = .ok (snapshot, tx', after)) :
    (s.tables.snapshot? deviceId key = some snapshot ∧ tx' = tx ∧ after = s) ∨
    (s.tables.snapshot? deviceId key = none ∧
      snapshot = ⟨s.lastSnapshotId + 1, deviceId, key, capturedAt⟩ ∧
      tx' = { tx with newSnapshot := some snapshot } ∧
      after = { s with lastSnapshotId := snapshot.id }) := by
  rw [snapshotFor, Faults.check_bind_eq_ok_iff] at h
  obtain ⟨-, h⟩ := h
  rcases hknown : s.tables.snapshot? deviceId key with _ | known
  · rw [hknown, hnone] at h
    cases h
    exact .inr ⟨rfl, rfl, rfl, rfl⟩
  · rw [hknown] at h
    cases h
    exact .inl ⟨rfl, rfl, rfl⟩

/-- The store behind a commit. -/
def committing (s : Store) (tx : Transaction) : Store :=
  let placed := placeSnapshot s.tables tx
  { s with
    tables :=
      { placed.1 with
        readings := placed.1.readings ++ placed.2
        devices := match tx.touched with
          | some (id, seenAt) =>
              Tables.updateDevice id (fun d => { d with lastSeenAt := some seenAt })
                placed.1.devices
          | none => placed.1.devices } }

/-- A commit goes through unless the call is down or the device that was seen is not registered. -/
lemma commit_eq_ok_iff {s after : Store} {tx : Transaction} :
    s.commit tx = .ok after ↔
      s.faults .commit = false ∧
      (∀ id seenAt, tx.touched = some (id, seenAt) → (s.tables.device? id).isSome = true) ∧
      after = s.committing tx := by
  unfold commit committing
  rw [Faults.check_bind_eq_ok_iff]
  rcases tx.touched with _ | ⟨id, seenAt⟩
  · simp [pure_eq_ok_iff]
  · cases hid : s.tables.device? id with
    | none =>
        simp only [hid, Option.isNone_none, if_true, bind_eq_ok_iff, throw_ne_ok]
        simp [hid]
    | some d => simp [hid, pure_eq_ok_iff]

/-- A commit whose device is registered fails only when the call is down. -/
lemma exists_commit_eq_ok_iff {s : Store} {tx : Transaction} {id : Int} {seenAt : Timestamp}
    (htouched : tx.touched = some (id, seenAt)) (hid : (s.tables.device? id).isSome = true) :
    (∃ after, s.commit tx = .ok after) ↔ s.faults .commit = false := by
  simp [commit_eq_ok_iff, htouched, hid]

end Store

namespace Admission

/-! ### The rows -/

/-- Several rows are buffered in order, each of them asked for at its own place. -/
lemma insertAll_eq_ok_iff {s : Store} {rows : List TelemetryRow} {tx after : Transaction} :
    insertAll s tx rows = .ok after ↔
      (rows ≠ [] → s.faults .insertReading = false) ∧
      (∀ k < rows.length, s.refusesReading (tx.rows.length + k) = false) ∧
      after = { tx with rows := tx.rows ++ rows } := by
  induction rows generalizing tx with
  | nil =>
      simp only [insertAll, Except.ok.injEq, ne_eq, not_true_eq_false, false_implies, true_and,
        List.length_nil, not_lt_zero, implies_true, List.append_nil]
      exact eq_comm
  | cons row rest ih =>
      simp only [insertAll, bind_eq_ok_iff, Store.insertReading_eq_ok_iff, ih]
      constructor
      · rintro ⟨_, ⟨hup, hrow, rfl⟩, -, hrest, rfl⟩
        refine ⟨fun _ => hup, fun k hk => ?_, by simp⟩
        cases k with
        | zero => exact hrow
        | succ k =>
            have := hrest k (by simpa using hk)
            simpa [Nat.add_assoc, Nat.add_comm 1 k] using this
      · rintro ⟨hup, hall, rfl⟩
        refine ⟨_, ⟨hup (by simp), by simpa using hall 0 (by simp), rfl⟩, fun _ => hup (by simp),
          fun k hk => ?_, by simp⟩
        have := hall (k + 1) (by simpa using hk)
        simpa [Nat.add_assoc, Nat.add_comm 1 k] using this

/-! ### The whole transaction -/

/-- Filling a transaction only draws snapshot ids. -/
lemma onlyDrew_fill (s : Store) (tx : Transaction) (e : Examined) (seenAt : Timestamp) :
    s.OnlyDrew (fill s tx e seenAt).2 := by
  rw [fill]
  split
  · exact .refl s
  · rename_i hfound
    exact (Store.onlyDrew_of_snapshotFor hfound).1

/-- A transaction is filled exactly when the calls on the way answer; it then touches the device. -/
lemma exists_fill_eq_ok_iff (s : Store) (e : Examined) (seenAt : Timestamp) :
    (∃ snapshot tx, (fill s {} e seenAt).1 = .ok (snapshot, tx)) ↔
      s.faults .getOrCreateSnapshot = false ∧
      (e.telemetry.readings ≠ [] → s.faults .insertReading = false) ∧
      (∀ k < e.telemetry.readings.length, s.refusesReading k = false) ∧
      s.faults .touchDevice = false := by
  rw [fill]
  rcases hfound : s.snapshotFor {} e.device.id e.telemetry.snapshotId seenAt with
    err | ⟨snapshot, tx, after⟩
  · have hdown : s.faults .getOrCreateSnapshot ≠ false := by
      rw [ne_eq, ← Store.exists_snapshotFor_eq_ok_iff, hfound]
      simp
    simp [hdown]
  · have hup : s.faults .getOrCreateSnapshot = false :=
      Store.exists_snapshotFor_eq_ok_iff.1 ⟨_, hfound⟩
    obtain ⟨hdrew, hrows⟩ := Store.onlyDrew_of_snapshotFor hfound
    have hempty : tx.rows.length = 0 := by rw [hrows]; rfl
    simp only [bind_eq_ok_iff, pure_eq_ok_iff, insertAll_eq_ok_iff, Store.touchDevice_eq_ok_iff,
      hdrew.faults_eq, hdrew.refusesReading_eq, hempty, hup, List.length_map, Nat.zero_add, ne_eq,
      List.map_eq_nil_iff, true_and]
    constructor
    · rintro ⟨_, _, _, ⟨hinsert, haccept, rfl⟩, _, ⟨htouch, rfl⟩, -⟩
      exact ⟨hinsert, haccept, htouch⟩
    · rintro ⟨hinsert, haccept, htouch⟩
      exact ⟨_, _, _, ⟨hinsert, haccept, rfl⟩, _, ⟨htouch, rfl⟩, rfl⟩

/-- A filled transaction touches the device of its message. -/
lemma touched_of_fill {s : Store} {tx tx' : Transaction} {e : Examined} {seenAt : Timestamp}
    {snapshot : Snapshot} (h : (fill s tx e seenAt).1 = .ok (snapshot, tx')) :
    tx'.touched = some (e.device.id, seenAt) := by
  rw [fill] at h
  split at h
  · cases h
  · simp only [bind_eq_ok_iff, pure_eq_ok_iff, Store.touchDevice_eq_ok_iff] at h
    obtain ⟨_, -, _, ⟨-, rfl⟩, heq⟩ := h
    rw [(Prod.mk.inj heq).2]

/-- What a transaction comes to, without what it notes on the way. -/
lemma value_write (s : Store) (ctx : LogContext) (e : Examined) (seenAt : Timestamp) :
    (write s ctx e seenAt).value =
      match s.beginTransaction with
      | .error _ => (none, s)
      | .ok tx =>
        match fill s tx e seenAt with
        | (.error _, s) => (none, s)
        | (.ok (snapshot, tx), s) =>
          match s.commit tx with
          | .error _ => (none, s)
          | .ok after => (some snapshot, after) := by
  rw [write]
  rcases s.beginTransaction with err | tx
  · simp
  · rcases hfill : fill s tx e seenAt with ⟨err | ⟨snapshot, tx'⟩, after⟩
    · rcases hrollback : after.rollback tx with err | _
      · simp [hfill, hrollback]
      · simp [hfill, hrollback]
    · rcases hcommit : after.commit tx' with err | committed
      · simp [hfill, hcommit]
      · simp [hfill, hcommit]

/-- A transaction goes through when it is begun, filled and committed. -/
lemma write_eq_some_iff {s : Store} {ctx : LogContext} {e : Examined} {seenAt : Timestamp}
    {snapshot : Snapshot} :
    (write s ctx e seenAt).value.1 = some snapshot ↔
      ∃ tx tx' filled after, s.beginTransaction = .ok tx ∧
        fill s tx e seenAt = (.ok (snapshot, tx'), filled) ∧ filled.commit tx' = .ok after := by
  rw [value_write]
  rcases hbegun : s.beginTransaction with err | tx
  · simp
  · rcases hfilled : fill s tx e seenAt with ⟨err | ⟨snapshot', tx'⟩, filled⟩
    · simp [hfilled]
    · rcases hcommitted : filled.commit tx' with err | after
      · simp only [Except.ok.injEq, hfilled, hcommitted]
        constructor
        · intro h
          cases h
        · rintro ⟨tx, tx'', filled', after, rfl, hpair, hcommit⟩
          rw [hfilled] at hpair
          cases hpair
          rw [hcommitted] at hcommit
          cases hcommit
      · simp only [Except.ok.injEq, hfilled, hcommitted, Option.some.injEq]
        constructor
        · rintro rfl
          exact ⟨tx, tx', filled, after, rfl, hfilled, hcommitted⟩
        · rintro ⟨_, _, _, _, rfl, hpair, -⟩
          rw [hfilled] at hpair
          cases hpair
          rfl

/-- **The transaction of one message.**  For a device that is registered it goes through exactly
when the store takes a message of so many readings. -/
lemma exists_write_eq_some_iff (s : Store) (ctx : LogContext) (e : Examined) (seenAt : Timestamp)
    (hid : (s.tables.device? e.device.id).isSome = true) :
    (∃ snapshot, (write s ctx e seenAt).value.1 = some snapshot) ↔
      s.Takes e.telemetry.readings.length := by
  have hfill := exists_fill_eq_ok_iff s e seenAt
  have hdrew := onlyDrew_fill s {} e seenAt
  have hcommit : ∀ snapshot tx, (fill s {} e seenAt).1 = .ok (snapshot, tx) →
      ((∃ after, (fill s {} e seenAt).2.commit tx = .ok after) ↔ s.faults .commit = false) := by
    intro snapshot tx hfilled
    rw [← hdrew.faults_eq]
    exact Store.exists_commit_eq_ok_iff (touched_of_fill hfilled) (hdrew.tables_eq ▸ hid)
  simp only [write_eq_some_iff]
  constructor
  · rintro ⟨snapshot, tx, tx', filled, after, hbegun, hfilled, hcommitted⟩
    obtain ⟨hup, rfl⟩ := Store.beginTransaction_eq_ok_iff.1 hbegun
    rw [hfilled] at hfill hcommit
    obtain ⟨hgroup, hinsert, haccept, htouch⟩ := hfill.1 ⟨snapshot, tx', rfl⟩
    exact ⟨hup, hgroup, by simpa using hinsert, haccept, htouch,
      (hcommit snapshot tx' rfl).1 ⟨after, hcommitted⟩⟩
  · intro h
    obtain ⟨snapshot, tx, hfilled⟩ :=
      hfill.2 ⟨h.groups, by simpa using h.inserts, h.accepts, h.touches⟩
    obtain ⟨after, hcommitted⟩ := (hcommit snapshot tx hfilled).2 h.commits
    exact ⟨snapshot, {}, tx, _, after, Store.beginTransaction_eq_ok_iff.2 ⟨h.begins, rfl⟩,
      Prod.ext hfilled rfl, hcommitted⟩

/-- A transaction that does not go through has only drawn snapshot ids. -/
lemma onlyDrew_of_write_eq_none {s : Store} {ctx : LogContext} {e : Examined} {seenAt : Timestamp}
    (h : (write s ctx e seenAt).value.1 = none) :
    s.OnlyDrew (write s ctx e seenAt).value.2 := by
  rw [value_write] at h ⊢
  rcases hbegun : s.beginTransaction with err | tx
  · exact .refl s
  · rw [hbegun] at h
    have hdrew := onlyDrew_fill s tx e seenAt
    rcases hfilled : fill s tx e seenAt with ⟨err | ⟨snapshot, tx'⟩, after⟩
    · simpa [hfilled] using hdrew
    · rcases hcommitted : after.commit tx' with err | committed
      · simpa [hfilled, hcommitted] using hdrew
      · simp [hfilled, hcommitted] at h

end Admission

end DeviceGate
