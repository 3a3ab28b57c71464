import DeviceGate.Batch.Ledger
import DeviceGate.Fleet.Sweep
import DeviceGate.Proofs.Telemetry.Placement
import DeviceGate.Proofs.Telemetry.Stored

/-!
How the record store grows.  No two of its devices have the same id, no two of its snapshots are of
the same device and key, and a snapshot that is stored stays where it is and as it is, whatever the
store is used for.

* `Tables.Tidy`: ids and subjects are unique.
* `Tables.exists_updateDevice_eq`: in tidy tables the change of a device is a change of one row.
* `Tables.find?_updateDevice_id`: what is found of a device behind a change.
* `Store.Grows`: from the one store to the later one, tidiness and snapshots are kept.
* `Store.Grows.of_upkeep`, `Store.Grows.of_commit`: the calls that change something make it grow.
* `Store.Grows.of_process`: so does a message, whatever becomes of it.
-/

namespace DeviceGate

/-! ### Tables -/

namespace Tables

/-- The devices stand in the order of their ids, and no two snapshots are of the same device and
key. -/
structure Tidy (t : Tables) : Prop where
  devices : t.devices.Pairwise fun d d' => d.id < d'.id
  snapshots : (t.snapshots.map Snapshot.subject).Nodup

section Devices

variable {devices : List Device} {d : Device} {id : Int} {f : Device → Device}

lemma mem_putDevice {x : Device} (h : x ∈ putDevice d devices) : x = d ∨ x ∈ devices := by
  induction devices with
  | nil => exact .inl (List.mem_singleton.1 h)
  | cons y rest ih =>
      rw [putDevice] at h
      split_ifs at h with hlt heq
      · exact List.mem_cons.1 h
      · rcases List.mem_cons.1 h with rfl | hx
        · exact .inl rfl
        · exact .inr (List.mem_cons_of_mem y hx)
      · rcases List.mem_cons.1 h with rfl | hx
        · exact .inr List.mem_cons_self
        · exact (ih hx).imp_right (List.mem_cons_of_mem y)

/-- A device is put in its place. -/
lemma pairwise_putDevice (d : Device) (h : devices.Pairwise fun d d' => d.id < d'.id) :
    (putDevice d devices).Pairwise fun d d' => d.id < d'.id := by
  induction devices with
  | nil => exact List.pairwise_singleton ..
  | cons y rest ih =>
      obtain ⟨hy, hrest⟩ := List.pairwise_cons.1 h
      rw [putDevice]
      split_ifs with hlt heq
      · refine List.pairwise_cons.2 ⟨List.forall_mem_cons.2 ⟨hlt, fun x hx => ?_⟩, h⟩
        exact hlt.trans (hy x hx)
      · exact List.pairwise_cons.2 ⟨fun x hx => heq ▸ hy x hx, hrest⟩
      · refine List.pairwise_cons.2 ⟨fun x hx => ?_, ih hrest⟩
        rcases mem_putDevice hx with rfl | hx
        · omega
        · exact hy x hx

/-- A change of a device that leaves its id alone leaves all in their places. -/
lemma pairwise_updateDevice (hf : ∀ d, (f d).id = d.id)
    (h : devices.Pairwise fun d d' => d.id < d'.id) :
    (updateDevice id f devices).Pairwise fun d d' => d.id < d'.id := by
  have hid : ∀ d : Device, (if d.id = id then f d else d).id = d.id := by
    intro d
    split_ifs
    · exact hf d
    · rfl
  rw [updateDevice, List.pairwise_map]
  simpa only [hid] using h

/-- Where ids are unique, the change of one device leaves all others alone. -/
lemma exists_updateDevice_eq (h : devices.Pairwise fun d d' => d.id < d'.id) (hd : d ∈ devices)
    (f : Device → Device) :
    ∃ before rest, devices = before ++ d :: rest ∧
      updateDevice d.id f devices = before ++ f d :: rest := by
  obtain ⟨before, rest, rfl⟩ := List.append_of_mem hd
  rw [List.pairwise_append, List.pairwise_cons] at h
  obtain ⟨-, ⟨hrest, -⟩, hbefore⟩ := h
  have hother : ∀ l : List Device, (∀ x ∈ l, x.id ≠ d.id) → updateDevice d.id f l = l := by
    intro l hl
    rw [updateDevice, List.map_congr_left fun x hx => if_neg (hl x hx), List.map_id']
  have hleft := hother before fun x hx => (hbefore x hx d List.mem_cons_self).ne
  have hright := hother rest fun x hx => (hrest x hx).ne'
  refine ⟨before, rest, rfl, ?_⟩
  rw [updateDevice] at hleft hright ⊢
  rw [List.map_append, List.map_cons, if_pos rfl, hleft, hright]

/-- A change that leaves ids alone is found under the id that was changed, and nowhere else. -/
lemma find?_updateDevice_id (hf : ∀ d, (f d).id = d.id) (other : Int) :
    (updateDevice id f devices).find? (fun d => d.id = other) =
      (devices.find? fun d => d.id = other).map (if other = id then f else fun d => d) := by
  have hid : ∀ d : Device, (if d.id = id then f d else d).id = d.id := by
    intro d
    split_ifs
    · exact hf d
    · rfl
  rw [updateDevice, List.find?_map]
  simp only [Function.comp_def, hid]
  refine Option.map_congr fun d hd => ?_
  have hother : d.id = other := by simpa using List.find?_some hd
  rw [hother]
  split_ifs
  · rfl
  · rfl

end Devices

lemma foldl_devices {α : Type} (add : Tables → α → Tables)
    (h : ∀ t a, (add t a).devices = t.devices) (l : List α) (t : Tables) :
    (l.foldl add t).devices = t.devices := by
  induction l generalizing t with
  | nil => rfl
  | cons a l ih => rw [List.foldl_cons, ih, h]

lemma Tidy.seed {t : Tables} (h : t.Tidy) (seed : Seed) : (seed.apply t).Tidy := by
  have hadded : ∀ (devices : List Device) (t : Tables),
      (t.devices.Pairwise fun d d' => d.id < d'.id) →
      (devices.foldl addDevice t).devices.Pairwise fun d d' => d.id < d'.id := by
    intro devices
    induction devices with
    | nil => exact fun t ht => ht
    | cons d devices ih => exact fun t ht => ih _ (pairwise_putDevice d ht)
  constructor
  · rw [Seed.apply, foldl_devices addRelationship fun _ _ => rfl,
      foldl_devices addMembership fun _ _ => rfl, foldl_devices addUser fun _ _ => rfl,
      foldl_devices attach fun _ _ => rfl, foldl_devices addComponentType fun _ _ => rfl]
    exact hadded seed.devices t h.devices
  · rw [(seed.apply_telemetry t).1]
    exact h.snapshots

/-- A snapshot of something that none is stored of leaves the subjects unique. -/
lemma Tidy.nodup_append {t : Tables} (h : t.Tidy) {n : Snapshot}
    (habsent : t.snapshot? n.deviceId n.key = none) :
    ((t.snapshots ++ [n]).map Snapshot.subject).Nodup := by
  have hnew : n.subject ∉ t.snapshots.map Snapshot.subject :=
    Grant.placed?_eq_none_iff (g := ⟨n.deviceId, n.key, n⟩).1 habsent
  rw [List.map_append]
  exact h.snapshots.append (List.nodup_singleton _) (List.disjoint_singleton.2 hnew)

end Tables

/-! ### Stores -/

namespace Store

/-- The later store is tidy if the earlier one is, and has its snapshots, behind which there may be
more. -/
structure Grows (s after : Store) : Prop where
  tidy : s.tables.Tidy → after.tables.Tidy
  snapshots : s.tables.snapshots <+: after.tables.snapshots

namespace Grows

variable {s s' s'' : Store}

lemma refl (s : Store) : s.Grows s :=
  ⟨fun h => h, List.prefix_rfl⟩

lemma trans (h : s.Grows s') (h' : s'.Grows s'') : s.Grows s'' :=
  ⟨fun ht => h'.tidy (h.tidy ht), h.snapshots.trans h'.snapshots⟩

lemma of_eq (hdevices : s'.tables.devices = s.tables.devices)
    (hsnapshots : s'.tables.snapshots = s.tables.snapshots) : s.Grows s' where
  tidy h := by
    refine ⟨?_, ?_⟩
    · rw [hdevices]
      exact h.devices
    · rw [hsnapshots]
      exact h.snapshots
  snapshots := by rw [hsnapshots]

lemma of_onlyDrew (h : s.OnlyDrew s') : s.Grows s' :=
  .of_eq (by rw [h.tables_eq]) (by rw [h.tables_eq])

lemma of_changeDevice {id : Int} {f : Device → Device} (hf : ∀ d, (f d).id = d.id)
    (h : s.changeDevice id f = .ok s') : s.Grows s' := by
  rw [changeDevice] at h
  split at h
  · cases h
  · cases h
    exact ⟨fun ht => ⟨Tables.pairwise_updateDevice hf ht.devices, ht.snapshots⟩, List.prefix_rfl⟩

lemma of_changeBatch (s : Store) (id : String) (f : BatchRow → BatchRow) :
    s.Grows (s.changeBatch id f) :=
  .of_eq rfl rfl

/-- The calls of the store that are not part of a transaction make it grow. -/
lemma of_upkeep {u : Upkeep} (h : u.apply s = .ok s') : s.Grows s' := by
  cases u with
  | seed records =>
      have hsnapshots := (Upkeep.keepsTelemetry h).snapshots
      cases h
      exact ⟨fun ht => ht.seed records, by rw [hsnapshots]⟩
  | switch faults | refuse refuses =>
      cases h
      exact .of_eq rfl rfl
  | setSecret deviceId secret =>
      rw [Upkeep.apply, setSecret, Faults.check_bind_eq_ok_iff] at h
      exact .of_changeDevice (fun d => by rfl) h.2
  | updateStatus deviceId status =>
      rw [Upkeep.apply, updateStatus, Faults.check_bind_eq_ok_iff] at h
      exact .of_changeDevice (fun d => by rfl) h.2
  | insertBatch row =>
      rw [Upkeep.apply, insertBatch, Faults.check_bind_eq_ok_iff] at h
      rcases hrow : s.tables.batch? row.batchId with _ | found
      · rw [hrow] at h
        cases h.2
        exact .of_eq rfl rfl
      · rw [hrow] at h
        cases h.2
  | incrementProcessed id =>
      rw [Upkeep.apply, incrementProcessed, Faults.check_bind_eq_ok_iff] at h
      rcases hrow : s.tables.batch? id with _ | found
      · rw [hrow] at h
        cases h.2
      · rw [hrow] at h
        cases h.2
        exact .of_eq rfl rfl
  | markCompleted id now =>
      obtain ⟨⟨changed, settled⟩, hsettled, hafter⟩ := bind_eq_ok_iff.1 h
      cases hafter
      rcases changeBatch_of_markCompleted hsettled with rfl | ⟨f, rfl⟩
      · exact .refl _
      · exact .of_changeBatch s id f
  | markFailed id now =>
      obtain ⟨⟨changed, settled⟩, hsettled, hafter⟩ := bind_eq_ok_iff.1 h
      cases hafter
      rcases changeBatch_of_markFailed hsettled with rfl | ⟨f, rfl⟩
      · exact .refl _
      · exact .of_changeBatch s id f
  | ingestImage topic payload =>
      rw [Upkeep.apply, ingestImage, Faults.check_bind_eq_ok_iff] at h
      cases h.2
      exact .of_eq rfl rfl

lemma of_markCompleted {id : String} {now : Timestamp} {changed : Bool}
    (h : s.markCompleted id now = .ok (changed, s')) : s.Grows s' :=
  .of_upkeep (u := .markCompleted id now) (by rw [Upkeep.apply, h]; rfl)

lemma of_markFailed {id : String} {now : Timestamp} {changed : Bool}
    (h : s.markFailed id now = .ok (changed, s')) : s.Grows s' :=
  .of_upkeep (u := .markFailed id now) (by rw [Upkeep.apply, h]; rfl)

/-- A commit stores the snapshot of its transaction only if none is stored of the same device and
key. -/
lemma of_committing (s : Store) (tx : Transaction) : s.Grows (s.committing tx) where
  tidy h := by
    have hdevices : (s.committing tx).tables.devices.Pairwise fun d d' => d.id < d'.id := by
      have hsame : (placeSnapshot s.tables tx).1.devices = s.tables.devices := by
        rw [placeSnapshot]
        split
        · rfl
        · split
          · rfl
          · rfl
      rw [committing]
      rcases tx.touched with _ | ⟨id, seenAt⟩
      · exact hsame ▸ h.devices
      · exact Tables.pairwise_updateDevice (fun _ => by rfl) (hsame ▸ h.devices)
    refine ⟨hdevices, ?_⟩
    rw [committing, placeSnapshot]
    rcases tx.newSnapshot with _ | n
    · exact h.snapshots
    · rcases hknown : s.tables.snapshot? n.deviceId n.key with _ | winner
      · simp only [hknown]
        exact h.nodup_append hknown
      · simp only [hknown]
        exact h.snapshots
  snapshots := Writer.Session.snapshots_prefix_committing s tx

lemma of_commit {tx : Transaction} (h : s.commit tx = .ok s') : s.Grows s' := by
  rw [(commit_eq_ok_iff.1 h).2.2]
  exact .of_committing s tx

/-- So does the store of a message that goes through. -/
lemma of_storing {e : Examined} (seenAt : Timestamp) (hup : s.faults .commit = false)
    (hid : (s.tables.device? e.device.id).isSome = true) : s.Grows (s.storing e seenAt) := by
  have hdrawing : s.Grows (s.drawing e seenAt) := .of_eq rfl rfl
  exact hdrawing.trans (.of_commit (commit_drawing_eq hup hid))

/-! ### Calls that note something -/

lemma of_timeOut (s : Store) (d : Device) : s.Grows (s.timeOut d).value.2 := by
  rw [timeOut]
  rcases hupdated : s.updateStatus d.id .timeout with e | after
  · exact .refl s
  · exact .of_upkeep (u := .updateStatus d.id .timeout) hupdated

lemma of_timeOutAll (s : Store) (devices : List Device) :
    s.Grows (s.timeOutAll devices).value.2 := by
  induction devices generalizing s with
  | nil => exact .refl s
  | cons d rest ih => exact (of_timeOut s d).trans (ih _)

lemma of_sweep (s : Store) (timeout : ℕ) (now : Timestamp) :
    s.Grows (s.sweep timeout now).value.2 := by
  rw [sweep, sweepAfter]
  rcases s.devicesWithStatus .online with e | online
  · exact .refl s
  · simp only [Noted.value_bind]
    split
    · exact of_timeOutAll s _
    · exact of_timeOutAll s _

lemma of_openBatch (s : Store) (ctx : LogContext) (now : Timestamp) (randomBytes : List UInt8)
    (deviceId : String) (total : ℕ) :
    s.Grows (s.openBatch ctx now randomBytes deviceId total).value.2 := by
  rw [openBatch]
  split_ifs with hblank hzero
  · exact .refl s
  · exact .refl s
  · simp only
    split
    · exact .refl s
    · rename_i after hinserted
      exact .of_upkeep (u := .insertBatch _) hinserted

lemma of_completeBatch (s : Store) (ctx : LogContext) (now : Timestamp) (row : BatchRow)
    (id : String) : s.Grows (s.completeBatch ctx now row id).value.2 := by
  rw [completeBatch]
  rcases hsettled : s.markCompleted id now with e | ⟨changed, settled⟩
  · exact .refl s
  · simp only
    split
    · exact .of_markCompleted hsettled
    · exact .of_markCompleted hsettled

lemma of_markProcessed (s : Store) (ctx : LogContext) (now : Timestamp) (id : String) :
    s.Grows (s.markProcessed ctx now id).value.2 := by
  rw [markProcessed]
  rcases hcounted : s.incrementProcessed id with e | after
  · exact .refl s
  · refine (Grows.of_upkeep (u := .incrementProcessed id) hcounted).trans ?_
    simp only
    rcases after.fetchBatch id with e | row
    · exact .refl after
    · simp only
      split
      · exact .refl after
      · exact of_completeBatch after ctx now row id

lemma of_failBatch (s : Store) (ctx : LogContext) (now : Timestamp) (id reason : String) :
    s.Grows (s.failBatch ctx now id reason).value.2 := by
  rw [failBatch]
  rcases s.fetchBatch id with e | row
  · exact .refl s
  · simp only
    rcases hsettled : s.markFailed id now with e | ⟨changed, settled⟩
    · exact .refl s
    · simp only
      split
      · exact .of_markFailed hsettled
      · exact .of_markFailed hsettled

lemma of_enrollSecret (s : Store) (ctx : LogContext) (d : Device) (randomBytes : List UInt8) :
    s.Grows (s.enrollSecret ctx d randomBytes).value.2 := by
  rw [enrollSecret]
  rcases nonempty? d.hmacSecret with _ | secret
  · simp only
    rcases henrolled : s.setSecret d.id (secretText randomBytes) with e | after
    · exact .refl s
    · exact .of_upkeep (u := .setSecret d.id (secretText randomBytes)) henrolled
  · exact .refl s

/-- A message makes the store grow, whatever becomes of it. -/
lemma of_process (a : Admission) (now : Timestamp) (m : Message) (payload : Json) (r : Records) :
    r.store.Grows (a.process now m payload r).value.2.store := by
  rcases hended : (a.process now m payload r).value.1 with rejection | receipt
  · obtain ⟨s, hrecords, hdrew⟩ := Admission.records_of_process_eq_error hended
    rw [hrecords]
    exact .of_onlyDrew hdrew
  · obtain ⟨uuid, t, d, c, hclears, htakes⟩ := Admission.admissible_of_process_eq_ok hended
    obtain ⟨gap, -, hstore⟩ := Admission.process_eq_of_clears hclears htakes now
    rw [hstore]
    exact .of_storing _ htakes.commits (Admission.device?_isSome_of_findDevice hclears.registered)

end Grows

end Store

end DeviceGate
