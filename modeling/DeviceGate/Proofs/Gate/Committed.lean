import DeviceGate.Proofs.Gate.Outage
import DeviceGate.Proofs.Gate.Reached
import DeviceGate.Proofs.Telemetry.Envelope
import DeviceGate.Proofs.Telemetry.GapHistory

/-!
What an admitted message changes.  Its rows stand behind the others, one for each entry, under the
snapshot that it names; that snapshot is there, as it was if it was there before; the device that
sent it has been seen; and nothing else has changed but what is cached for its device and instance.
Whatever happens next, a message for the same snapshot is written under the same id.

* `Cache.ChangesAt`: nothing but the entry of one key has changed.
* `World.Tells`: who a message is from, and what it says.
* `TelemetryRow.Stores`: what a row takes from an entry.
* `World.Commits`: all that has changed from one world to the other.
* `World.commits_of_receipt`: this is what an admitted message does.
* `World.accept_commits`: so it is wherever the gate comes to, and a message that is sent again
  creates no second snapshot.
-/

namespace DeviceGate

/-! ### The cache -/

/-- The later cache has the same entries, except under that key, and may have overrun; otherwise it
is the same. -/
structure Cache.ChangesAt (c : Cache) (key : String) (after : Cache) : Prop where
  others : ∀ k, k ≠ key → after.entries.lookup k = c.entries.lookup k
  frame : after = { c with entries := after.entries, overrun := after.overrun }

namespace Cache.ChangesAt

variable {c c' c'' : Cache} {key : String}

lemma refl (c : Cache) (key : String) : c.ChangesAt key c :=
  ⟨fun _ _ => rfl, rfl⟩

lemma trans (h : c.ChangesAt key c') (h' : c'.ChangesAt key c'') : c.ChangesAt key c'' where
  others k hk := (h'.others k hk).trans (h.others k hk)
  frame := by rw [h'.frame, h.frame]

lemma of_drop (c : Cache) (key : String) : c.ChangesAt key (c.drop key) := by
  refine ⟨fun k hk => ?_, rfl⟩
  rw [drop, Json.lookup_filter_ne, if_neg hk]

lemma of_get {value : Option String} (h : c.get key = .ok (value, c')) : c.ChangesAt key c' := by
  rw [Cache.get, bind_eq_ok_iff] at h
  obtain ⟨-, -, h⟩ := h
  split at h
  · cases h
    exact .refl c key
  · split at h
    · cases h
      exact .of_drop c key
    · cases h
      exact .refl c key

lemma of_lastSeen (c : Cache) (deviceId : Int) (instanceName : String) :
    c.ChangesAt (Sequence.key deviceId instanceName) (c.lastSeen deviceId instanceName).2 := by
  rw [lastSeen]
  rcases hget : c.get (Sequence.key deviceId instanceName) with e | ⟨_ | raw, after⟩
  · exact .refl c _
  · exact .of_get hget
  · rcases hnumber : readUnsigned64? (Text.trim raw) with _ | n
    · simp only [hnumber]
      exact .of_get hget
    · simp only [hnumber]
      exact .of_get hget

lemma of_set {value : String} {ttl : ℕ} (h : c.set key value ttl = .ok c') :
    c.ChangesAt key c' := by
  rw [Cache.set, bind_eq_ok_iff] at h
  obtain ⟨-, -, h⟩ := h
  split at h
  · cases h
    exact ⟨fun _ _ => rfl, rfl⟩
  · cases h
    refine ⟨fun k hk => ?_, rfl⟩
    rw [Json.lookup_cons_ite, if_neg hk]
    exact (of_drop c key).others k hk

lemma of_remember (ctx : LogContext) (ttl : ℕ) (deviceId : Int) (instanceName : String)
    (current : ℕ) (c : Cache) :
    c.ChangesAt (Sequence.key deviceId instanceName)
      (Sequence.remember ctx ttl deviceId instanceName current c).value := by
  rw [Sequence.remember]
  rcases hset : c.set (Sequence.key deviceId instanceName) (toString current) ttl with e | after
  · exact .refl c _
  · exact .of_set hset

/-- Reconciling the number of a message changes what is cached for its device and instance. -/
lemma of_reconcile (a : Admission) (ctx : LogContext) (d : Device) (t : TelemetryPayload)
    (c : Cache) :
    c.ChangesAt (Sequence.key d.id t.instanceName) (a.reconcile ctx ⟨d, t⟩ c).value.2 := by
  rw [Admission.reconcile]
  rcases t.sequenceNumber with _ | current
  · exact .refl c _
  · simp only [Sequence.reconcile, Noted.value_bind, Noted.value_pure]
    exact (of_lastSeen c d.id t.instanceName).trans (of_remember ..)

end Cache.ChangesAt

/-! ### What a message says -/

/-- The row stores an entry of an instance of a device, under a snapshot. -/
structure TelemetryRow.Stores (row : TelemetryRow) (snapshotId deviceId : Int)
    (instanceName : String) (entry : Json) : Prop where
  snapshotId : row.snapshotId = snapshotId
  deviceId : row.deviceId = deviceId
  instanceName : row.instanceName = instanceName
  reading : row.reading.Summarizes entry

/-! ### The store behind a message -/

namespace Store

variable (s : Store) (e : Examined) (seenAt : Timestamp)

lemma forall₂_rowsOf {entries : List Json}
    (h : List.Forall₂ (fun entry r => r.Summarizes entry) entries e.telemetry.readings) :
    List.Forall₂ (fun entry (row : TelemetryRow) =>
      row.Stores (s.snapshotOf e seenAt).id e.device.id e.telemetry.instanceName entry) entries
        (s.rowsOf e seenAt) := by
  rw [rowsOf, List.forall₂_map_right_iff]
  exact h.imp fun entry r hr => ⟨rfl, rfl, rfl, hr⟩

/-- The snapshot of a message is the stored one, or it is stored now under the next id. -/
lemma snapshots_storing :
    (s.tables.snapshot? e.device.id e.telemetry.snapshotId = some (s.snapshotOf e seenAt) ∧
      (s.storing e seenAt).tables.snapshots = s.tables.snapshots ∧
      (s.storing e seenAt).lastSnapshotId = s.lastSnapshotId) ∨
    (s.tables.snapshot? e.device.id e.telemetry.snapshotId = none ∧
      (s.snapshotOf e seenAt).id = s.lastSnapshotId + 1 ∧
      (s.storing e seenAt).tables.snapshots = s.tables.snapshots ++
        [⟨(s.snapshotOf e seenAt).id, e.device.id, e.telemetry.snapshotId, seenAt⟩] ∧
      (s.storing e seenAt).lastSnapshotId = (s.snapshotOf e seenAt).id) := by
  rcases hknown : s.tables.snapshot? e.device.id e.telemetry.snapshotId with _ | n
  · refine .inr ⟨rfl, ?_, ?_, ?_⟩
    · simp only [snapshotOf, hknown, Option.getD_none]
    · simp only [storing, fresh?, snapshotOf, hknown, Option.toList_some, Option.getD_none]
    · simp only [storing, drawing, fresh?, snapshotOf, hknown, Option.map_some, Option.getD_some,
        Option.getD_none]
  · refine .inl ⟨?_, ?_, ?_⟩
    · rw [snapshotOf, hknown, Option.getD_some]
    · simp only [storing, fresh?, hknown, Option.toList_none, List.append_nil]
    · simp only [storing, drawing, fresh?, hknown, Option.map_none, Option.getD_none]

/-- Either way it is stored then. -/
lemma snapshot?_storing :
    (s.storing e seenAt).tables.snapshot? e.device.id e.telemetry.snapshotId =
      some (s.snapshotOf e seenAt) := by
  rcases hknown : s.tables.snapshot? e.device.id e.telemetry.snapshotId with _ | n
  · rw [Tables.snapshot?] at hknown ⊢
    simp only [storing, fresh?, snapshotOf, Tables.snapshot?, hknown, List.find?_append]
    simp
  · rw [Tables.snapshot?] at hknown ⊢
    simp only [storing, fresh?, snapshotOf, Tables.snapshot?, hknown, List.find?_append]
    rfl

end Store

namespace World

/-- The message is from that device and that instance of it, names the snapshot of that key, and has
these entries. -/
structure Tells (w : World) (m : Message) (payload : Json) (d : Device) (instanceName key : String)
    (entries : List Json) : Prop where
  device : Topic.deviceId? m.topic = some d.uuid
  registered : w.store.tables.devices.find? (fun x => x.uuid = d.uuid) = some d
  instanceName : payload.member? "instance_name" = some (.text instanceName)
  key : payload.member? "snapshot_id" = some (.text key)
  data : payload.member? "data" = some (.array entries)

/-- When a message was captured: now, if it does not say so in a way that can be read. -/
def captured (w : World) (payload : Json) : Timestamp :=
  (TelemetryPayload.capturedAtOf payload).getD w.state.clock

/-- From the one world to the other, a message of that device and instance with these entries has
been committed to the snapshot of that key, under this receipt.  Apart from the clock and the trail,
nothing else has changed. -/
structure Commits (w after : World) (d : Device) (instanceName key : String) (entries : List Json)
    (seenAt : Timestamp) (receipt : AdmissionReceipt) : Prop where
  counted : receipt.rowsWritten = entries.length
  readings : ∃ rows, after.store.tables.readings = w.store.tables.readings ++ rows ∧
    List.Forall₂ (fun entry (row : TelemetryRow) =>
      row.Stores receipt.snapshotId d.id instanceName entry) entries rows
  placed : ∃ n, after.store.tables.snapshot? d.id key = some n ∧ n.id = receipt.snapshotId
  /-- The snapshot is as it was, or it is a new one, under the next id. -/
  snapshots :
    (∃ n, w.store.tables.snapshot? d.id key = some n ∧ n.id = receipt.snapshotId ∧
      after.store.tables.snapshots = w.store.tables.snapshots ∧
      after.store.lastSnapshotId = w.store.lastSnapshotId) ∨
    (w.store.tables.snapshot? d.id key = none ∧
      receipt.snapshotId = w.store.lastSnapshotId + 1 ∧
      after.store.tables.snapshots =
        w.store.tables.snapshots ++ [⟨receipt.snapshotId, d.id, key, seenAt⟩] ∧
      after.store.lastSnapshotId = receipt.snapshotId)
  unique : (after.store.tables.snapshots.map Snapshot.subject).Nodup
  devices : ∃ before rest, w.store.tables.devices = before ++ d :: rest ∧
    after.store.tables.devices = before ++ { d with lastSeenAt := some seenAt } :: rest
  cache : w.state.records.cache.ChangesAt (Sequence.key d.id instanceName) after.state.records.cache
  /-- What is cached for other devices and instances is as it was. -/
  instances : ∀ deviceId name, (deviceId, name) ≠ (d.id, instanceName) →
    after.state.records.cache.entries.lookup (Sequence.key deviceId name) =
      w.state.records.cache.entries.lookup (Sequence.key deviceId name)
  store : after.store =
    { w.store with
      lastSnapshotId := after.store.lastSnapshotId
      tables :=
        { w.store.tables with
          snapshots := after.store.tables.snapshots
          readings := after.store.tables.readings
          devices := after.store.tables.devices } }
  frame : after =
    { w with
      state :=
        { w.state with records := after.state.records, clock := after.state.clock }
      trail := after.trail }

section Committed

variable {w : World} {m : Message} {payload : Json} {receipt : AdmissionReceipt}

/-- What a message says is what it clears the checks with. -/
lemma tells_of_clears {uuid : String} {t : TelemetryPayload} {d : Device} {c : ComponentType}
    (hclears : w.config.admission.Clears w.store m.topic payload uuid t d c) {entries : List Json}
    (hdescribes : t.Describes payload entries) :
    w.Tells m payload d t.instanceName t.snapshotId entries := by
  obtain ⟨rfl, hfound⟩ := Admission.find?_of_findDevice hclears.registered
  exact ⟨hclears.addressed, hfound, hdescribes.instanceName, hdescribes.snapshotId, hdescribes.data⟩

/-- It says only one thing. -/
lemma Tells.eq_of_clears {d d' : Device} {instanceName key uuid : String} {entries : List Json}
    {t : TelemetryPayload} {c : ComponentType} (h : w.Tells m payload d instanceName key entries)
    (hclears : w.config.admission.Clears w.store m.topic payload uuid t d' c) :
    d' = d ∧ t.snapshotId = key := by
  obtain ⟨entries', hdescribes⟩ := TelemetryPayload.exists_describes hclears.read
  have h' := tells_of_clears hclears hdescribes
  constructor
  · have huuid : d'.uuid = d.uuid := Option.some.inj (h'.device.symm.trans h.device)
    have hfound := h'.registered
    rw [huuid, h.registered] at hfound
    exact (Option.some.inj hfound).symm
  · have hkey := h'.key
    rw [h.key] at hkey
    cases hkey
    rfl

/-- Of what is cached, no more than the entry of its device and instance has changed. -/
lemma changesAt_of_clears {uuid : String} {t : TelemetryPayload} {d : Device} {c : ComponentType}
    (hclears : w.config.admission.Clears w.store m.topic payload uuid t d c)
    (h : (w.perform (.accept m payload)).answer = .receipt receipt) :
    w.state.records.cache.ChangesAt (Sequence.key d.id t.instanceName)
      (w.perform (.accept m payload)).world.state.records.cache := by
  obtain ⟨uuid', t', d', c', hclears', hvalue, -⟩ :=
    Admission.process_eq_ok (processed_of_receipt h)
  obtain ⟨rfl, rfl⟩ := hclears.unique hclears'
  have hchanges := Cache.ChangesAt.of_reconcile w.config.admission m.context d t
    w.state.records.cache
  rw [hvalue] at hchanges
  rw [world_accept]
  exact hchanges

/-- **What an admitted message does.** -/
lemma commits_of_receipt (htidy : w.store.tables.Tidy)
    (h : (w.perform (.accept m payload)).answer = .receipt receipt) :
    ∃ d instanceName key entries, w.Tells m payload d instanceName key entries ∧
      w.Commits (w.perform (.accept m payload)).world d instanceName key entries
        (w.captured payload) receipt := by
  obtain ⟨uuid, t, d, c, hclears, htakes⟩ := admissible_of_receipt h
  obtain ⟨entries, hdescribes⟩ := TelemetryPayload.exists_describes hclears.read
  obtain ⟨⟨gap, hanswer⟩, hstore, -⟩ := accept_of_clears (m := m) hclears htakes
  rw [hdescribes.capturedAt] at hanswer hstore
  rw [h] at hanswer
  obtain rfl := GateAnswer.receipt.inj hanswer
  refine ⟨d, _, _, entries, tells_of_clears hclears hdescribes, ?_⟩
  have hcache := changesAt_of_clears hclears h
  have hd := List.mem_of_find?_eq_some (Admission.find?_of_findDevice hclears.registered).2
  have hid := Admission.device?_isSome_of_findDevice hclears.registered
  have hgrows := Store.Grows.of_storing (e := ⟨d, t⟩) (w.captured payload) htakes.commits hid
  constructor
  case counted => exact hdescribes.readings.length_eq.symm
  case readings =>
    rw [hstore]
    exact ⟨_, rfl, Store.forall₂_rowsOf _ _ _ hdescribes.readings⟩
  case placed =>
    rw [hstore]
    exact ⟨_, w.store.snapshot?_storing ⟨d, t⟩ _, rfl⟩
  case snapshots =>
    rw [hstore]
    rcases w.store.snapshots_storing ⟨d, t⟩ (w.captured payload) with
      ⟨hknown, hsame, hlast⟩ | ⟨hunknown, hnext, hmore, hlast⟩
    · exact .inl ⟨_, hknown, rfl, hsame, hlast⟩
    · exact .inr ⟨hunknown, hnext, hmore, hlast⟩
  case unique =>
    rw [hstore]
    exact (hgrows.tidy htidy).snapshots
  case devices =>
    rw [hstore]
    exact Tables.exists_updateDevice_eq htidy.devices hd _
  case cache => exact hcache
  case instances =>
    intro deviceId name hne
    exact hcache.others _ fun hkey => hne (Prod.ext_iff.2 (Sequence.key_inj.1 hkey))
  case store =>
    rw [hstore]
    rfl
  case frame =>
    rw [world_accept]

/-! ### Messages for a stored snapshot -/

/-- The device that a message has come from is found by its uuid as before, and has been seen. -/
lemma find?_updateDevice {devices : List Device} {d : Device} {seenAt : Timestamp}
    (h : devices.find? (fun x => x.uuid = d.uuid) = some d) :
    (Tables.updateDevice d.id (fun d => { d with lastSeenAt := some seenAt }) devices).find?
      (fun x => x.uuid = d.uuid) = some { d with lastSeenAt := some seenAt } := by
  have huuid : ∀ x : Device,
      (if x.id = d.id then { x with lastSeenAt := some seenAt } else x).uuid = x.uuid := by
    intro x
    split_ifs
    · rfl
    · rfl
  rw [Tables.updateDevice, List.find?_map]
  simp only [Function.comp_def, huuid, h, Option.map_some, if_true]

/-- A message that has cleared the checks clears them again, from the device that has been seen. -/
lemma clears_storing {a : Admission} {s : Store} {topic uuid : String} {t : TelemetryPayload}
    {d : Device} {c : ComponentType} (h : a.Clears s topic payload uuid t d c)
    (seenAt : Timestamp) :
    a.Clears (s.storing ⟨d, t⟩ seenAt) topic payload uuid t
      { d with lastSeenAt := some seenAt } c := by
  have hregistered : (s.storing ⟨d, t⟩ seenAt).findDevice uuid =
      .ok (some { d with lastSeenAt := some seenAt }) := by
    have hup := h.registered
    obtain ⟨rfl, hfound⟩ := Admission.find?_of_findDevice h.registered
    rw [Store.findDevice, Faults.check_bind_eq_ok_iff] at hup
    rw [Store.findDevice, Faults.check_bind_eq_ok_iff, pure_eq_ok_iff]
    exact ⟨hup.1, (find?_updateDevice hfound).symm⟩
  exact { h with registered := hregistered }

/-- A message for a snapshot that is stored is written under its id, and creates none. -/
lemma accept_of_stored {uuid : String} {t : TelemetryPayload} {d : Device} {c : ComponentType}
    (hclears : w.config.admission.Clears w.store m.topic payload uuid t d c)
    (htakes : w.store.Takes t.readings.length) {n : Snapshot}
    (hknown : w.store.tables.snapshot? d.id t.snapshotId = some n) :
    (∃ gap, (w.perform (.accept m payload)).answer = .receipt ⟨n.id, t.readings.length, gap⟩) ∧
      (w.perform (.accept m payload)).world.store.tables.snapshots = w.store.tables.snapshots := by
  obtain ⟨hanswer, hstore, -⟩ := accept_of_clears (m := m) hclears htakes
  constructor
  · rwa [Store.snapshotOf, hknown, Option.getD_some] at hanswer
  · rw [hstore, Store.storing, Store.fresh?, hknown]
    exact List.append_nil _

/-- **Sending a message again.**  The same message is admitted again, under the same snapshot. -/
lemma accept_again {after : World} (hafter : (w.perform (.accept m payload)).world = after)
    (h : (w.perform (.accept m payload)).answer = .receipt receipt) :
    ∃ again : AdmissionReceipt, (after.perform (.accept m payload)).answer = .receipt again ∧
      again.snapshotId = receipt.snapshotId ∧
      (after.perform (.accept m payload)).world.store.tables.snapshots =
        after.store.tables.snapshots := by
  obtain ⟨uuid, t, d, c, hclears, htakes⟩ := admissible_of_receipt h
  obtain ⟨⟨gap, hanswer⟩, hstore, -⟩ := accept_of_clears (m := m) hclears htakes
  rw [h] at hanswer
  obtain rfl := GateAnswer.receipt.inj hanswer
  have hconfig : after.config = w.config := by
    rw [← hafter, world_accept]
  rw [hafter] at hstore
  have hclears' := clears_storing hclears (t.capturedAt.getD w.state.clock)
  have htakes' : after.store.Takes t.readings.length := by
    rw [hstore]
    exact { htakes with }
  have hknown := w.store.snapshot?_storing ⟨d, t⟩ (t.capturedAt.getD w.state.clock)
  rw [← hstore] at hclears' hknown
  rw [← hconfig] at hclears'
  obtain ⟨⟨gap', hagain⟩, hsame⟩ := accept_of_stored (m := m) hclears' htakes' hknown
  exact ⟨_, hagain, rfl, hsame⟩

/-- **Messages for a stored snapshot.**  However much has happened since a snapshot was stored, a
message of its device that names it is written under its id, and creates none. -/
lemma accept_of_later {w' : World} (hlater : w.Later w') {n : Snapshot} {deviceId : Int}
    {key : String} (hknown : w.store.tables.snapshot? deviceId key = some n) {d : Device}
    {instanceName : String} {entries : List Json}
    (htells : w'.Tells m payload d instanceName key entries) (hid : d.id = deviceId)
    (h : (w'.perform (.accept m payload)).answer = .receipt receipt) :
    receipt.snapshotId = n.id ∧
      (w'.perform (.accept m payload)).world.store.tables.snapshots =
        w'.store.tables.snapshots := by
  obtain ⟨uuid, t, d', c, hclears, htakes⟩ := admissible_of_receipt h
  obtain ⟨rfl, rfl⟩ := htells.eq_of_clears hclears
  subst hid
  have hstored : w'.store.tables.snapshot? d'.id t.snapshotId = some n := by
    obtain ⟨more, hmore⟩ := hlater.grows.snapshots
    have happend := Grant.placed?_append (g := ⟨d'.id, t.snapshotId, n⟩) hknown more
    rwa [hmore] at happend
  obtain ⟨⟨gap, hanswer⟩, hsame⟩ := accept_of_stored (m := m) hclears htakes hstored
  rw [h] at hanswer
  obtain rfl := GateAnswer.receipt.inj hanswer
  exact ⟨rfl, hsame⟩

end Committed

/-- **What an admitted message changes.**  Wherever the gate has come to, a message that is answered
with a receipt is from one device, and has changed what it says and nothing else.  If it is sent
again it is admitted again, under the same snapshot; and however much has happened in the meantime,
a message of the same device that names this snapshot creates no second one. -/
theorem accept_commits {w : World} (hreached : w.Reached) (m : Message) (payload : Json)
    (receipt : AdmissionReceipt)
    (h : (w.perform (.accept m payload)).answer = .receipt receipt) :
    let after := (w.perform (.accept m payload)).world
    ∃ d instanceName key entries, w.Tells m payload d instanceName key entries ∧
      w.Commits after d instanceName key entries (w.captured payload) receipt ∧
      (∃ again : AdmissionReceipt, (after.perform (.accept m payload)).answer = .receipt again ∧
        again.snapshotId = receipt.snapshotId ∧
        (after.perform (.accept m payload)).world.store.tables.snapshots =
          after.store.tables.snapshots) ∧
      ∀ later m' payload' d' instanceName' entries' receipt', after.Later later →
        later.Tells m' payload' d' instanceName' key entries' → d'.id = d.id →
        (later.perform (.accept m' payload')).answer = .receipt receipt' →
        receipt'.snapshotId = receipt.snapshotId ∧
          (later.perform (.accept m' payload')).world.store.tables.snapshots =
            later.store.tables.snapshots := by
  obtain ⟨d, instanceName, key, entries, htells, hcommits⟩ := commits_of_receipt hreached.tidy h
  have hagain := accept_again rfl h
  generalize (w.perform (.accept m payload)).world = after at hcommits hagain ⊢
  refine ⟨d, instanceName, key, entries, htells, hcommits, hagain, ?_⟩
  intro later m' payload' d' instanceName' entries' receipt' hlater htells' hid h'
  obtain ⟨n, hplaced, hn⟩ := hcommits.placed
  rw [← hn]
  exact accept_of_later hlater hplaced htells' hid h'

namespace Sample

/-- Two readings, one of which gives no more than an average. -/
def entries : List Json :=
  [.object [("metric", .text "temperature"), ("unit", .text "C"), ("value", .ofNat 21)],
   .object [("avg", .ofNat 40), ("metric", .text "humidity")]]

/-- What the device of the samples says with them. -/
def measured : Json :=
  Signature.attach "S3cr3t-device-key"
    [("captured_at", .text "2024-05-01T12:00:00Z"), ("component_type", .text "DHT22"),
     ("cpu_serial", .text "10000000abcdef01"), ("data", .array entries),
     ("instance_name", .text "gl"), ("snapshot_id", .text "snap-2")]

/-- The reading that says of one number what can be said of it. -/
def single (metric : String) (unit : Option String) (value : Binary64) : Reading where
  metric := metric
  unit := unit
  value := value
  avg := value
  min := value
  max := value
  stddev := .zero
  slope := .zero
  sampleCount := 1

/-- The envelope of what it says. -/
def telemetry : TelemetryPayload where
  componentType := "DHT22"
  instanceName := "gl"
  snapshotId := "snap-2"
  capturedAt := some ⟨1714564800, 0⟩
  sequenceNumber := none
  readings := [single "temperature" (some "C") (.ofInt 21), single "humidity" none (.ofInt 40)]

/-- The gate of the samples is one that has just begun. -/
lemma reached : (sample .none).Reached :=
  ⟨(sample .none).config,
    { devices := [Admission.Sample.device]
      componentTypes := [Admission.Sample.component]
      attachments := [{ deviceId := 1, componentTypeId := 3, instanceName := "gl" }] },
    .memory false, ⟨0, 0⟩, { seed := [], uptime := 1 }, .now⟩

lemma capturedAtOf_measured :
    TelemetryPayload.capturedAtOf measured = some ⟨1714564800, 0⟩ := by
  rfl

lemma clears_measured :
    (Admission.mk none 60).Clears (Admission.Sample.records .none).store
      Admission.Sample.message.topic measured "D1" telemetry Admission.Sample.device
      Admission.Sample.component :=
  { @Admission.Sample.clears .none 60 fun _ _ => rfl with
    read := by rfl
    recognized := ⟨_, rfl, by decide, rfl⟩
    signed := Signature.hasSigned_attach rfl (by decide) _ }

end Sample

open Sample in
/-- A message of two readings has two rows, and its device was seen when they were taken. -/
theorem accept_commits_sample :
    let w := sample .none
    w.Reached ∧ ∃ receipt,
      (w.perform (.accept Admission.Sample.message measured)).answer = .receipt receipt ∧
      receipt.rowsWritten = 2 ∧
      (w.perform (.accept Admission.Sample.message measured)).world.store.tables.devices =
        [{ Admission.Sample.device with lastSeenAt := some ⟨1714564800, 0⟩ }] := by
  intro w
  obtain ⟨⟨gap, hanswer⟩, -⟩ := accept_of_clears (w := w) (m := Admission.Sample.message)
    clears_measured ⟨rfl, rfl, fun _ => rfl, fun _ _ => rfl, rfl, rfl⟩
  refine ⟨reached, _, hanswer, rfl, ?_⟩
  obtain ⟨d, instanceName, key, entries, htells, hcommits, -⟩ :=
    accept_commits reached Admission.Sample.message measured _ hanswer
  obtain ⟨before, rest, hwas, his⟩ := hcommits.devices
  have hone : [Admission.Sample.device] = before ++ d :: rest := hwas
  obtain ⟨rfl, rfl, rfl⟩ : before = [] ∧ d = Admission.Sample.device ∧ rest = [] := by
    rcases before with _ | ⟨x, before⟩
    · simpa [eq_comm] using hone
    · simp at hone
  rw [his, captured, capturedAtOf_measured]
  rfl

end World

end DeviceGate
