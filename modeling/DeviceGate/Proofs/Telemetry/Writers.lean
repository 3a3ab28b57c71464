import DeviceGate.Fleet.Seed
import DeviceGate.Proofs.Telemetry.Transaction

/-!
Transactions that are open at the same time.  A writer begins a transaction, asks once for the
snapshot of a device and a key, buffers rows of that device under the id it was given and the moment
the device was seen, and then commits or gives up.  Any number of writers take turns, and in between
the store is used for everything else that it offers.

* `Writer`: an open transaction, with what it was given and the lines it has written.
* `Upkeep`: the other calls of the store; `Upkeep.keepsTelemetry`: none of them is about snapshots
  or readings.
* `Writer.Session.run`: the session behind a list of moves.
* `Writer.Session.Does`, `Writer.Session.step_does`: what a move does.
* `Writer.Session.run_message`: a message is written by a writer whom nobody interrupts.
-/

namespace DeviceGate

/-- A snapshot that was given, and the device and the key that were asked for. -/
structure Grant where
  deviceId : Int
  key : String
  snapshot : Snapshot

/-- The row of a line, which is the reading of an instance, under that snapshot id. -/
def Grant.row (g : Grant) (snapshotId : Int) (line : String × Reading) : TelemetryRow where
  snapshotId := snapshotId
  deviceId := g.deviceId
  instanceName := line.1
  reading := line.2

/-- An open transaction, with what it was given and the lines it has written. -/
structure Writer where
  buffer : Transaction := {}
  grant : Option Grant := none
  lines : List (String × Reading) := []

/-! ### The other calls of the store -/

/-- A call of the store that is not part of a transaction, or a change of what is down. -/
inductive Upkeep where
  | seed (s : Seed)
  | switch (faults : Faults)
  | refuse (refuses : ℕ → Bool)
  | setSecret (deviceId : Int) (secret : String)
  | updateStatus (deviceId : Int) (status : DeviceStatus)
  | insertBatch (row : BatchRow)
  | incrementProcessed (id : String)
  | markCompleted (id : String) (now : Timestamp)
  | markFailed (id : String) (now : Timestamp)
  | ingestImage (topic : String) (payload : Json)

/-- The store behind such a call. -/
def Upkeep.apply (s : Store) : Upkeep → Except StoreError Store
  | seed records => .ok { s with tables := records.apply s.tables }
  | switch faults => .ok { s with faults := faults }
  | refuse refuses => .ok { s with refusesReading := refuses }
  | setSecret deviceId secret => s.setSecret deviceId secret
  | updateStatus deviceId status => s.updateStatus deviceId status
  | insertBatch row => s.insertBatch row
  | incrementProcessed id => s.incrementProcessed id
  | markCompleted id now => return (← s.markCompleted id now).2
  | markFailed id now => return (← s.markFailed id now).2
  | ingestImage topic payload => s.ingestImage topic payload

/-- The later store has the same snapshots and readings, and no id has been drawn in between. -/
structure Store.KeepsTelemetry (s after : Store) : Prop where
  snapshots : after.tables.snapshots = s.tables.snapshots
  readings : after.tables.readings = s.tables.readings
  drawn : after.lastSnapshotId = s.lastSnapshotId

/-- Completing a batch changes nothing but that batch, if anything. -/
lemma Store.changeBatch_of_markCompleted {s after : Store} {id : String} {now : Timestamp}
    {changed : Bool} (h : s.markCompleted id now = .ok (changed, after)) :
    after = s ∨ ∃ f, after = s.changeBatch id f := by
  rw [markCompleted, Faults.check_bind_eq_ok_iff] at h
  obtain ⟨-, h⟩ := h
  split at h
  · cases h
  · split at h
    · cases h
      exact .inl rfl
    · cases h
      exact .inr ⟨_, rfl⟩

/-- So does failing one. -/
lemma Store.changeBatch_of_markFailed {s after : Store} {id : String} {now : Timestamp}
    {changed : Bool} (h : s.markFailed id now = .ok (changed, after)) :
    after = s ∨ ∃ f, after = s.changeBatch id f := by
  rw [markFailed, Faults.check_bind_eq_ok_iff] at h
  obtain ⟨-, h⟩ := h
  split at h
  · cases h
  · split at h
    · cases h
      exact .inl rfl
    · cases h
      exact .inr ⟨_, rfl⟩

namespace Store.KeepsTelemetry

variable {s after : Store}

lemma refl (s : Store) : s.KeepsTelemetry s :=
  ⟨rfl, rfl, rfl⟩

lemma of_changeDevice {id : Int} {f : Device → Device} (h : s.changeDevice id f = .ok after) :
    s.KeepsTelemetry after := by
  rw [changeDevice] at h
  split at h
  · cases h
  · cases h
    exact ⟨rfl, rfl, rfl⟩

lemma of_changeBatch (s : Store) (id : String) (f : BatchRow → BatchRow) :
    s.KeepsTelemetry (s.changeBatch id f) :=
  ⟨rfl, rfl, rfl⟩

lemma of_markCompleted {id : String} {now : Timestamp} {changed : Bool}
    (h : s.markCompleted id now = .ok (changed, after)) : s.KeepsTelemetry after := by
  rcases changeBatch_of_markCompleted h with rfl | ⟨f, rfl⟩
  · exact .refl after
  · exact .of_changeBatch s id f

lemma of_markFailed {id : String} {now : Timestamp} {changed : Bool}
    (h : s.markFailed id now = .ok (changed, after)) : s.KeepsTelemetry after := by
  rcases changeBatch_of_markFailed h with rfl | ⟨f, rfl⟩
  · exact .refl after
  · exact .of_changeBatch s id f

end Store.KeepsTelemetry

lemma foldl_telemetry {α : Type} {add : Tables → α → Tables}
    (h : ∀ t a, (add t a).snapshots = t.snapshots ∧ (add t a).readings = t.readings)
    (l : List α) (t : Tables) :
    (l.foldl add t).snapshots = t.snapshots ∧ (l.foldl add t).readings = t.readings := by
  induction l generalizing t with
  | nil => exact ⟨rfl, rfl⟩
  | cons a l ih =>
      rw [List.foldl_cons, (ih _).1, (ih _).2]
      exact h t a

/-- Adding records keeps snapshots and readings. -/
lemma Seed.apply_telemetry (seed : Seed) (t : Tables) :
    (seed.apply t).snapshots = t.snapshots ∧ (seed.apply t).readings = t.readings := by
  have hkeeps {α : Type} (add : Tables → α → Tables)
      (h : ∀ t a, (add t a).snapshots = t.snapshots ∧ (add t a).readings = t.readings) :=
    foldl_telemetry h
  simp only [Seed.apply, hkeeps Tables.addRelationship fun _ _ => ⟨rfl, rfl⟩,
    hkeeps Tables.addMembership fun _ _ => ⟨rfl, rfl⟩, hkeeps Tables.addUser fun _ _ => ⟨rfl, rfl⟩,
    hkeeps Tables.attach fun _ _ => ⟨rfl, rfl⟩,
    hkeeps Tables.addComponentType fun _ _ => ⟨rfl, rfl⟩,
    hkeeps Tables.addDevice fun _ _ => ⟨rfl, rfl⟩, and_self]

/-- None of these calls is about snapshots or readings. -/
lemma Upkeep.keepsTelemetry {s after : Store} {u : Upkeep} (h : u.apply s = .ok after) :
    s.KeepsTelemetry after := by
  cases u with
  | seed records =>
      cases h
      exact ⟨(records.apply_telemetry _).1, (records.apply_telemetry _).2, rfl⟩
  | switch faults | refuse refuses =>
      cases h
      exact ⟨rfl, rfl, rfl⟩
  | setSecret deviceId secret =>
      rw [apply, Store.setSecret, Faults.check_bind_eq_ok_iff] at h
      exact .of_changeDevice h.2
  | updateStatus deviceId status =>
      rw [apply, Store.updateStatus, Faults.check_bind_eq_ok_iff] at h
      exact .of_changeDevice h.2
  | insertBatch row =>
      rw [apply, Store.insertBatch, Faults.check_bind_eq_ok_iff] at h
      rcases hrow : s.tables.batch? row.batchId with _ | found
      · rw [hrow] at h
        cases h.2
        exact ⟨rfl, rfl, rfl⟩
      · rw [hrow] at h
        cases h.2
  | incrementProcessed id =>
      rw [apply, Store.incrementProcessed, Faults.check_bind_eq_ok_iff] at h
      rcases hrow : s.tables.batch? id with _ | found
      · rw [hrow] at h
        cases h.2
      · rw [hrow] at h
        cases h.2
        exact ⟨rfl, rfl, rfl⟩
  | markCompleted id now =>
      obtain ⟨⟨changed, settled⟩, hsettled, hafter⟩ := bind_eq_ok_iff.1 h
      cases hafter
      exact .of_markCompleted hsettled
  | markFailed id now =>
      obtain ⟨⟨changed, settled⟩, hsettled, hafter⟩ := bind_eq_ok_iff.1 h
      cases hafter
      exact .of_markFailed hsettled
  | ingestImage topic payload =>
      rw [apply, Store.ingestImage, Faults.check_bind_eq_ok_iff] at h
      cases h.2
      exact ⟨rfl, rfl, rfl⟩

/-! ### What a writer does -/

namespace Writer

/-- The writer asks for the snapshot of a device and a key, unless it has been given one. -/
def ask (w : Writer) (s : Store) (deviceId : Int) (key : String) (capturedAt : Timestamp) :
    Writer × Store :=
  match w.grant, s.snapshotFor w.buffer deviceId key capturedAt with
  | none, .ok (snapshot, buffer, s) =>
      ({ w with buffer := buffer, grant := some ⟨deviceId, key, snapshot⟩ }, s)
  | _, _ => (w, s)

/-- The writer writes a line, under the snapshot that it has been given. -/
def write (w : Writer) (s : Store) (line : String × Reading) : Writer :=
  match w.grant with
  | none => w
  | some g =>
      match s.insertReading w.buffer (g.row g.snapshot.id line) with
      | .ok buffer => { w with buffer := buffer, lines := w.lines ++ [line] }
      | .error _ => w

/-- The writer notes when a device was seen. -/
def touch (w : Writer) (s : Store) (deviceId : Int) (seenAt : Timestamp) : Writer :=
  match s.touchDevice w.buffer deviceId seenAt with
  | .ok buffer => { w with buffer := buffer }
  | .error _ => w

/-- The store, the writers whose transactions are open, and those that have committed theirs, in
that order. -/
structure Session where
  store : Store := {}
  pending : List Writer := []
  committed : List Writer := []

/-- One move of a session; a writer is named by its place among those whose transactions are
open. -/
inductive Move where
  | begin
  | ask (place : ℕ) (deviceId : Int) (key : String) (capturedAt : Timestamp)
  | write (place : ℕ) (line : String × Reading)
  | touch (place : ℕ) (deviceId : Int) (seenAt : Timestamp)
  | commit (place : ℕ)
  /-- The transaction is rolled back, or dropped. -/
  | leave (place : ℕ)
  | keep (u : Upkeep)

/-- The place that a move is about. -/
def Move.place? : Move → Option ℕ
  | begin | keep _ => none
  | ask place _ _ _ | write place _ | touch place _ _ | commit place | leave place => some place

namespace Session

/-- The open transactions, with others in the place of one. -/
def replacing (m : Session) (place : ℕ) (ws : List Writer) : List Writer :=
  m.pending.take place ++ ws ++ m.pending.drop (place + 1)

/-- The session behind a move; a place where no transaction is open changes nothing. -/
def step (m : Session) : Move → Session
  | .begin =>
      match m.store.beginTransaction with
      | .ok buffer => { m with pending := m.pending ++ [{ buffer := buffer }] }
      | .error _ => m
  | .ask place deviceId key capturedAt =>
      match m.pending[place]? with
      | none => m
      | some w =>
          let (w, s) := w.ask m.store deviceId key capturedAt
          { m with store := s, pending := m.replacing place [w] }
  | .write place line =>
      match m.pending[place]? with
      | none => m
      | some w => { m with pending := m.replacing place [w.write m.store line] }
  | .touch place deviceId seenAt =>
      match m.pending[place]? with
      | none => m
      | some w => { m with pending := m.replacing place [w.touch m.store deviceId seenAt] }
  | .commit place =>
      match m.pending[place]? with
      | none => m
      | some w =>
          match m.store.commit w.buffer with
          | .ok s =>
              { store := s, pending := m.replacing place [], committed := m.committed ++ [w] }
          | .error _ => { m with pending := m.replacing place [] }
  | .leave place => { m with pending := m.replacing place [] }
  | .keep u =>
      match u.apply m.store with
      | .ok s => { m with store := s }
      | .error _ => m

/-- The session behind some moves. -/
def run (m : Session) (moves : List Move) : Session :=
  moves.foldl step m

@[simp] lemma run_nil (m : Session) : m.run [] = m :=
  rfl

@[simp] lemma run_cons (m : Session) (move : Move) (moves : List Move) :
    m.run (move :: moves) = (m.step move).run moves :=
  rfl

lemma run_append (m : Session) (moves moves' : List Move) :
    m.run (moves ++ moves') = (m.run moves).run moves' :=
  List.foldl_append

/-- What a move does to the store and to the open transactions. -/
inductive Does (m : Session) : Session → Prop where
  | idle : Does m m
  | opened : Does m { m with pending := m.pending ++ [{}] }
  | joined {before w after deviceId key snapshot} : m.pending = before ++ w :: after →
      w.grant = none → m.store.tables.snapshot? deviceId key = some snapshot →
      Does m
        { m with pending := before ++ { w with grant := some ⟨deviceId, key, snapshot⟩ } :: after }
  | drew {before w after n} : m.pending = before ++ w :: after → w.grant = none →
      m.store.tables.snapshot? n.deviceId n.key = none → n.id = m.store.lastSnapshotId + 1 →
      Does m
        { m with
          store := { m.store with lastSnapshotId := n.id }
          pending := before ++
            { w with
              buffer := { w.buffer with newSnapshot := some n }
              grant := some ⟨n.deviceId, n.key, n⟩ } :: after }
  | wrote {before w after g line} : m.pending = before ++ w :: after → w.grant = some g →
      Does m
        { m with
          pending := before ++
            { w with
              buffer := { w.buffer with rows := w.buffer.rows ++ [g.row g.snapshot.id line] }
              grant := some g
              lines := w.lines ++ [line] } :: after }
  | touched {before w after seen} : m.pending = before ++ w :: after →
      Does m
        { m with
          pending := before ++ { w with buffer := { w.buffer with touched := seen } } :: after }
  | committed {before w after} : m.pending = before ++ w :: after →
      Does m
        { store := m.store.committing w.buffer, pending := before ++ after
          committed := m.committed ++ [w] }
  | left {before w after} : m.pending = before ++ w :: after →
      Does m { m with pending := before ++ after }
  | kept {s} : m.store.KeepsTelemetry s → Does m { m with store := s }

lemma split_pending {m : Session} {place : ℕ} {w : Writer} (h : m.pending[place]? = some w) :
    m.pending = m.pending.take place ++ w :: m.pending.drop (place + 1) := by
  obtain ⟨hplace, hget⟩ := List.getElem?_eq_some_iff.1 h
  rw [← hget, List.getElem_cons_drop, List.take_append_drop]

lemma replacing_singleton (m : Session) (place : ℕ) (w : Writer) :
    m.replacing place [w] = m.pending.take place ++ w :: m.pending.drop (place + 1) := by
  rw [replacing, List.append_assoc, List.singleton_append]

lemma replacing_nil (m : Session) (place : ℕ) :
    m.replacing place [] = m.pending.take place ++ m.pending.drop (place + 1) := by
  rw [replacing, List.append_nil]

/-- A writer that goes on as it was changes nothing. -/
lemma replacing_self {m : Session} {place : ℕ} {w : Writer} (h : m.pending[place]? = some w) :
    m.replacing place [w] = m.pending := by
  rw [replacing_singleton, ← split_pending h]

/-- A move that is about a place where no transaction is open does nothing. -/
lemma step_of_vacant {m : Session} {place : ℕ} (hvacant : m.pending[place]? = none) {move : Move}
    (hmove : move.place? = some place) : m.step move = m := by
  cases move with
  | begin | keep => cases hmove
  | ask | write | touch | commit =>
      cases hmove
      simp only [step, hvacant]
  | leave =>
      cases hmove
      have hout : m.pending.length ≤ place := List.getElem?_eq_none_iff.1 hvacant
      rw [step, replacing_nil, List.take_of_length_le hout,
        List.drop_eq_nil_of_le (Nat.le_succ_of_le hout), List.append_nil]

lemma run_of_vacant {m : Session} {place : ℕ} (hvacant : m.pending[place]? = none)
    {moves : List Move} (hmoves : ∀ move ∈ moves, move.place? = some place) : m.run moves = m := by
  induction moves with
  | nil => rfl
  | cons move moves ih =>
      rw [List.forall_mem_cons] at hmoves
      rw [run_cons, step_of_vacant hvacant hmoves.1, ih hmoves.2]

/-- **One move.**  A move of a session in which nobody has buffered a snapshot unasked does one of
these things. -/
lemma step_does (m : Session)
    (h : ∀ w ∈ m.pending, w.grant = none → w.buffer.newSnapshot = none) (move : Move) :
    m.Does (m.step move) := by
  cases move with
  | begin =>
      rw [step]
      rcases hbegun : m.store.beginTransaction with e | buffer
      · exact .idle
      · rw [(Store.beginTransaction_eq_ok_iff.1 hbegun).2]
        exact .opened
  | ask place deviceId key capturedAt =>
      rcases hw : m.pending[place]? with _ | w
      · rw [step_of_vacant hw rfl]
        exact .idle
      · simp only [step, hw]
        rcases hgrant : w.grant with _ | g
        · rcases hasked : m.store.snapshotFor w.buffer deviceId key capturedAt with
            e | ⟨snapshot, buffer, s⟩
          · simp only [ask, hgrant, hasked, replacing_self hw]
            exact .idle
          · have hmem : w ∈ m.pending := List.mem_of_getElem? hw
            simp only [ask, hgrant, hasked, replacing_singleton]
            rcases Store.snapshotFor_cases (h w hmem hgrant) hasked with
              ⟨hknown, rfl, rfl⟩ | ⟨hunknown, rfl, rfl, rfl⟩
            · exact .joined (split_pending hw) hgrant hknown
            · exact .drew (split_pending hw) hgrant hunknown rfl
        · simp only [ask, hgrant, replacing_self hw]
          exact .idle
  | write place line =>
      rcases hw : m.pending[place]? with _ | w
      · rw [step_of_vacant hw rfl]
        exact .idle
      · simp only [step, hw]
        rcases hgrant : w.grant with _ | g
        · simp only [Writer.write, hgrant, replacing_self hw]
          exact .idle
        · rcases hwritten :
            m.store.insertReading w.buffer (g.row g.snapshot.id line) with e | buffer
          · simp only [Writer.write, hgrant, hwritten, replacing_self hw]
            exact .idle
          · obtain ⟨-, -, rfl⟩ := Store.insertReading_eq_ok_iff.1 hwritten
            simp only [Writer.write, hgrant, hwritten, replacing_singleton]
            exact .wrote (split_pending hw) hgrant
  | touch place deviceId seenAt =>
      rcases hw : m.pending[place]? with _ | w
      · rw [step_of_vacant hw rfl]
        exact .idle
      · simp only [step, hw]
        rcases htouched : m.store.touchDevice w.buffer deviceId seenAt with e | buffer
        · simp only [touch, htouched, replacing_self hw]
          exact .idle
        · obtain ⟨-, rfl⟩ := Store.touchDevice_eq_ok_iff.1 htouched
          simp only [touch, htouched, replacing_singleton]
          exact .touched (split_pending hw)
  | commit place =>
      rcases hw : m.pending[place]? with _ | w
      · rw [step_of_vacant hw rfl]
        exact .idle
      · simp only [step, hw, replacing_nil]
        rcases hcommit : m.store.commit w.buffer with e | s
        · exact .left (split_pending hw)
        · obtain ⟨-, -, rfl⟩ := Store.commit_eq_ok_iff.1 hcommit
          exact .committed (split_pending hw)
  | leave place =>
      rcases hw : m.pending[place]? with _ | w
      · rw [step_of_vacant hw rfl]
        exact .idle
      · rw [step, replacing_nil]
        exact .left (split_pending hw)
  | keep u =>
      rw [step]
      rcases hkept : u.apply m.store with e | s
      · exact .idle
      · exact .kept (Upkeep.keepsTelemetry hkept)

end Session

/-! ### The transaction of one message -/

/-- The lines of a message. -/
def linesOf (e : Examined) : List (String × Reading) :=
  e.telemetry.readings.map fun reading => (e.telemetry.instanceName, reading)

/-- The writer of a message before it ends its transaction, and the store behind it. -/
def filled (s : Store) (e : Examined) (seenAt : Timestamp) : Writer × Store :=
  let (w, s) := ({} : Writer).ask s e.device.id e.telemetry.snapshotId seenAt
  (((linesOf e).foldl (·.write s ·) w).touch s e.device.id seenAt, s)

lemma buffer_foldl_write {s : Store} {w : Writer} {g : Grant} {lines : List (String × Reading)}
    {tx : Transaction} (hgrant : w.grant = some g)
    (h : Admission.insertAll s w.buffer (lines.map (g.row g.snapshot.id)) = .ok tx) :
    (lines.foldl (·.write s ·) w).buffer = tx := by
  induction lines generalizing w with
  | nil =>
      cases h
      rfl
  | cons line lines ih =>
      obtain ⟨buffer, hwritten, hrest⟩ := bind_eq_ok_iff.1 h
      have hnext : w.write s line = { w with buffer := buffer, lines := w.lines ++ [line] } := by
        simp only [Writer.write, hgrant, hwritten]
      rw [List.foldl_cons, hnext]
      exact ih hgrant hrest

/-- The writer has buffered what the transaction of the message is filled with. -/
lemma filled_eq (s : Store) (e : Examined) (seenAt : Timestamp) :
    (filled s e seenAt).2 = (Admission.fill s {} e seenAt).2 ∧
    ∀ snapshot tx, (Admission.fill s {} e seenAt).1 = .ok (snapshot, tx) →
      (filled s e seenAt).1.buffer = tx := by
  simp only [filled, Admission.fill, ask]
  rcases s.snapshotFor {} e.device.id e.telemetry.snapshotId seenAt with
    err | ⟨found, buffer, after⟩
  · exact ⟨rfl, fun _ _ h => by cases h⟩
  · refine ⟨rfl, fun snapshot tx h => ?_⟩
    obtain ⟨inserted, hinserted, h⟩ := bind_eq_ok_iff.1 h
    obtain ⟨touched, htouched, h⟩ := bind_eq_ok_iff.1 h
    cases h
    let g : Grant := ⟨e.device.id, e.telemetry.snapshotId, found⟩
    have hrows : e.telemetry.readings.map (Admission.rowOf found e) =
        (linesOf e).map (g.row g.snapshot.id) := by
      rw [linesOf, List.map_map]
      rfl
    rw [hrows] at hinserted
    have hwritten := buffer_foldl_write (w := { buffer := buffer, grant := some g }) rfl hinserted
    simp only [touch, hwritten, htouched, g]

namespace Session

/-- The moves of a message up to the end of its transaction. -/
def fillMoves (place : ℕ) (e : Examined) (seenAt : Timestamp) : List Move :=
  .begin :: .ask place e.device.id e.telemetry.snapshotId seenAt ::
    ((linesOf e).map (Move.write place) ++ [.touch place e.device.id seenAt])

section Last

variable {m : Session} {before : List Writer} {w : Writer}

lemma replacing_last (h : m.pending = before ++ [w]) (ws : List Writer) :
    m.replacing before.length ws = before ++ ws := by
  simp [replacing, h]

lemma getElem?_last (h : m.pending = before ++ [w]) : m.pending[before.length]? = some w := by
  simp [h]

lemma step_ask_last (h : m.pending = before ++ [w]) (deviceId : Int) (key : String)
    (capturedAt : Timestamp) :
    m.step (.ask before.length deviceId key capturedAt) =
      { m with
        store := (w.ask m.store deviceId key capturedAt).2
        pending := before ++ [(w.ask m.store deviceId key capturedAt).1] } := by
  simp only [step, getElem?_last h, replacing_last h]

lemma step_touch_last (h : m.pending = before ++ [w]) (deviceId : Int) (seenAt : Timestamp) :
    m.step (.touch before.length deviceId seenAt) =
      { m with pending := before ++ [w.touch m.store deviceId seenAt] } := by
  simp only [step, getElem?_last h, replacing_last h]

lemma run_write_last (h : m.pending = before ++ [w]) (lines : List (String × Reading)) :
    m.run (lines.map (Move.write before.length)) =
      { m with pending := before ++ [lines.foldl (·.write m.store ·) w] } := by
  induction lines generalizing m w with
  | nil => rw [List.map_nil, run_nil, List.foldl_nil, ← h]
  | cons line lines ih =>
      have hstep : m.step (.write before.length line) =
          { m with pending := before ++ [w.write m.store line] } := by
        simp only [step, getElem?_last h, replacing_last h]
      rw [List.map_cons, run_cons, hstep, ih rfl]
      rfl

lemma step_commit_last (h : m.pending = before ++ [w]) :
    m.step (.commit before.length) =
      match m.store.commit w.buffer with
      | .ok s => { store := s, pending := before, committed := m.committed ++ [w] }
      | .error _ => { m with pending := before } := by
  simp only [step, getElem?_last h, replacing_last h, List.append_nil]

lemma step_leave_last (h : m.pending = before ++ [w]) :
    m.step (.leave before.length) = { m with pending := before } := by
  rw [step, replacing_last h, List.append_nil]

end Last

/-- A new writer that makes the moves of a message is filled with it. -/
lemma run_fillMoves {m : Session} (hbegun : m.store.beginTransaction = .ok {}) (e : Examined)
    (seenAt : Timestamp) :
    m.run (fillMoves m.pending.length e seenAt) =
      { m with
        store := (filled m.store e seenAt).2
        pending := m.pending ++ [(filled m.store e seenAt).1] } := by
  have hbegin : m.step .begin = { m with pending := m.pending ++ [{}] } := by
    rw [step, hbegun]
  rw [fillMoves, run_cons, hbegin, run_cons, step_ask_last rfl, run_append, run_write_last rfl,
    run_cons, run_nil, step_touch_last rfl]
  rfl

/-- A writer that cannot begin its transaction makes no move. -/
lemma run_fillMoves_of_down {m : Session} {err : StoreError}
    (hdown : m.store.beginTransaction = .error err) (e : Examined) (seenAt : Timestamp) :
    m.run (fillMoves m.pending.length e seenAt) = m := by
  have hbegin : m.step .begin = m := by
    rw [step, hdown]
  rw [fillMoves, run_cons, hbegin]
  refine run_of_vacant (List.getElem?_length _) ?_
  simp only [List.forall_mem_cons, List.forall_mem_append, List.forall_mem_map]
  exact ⟨rfl, fun _ _ => rfl, rfl, List.forall_mem_nil _⟩

/-- **The transaction of one message.**  What is done for a message at a stretch is what a new
writer does whom nobody interrupts: it commits exactly when the message goes through. -/
theorem run_message (m : Session) (ctx : LogContext) (e : Examined) (seenAt : Timestamp) :
    let written := (Admission.write m.store ctx e seenAt).value
    let place := m.pending.length
    m.run (fillMoves place e seenAt ++
        [if written.1.isSome then .commit place else .leave place]) =
      { store := written.2
        pending := m.pending
        committed := m.committed ++
          if written.1.isSome then [(filled m.store e seenAt).1] else [] } := by
  intro written place
  let w := (filled m.store e seenAt).1
  obtain ⟨hstore, hbuffer⟩ := filled_eq m.store e seenAt
  have hwritten : written = _ := Admission.value_write m.store ctx e seenAt
  rcases hbegun : m.store.beginTransaction with err | tx
  · have hnone : written = (none, m.store) := by
      rw [hwritten, hbegun]
    have hleave : m.step (.leave place) = m := step_of_vacant (List.getElem?_length _) rfl
    rw [run_append, run_fillMoves_of_down hbegun, hnone]
    simpa using hleave
  · obtain ⟨-, rfl⟩ := Store.beginTransaction_eq_ok_iff.1 hbegun
    rcases hfilled : Admission.fill m.store {} e seenAt with ⟨answer, after⟩
    have hrun : m.run (fillMoves place e seenAt) =
        { m with store := after, pending := m.pending ++ [w] } := by
      rw [run_fillMoves hbegun, hstore, hfilled]
    rw [run_append, hrun, run_cons, run_nil]
    rcases answer with err | ⟨snapshot, tx⟩
    · have hnone : written = (none, after) := by
        simp only [hwritten, hbegun, hfilled]
      rw [hnone]
      exact (step_leave_last rfl).trans (by simp)
    · rcases hcommitted : after.commit tx with err | committed
      · have hnone : written = (none, after) := by
          simp only [hwritten, hbegun, hfilled, hcommitted]
        rw [hnone]
        exact (step_leave_last rfl).trans (by simp)
      · have hsome : written = (some snapshot, committed) := by
          simp only [hwritten, hbegun, hfilled, hcommitted]
        have htx : w.buffer = tx := hbuffer snapshot tx (by rw [hfilled])
        rw [hsome]
        refine (step_commit_last rfl).trans ?_
        simp only [htx, hcommitted]
        rfl

end Session

end Writer

end DeviceGate
