import DeviceGate.Proofs.Telemetry.Writers

/-!
Where the rows of open transactions end up.  Two transactions may both draw an id for the same
device and key; the one that commits first stores its snapshot, and the rows of the other move to
it.  So snapshots stay unique, and no row is lost, stored twice, or left without its snapshot.

* `Grant.placed?`: the stored snapshot of what was asked for; `Writer.rowsIn`: the rows of a writer
  under it.
* `Writer.Agrees`: what an open transaction has buffered agrees with what it was given.
* `Writer.Session.Sound`: the invariant; `Writer.Session.Sound.step`: a move keeps it.
* `Writer.Session.run_placed`: what holds of every run.
-/

namespace DeviceGate

/-- The snapshot of the device and the key that were asked for. -/
def Grant.placed? (g : Grant) (snapshots : List Snapshot) : Option Snapshot :=
  snapshots.find? fun s => s.deviceId = g.deviceId ∧ s.key = g.key

/-- What a snapshot is of: its device and its key. -/
def Snapshot.subject (n : Snapshot) : Int × String :=
  (n.deviceId, n.key)

namespace Grant

variable {g : Grant} {snapshots : List Snapshot} {n : Snapshot}

lemma placed?_eq_some (h : g.placed? snapshots = some n) :
    n ∈ snapshots ∧ n.deviceId = g.deviceId ∧ n.key = g.key := by
  refine ⟨List.mem_of_find?_eq_some h, ?_⟩
  simpa using List.find?_some h

lemma placed?_eq_none_iff :
    g.placed? snapshots = none ↔ (g.deviceId, g.key) ∉ snapshots.map Snapshot.subject := by
  simp [placed?, List.find?_eq_none, Snapshot.subject]

/-- A stored snapshot is the one of its device and key, if there is no other. -/
lemma placed?_of_mem (hunique : (snapshots.map Snapshot.subject).Nodup) (hn : n ∈ snapshots)
    (hdevice : n.deviceId = g.deviceId) (hkey : n.key = g.key) :
    g.placed? snapshots = some n := by
  rcases hplaced : g.placed? snapshots with _ | n'
  · refine absurd (List.mem_map.2 ⟨n, hn, ?_⟩) (placed?_eq_none_iff.1 hplaced)
    rw [Snapshot.subject, hdevice, hkey]
  · obtain ⟨hn', hdevice', hkey'⟩ := placed?_eq_some hplaced
    have hsame : n'.subject = n.subject := by
      rw [Snapshot.subject, Snapshot.subject, hdevice, hkey, hdevice', hkey']
    rw [List.inj_on_of_nodup_map hunique hn' hn hsame]

/-- A snapshot that is stored stays where it is. -/
lemma placed?_append {n : Snapshot} (h : g.placed? snapshots = some n) (more : List Snapshot) :
    g.placed? (snapshots ++ more) = some n := by
  rw [placed?, List.find?_append]
  rw [placed?] at h
  rw [h, Option.some_or]

end Grant

namespace Writer

/-- The rows of a writer under the stored snapshot. -/
def rowsIn (snapshots : List Snapshot) (w : Writer) : List TelemetryRow :=
  match w.grant with
  | none => []
  | some g =>
      match g.placed? snapshots with
      | none => []
      | some n => w.lines.map (g.row n.id)

/-- What an open transaction has buffered agrees with what it was given: nothing yet, a snapshot
that is only buffered, or one that is stored. -/
inductive Agrees (snapshots : List Snapshot) : Writer → Prop where
  | unasked {touched} : Agrees snapshots { buffer := { touched := touched } }
  | fresh {g : Grant} {lines rows touched} : g.snapshot.deviceId = g.deviceId →
      g.snapshot.key = g.key → rows = lines.map (g.row g.snapshot.id) →
      Agrees snapshots
        { buffer := { newSnapshot := some g.snapshot, rows := rows, touched := touched }
          grant := some g
          lines := lines }
  | stored {g : Grant} {lines rows touched} : g.snapshot ∈ snapshots →
      g.snapshot.deviceId = g.deviceId → g.snapshot.key = g.key →
      rows = lines.map (g.row g.snapshot.id) →
      Agrees snapshots
        { buffer := { rows := rows, touched := touched }, grant := some g, lines := lines }

/-- A committed writer has a stored snapshot, unless it never asked for one and wrote nothing. -/
def IsPlaced (snapshots : List Snapshot) (w : Writer) : Prop :=
  (w.grant = none ∧ w.lines = []) ∨ ∃ g n, w.grant = some g ∧ g.placed? snapshots = some n

section Growth

variable {snapshots : List Snapshot} {w : Writer}

lemma Agrees.append (h : w.Agrees snapshots) (more : List Snapshot) :
    w.Agrees (snapshots ++ more) := by
  cases h with
  | unasked => exact .unasked
  | fresh hdevice hkey hrows => exact .fresh hdevice hkey hrows
  | stored hmem hdevice hkey hrows => exact .stored (List.mem_append_left _ hmem) hdevice hkey hrows

lemma IsPlaced.append (h : w.IsPlaced snapshots) (more : List Snapshot) :
    w.IsPlaced (snapshots ++ more) := by
  rcases h with hnone | ⟨g, n, hgrant, hplaced⟩
  · exact .inl hnone
  · exact .inr ⟨g, n, hgrant, Grant.placed?_append hplaced more⟩

/-- The rows of a committed writer stay as they are. -/
lemma IsPlaced.rowsIn_append (h : w.IsPlaced snapshots) (more : List Snapshot) :
    w.rowsIn (snapshots ++ more) = w.rowsIn snapshots := by
  rcases h with ⟨hgrant, -⟩ | ⟨g, n, hgrant, hplaced⟩
  · simp only [rowsIn, hgrant]
  · simp only [rowsIn, hgrant, hplaced, Grant.placed?_append hplaced more]

end Growth

namespace Session

/-- The snapshots that are stored. -/
def snapshots (m : Session) : List Snapshot :=
  m.store.tables.snapshots

/-- The snapshots that are stored or buffered. -/
def drawn (m : Session) : List Snapshot :=
  m.snapshots ++ m.pending.filterMap (·.buffer.newSnapshot)

/-- The invariant of a session. -/
structure Sound (m : Session) : Prop where
  unique : (m.snapshots.map Snapshot.subject).Nodup
  distinct : (m.drawn.map (·.id)).Nodup
  bounded : ∀ n ∈ m.drawn, n.id ≤ m.store.lastSnapshotId
  agrees : ∀ w ∈ m.pending, w.Agrees m.snapshots
  placed : ∀ w ∈ m.committed, w.IsPlaced m.snapshots
  readings : m.store.tables.readings = m.committed.flatMap (rowsIn m.snapshots)

namespace Sound

variable {m next : Session}

lemma unasked (h : m.Sound) (w : Writer) (hw : w ∈ m.pending) (hgrant : w.grant = none) :
    w.buffer.newSnapshot = none := by
  cases h.agrees w hw with
  | unasked => rfl
  | fresh | stored => cases hgrant

/-- Where the stored snapshots stay as they are, only the open transactions are to be looked at. -/
lemma of_pending (h : m.Sound) {pending : List Writer} {lastSnapshotId : Int}
    (hdrawn : ((m.snapshots ++ pending.filterMap (·.buffer.newSnapshot)).map (·.id)).Nodup)
    (hbounded : ∀ n ∈ m.snapshots ++ pending.filterMap (·.buffer.newSnapshot),
      n.id ≤ lastSnapshotId)
    (hagrees : ∀ w ∈ pending, w.Agrees m.snapshots) :
    Sound
      { m with store := { m.store with lastSnapshotId := lastSnapshotId }, pending := pending } :=
  ⟨h.unique, hdrawn, hbounded, hagrees, h.placed, h.readings⟩

lemma of_opened (h : m.Sound) : Sound { m with pending := m.pending ++ [{}] } := by
  have hsame : (m.pending ++ [({} : Writer)]).filterMap (·.buffer.newSnapshot) =
      m.pending.filterMap (·.buffer.newSnapshot) := by simp
  refine h.of_pending ?_ ?_ ?_
  · rw [hsame]
    exact h.distinct
  · rw [hsame]
    exact h.bounded
  · simp only [List.mem_append, List.mem_singleton]
    rintro w (hw | rfl)
    · exact h.agrees w hw
    · exact .unasked

/-- A writer that buffers the same snapshot as before, or none as before, may go on. -/
lemma of_replaced (h : m.Sound) {before after : List Writer} {w w' : Writer}
    (hsplit : m.pending = before ++ w :: after)
    (hsame : w'.buffer.newSnapshot = w.buffer.newSnapshot) (hagrees : w'.Agrees m.snapshots) :
    Sound { m with pending := before ++ w' :: after } := by
  have hbuffered : (before ++ w' :: after).filterMap (·.buffer.newSnapshot) =
      m.pending.filterMap (·.buffer.newSnapshot) := by
    simp only [hsplit, List.filterMap_append, List.filterMap_cons, hsame]
  refine h.of_pending ?_ ?_ ?_
  · rw [hbuffered]
    exact h.distinct
  · rw [hbuffered]
    exact h.bounded
  · have hall := h.agrees
    simp only [hsplit, List.forall_mem_append, List.forall_mem_cons] at hall ⊢
    exact ⟨hall.1, hagrees, hall.2.2⟩

lemma of_drew (h : m.Sound) {before after : List Writer} {w : Writer} {n : Snapshot}
    (hsplit : m.pending = before ++ w :: after) (hgrant : w.grant = none)
    (hid : n.id = m.store.lastSnapshotId + 1) :
    Sound
      { m with
        store := { m.store with lastSnapshotId := n.id }
        pending := before ++
          { w with
            buffer := { w.buffer with newSnapshot := some n }
            grant := some ⟨n.deviceId, n.key, n⟩ } :: after } := by
  have hw : w ∈ m.pending := by simp [hsplit]
  have hnone := h.unasked w hw hgrant
  have hdrawn : (m.snapshots ++ (before ++
      { w with
        buffer := { w.buffer with newSnapshot := some n }
        grant := some ⟨n.deviceId, n.key, n⟩ } :: after).filterMap (·.buffer.newSnapshot)).Perm
      (n :: m.drawn) := by
    simp only [drawn, hsplit, List.filterMap_append, List.filterMap_cons, hnone]
    rw [← List.append_assoc, ← List.append_assoc]
    exact List.perm_middle
  refine h.of_pending ?_ ?_ ?_
  · rw [(hdrawn.map _).nodup_iff, List.map_cons, List.nodup_cons]
    refine ⟨fun hmem => ?_, h.distinct⟩
    obtain ⟨n', hn', heq⟩ := List.mem_map.1 hmem
    have := h.bounded n' hn'
    omega
  · intro n' hn'
    rcases List.mem_cons.1 (hdrawn.mem_iff.1 hn') with rfl | hn'
    · exact le_rfl
    · have := h.bounded n' hn'
      omega
  · have hall := h.agrees
    simp only [hsplit, List.forall_mem_append, List.forall_mem_cons] at hall ⊢
    refine ⟨hall.1, ?_, hall.2.2⟩
    cases hall.2.1 with
    | unasked => exact .fresh (g := ⟨n.deviceId, n.key, n⟩) rfl rfl rfl
    | fresh | stored => cases hgrant

lemma of_left (h : m.Sound) {before after : List Writer} {w : Writer}
    (hsplit : m.pending = before ++ w :: after) :
    Sound { m with pending := before ++ after } := by
  have hsub : (before ++ after).Sublist m.pending := by
    rw [hsplit]
    exact (List.sublist_cons_self w after).append_left before
  have hdrawn := (hsub.filterMap (·.buffer.newSnapshot)).append_left m.snapshots
  refine h.of_pending ?_ ?_ ?_
  · exact h.distinct.sublist (hdrawn.map _)
  · exact fun n hn => h.bounded n (hdrawn.subset hn)
  · exact fun w hw => h.agrees w (hsub.subset hw)

lemma of_kept (h : m.Sound) {s : Store} (hkeeps : m.store.KeepsTelemetry s) :
    Sound { m with store := s } := by
  have hsnapshots : Session.snapshots { m with store := s } = m.snapshots := hkeeps.snapshots
  refine ⟨?_, ?_, ?_, ?_, ?_, ?_⟩
  · rw [hsnapshots]
    exact h.unique
  · rw [drawn, hsnapshots]
    exact h.distinct
  · rw [drawn, hsnapshots, hkeeps.drawn]
    exact h.bounded
  · rw [hsnapshots]
    exact h.agrees
  · rw [hsnapshots]
    exact h.placed
  · rw [hsnapshots, hkeeps.readings]
    exact h.readings

/-- A commit that stores these snapshots more, which the writer has buffered, and the rows of the
writer under its snapshot. -/
lemma of_placed (h : m.Sound) {before after : List Writer} {w : Writer}
    (hsplit : m.pending = before ++ w :: after) (more : List Snapshot) (rows : List TelemetryRow)
    (hmore : more.Sublist w.buffer.newSnapshot.toList)
    (hunique : ((m.snapshots ++ more).map Snapshot.subject).Nodup)
    (hplaced : w.IsPlaced (m.snapshots ++ more)) (hrows : rows = w.rowsIn (m.snapshots ++ more))
    {s : Store} (hsnapshots : s.tables.snapshots = m.snapshots ++ more)
    (hreadings : s.tables.readings = m.store.tables.readings ++ rows)
    (hlast : s.lastSnapshotId = m.store.lastSnapshotId) :
    Sound { store := s, pending := before ++ after, committed := m.committed ++ [w] } := by
  have hnext : Session.snapshots
      { store := s, pending := before ++ after, committed := m.committed ++ [w] } =
        m.snapshots ++ more := hsnapshots
  have hwas : m.drawn.Perm (m.snapshots ++ w.buffer.newSnapshot.toList ++
      (before ++ after).filterMap (·.buffer.newSnapshot)) := by
    simp only [drawn, hsplit, List.filterMap_append, List.filterMap_cons]
    rcases w.buffer.newSnapshot with _ | n
    · simp
    · simp only [Option.toList_some, List.append_assoc, List.singleton_append]
      exact List.perm_middle.append_left m.snapshots
  have hsub : (m.snapshots ++ more ++ (before ++ after).filterMap (·.buffer.newSnapshot)).Sublist
      (m.snapshots ++ w.buffer.newSnapshot.toList ++
        (before ++ after).filterMap (·.buffer.newSnapshot)) :=
    (hmore.append_left m.snapshots).append_right _
  have hall := h.agrees
  simp only [hsplit, List.forall_mem_append, List.forall_mem_cons] at hall
  refine ⟨?_, ?_, ?_, ?_, ?_, ?_⟩
  · rw [hnext]
    exact hunique
  · rw [drawn, hnext]
    exact ((hwas.map _).nodup_iff.1 h.distinct).sublist (hsub.map _)
  · rw [drawn, hnext, hlast]
    exact fun n hn => h.bounded n (hwas.mem_iff.2 (hsub.subset hn))
  · rw [hnext]
    simp only [List.forall_mem_append]
    exact ⟨fun w hw => (hall.1 w hw).append more, fun w hw => (hall.2.2 w hw).append more⟩
  · rw [hnext]
    simp only [List.forall_mem_append, List.forall_mem_singleton]
    exact ⟨fun w hw => (h.placed w hw).append more, hplaced⟩
  · have hkept : m.committed.flatMap (rowsIn (m.snapshots ++ more)) =
        m.committed.flatMap (rowsIn m.snapshots) :=
      List.flatMap_congr fun w hw => (h.placed w hw).rowsIn_append more
    rw [hnext, hreadings, h.readings, List.flatMap_append, hkept, hrows, List.flatMap_singleton]

section Fresh

variable {before after : List Writer} {w : Writer} {g : Grant}

/-- The first writer to commit stores its snapshot. -/
lemma of_first (h : m.Sound) (hsplit : m.pending = before ++ w :: after) (hgrant : w.grant = some g)
    (hfresh : w.buffer.newSnapshot = some g.snapshot) (hdevice : g.snapshot.deviceId = g.deviceId)
    (hkey : g.snapshot.key = g.key) (hrows : w.buffer.rows = w.lines.map (g.row g.snapshot.id))
    (hnobody : g.placed? m.snapshots = none) :
    Sound
      { store := m.store.committing w.buffer, pending := before ++ after
        committed := m.committed ++ [w] } := by
  have hasked : m.store.tables.snapshot? g.snapshot.deviceId g.snapshot.key = none := by
    rw [hdevice, hkey]
    exact hnobody
  have hplaced : g.placed? (m.snapshots ++ [g.snapshot]) = some g.snapshot := by
    rw [Grant.placed?] at hnobody ⊢
    rw [List.find?_append, hnobody]
    simp [hdevice, hkey]
  have hnew : g.snapshot.subject ∉ m.snapshots.map Snapshot.subject := by
    rw [Snapshot.subject, hdevice, hkey]
    exact Grant.placed?_eq_none_iff.1 hnobody
  have hunique : ((m.snapshots ++ [g.snapshot]).map Snapshot.subject).Nodup := by
    rw [List.map_append]
    exact h.unique.append (List.nodup_singleton _) (List.disjoint_singleton.2 hnew)
  refine h.of_placed hsplit [g.snapshot] w.buffer.rows ?_ hunique (.inr ⟨g, _, hgrant, hplaced⟩)
    ?_ ?_ ?_ rfl
  · rw [hfresh]
    exact List.Sublist.refl _
  · simp only [rowsIn, hgrant, hplaced, hrows]
  · simp only [Store.committing, Store.placeSnapshot, hfresh, hasked]
    rfl
  · simp only [Store.committing, Store.placeSnapshot, hfresh, hasked]

/-- When another writer was faster, the rows move to its snapshot. -/
lemma of_overtaken (h : m.Sound) (hsplit : m.pending = before ++ w :: after)
    (hgrant : w.grant = some g) (hfresh : w.buffer.newSnapshot = some g.snapshot)
    (hdevice : g.snapshot.deviceId = g.deviceId) (hkey : g.snapshot.key = g.key)
    (hrows : w.buffer.rows = w.lines.map (g.row g.snapshot.id)) {winner : Snapshot}
    (hwinner : g.placed? m.snapshots = some winner) :
    Sound
      { store := m.store.committing w.buffer, pending := before ++ after
        committed := m.committed ++ [w] } := by
  have hasked : m.store.tables.snapshot? g.snapshot.deviceId g.snapshot.key = some winner := by
    rw [hdevice, hkey]
    exact hwinner
  have hsame : m.snapshots ++ [] = m.snapshots := List.append_nil _
  refine h.of_placed hsplit [] (w.lines.map (g.row winner.id)) (List.nil_sublist _)
    ?_ ?_ ?_ ?_ ?_ rfl
  · rw [hsame]
    exact h.unique
  · rw [hsame]
    exact .inr ⟨g, winner, hgrant, hwinner⟩
  · simp only [rowsIn, hsame, hgrant, hwinner]
  · simp only [Store.committing, Store.placeSnapshot, hfresh, hasked, hsame]
    rfl
  · simp [Store.committing, Store.placeSnapshot, hfresh, hasked, hrows, Grant.row]

end Fresh

lemma of_committed (h : m.Sound) {before after : List Writer} {w : Writer}
    (hsplit : m.pending = before ++ w :: after) :
    Sound
      { store := m.store.committing w.buffer, pending := before ++ after
        committed := m.committed ++ [w] } := by
  have hw : w ∈ m.pending := by simp [hsplit]
  have hnothing : m.snapshots = m.snapshots ++ [] := (List.append_nil _).symm
  have hunique : ((m.snapshots ++ []).map Snapshot.subject).Nodup := hnothing ▸ h.unique
  cases h.agrees w hw with
  | unasked =>
      exact h.of_placed hsplit [] [] (List.nil_sublist _) hunique (.inl ⟨rfl, rfl⟩) rfl hnothing rfl
        rfl
  | @stored g lines rows touched hmem hdevice hkey hrows =>
      have hplaced := Grant.placed?_of_mem h.unique hmem hdevice hkey
      rw [hnothing] at hplaced
      refine h.of_placed hsplit [] rows (List.nil_sublist _) hunique (.inr ⟨g, _, rfl, hplaced⟩) ?_
        hnothing rfl rfl
      simp only [rowsIn, hplaced, hrows]
  | @fresh g lines rows touched hdevice hkey hrows =>
      rcases hplaced : g.placed? m.snapshots with _ | winner
      · exact h.of_first hsplit rfl rfl hdevice hkey hrows hplaced
      · exact h.of_overtaken hsplit rfl rfl hdevice hkey hrows hplaced

/-- A move keeps the invariant. -/
lemma of_does (h : m.Sound) (hdoes : m.Does next) : next.Sound := by
  cases hdoes with
  | idle => exact h
  | opened => exact h.of_opened
  | @joined before w after deviceId key snapshot hsplit hgrant hknown =>
      have hw : w ∈ m.pending := by simp [hsplit]
      refine h.of_replaced hsplit rfl ?_
      obtain ⟨hmem, hdevice, hkey⟩ := Grant.placed?_eq_some (g := ⟨deviceId, key, snapshot⟩) hknown
      cases h.agrees w hw with
      | unasked => exact .stored hmem hdevice hkey rfl
      | fresh | stored => cases hgrant
  | drew hsplit hgrant _ hid => exact h.of_drew hsplit hgrant hid
  | @wrote before w after g line hsplit hgrant =>
      have hw : w ∈ m.pending := by simp [hsplit]
      refine h.of_replaced hsplit rfl ?_
      cases h.agrees w hw with
      | unasked => cases hgrant
      | fresh hdevice hkey hrows =>
          cases hgrant
          exact .fresh hdevice hkey (by simp [hrows])
      | stored hmem hdevice hkey hrows =>
          cases hgrant
          exact .stored hmem hdevice hkey (by simp [hrows])
  | @touched before w after seen hsplit =>
      have hw : w ∈ m.pending := by simp [hsplit]
      refine h.of_replaced hsplit rfl ?_
      cases h.agrees w hw with
      | unasked => exact .unasked
      | fresh hdevice hkey hrows => exact .fresh hdevice hkey hrows
      | stored hmem hdevice hkey hrows => exact .stored hmem hdevice hkey hrows
  | committed hsplit => exact h.of_committed hsplit
  | left hsplit => exact h.of_left hsplit
  | kept hkeeps => exact h.of_kept hkeeps

end Sound

/-- A session in which nothing has happened. -/
lemma sound_empty : Sound {} :=
  ⟨List.nodup_nil, List.nodup_nil, by simp [drawn, snapshots], by simp, by simp, rfl⟩

lemma Sound.step {m : Session} (h : m.Sound) (move : Move) : (m.step move).Sound :=
  h.of_does (m.step_does h.unasked move)

/-- **Soundness.**  Every run keeps the invariant. -/
lemma Sound.run {m : Session} (h : m.Sound) (moves : List Move) : (m.run moves).Sound := by
  induction moves generalizing m with
  | nil => exact h
  | cons move moves ih => exact ih (h.step move)

lemma snapshots_prefix_committing (s : Store) (tx : Transaction) :
    s.tables.snapshots <+: (s.committing tx).tables.snapshots := by
  rw [Store.committing, Store.placeSnapshot]
  rcases tx.newSnapshot with _ | n
  · exact List.prefix_rfl
  · rcases hknown : s.tables.snapshot? n.deviceId n.key with _ | winner
    · simp only [hknown]
      exact List.prefix_append ..
    · simp only [hknown]
      exact List.prefix_rfl

/-- A move takes no snapshot away, and changes none. -/
lemma Sound.snapshots_prefix_step {m : Session} (h : m.Sound) (move : Move) :
    m.snapshots <+: (m.step move).snapshots := by
  have hdoes := m.step_does h.unasked move
  generalize m.step move = next at hdoes
  cases hdoes with
  | idle | opened | joined | drew | wrote | touched | left => exact List.prefix_rfl
  | committed => exact snapshots_prefix_committing ..
  | kept hkeeps =>
      rw [snapshots, snapshots, hkeeps.snapshots]

lemma Sound.snapshots_prefix_run {m : Session} (h : m.Sound) (moves : List Move) :
    m.snapshots <+: (m.run moves).snapshots := by
  induction moves generalizing m with
  | nil => exact List.prefix_rfl
  | cons move moves ih => exact (h.snapshots_prefix_step move).trans (ih (h.step move))

/-- The call is up, and the device that the transaction has touched, if any, is registered. -/
def MayCommit (m : Session) (w : Writer) : Prop :=
  m.store.faults .commit = false ∧
    ∀ id seenAt, w.buffer.touched = some (id, seenAt) →
      (m.store.tables.device? id).isSome = true

/-- A commit that may not succeed only ends its transaction. -/
lemma step_commit {m : Session} {place : ℕ} {w : Writer} (hw : m.pending[place]? = some w) :
    (m.MayCommit w → (m.step (.commit place)).committed = m.committed ++ [w]) ∧
      (¬ m.MayCommit w → (m.step (.commit place)).committed = m.committed ∧
        (m.step (.commit place)).store = m.store) := by
  rcases hcommit : m.store.commit w.buffer with e | s
  · have hnext : m.step (.commit place) = { m with pending := m.replacing place [] } := by
      simp only [step, hw, hcommit]
    rw [hnext]
    refine ⟨fun hmay => ?_, fun _ => ⟨rfl, rfl⟩⟩
    obtain ⟨hup, hregistered⟩ := hmay
    rw [Store.commit_eq_ok_iff.2 ⟨hup, hregistered, rfl⟩] at hcommit
    cases hcommit
  · have hnext : (m.step (.commit place)).committed = m.committed ++ [w] := by
      simp only [step, hw, hcommit]
    obtain ⟨hup, hregistered, -⟩ := Store.commit_eq_ok_iff.1 hcommit
    exact ⟨fun _ => hnext, fun hrefused => absurd ⟨hup, hregistered⟩ hrefused⟩

/-- **Snapshots stay unique, and readings never dangle.**  However many transactions are open at the
same time and however they take turns, no two snapshots are of the same device and key or have the
same id, and a stored snapshot is never changed or taken away.  A transaction that has been
committed either never asked for a snapshot and wrote nothing, or its rows stand under the stored
snapshot of the device and the key that it asked for; and the stored readings are the rows of these
transactions, in the order of the commits.  A commit succeeds when the call is up and the device
that was touched is registered; one that does not succeed leaves the store as it was. -/
theorem run_placed (moves : List Move) :
    let m := run {} moves
    let t := m.store.tables
    (t.snapshots.map Snapshot.subject).Nodup ∧ (t.snapshots.map (·.id)).Nodup ∧
    (∀ before, before <+: moves → (run {} before).store.tables.snapshots <+: t.snapshots) ∧
    (∀ w ∈ m.committed, (w.grant = none ∧ w.lines = []) ∨
      ∃ g, ∃ n ∈ t.snapshots, w.grant = some g ∧ n.deviceId = g.deviceId ∧ n.key = g.key ∧
        w.rowsIn t.snapshots = w.lines.map (g.row n.id)) ∧
    t.readings = m.committed.flatMap (rowsIn t.snapshots) ∧
    ∀ place w, m.pending[place]? = some w →
      (m.MayCommit w → (m.step (.commit place)).committed = m.committed ++ [w]) ∧
        (¬ m.MayCommit w → (m.step (.commit place)).committed = m.committed ∧
          (m.step (.commit place)).store = m.store) := by
  intro m t
  have hsound : m.Sound := sound_empty.run moves
  refine ⟨hsound.unique, ?_, ?_, ?_, hsound.readings, fun place w hw => step_commit hw⟩
  · have hdistinct := hsound.distinct
    rw [drawn, List.map_append] at hdistinct
    exact hdistinct.of_append_left
  · rintro before ⟨rest, rfl⟩
    have hlater := (sound_empty.run before).snapshots_prefix_run rest
    rw [← run_append] at hlater
    exact hlater
  · intro w hw
    rcases hsound.placed w hw with hnothing | ⟨g, n, hgrant, hplaced⟩
    · exact .inl hnothing
    · obtain ⟨hmem, hdevice, hkey⟩ := Grant.placed?_eq_some hplaced
      refine .inr ⟨g, n, hmem, hgrant, hdevice, hkey, ?_⟩
      have hplaced' : g.placed? t.snapshots = some n := hplaced
      simp only [rowsIn, hgrant, hplaced']

/-- Two writers ask for the same snapshot before either commits, and the one that asked second is
the first to commit. -/
def overtaking : List Move :=
  let capturedAt : Timestamp := ⟨1767225600, 0⟩
  let reading : Reading :=
    { metric := "humidity", unit := none, value := .zero, avg := .zero, min := .zero, max := .zero
      stddev := .zero, slope := .zero, sampleCount := 1 }
  [.begin, .begin, .ask 0 7 "k" capturedAt, .ask 1 7 "k" capturedAt, .write 0 ("slow", reading),
    .write 1 ("fast", reading), .commit 1, .commit 0]

/-- The rows of the writer that is slower move to the snapshot of the other. -/
theorem run_placed_overtaken :
    let m := run {} overtaking
    let t := m.store.tables
    t.snapshots = [⟨2, 7, "k", ⟨1767225600, 0⟩⟩] ∧
      t.readings.map (fun row => (row.instanceName, row.snapshotId)) =
        [("fast", 2), ("slow", 2)] ∧
      m.committed.length = 2 ∧ t.readings = m.committed.flatMap (rowsIn t.snapshots) :=
  ⟨by cbv, by cbv, by cbv, (run_placed overtaking).2.2.2.2.1⟩

end Session

end Writer

end DeviceGate
