import DeviceGate.Proofs.Audit.Trail
import DeviceGate.Proofs.Batch.Session

/-!
The rows of the ledger agree with what has happened, whoever called what in which order and
whichever store calls failed on the way.  The count of a row is the number of its increments; its
status is settled by one conditional update at most, and that update has emitted the one event of
it.

* `Ledger.Tallied`, `Ledger.Kept`: a row agrees with what has happened.
* `Ledger.Becomes`: what may become of a row.
* `Ledger.Session.Sound`: the invariant; `Ledger.Session.Sound.step`: a move keeps it.
* `Ledger.Session.run_kept`: what holds of every run.
-/

namespace DeviceGate

/-- The event is of that kind and about that batch. -/
def AuditEvent.isAbout (kind : AuditKind) (id : String) (e : AuditEvent) : Bool :=
  e.kind = kind && e.details.lookup "batch_id" = some id

lemma AuditEvent.isAbout_completedEvent (kind : AuditKind) (id : String) (row : BatchRow)
    (target : String) :
    (Batch.completedEvent row target).isAbout kind id =
      (decide (AuditKind.batchCompleted = kind) && decide (target = id)) := by
  simp [AuditEvent.isAbout, Batch.completedEvent, AuditEvent.of, AuditEvent.byActor,
    AuditEvent.detail, AuditEvent.lookup_putDetail]

lemma AuditEvent.isAbout_failedEvent (kind : AuditKind) (id : String) (row : BatchRow)
    (target reason : String) :
    (Batch.failedEvent row target reason).isAbout kind id =
      (decide (AuditKind.batchFailed = kind) && decide (target = id)) := by
  simp [AuditEvent.isAbout, Batch.failedEvent, AuditEvent.of, AuditEvent.byActor,
    AuditEvent.graded, AuditEvent.detail, AuditEvent.lookup_putDetail]

/-- The event of a purge question settles nothing. -/
lemma AuditEvent.kind_purgeEvent (row : BatchRow) (id : String) (granted : Bool) :
    (Batch.purgeEvent row id granted).kind = .purgePermissionGranted ∨
      (Batch.purgeEvent row id granted).kind = .purgePermissionDenied := by
  cases granted with
  | true => exact .inl rfl
  | false => exact .inr rfl

namespace Ledger

/-! ### What has happened to a row -/

/-- How often events of that kind and about that batch were emitted. -/
def Session.reported (m : Session) (kind : AuditKind) (id : String) : ℕ :=
  m.events.countP (AuditEvent.isAbout kind id)

/-- The stage belongs to a call that has counted an item of the batch, and has yet to find out
whether it was the last one. -/
def Stage.Carries (id : String) : Stage → Prop
  | inspect id' | complete _ id' => id' = id
  | _ => False

lemma Stage.Carries.subject {id : String} {stage : Stage} (h : stage.Carries id) :
    stage.subject = id := by
  cases stage with
  | inspect | complete => exact h
  | _ => exact h.elim

/-- A row agrees with what the store calls have done to it. -/
structure Tallied (effects : List Effect) (row : BatchRow) : Prop where
  total_pos : 0 < row.total
  processed_eq : row.processed = effects.count (.counted row.batchId)
  status_cases : row.status = .processing ∨ row.status = .completed ∨ row.status = .failed
  total_le : row.status = .completed → row.total ≤ row.processed
  completedAt_iff : row.completedAt.isSome = true ↔ row.status.isTerminal = true
  completed_eq : effects.count (.completed row.batchId) = if row.status = .completed then 1 else 0
  failed_eq : effects.count (.failed row.batchId) = if row.status = .failed then 1 else 0

/-- A row agrees with what has happened in a session: also the events tell what it is, and it is
open only as long as items are missing, unless a store call about it has failed or a call that has
counted an item of it is still under way. -/
structure Kept (m : Session) (row : BatchRow) : Prop extends Tallied m.effects row where
  completions : m.reported .batchCompleted row.batchId = if row.status = .completed then 1 else 0
  failures : m.reported .batchFailed row.batchId = if row.status = .failed then 1 else 0
  processed_lt : .refused row.batchId ∉ m.effects →
    (∀ stage ∈ m.pending, ¬ stage.Carries row.batchId) →
    row.status = .processing → row.processed < row.total

/-- What may become of a row: its count grows, and its status is settled once. -/
structure Becomes (row row' : BatchRow) : Prop where
  batchId : row'.batchId = row.batchId
  total : row'.total = row.total
  processed : row.processed ≤ row'.processed
  status : row'.status = row.status ∨
    row.status = .processing ∧ (row'.status = .completed ∨ row'.status = .failed)

/-- Nothing has happened to a batch. -/
structure Unheard (effects : List Effect) (id : String) : Prop where
  counted : effects.count (.counted id) = 0
  completed : effects.count (.completed id) = 0
  failed : effects.count (.failed id) = 0

/-- A row as it is when its batch is opened. -/
structure IsFresh (row : BatchRow) : Prop where
  total_pos : 0 < row.total
  processed : row.processed = 0
  status : row.status = .processing
  completedAt : row.completedAt = none

/-- What stands under an id agrees with what has happened to it. -/
def Agrees (effects : List Effect) (id : String) : Option BatchRow → Prop
  | none => Unheard effects id
  | some row => row.batchId = id ∧ Tallied effects row

lemma Becomes.refl (row : BatchRow) : Becomes row row :=
  ⟨rfl, rfl, le_rfl, .inl rfl⟩

lemma Becomes.trans {a b c : BatchRow} (h : Becomes a b) (h' : Becomes b c) : Becomes a c := by
  refine ⟨h'.batchId.trans h.batchId, h'.total.trans h.total, h.processed.trans h'.processed, ?_⟩
  rcases h.status with heq | ⟨hopen, hsettled⟩
  · rw [← heq]
    exact h'.status
  · rcases h'.status with heq | ⟨hopen', -⟩
    · exact .inr ⟨hopen, heq ▸ hsettled⟩
    · rw [hopen'] at hsettled
      simp at hsettled

/-! ### The rows behind a store call -/

lemma batchId_of_batch? {t : Tables} {id : String} {row : BatchRow} (h : t.batch? id = some row) :
    row.batchId = id := by
  simpa using List.find?_some h

/-- Of a changed row, and of no other, something else is found. -/
lemma batch?_changeBatch (s : Store) (id : String) {f : BatchRow → BatchRow}
    (hf : ∀ row, (f row).batchId = row.batchId) (other : String) :
    (s.changeBatch id f).tables.batch? other =
      if other = id then (s.tables.batch? other).map f else s.tables.batch? other := by
  simp only [Store.changeBatch, Tables.batch?, Tables.updateBatch, List.find?_map]
  have hsame : (fun b : BatchRow => decide (b.batchId = other)) ∘
      (fun b => if b.batchId = id then f b else b) = fun b => decide (b.batchId = other) := by
    funext b
    by_cases hb : b.batchId = id <;> simp [hb, hf]
  rw [hsame]
  cases hfound : s.tables.batches.find? fun b => decide (b.batchId = other) with
  | none => simp
  | some row =>
      have hid : row.batchId = other := by simpa using List.find?_some hfound
      by_cases heq : other = id <;> simp [hid, heq]

/-- A new row is found, and no other. -/
lemma batch?_append (t : Tables) (row : BatchRow) (h : t.batch? row.batchId = none)
    (id : String) :
    ({ t with batches := t.batches ++ [row] } : Tables).batch? id =
      if id = row.batchId then some row else t.batch? id := by
  rw [Tables.batch?] at h
  by_cases heq : id = row.batchId
  · subst heq
    simp [Tables.batch?, List.find?_append, h]
  · simp [Tables.batch?, List.find?_append, heq, eq_comm]

lemma map_batchId_changeBatch (s : Store) (id : String) {f : BatchRow → BatchRow}
    (hf : ∀ row, (f row).batchId = row.batchId) :
    (s.changeBatch id f).tables.batches.map (·.batchId) = s.tables.batches.map (·.batchId) := by
  simp only [Store.changeBatch, Tables.updateBatch, List.map_map]
  refine List.map_congr_left fun row _ => ?_
  by_cases hrow : row.batchId = id <;> simp [hrow, hf]

/-- Where no two rows have one id, every row is found under its own. -/
lemma batch?_of_mem {t : Tables} (h : (t.batches.map (·.batchId)).Nodup) {row : BatchRow}
    (hrow : row ∈ t.batches) : t.batch? row.batchId = some row := by
  obtain ⟨found, hfound⟩ : ∃ found, t.batch? row.batchId = some found := by
    rw [← Option.isSome_iff_exists, Tables.batch?, List.find?_isSome]
    exact ⟨row, hrow, by simp⟩
  rw [hfound, List.inj_on_of_nodup_map h (List.mem_of_find?_eq_some hfound) hrow
    (batchId_of_batch? hfound)]

/-! ### One store call -/

lemma count_append_of_ne {effects : List Effect} {e e' : Effect} (h : e ≠ e') :
    (effects ++ [e]).count e' = effects.count e' := by
  simp [List.count_append, h]

lemma count_append_self (effects : List Effect) (e : Effect) :
    (effects ++ [e]).count e = effects.count e + 1 := by
  simp [List.count_append]

section Does

variable {effects : List Effect} {id : String} {s : Store} {now : Timestamp} {stage : Stage}
  {o : Outcome} {events : List AuditEvent}

/-- What neither counts on a batch nor settles it leaves it as it was. -/
lemma Agrees.append {found : Option BatchRow} {e : Effect} (h : Agrees effects id found)
    (hcounted : e ≠ .counted id) (hcompleted : e ≠ .completed id) (hfailed : e ≠ .failed id) :
    Agrees (effects ++ [e]) id found := by
  cases found with
  | none =>
      obtain ⟨hc, hd, hf⟩ := h
      exact ⟨by rwa [count_append_of_ne hcounted], by rwa [count_append_of_ne hcompleted],
        by rwa [count_append_of_ne hfailed]⟩
  | some row =>
      obtain ⟨rfl, htotal, hprocessed, hcases, hle, hat, hd, hf⟩ := h
      exact ⟨rfl, htotal, by rwa [count_append_of_ne hcounted], hcases, hle, hat,
        by rwa [count_append_of_ne hcompleted], by rwa [count_append_of_ne hfailed]⟩

/-- A fresh row agrees with that nothing has happened. -/
lemma Unheard.tallied {row : BatchRow} (h : Unheard effects row.batchId) (hrow : IsFresh row) :
    Tallied effects row := by
  obtain ⟨hc, hd, hf⟩ := h
  obtain ⟨htotal, hprocessed, hstatus, hat⟩ := hrow
  exact ⟨htotal, by rw [hprocessed, hc], .inl hstatus, by simp [hstatus],
    by simp [hat, hstatus, BatchStatus.isTerminal], by simp [hd, hstatus], by simp [hf, hstatus]⟩

lemma Tallied.status_of_open {row : BatchRow} (h : Tallied effects row)
    (hopen : row.status.isTerminal = false) : row.status = .processing := by
  rcases h.status_cases with hstatus | hstatus | hstatus
  · exact hstatus
  · simp [hstatus, BatchStatus.isTerminal] at hopen
  · simp [hstatus, BatchStatus.isTerminal] at hopen

/-- The count of a row and the number of its increments grow together. -/
lemma Tallied.count {row : BatchRow} (h : Tallied effects row) :
    Tallied (effects ++ [.counted row.batchId]) (countOn row) := by
  obtain ⟨htotal, hprocessed, hcases, hle, hat, hd, hf⟩ := h
  refine ⟨htotal, ?_, hcases, fun hstatus => (hle hstatus).trans (Nat.le_succ _), hat, ?_, ?_⟩
  · rw [countOn_batchId, count_append_self, ← hprocessed, countOn_processed]
  · rwa [count_append_of_ne (by simp)]
  · rwa [count_append_of_ne (by simp)]

/-- The update that completes a due row is the first to settle it. -/
lemma Tallied.complete {row : BatchRow} (h : Tallied effects row) (hdue : Due row)
    (now : Timestamp) :
    Tallied (effects ++ [.completed row.batchId]) (settle .completed now row) := by
  have hstatus := h.status_of_open hdue.1
  obtain ⟨htotal, hprocessed, -, -, -, hd, hf⟩ := h
  refine ⟨htotal, ?_, .inr (.inl rfl), fun _ => hdue.2, ?_, ?_, ?_⟩
  · rwa [count_append_of_ne (by simp)]
  · simp [BatchStatus.isTerminal]
  · simp [hd, hstatus]
  · simp [hf, hstatus]

/-- The update that fails an open row is the first to settle it. -/
lemma Tallied.fail {row : BatchRow} (h : Tallied effects row)
    (hopen : row.status.isTerminal = false) (now : Timestamp) :
    Tallied (effects ++ [.failed row.batchId]) (settle .failed now row) := by
  have hstatus := h.status_of_open hopen
  obtain ⟨htotal, hprocessed, -, -, -, hd, hf⟩ := h
  refine ⟨htotal, ?_, .inr (.inr rfl), by simp, ?_, ?_, ?_⟩
  · rwa [count_append_of_ne (by simp)]
  · simp [BatchStatus.isTerminal]
  · simp [hd, hstatus]
  · simp [hf, hstatus]

/-- A change of one row, and what has happened to it, leave each row in agreement. -/
lemma agrees_changeBatch {target : String} {f : BatchRow → BatchRow} {e : Effect} {row : BatchRow}
    (hf : ∀ row, (f row).batchId = row.batchId) (hrow : s.tables.batch? target = some row)
    (hagrees : Agrees effects id (s.tables.batch? id))
    (hother : id ≠ target → e ≠ .counted id ∧ e ≠ .completed id ∧ e ≠ .failed id)
    (hchange : Tallied effects row → Tallied (effects ++ [e]) (f row)) :
    Agrees (effects ++ [e]) id ((s.changeBatch target f).tables.batch? id) := by
  rw [batch?_changeBatch s target hf]
  split
  · rename_i heq
    subst heq
    rw [hrow] at hagrees ⊢
    exact ⟨(hf row).trans hagrees.1, hchange hagrees.2⟩
  · rename_i hne
    obtain ⟨hcounted, hcompleted, hfailed⟩ := hother hne
    exact hagrees.append hcounted hcompleted hfailed

/-- A store call leaves each row in agreement with what has happened. -/
lemma Stage.Does.agrees (h : stage.Does s now o events)
    (hfresh : s.tables.batch? id = none → ∀ row, stage = .insert row → IsFresh row)
    (hagrees : Agrees effects id (s.tables.batch? id)) :
    Agrees (effects ++ [o.effect]) id (o.store.tables.batch? id) := by
  cases h with
  | @opens row hnew =>
      rw [batch?_append s.tables row hnew]
      split
      · rename_i heq
        subst heq
        have hunheard := hagrees.append (e := .opened row.batchId) (by simp) (by simp) (by simp)
        rw [hnew] at hunheard
        exact ⟨rfl, Unheard.tallied hunheard (hfresh hnew row rfl)⟩
      · exact hagrees.append (by simp) (by simp) (by simp)
  | @counts target row hrow =>
      obtain rfl := batchId_of_batch? hrow
      exact agrees_changeBatch (f := countOn)
        (s := { s with overrun := s.overrun || decide (Store.greatestCount ≤ row.processed) })
        countOn_batchId hrow hagrees (fun hne => ⟨by simpa using hne.symm, by simp, by simp⟩)
        (fun htallied => htallied.count)
  | @completes seen row target hrow hdue =>
      obtain rfl := batchId_of_batch? hrow
      exact agrees_changeBatch (settle_batchId .completed now) hrow hagrees
        (fun hne => ⟨by simp, by simpa using hne.symm, by simp⟩)
        (fun htallied => htallied.complete hdue now)
  | @fails seen row target reason a hrow hopen =>
      obtain rfl := batchId_of_batch? hrow
      exact agrees_changeBatch (settle_batchId .failed now) hrow hagrees
        (fun hne => ⟨by simp, by simp, by simpa using hne.symm⟩)
        (fun htallied => htallied.fail hopen now)
  | _ => exact hagrees.append (by simp) (by simp) (by simp)

lemma exists_becomes_changeBatch {target : String} {f : BatchRow → BatchRow} {row : BatchRow}
    (hf : ∀ row, (f row).batchId = row.batchId) (hrow : s.tables.batch? id = some row)
    (hchange : id = target → Becomes row (f row)) :
    ∃ row', (s.changeBatch target f).tables.batch? id = some row' ∧ Becomes row row' := by
  rw [batch?_changeBatch s target hf, hrow]
  split
  · rename_i heq
    exact ⟨f row, rfl, hchange heq⟩
  · exact ⟨row, rfl, .refl row⟩

/-- What becomes of a row in one store call. -/
lemma Stage.Does.becomes (h : stage.Does s now o events) {row : BatchRow}
    (hrow : s.tables.batch? id = some row) (htallied : Tallied effects row) :
    ∃ row', o.store.tables.batch? id = some row' ∧ Becomes row row' := by
  cases h with
  | @opens fresh hnew =>
      rw [batch?_append s.tables fresh hnew]
      split
      · rename_i heq
        rw [← heq, hrow] at hnew
        cases hnew
      · exact ⟨row, hrow, .refl row⟩
  | @counts target counted hcounted =>
      exact exists_becomes_changeBatch (f := countOn)
        (s := { s with overrun := s.overrun || decide (Store.greatestCount ≤ counted.processed) })
        countOn_batchId hrow (fun _ => ⟨rfl, rfl, Nat.le_succ _, .inl rfl⟩)
  | @completes seen due target hdue hisdue =>
      refine exists_becomes_changeBatch (settle_batchId .completed now) hrow
        (fun heq => ⟨rfl, rfl, le_rfl, .inr ⟨?_, .inl rfl⟩⟩)
      rw [← heq, hrow] at hdue
      cases hdue
      exact htallied.status_of_open hisdue.1
  | @fails seen found target reason a hfound hopen =>
      refine exists_becomes_changeBatch (settle_batchId .failed now) hrow
        (fun heq => ⟨rfl, rfl, le_rfl, .inr ⟨?_, .inr rfl⟩⟩)
      rw [← heq, hrow] at hfound
      cases hfound
      exact htallied.status_of_open hopen
  | _ => exact ⟨row, hrow, .refl row⟩

/-- No store call gives two rows one id. -/
lemma Stage.Does.nodup (h : stage.Does s now o events)
    (hnodup : (s.tables.batches.map (·.batchId)).Nodup) :
    (o.store.tables.batches.map (·.batchId)).Nodup := by
  cases h with
  | @opens row hnew =>
      have hfresh : row.batchId ∉ s.tables.batches.map (·.batchId) := by
        intro hmem
        obtain ⟨other, hother, heq⟩ := List.mem_map.1 hmem
        have hfound := batch?_of_mem hnodup hother
        rw [heq, hnew] at hfound
        cases hfound
      simpa [List.nodup_append] using ⟨hnodup, by simpa using hfresh⟩
  | counts => rwa [map_batchId_changeBatch _ _ countOn_batchId]
  | completes => rwa [map_batchId_changeBatch _ _ (settle_batchId .completed now)]
  | fails => rwa [map_batchId_changeBatch _ _ (settle_batchId .failed now)]
  | _ => exact hnodup

/-- A settlement and nothing else emits the event of it. -/
lemma Stage.Does.countP_isAbout (h : stage.Does s now o events) (id : String) :
    events.countP (AuditEvent.isAbout .batchCompleted id) = [o.effect].count (.completed id) ∧
      events.countP (AuditEvent.isAbout .batchFailed id) = [o.effect].count (.failed id) := by
  cases h with
  | completes =>
      simp [List.countP_singleton, List.count_singleton, AuditEvent.isAbout_completedEvent]
  | fails => simp [List.countP_singleton, List.count_singleton, AuditEvent.isAbout_failedEvent]
  | @consults target row a hrow =>
      rcases AuditEvent.kind_purgeEvent row target (Batch.isPurgeable row) with hkind | hkind
      · simp [AuditEvent.isAbout, hkind]
      · simp [AuditEvent.isAbout, hkind]
  | _ => simp

/-- A count beyond the greatest one has been made so often. -/
lemma Stage.Does.overrun (h : stage.Does s now o events)
    (hagrees : ∀ id, Agrees effects id (s.tables.batch? id)) (hafter : o.store.overrun = true) :
    s.overrun = true ∨
      ∃ id, Store.greatestCount < (effects ++ [o.effect]).count (.counted id) := by
  cases h with
  | @counts target row hrow =>
      have hfound := hagrees target
      rw [hrow] at hfound
      obtain ⟨rfl, htallied⟩ := hfound
      have hcount : s.overrun = true ∨ Store.greatestCount ≤ row.processed := by
        simpa [Store.changeBatch] using hafter
      refine hcount.imp_right fun hle => ⟨row.batchId, ?_⟩
      rw [count_append_self, ← htallied.processed_eq]
      exact Nat.lt_succ_of_le hle
  | _ => exact .inl hafter

/-- A row that is due is none that has just been settled. -/
lemma Due.of_settle {row : BatchRow} {status : BatchStatus} {target : String} (hdue : Due row)
    (hterminal : status.isTerminal = true)
    (hrow : (s.changeBatch target (settle status now)).tables.batch? id = some row) :
    id ≠ target ∧ s.tables.batch? id = some row := by
  rw [batch?_changeBatch _ _ (settle_batchId status now)] at hrow
  split at hrow
  · obtain ⟨found, -, rfl⟩ := Option.map_eq_some_iff.1 hrow
    have hopen := hdue.1
    rw [settle_status, hterminal] at hopen
    cases hopen
  · rename_i hne
    exact ⟨hne, hrow⟩

/-- A row that is due is none that has been seen not to be. -/
lemma Due.ne_of_not_due {row found : BatchRow} {target : String} (hdue : Due row)
    (hrow : s.tables.batch? id = some row) (hfound : s.tables.batch? target = some found)
    (hnot : ¬ Due found) : target ≠ id := by
  rintro rfl
  rw [hrow] at hfound
  cases hfound
  exact hnot hdue

/-- A row that is due behind a store call was due before it, or the call that counted the last item
is the one that will find out. -/
lemma Stage.Does.carries (h : stage.Does s now o events) {row : BatchRow}
    (hfresh : s.tables.batch? id = none → ∀ row, stage = .insert row → IsFresh row)
    (hrow : o.store.tables.batch? id = some row) (hdue : Due row) :
    (∃ before, s.tables.batch? id = some before ∧ Due before ∧ ¬ stage.Carries id) ∨
      o.effect = .refused id ∨ ∃ stage' ∈ o.turn.stages, stage'.Carries id := by
  cases h with
  | @opens fresh hnew =>
      rw [batch?_append s.tables fresh hnew] at hrow
      split at hrow
      · rename_i heq
        cases hrow
        obtain ⟨htotal, hprocessed, -, -⟩ := hfresh (heq ▸ hnew) row rfl
        exact absurd (hprocessed ▸ hdue.2) htotal.not_ge
      · exact .inl ⟨row, hrow, hdue, not_false⟩
  | @counts target counted hcounted =>
      by_cases heq : target = id
      · exact .inr (.inr ⟨_, List.mem_singleton.2 rfl, heq⟩)
      · rw [batch?_changeBatch _ _ countOn_batchId, if_neg (Ne.symm heq)] at hrow
        exact .inl ⟨row, hrow, hdue, not_false⟩
  | @due target found hfound hisdue =>
      by_cases heq : target = id
      · exact .inr (.inr ⟨_, List.mem_singleton.2 rfl, heq⟩)
      · exact .inl ⟨row, hrow, hdue, heq⟩
  | @reports target found a hfound hnot =>
      exact .inl ⟨row, hrow, hdue, hdue.ne_of_not_due hrow hfound hnot⟩
  | @completes seen found target hfound hisdue =>
      obtain ⟨hne, hbefore⟩ := hdue.of_settle rfl hrow
      exact .inl ⟨row, hbefore, hdue, hne.symm⟩
  | @loses seen found target hfound hnot =>
      exact .inl ⟨row, hrow, hdue, hdue.ne_of_not_due hrow hfound hnot⟩
  | @fails seen found target reason a hfound hopen =>
      obtain ⟨-, hbefore⟩ := hdue.of_settle rfl hrow
      exact .inl ⟨row, hbefore, hdue, not_false⟩
  | @misses stage a hmissing =>
      refine .inl ⟨row, hrow, hdue, fun hcarries => ?_⟩
      rw [Stage.Carries.subject hcarries, hrow] at hmissing
      cases hmissing
  | @refuses stage a hdown =>
      by_cases hcarries : stage.Carries id
      · exact .inr (.inl (by rw [Stage.Carries.subject hcarries]))
      · exact .inl ⟨row, hrow, hdue, hcarries⟩
  | _ => exact .inl ⟨row, hrow, hdue, not_false⟩

/-- A due row is still with a call that will find out when one of the calls under way has asked the
store, unless one of them was refused. -/
lemma Stage.Does.carried (effects : List Effect) (h : stage.Does s now o events)
    (hfresh : s.tables.batch? id = none → ∀ row, stage = .insert row → IsFresh row)
    {before after : List Stage}
    (hcarried : ∀ row, s.tables.batch? id = some row → Due row →
      .refused id ∈ effects ∨ ∃ carrier ∈ before ++ stage :: after, carrier.Carries id)
    {row : BatchRow} (hrow : o.store.tables.batch? id = some row) (hdue : Due row) :
    .refused id ∈ effects ++ [o.effect] ∨
      ∃ carrier ∈ before ++ o.turn.stages ++ after, carrier.Carries id := by
  rcases h.carries hfresh hrow hdue with ⟨due, hfound, hisdue, hnot⟩ | hrefused |
    ⟨next, hnext, hcarries⟩
  · refine (hcarried due hfound hisdue).imp (List.mem_append_left _) ?_
    rintro ⟨carrier, hmem, hcarries⟩
    have hne : carrier ≠ stage := fun heq => hnot (heq ▸ hcarries)
    refine ⟨carrier, ?_, hcarries⟩
    simp only [List.mem_append, List.mem_cons] at hmem ⊢
    tauto
  · exact .inl (by simp [hrefused])
  · exact .inr ⟨next, by simp [hnext], hcarries⟩

/-- Behind a store call no call is about to open a batch. -/
lemma Stage.Does.insert_notMem (h : stage.Does s now o events) (row : BatchRow) :
    .insert row ∉ o.turn.stages := by
  cases h with
  | _ => simp [Turn.stages]

end Does

/-- A question about a purge that is answered is answered from the row. -/
lemma mayPurge_eq_ok {s : Store} {ctx : LogContext} {id : String} {granted : Bool}
    (h : (s.mayPurge ctx id).value = .ok granted) :
    ∃ row, s.tables.batch? id = some row ∧ granted = Batch.isPurgeable row := by
  rw [Store.mayPurge, fetchBatch_eq] at h
  cases hdown : s.faults .getBatch with
  | true => simp [hdown] at h
  | false =>
      cases hrow : s.tables.batch? id with
      | none => simp [hdown, hrow] at h
      | some row =>
          refine ⟨row, rfl, ?_⟩
          cases hgranted : Batch.isPurgeable row <;> simpa [hdown, hrow, hgranted] using h.symm

/-- A batch is purgeable once it is completed. -/
lemma Tallied.isPurgeable_eq {effects : List Effect} {row : BatchRow} (h : Tallied effects row) :
    Batch.isPurgeable row = decide (row.status = .completed) := by
  by_cases hstatus : row.status = .completed
  · simp [Batch.isPurgeable, hstatus, h.total_le hstatus]
  · simp [Batch.isPurgeable, hstatus]

/-! ### Runs -/

/-- The session agrees with what has happened in it. -/
structure Session.Sound (m : Session) : Prop where
  agrees : ∀ id, Agrees m.effects id (m.store.tables.batch? id)
  nodup : (m.store.tables.batches.map (·.batchId)).Nodup
  fresh : ∀ row, .insert row ∈ m.pending → IsFresh row
  completions : ∀ id, m.reported .batchCompleted id = m.effects.count (.completed id)
  failures : ∀ id, m.reported .batchFailed id = m.effects.count (.failed id)
  carried : ∀ id row, m.store.tables.batch? id = some row → Due row →
    .refused id ∈ m.effects ∨ ∃ stage ∈ m.pending, stage.Carries id
  overrun : m.store.overrun = true → ∃ id, Store.greatestCount < m.effects.count (.counted id)

/-- Nothing has happened, and there is no batch. -/
structure Session.IsNew (m : Session) : Prop where
  pending : m.pending = []
  events : m.events = []
  effects : m.effects = []
  batches : m.store.tables.batches = []
  overrun : m.store.overrun = false

namespace Session

variable {m : Session}

lemma IsNew.sound (h : m.IsNew) : m.Sound := by
  obtain ⟨hpending, hevents, heffects, hbatches, hoverrun⟩ := h
  have hnone : ∀ id, m.store.tables.batch? id = none := fun id => by simp [Tables.batch?, hbatches]
  constructor
  case agrees =>
    intro id
    rw [hnone, heffects]
    exact ⟨rfl, rfl, rfl⟩
  case nodup => simp [hbatches]
  case fresh => simp [hpending]
  case completions => simp [reported, hevents, heffects]
  case failures => simp [reported, hevents, heffects]
  case carried => simp [hnone]
  case overrun => simp [hoverrun]

/-- A batch that is about to be opened is new. -/
lemma isFresh_of_first {now : Timestamp} {call : Call} {row : BatchRow}
    (h : .insert row ∈ (call.first now).stages) : IsFresh row := by
  cases call with
  | openBatch randomBytes deviceId total =>
      rw [Call.first] at h
      split_ifs at h with hblank htotal
      · cases h
      · cases h
      · obtain rfl : row = _ := by simpa [Turn.stages] using h
        exact ⟨Nat.pos_of_ne_zero htotal, rfl, rfl, rfl⟩
  | _ => simp [Call.first, Turn.stages] at h

/-- A move leaves a sound session sound. -/
lemma Sound.step (h : m.Sound) (move : Move) : (m.step move).Sound := by
  cases move with
  | begin now call =>
      refine { h with fresh := fun row hrow => ?_, carried := fun id row hrow hdue => ?_ }
      · rcases List.mem_append.1 hrow with hold | hnew
        · exact h.fresh row hold
        · exact isFresh_of_first hnew
      · refine (h.carried id row hrow hdue).imp_right fun ⟨stage, hstage, hcarries⟩ => ?_
        exact ⟨stage, List.mem_append_left _ hstage, hcarries⟩
  | switch faults => exact { h with }
  | advance place ctx now =>
      rcases advance_cases m place ctx now with hidle | ⟨before, stage, after, o, events, hpending,
        hdoes, hstep⟩
      · rwa [hidle]
      have hstage : ∀ row, stage = .insert row → IsFresh row := fun row heq =>
        h.fresh row (by simp [hpending, heq])
      rw [hstep]
      constructor
      case agrees => exact fun id => hdoes.agrees (fun _ => hstage) (h.agrees id)
      case nodup => exact hdoes.nodup h.nodup
      case fresh =>
        intro row hrow
        refine h.fresh row ?_
        have hnext := hdoes.insert_notMem row
        simp only [List.mem_append] at hrow
        simp only [hpending, List.mem_append, List.mem_cons]
        tauto
      case completions =>
        intro id
        rw [reported, List.countP_append, List.count_append, (hdoes.countP_isAbout id).1]
        exact congrArg (· + _) (h.completions id)
      case failures =>
        intro id
        rw [reported, List.countP_append, List.count_append, (hdoes.countP_isAbout id).2]
        exact congrArg (· + _) (h.failures id)
      case carried =>
        intro id row hrow hdue
        exact hdoes.carried m.effects (fun _ => hstage) (hpending ▸ h.carried id) hrow hdue
      case overrun =>
        intro hafter
        rcases hdoes.overrun h.agrees hafter with hbefore | hcounted
        · obtain ⟨id, hid⟩ := h.overrun hbefore
          exact ⟨id, hid.trans_le (by simp)⟩
        · exact hcounted

lemma Sound.run (h : m.Sound) (moves : List Move) : (m.run moves).Sound :=
  run_induction h (fun _ move hm => hm.step move) moves

/-- What stands under an id in a sound session agrees with what has happened to it. -/
lemma Sound.tallied (h : m.Sound) {id : String} {row : BatchRow}
    (hrow : m.store.tables.batch? id = some row) : Tallied m.effects row := by
  have hfound := h.agrees id
  rw [hrow] at hfound
  exact hfound.2

/-- A row of a sound session agrees with what has happened in it. -/
lemma Sound.kept (h : m.Sound) {row : BatchRow} (hrow : row ∈ m.store.tables.batches) :
    Kept m row := by
  have hfound := batch?_of_mem h.nodup hrow
  have htallied := h.tallied hfound
  refine { htallied with completions := ?_, failures := ?_, processed_lt := ?_ }
  · rw [h.completions, htallied.completed_eq]
  · rw [h.failures, htallied.failed_eq]
  · intro hrefused hcarries hstatus
    by_contra hle
    have hdue : Due row := ⟨by rw [hstatus]; rfl, not_lt.1 hle⟩
    rcases h.carried _ _ hfound hdue with hmem | ⟨stage, hmem, hstage⟩
    · exact hrefused hmem
    · exact hcarries stage hmem hstage

/-- What becomes of a row in one move. -/
lemma Sound.becomes_step (h : m.Sound) (move : Move) {id : String} {row : BatchRow}
    (hrow : m.store.tables.batch? id = some row) :
    ∃ row', (m.step move).store.tables.batch? id = some row' ∧ Becomes row row' := by
  cases move with
  | begin now call => exact ⟨row, hrow, .refl row⟩
  | switch faults => exact ⟨row, hrow, .refl row⟩
  | advance place ctx now =>
      rcases advance_cases m place ctx now with hidle | ⟨before, stage, after, o, events, -,
        hdoes, hstep⟩
      · exact ⟨row, by rwa [hidle], .refl row⟩
      · rw [hstep]
        exact hdoes.becomes hrow (h.tallied hrow)

/-- What becomes of a row in a run. -/
lemma Sound.becomes_run (h : m.Sound) (moves : List Move) {id : String} {row : BatchRow}
    (hrow : m.store.tables.batch? id = some row) :
    ∃ row', (m.run moves).store.tables.batch? id = some row' ∧ Becomes row row' := by
  induction moves generalizing m row with
  | nil => exact ⟨row, hrow, .refl row⟩
  | cons move moves ih =>
      obtain ⟨next, hnext, hfirst⟩ := h.becomes_step move hrow
      obtain ⟨last, hlast, hrest⟩ := ih (h.step move) hnext
      exact ⟨last, hlast, hfirst.trans hrest⟩

/-- **The rows of the ledger agree with what has happened.**  In every run, whatever was called in
whatever order and whichever store calls failed when, each row is kept, and whatever happens next,
its count only grows, its total stays, and its status is settled once.  A question about a purge
that is answered is granted for the completed batches alone, and once granted it stays so.  A
count has overrun 64 bits only if so many items were counted.  What the ledger makes of calls one
after the other is such a run. -/
theorem run_kept {first : Session} (h : first.IsNew) (moves moves' : List Move) :
    let m := first.run moves
    let later := m.run moves'
    (m.store.tables.batches.map (·.batchId)).Nodup ∧
      (∀ row ∈ m.store.tables.batches,
        Kept m row ∧ ∃ row' ∈ later.store.tables.batches, Becomes row row') ∧
      (∀ ctx id granted, (m.store.mayPurge ctx id).value = .ok granted →
        (∃ row ∈ m.store.tables.batches,
          row.batchId = id ∧ (granted = true ↔ row.status = .completed)) ∧
        ∀ ctx' granted', granted = true → (later.store.mayPurge ctx' id).value = .ok granted' →
          granted' = true) ∧
      (m.store.overrun = true → ∃ id, Store.greatestCount < m.effects.count (.counted id)) ∧
      ∀ requests, moves' = requests.flatMap (Request.moves m.pending.length) →
        later.store = after m.store requests ∧
          later.events = m.events ++ emitted m.store requests ∧ later.pending = m.pending := by
  intro m later
  have hm : m.Sound := h.sound.run moves
  have hlater : later.Sound := hm.run moves'
  refine ⟨hm.nodup, fun row hrow => ⟨hm.kept hrow, ?_⟩, fun ctx id granted hgranted => ?_,
    hm.overrun, fun requests hmoves => ?_⟩
  · obtain ⟨row', hrow', hbecomes⟩ := hm.becomes_run moves' (batch?_of_mem hm.nodup hrow)
    exact ⟨row', List.mem_of_find?_eq_some hrow', hbecomes⟩
  · obtain ⟨row, hrow, rfl⟩ := mayPurge_eq_ok hgranted
    have hpurgeable := (hm.tallied hrow).isPurgeable_eq
    refine ⟨⟨row, List.mem_of_find?_eq_some hrow, batchId_of_batch? hrow, by simp [hpurgeable]⟩, ?_⟩
    intro ctx' granted' hcompleted hgranted'
    obtain ⟨row', hrow', rfl⟩ := mayPurge_eq_ok hgranted'
    obtain ⟨last, hlast, hbecomes⟩ := hm.becomes_run moves' hrow
    obtain rfl : row' = last := Option.some.inj (hrow'.symm.trans hlast)
    rw [hpurgeable, decide_eq_true_eq] at hcompleted
    rw [(hlater.tallied hrow').isPurgeable_eq, decide_eq_true_eq]
    rcases hbecomes.status with heq | ⟨hopen, -⟩
    · exact heq.trans hcompleted
    · rw [hcompleted] at hopen
      cases hopen
  · change (m.run moves').store = _ ∧ (m.run moves').events = _ ∧ (m.run moves').pending = _
    rw [hmoves]
    exact m.run_requests requests

/-- The one item of a batch is counted while the batch is being failed; the update that would fail
it is down, and the other one completes it. -/
def sampleMoves : List Move :=
  let ctx : LogContext := { request := "r-1" }
  let now : Timestamp := ⟨1767225600, 0⟩
  let id := Batch.idText [7]
  [.begin now (.openBatch [7] "D1" 1), .advance 0 ctx now,
   .begin now (.mark id), .begin now (.fail id "aborted"), .advance 0 ctx now, .advance 1 ctx now,
   .switch (Faults.none.switch .markFailed true), .advance 1 ctx now, .switch .none,
   .advance 0 ctx now, .advance 0 ctx now, .advance 0 ctx now]

theorem run_kept_sample :
    let m := Session.run { store := {} } sampleMoves
    ({ store := {} } : Session).IsNew ∧
      ∃ row ∈ m.store.tables.batches, row.status = .completed ∧ Kept m row := by
  have hnew : ({ store := {} } : Session).IsNew := ⟨rfl, rfl, rfl, rfl, rfl⟩
  have hrow : ∃ row ∈ (Session.run { store := {} } sampleMoves).store.tables.batches,
      row.status = .completed := by decide +kernel
  obtain ⟨row, hmem, hstatus⟩ := hrow
  exact ⟨hnew, row, hmem, hstatus, ((run_kept hnew sampleMoves []).2.1 row hmem).1⟩

end Session

end Ledger

end DeviceGate
