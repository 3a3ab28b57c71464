import DeviceGate.Proofs.Batch.Tally

/-!
What a failed count leaves behind.  The increment of a row and the question whether it is complete
are store calls of their own, without a transaction around them; so a count can fail in its
increment, and then nothing has happened, or behind it, and then the item stays counted.  A caller
who counts again after a failure of the second kind counts the item twice.  The error need not tell
the two kinds apart: it passes on what the store says of the call that is down.

* `Ledger.Marks`: everything that a count can answer and leave behind.
* `Ledger.error_marks_alike`: one error, with the item counted or not.
* `Ledger.Attempt`, `Ledger.attempts`: calls one after the other, with what each of them found.
* `Ledger.processedOf_after`: a row counts the calls that came past its increment.
* `Ledger.retry_counts`: what an error leaves behind, and how many calls a purge takes.
-/

namespace DeviceGate.Ledger

/-! ### One count -/

/-- The store behind the increment of a row. -/
def counted (s : Store) (row : BatchRow) : Store :=
  { s with overrun := s.overrun || decide (Store.greatestCount ≤ row.processed) }.changeBatch
    row.batchId countOn

/-- The increment of that batch is up and finds the row. -/
structure Increments (s : Store) (id : String) (row : BatchRow) : Prop where
  up : s.faults .incrementProcessed = false
  found : s.tables.batch? id = some row

/-- Everything that a count can answer and leave behind. -/
inductive Marks (s : Store) (now : Timestamp) (id : String) :
    Except LedgerError BatchProgress × Store → Prop where
  | refused : s.faults .incrementProcessed = true →
      Marks s now id (.error (.store (s.faults.error .incrementProcessed)), s)
  | unknown : s.tables.batch? id = none → Marks s now id (.error (.notFound id), s)
  | unseen {row : BatchRow} : Increments s id row → s.faults .getBatch = true →
      Marks s now id (.error (.store (s.faults.error .getBatch)), counted s row)
  | reported {row : BatchRow} : Increments s id row → s.faults .getBatch = false →
      ¬ Due (countOn row) → Marks s now id (.ok (.of (countOn row)), counted s row)
  | unsettled {row : BatchRow} : Increments s id row → s.faults .getBatch = false →
      Due (countOn row) → s.faults .markCompleted = true →
      Marks s now id (.error (.store (s.faults.error .markCompleted)), counted s row)
  | completed {row : BatchRow} : Increments s id row → s.faults .getBatch = false →
      Due (countOn row) →
      Marks s now id (.ok (.of (settle .completed now (countOn row))),
        (counted s row).changeBatch id (settle .completed now))

section Count

variable {s : Store} {id : String} {now : Timestamp} {row : BatchRow}

@[simp] lemma counted_faults (s : Store) (row : BatchRow) : (counted s row).faults = s.faults :=
  rfl

lemma batch?_counted (s : Store) (row : BatchRow) (id : String) :
    (counted s row).tables.batch? id =
      if id = row.batchId then (s.tables.batch? id).map countOn else s.tables.batch? id :=
  batch?_changeBatch _ _ countOn_batchId id

lemma countOn_ne (row : BatchRow) : countOn row ≠ row := fun h =>
  Nat.succ_ne_self row.processed (congrArg BatchRow.processed h)

/-- Behind the increment the row is found with one item more. -/
lemma batch?_counted_self (h : s.tables.batch? id = some row) :
    (counted s row).tables.batch? id = some (countOn row) := by
  rw [batch?_counted, if_pos (batchId_of_batch? h).symm, h]
  rfl

/-- The conditional update of a due row, and the look at it, are all that is left of the count. -/
lemma marks_completeBatch (ctx : LogContext) (h : Increments s id row) (hdue : Due (countOn row))
    (hup : s.faults .getBatch = false) :
    Marks s now id ((counted s row).completeBatch ctx now (countOn row) id).value := by
  have hrow := batch?_counted_self h.found
  have hopen : ¬ ((countOn row).status.isTerminal = true ∨
      (countOn row).processed < (countOn row).total) := fun hnot => not_due_iff.2 hnot hdue
  have hfetch : ((counted s row).changeBatch id (settle .completed now)).fetchBatch id =
      .ok (settle .completed now (countOn row)) := by
    have hfaults : ((counted s row).changeBatch id (settle .completed now)).faults = s.faults :=
      rfl
    rw [fetchBatch_eq, hfaults, hup, batch?_changeBatch _ _ (settle_batchId .completed now),
      if_pos rfl, hrow]
    rfl
  rw [Store.completeBatch, markCompleted_eq, counted_faults, hrow]
  cases hdown : s.faults .markCompleted with
  | true => exact .unsettled h hup hdue hdown
  | false =>
      simp only [Bool.false_eq_true, if_false, if_neg hopen, if_true, Noted.value_bind,
        Noted.value_pure, hfetch]
      exact .completed h hup hdue

/-- **One count.**  The ledger answers a count in one of these ways. -/
theorem marks_markProcessed (s : Store) (ctx : LogContext) (now : Timestamp) (id : String) :
    Marks s now id (s.markProcessed ctx now id).value := by
  rw [Store.markProcessed, incrementProcessed_eq]
  cases hdown : s.faults .incrementProcessed with
  | true => exact .refused hdown
  | false =>
      cases hrow : s.tables.batch? id with
      | none => exact .unknown hrow
      | some row =>
          have hincrement : Store.changeBatch { s with
              overrun := s.overrun || decide (Store.greatestCount ≤ row.processed) } id countOn =
              counted s row := by
            rw [← batchId_of_batch? hrow, counted]
          simp only [Bool.false_eq_true, if_false, hincrement]
          rw [fetchBatch_eq, counted_faults, batch?_counted_self hrow]
          cases hblind : s.faults .getBatch with
          | true => exact .unseen ⟨hdown, hrow⟩ hblind
          | false =>
              simp only [Bool.false_eq_true, if_false]
              split
              · rename_i hdone
                exact .reported ⟨hdown, hrow⟩ hblind (not_due_iff.2 hdone.symm)
              · rename_i hopen
                have hdue : Due (countOn row) :=
                  not_not.1 fun hnot => hopen (not_due_iff.1 hnot).symm
                exact marks_completeBatch ctx ⟨hdown, hrow⟩ hdue hblind

/-- The increment goes through exactly if it is up and finds the row. -/
lemma isOk_incrementProcessed_iff :
    (s.incrementProcessed id).isOk = true ↔ ∃ row, Increments s id row := by
  rw [incrementProcessed_eq]
  cases hdown : s.faults .incrementProcessed with
  | true =>
      refine iff_of_false (by simp [Except.isOk, Except.toBool]) fun ⟨row, hrow⟩ => ?_
      rw [hrow.up] at hdown
      cases hdown
  | false =>
      cases hrow : s.tables.batch? id with
      | none =>
          refine iff_of_false (by simp [Except.isOk, Except.toBool]) fun ⟨row, hfound⟩ => ?_
          cases hrow.symm.trans hfound.found
      | some row => exact iff_of_true rfl ⟨row, hdown, hrow⟩

lemma Increments.isOk (h : Increments s id row) : (s.incrementProcessed id).isOk = true :=
  isOk_incrementProcessed_iff.2 ⟨row, h⟩

/-- The increment fails because it is down, or because there is no such row. -/
lemma isOk_incrementProcessed_eq_false_iff :
    (s.incrementProcessed id).isOk = false ↔
      s.faults .incrementProcessed = true ∨ s.tables.batch? id = none := by
  rw [← Bool.not_eq_true, isOk_incrementProcessed_iff]
  constructor
  · intro hno
    by_contra hneither
    obtain ⟨hup, hfound⟩ := not_or.1 hneither
    obtain ⟨row, hrow⟩ := Option.ne_none_iff_exists'.1 hfound
    exact hno ⟨row, Bool.eq_false_iff.2 hup, hrow⟩
  · rintro (hdown | hnone) ⟨row, hrow⟩
    · rw [hrow.up] at hdown
      cases hdown
    · rw [hrow.found] at hnone
      cases hnone

/-- A count that fails has failed in its increment, when nothing has changed, or in a later call,
when its one row has one item more. -/
lemma Marks.error_cases {e : LedgerError} {last : Store} (h : Marks s now id (.error e, last)) :
    ((s.incrementProcessed id).isOk = false ∧ last = s) ∨
      ∃ row, Increments s id row ∧ last = counted s row ∧
        (s.faults .getBatch = true ∨ s.faults .markCompleted = true ∧ Due (countOn row)) := by
  cases h with
  | refused hdown => exact .inl ⟨isOk_incrementProcessed_eq_false_iff.2 (.inl hdown), rfl⟩
  | unknown hnone => exact .inl ⟨isOk_incrementProcessed_eq_false_iff.2 (.inr hnone), rfl⟩
  | unseen hrow hblind => exact .inr ⟨_, hrow, rfl, .inl hblind⟩
  | unsettled hrow _ hdue hdown => exact .inr ⟨_, hrow, rfl, .inr ⟨hdown, hdue⟩⟩

/-- A store of which one call is down, and that says the same of every call. -/
def failing (s : Store) (call : StoreCall) (text : String) : Store :=
  { s with faults := { down := fun c => c = call, why := fun _ => text } }

/-- **One error.**  Whether an item was counted cannot be told from the error: the store may say the
same when the increment is down and when the look at the row behind it is. -/
theorem error_marks_alike (ctx : LogContext) (now : Timestamp) (text : String)
    (hrow : s.tables.batch? id = some row) :
    ((failing s .incrementProcessed text).markProcessed ctx now id).value =
        (.error (.store (.unavailable text)), failing s .incrementProcessed text) ∧
      ((failing s .getBatch text).markProcessed ctx now id).value =
        (.error (.store (.unavailable text)), counted (failing s .getBatch text) row) := by
  have hincrement := marks_markProcessed (failing s .incrementProcessed text) ctx now id
  have hblind := marks_markProcessed (failing s .getBatch text) ctx now id
  constructor
  · generalize ((failing s .incrementProcessed text).markProcessed ctx now id).value = answer
      at hincrement ⊢
    cases hincrement with
    | refused _ => rfl
    | unknown hnone => cases hrow.symm.trans hnone
    | unseen hfound | reported hfound | unsettled hfound | completed hfound => cases hfound.up
  · generalize ((failing s .getBatch text).markProcessed ctx now id).value = answer at hblind ⊢
    cases hblind with
    | refused hdown => cases hdown
    | unknown hnone => cases hrow.symm.trans hnone
    | unseen hfound _ =>
        obtain rfl := Option.some.inj (hrow.symm.trans hfound.found)
        rfl
    | reported _ hseen | unsettled _ hseen | completed _ hseen => cases hseen

end Count

/-! ### Calls one after the other -/

/-- A call that was served: the store that it found, and what it was told. -/
structure Attempt where
  call : Call
  found : Store
  answer : Answer

/-- The attempt that a request makes. -/
def Request.attempt (q : Request) (s : Store) : Attempt where
  call := q.call
  found := q.found s
  answer := (q.served s).value.1

/-- The attempts of the requests, one after the other. -/
def attempts (s : Store) : List Request → List Attempt
  | [] => []
  | q :: rest => q.attempt s :: attempts (q.served s).value.2 rest

/-- The attempt is a count of that batch that succeeded, or failed behind its increment. -/
def Attempt.counts (id : String) (t : Attempt) : Bool :=
  match t.call, t.answer with
  | .mark id', .progress (.ok _) => id' = id
  | .mark id', .progress (.error _) => id' = id && (t.found.incrementProcessed id').isOk
  | _, _ => false

/-- How many items of a batch are counted. -/
def processedOf (s : Store) (id : String) : ℕ :=
  ((s.tables.batch? id).map (·.processed)).getD 0

section Calls

variable {s : Store} {id : String} {now : Timestamp} {row : BatchRow}

/-- What does not count leaves the counts of all rows. -/
lemma processedOf_changeBatch (s : Store) (target id : String) {f : BatchRow → BatchRow}
    (hid : ∀ row, (f row).batchId = row.batchId)
    (hcount : ∀ row, (f row).processed = row.processed) :
    processedOf (s.changeBatch target f) id = processedOf s id := by
  rw [processedOf, batch?_changeBatch s target hid, processedOf]
  split
  · have hsame : (fun row : BatchRow => row.processed) ∘ f = (·.processed) := funext hcount
    rw [Option.map_map, hsame]
  · rfl

lemma processedOf_counted (h : Increments s target row) (id : String) :
    processedOf (counted s row) id = processedOf s id + if target = id then 1 else 0 := by
  rw [processedOf, batch?_counted, batchId_of_batch? h.found, processedOf]
  by_cases heq : id = target
  · subst heq
    simp [h.found]
  · simp [heq, Ne.symm heq]

/-- A count counts if its increment goes through. -/
lemma Marks.processedOf_eq {target : String} {answer : Except LedgerError BatchProgress × Store}
    (h : Marks s now target answer) (id : String) :
    processedOf answer.2 id = processedOf s id +
      if Attempt.counts id ⟨.mark target, s, .progress answer.1⟩ then 1 else 0 := by
  cases h with
  | refused hdown =>
      simp [Attempt.counts, isOk_incrementProcessed_eq_false_iff.2 (.inl hdown)]
  | unknown hnone =>
      simp [Attempt.counts, isOk_incrementProcessed_eq_false_iff.2 (.inr hnone)]
  | unseen hrow | unsettled hrow =>
      rw [processedOf_counted hrow]
      simp [Attempt.counts, hrow.isOk]
  | reported hrow =>
      rw [processedOf_counted hrow]
      simp [Attempt.counts]
  | completed hrow =>
      rw [processedOf_changeBatch _ _ _ (settle_batchId .completed now)
        (settle_processed .completed now), processedOf_counted hrow]
      simp [Attempt.counts]

/-- A new batch begins with nothing counted. -/
lemma processedOf_openBatch (s : Store) (ctx : LogContext) (now : Timestamp)
    (randomBytes : List UInt8) (device : String) (total : ℕ) (id : String) :
    processedOf (s.openBatch ctx now randomBytes device total).value.2 id = processedOf s id := by
  simp only [Store.openBatch, insertBatch_eq]
  split_ifs with hblank htotal hdown
  · rfl
  · rfl
  · rfl
  · cases hnew : s.tables.batch? (Batch.idText randomBytes) with
    | some _ => rfl
    | none =>
        simp only [Noted.value_bind, Noted.value_pure, processedOf]
        rw [batch?_append _ _ hnew]
        split
        · rename_i heq
          rw [heq, hnew]
          rfl
        · rfl

lemma processedOf_failBatch (s : Store) (ctx : LogContext) (now : Timestamp)
    (target reason id : String) :
    processedOf (s.failBatch ctx now target reason).value.2 id = processedOf s id := by
  have hsettled := processedOf_changeBatch s target id (settle_batchId .failed now)
    (settle_processed .failed now)
  rw [Store.failBatch, fetchBatch_eq]
  cases hblind : s.faults .getBatch with
  | true => rfl
  | false =>
      cases hrow : s.tables.batch? target with
      | none => rfl
      | some row =>
          simp only [Bool.false_eq_true, if_false, markFailed_eq, hrow]
          split_ifs with hdown hterminal
          · rfl
          · rfl
          · exact hsettled

/-- An attempt counts if it comes past the increment of the row. -/
lemma processedOf_served (q : Request) (s : Store) (id : String) :
    processedOf (q.served s).value.2 id =
      processedOf s id + if (q.attempt s).counts id then 1 else 0 := by
  obtain ⟨call, faults, ctx, now⟩ := q
  cases call with
  | openBatch randomBytes device total =>
      exact processedOf_openBatch { s with faults := faults } ctx now randomBytes device total id
  | mark target =>
      exact (marks_markProcessed { s with faults := faults } ctx now target).processedOf_eq id
  | progress target => rfl
  | purge target => rfl
  | fail target reason =>
      exact processedOf_failBatch { s with faults := faults } ctx now target reason id

/-- **Counted calls.**  However many calls are served, and whatever is down for which of them, a row
counts those that came past its increment. -/
theorem processedOf_after (s : Store) (requests : List Request) (id : String) :
    processedOf (after s requests) id =
      processedOf s id + (attempts s requests).countP (·.counts id) := by
  induction requests generalizing s with
  | nil => rfl
  | cons q rest ih =>
      rw [after, attempts, ih, processedOf_served, List.countP_cons]
      omega

end Calls

/-! ### Retries -/

/-- **Retries.**  A count that fails has left its row as it was exactly when it was the increment
that failed, because it is down or the batch is unknown, and then nothing at all has changed.  When
a later call failed, one item stays counted, and all other rows are as they were.  So a batch that
is not there yet becomes purgeable with no fewer counts than it has items, of those that succeeded
or failed behind their increment. -/
theorem retry_counts (s : Store) (id : String) :
    (∀ ctx now e last, (s.markProcessed ctx now id).value = (.error e, last) →
      (last.tables.batch? id = s.tables.batch? id ↔ (s.incrementProcessed id).isOk = false) ∧
      ((s.incrementProcessed id).isOk = false ↔
        s.faults .incrementProcessed = true ∨ s.tables.batch? id = none) ∧
      ((s.incrementProcessed id).isOk = false → last = s) ∧
      ((s.incrementProcessed id).isOk = true →
        ∃ row, s.tables.batch? id = some row ∧ last.tables.batch? id = some (countOn row) ∧
          (s.faults .getBatch = true ∨ s.faults .markCompleted = true ∧ Due (countOn row)) ∧
          ∀ other, other ≠ id → last.tables.batch? other = s.tables.batch? other)) ∧
    (∀ requests ctx, s.tables.batch? id = none →
      ((after s requests).mayPurge ctx id).value = .ok true →
      ∃ row, (after s requests).tables.batch? id = some row ∧
        row.processed = (attempts s requests).countP (·.counts id) ∧
        row.total ≤ (attempts s requests).countP (·.counts id)) := by
  constructor
  · intro ctx now e last herror
    have hmarks := marks_markProcessed s ctx now id
    rw [herror] at hmarks
    refine ⟨?_, isOk_incrementProcessed_eq_false_iff, ?_, ?_⟩
    all_goals rcases hmarks.error_cases with ⟨hfailed, rfl⟩ | ⟨row, hrow, rfl, hlater⟩
    · exact iff_of_true rfl hfailed
    · refine iff_of_false ?_ (by simp [hrow.isOk])
      rw [batch?_counted_self hrow.found, hrow.found]
      simp [countOn_ne]
    · exact fun _ => rfl
    · simp [hrow.isOk]
    · simp [hfailed]
    · refine fun _ =>
        ⟨row, hrow.found, batch?_counted_self hrow.found, hlater, fun other hother => ?_⟩
      rw [batch?_counted, batchId_of_batch? hrow.found, if_neg hother]
  · intro requests ctx hnone hgranted
    obtain ⟨row, hrow, hpurgeable⟩ := mayPurge_eq_ok hgranted
    have hcount := processedOf_after s requests id
    rw [processedOf, processedOf, hrow, hnone] at hcount
    have hprocessed : row.processed = (attempts s requests).countP (·.counts id) := by
      simpa using hcount
    have hle : row.total ≤ row.processed := by
      rw [eq_comm, Batch.isPurgeable, Bool.and_eq_true, decide_eq_true_eq,
        decide_eq_true_eq] at hpurgeable
      exact hpurgeable.2
    exact ⟨row, hrow, hprocessed, hle.trans_eq hprocessed⟩

/-- A store with one open batch of two items, of which no row can be read. -/
def blindStore : Store where
  tables.batches :=
    [{ batchId := "b", deviceId := "D1", total := 2, processed := 0
       status := .processing, createdAt := ⟨1767225600, 0⟩, completedAt := none }]
  faults := Faults.none.switch .getBatch true

/-- Two items, of which the first one is counted although that fails; and a batch of one item that
is purgeable behind its one count. -/
theorem retry_counts_blind :
    let ctx : LogContext := { request := "r-1" }
    let now : Timestamp := ⟨1767225600, 0⟩
    let id := Batch.idText [7]
    let requests : List Request :=
      [{ call := .openBatch [7] "D1" 1, now := now }, { call := .mark id, now := now }]
    (∃ e last row, (blindStore.markProcessed ctx now "b").value = (.error e, last) ∧
      blindStore.tables.batch? "b" = some row ∧ last.tables.batch? "b" = some (countOn row)) ∧
    ∃ row, (after {} requests).tables.batch? id = some row ∧
      row.total ≤ (attempts {} requests).countP (·.counts id) := by
  intro ctx now id requests
  constructor
  · obtain ⟨-, -, -, hcounted⟩ := (retry_counts blindStore "b").1 ctx now
      (.store (blindStore.faults.error .getBatch)) _ rfl
    obtain ⟨row, hrow, hlast, -⟩ := hcounted (by decide)
    exact ⟨_, _, row, rfl, hrow, hlast⟩
  · obtain ⟨row, hrow, -, htotal⟩ := (retry_counts {} id).2 requests ctx rfl (by decide +kernel)
    exact ⟨row, hrow, htotal⟩

/-- The first of two items is counted although that fails; counted again, it makes the batch
purgeable with the second item still missing. -/
theorem retry_counts_twice :
    let ctx : LogContext := { request := "r-1" }
    let now : Timestamp := ⟨1767225600, 0⟩
    let (first, halfway) := (blindStore.markProcessed ctx now "b").value
    let (second, last) :=
      ({ halfway with faults := Faults.none } : Store).markProcessed ctx now "b" |>.value
    first.isOk = false ∧ halfway.tables.batch? "b" ≠ blindStore.tables.batch? "b" ∧
      second.isOk = true ∧ (last.mayPurge ctx "b").value = .ok true := by
  decide +kernel

end DeviceGate.Ledger
