import DeviceGate.Batch.Ledger
import Mathlib.Tactic

/-!
The calls of the ledger, one store call at a time.  Between two store calls of one call the store
may serve others, and it may start or stop to fail; so a call is a sequence of stages, each of which
asks the store once.

* `Ledger.Call`: a call, with `Ledger.Call.run` the ledger's own answer to it.
* `Ledger.Stage.advance`: one store call, with what it leads to and what it does to the rows.
* `Ledger.finish_first`: the ledger answers by going through the stages.
* `Ledger.Stage.Does`: everything that one store call can do; `Ledger.Stage.does_advance`.
-/

namespace DeviceGate.Ledger

/-! ### Calls and their stages -/

/-- A call of the ledger; the id of a new batch is made from random bytes. -/
inductive Call where
  | openBatch (randomBytes : List UInt8) (deviceId : String) (total : ℕ)
  | mark (id : String)
  | progress (id : String)
  | purge (id : String)
  | fail (id reason : String)

/-- What a call answers. -/
inductive Answer where
  | opened (r : Except LedgerError String)
  | progress (r : Except LedgerError BatchProgress)
  | purge (r : Except LedgerError Bool)
  | failed (r : Except LedgerError Bool)

/-- The ledger's answer to a call, and the store behind it. -/
def Call.run (s : Store) (ctx : LogContext) (now : Timestamp) : Call → Noted (Answer × Store)
  | openBatch randomBytes deviceId total =>
      (fun p => (.opened p.1, p.2)) <$> s.openBatch ctx now randomBytes deviceId total
  | mark id => (fun p => (.progress p.1, p.2)) <$> s.markProcessed ctx now id
  | progress id => pure (.progress (s.batchProgress id), s)
  | purge id => (fun r => (.purge r, s)) <$> s.mayPurge ctx id
  | fail id reason => (fun p => (.failed p.1, p.2)) <$> s.failBatch ctx now id reason

/-- What a call asks of the store next.  A row that was fetched before stands beside the id. -/
inductive Stage where
  | insert (row : BatchRow)
  | increment (id : String)
  /-- The look at the row that has been counted on. -/
  | inspect (id : String)
  | complete (row : BatchRow) (id : String)
  /-- The look at the row whose progress is reported. -/
  | review (id : String)
  /-- The look at the row whose data is to be deleted. -/
  | consult (id : String)
  | find (id reason : String)
  | giveUp (row : BatchRow) (id reason : String)

/-- What follows a store call: the next one, or the answer. -/
inductive Turn where
  | next (stage : Stage)
  | answer (a : Answer)

/-- What a store call does to the rows. -/
inductive Effect where
  /-- Nothing, and it need not have. -/
  | none
  | opened (id : String)
  | counted (id : String)
  | completed (id : String)
  | failed (id : String)
  /-- Nothing, because the store does not answer. -/
  | refused (id : String)
  deriving DecidableEq

/-- What a failure of the store comes to; that there is no such row is none. -/
def Effect.ofStoreError (id : String) : StoreError → Effect
  | .unavailable _ => .refused id
  | _ => .none

/-- What a failure of the ledger comes to. -/
def Effect.ofError (id : String) : LedgerError → Effect
  | .store e => .ofStoreError id e
  | _ => .none

/-- What a store call leads to. -/
structure Outcome where
  turn : Turn
  effect : Effect
  store : Store

/-- The first stage of a call; a batch that cannot be opened is refused before any. -/
def Call.first (now : Timestamp) : Call → Turn
  | openBatch randomBytes deviceId total =>
      if Text.isBlankText deviceId then
        .answer (.opened (.error (.invalid "device_id is required")))
      else if total = 0 then
        .answer (.opened (.error (.invalid "total_count must be positive")))
      else
        .next (.insert
          { batchId := Batch.idText randomBytes, deviceId := deviceId, total := total
            processed := 0, status := .processing, createdAt := now, completedAt := .none })
  | mark id => .next (.increment id)
  | progress id => .next (.review id)
  | purge id => .next (.consult id)
  | fail id reason => .next (.find id reason)

/-- One store call. -/
def Stage.advance (s : Store) (ctx : LogContext) (now : Timestamp) : Stage → Noted Outcome
  | insert row =>
      match s.insertBatch row with
      | .error e => return ⟨.answer (.opened (.error (.store e))), .none, s⟩
      | .ok s => do
          Noted.log .info
            (ctx.text ++ " BATCH_OPENED batch=" ++ row.batchId ++ " device=" ++ row.deviceId ++
              " total=" ++ toString row.total)
          return ⟨.answer (.opened (.ok row.batchId)), .opened row.batchId, s⟩
  | increment id =>
      match s.incrementProcessed id with
      | .error e => return ⟨.answer (.progress (.error (.ofCount id e))), .ofStoreError id e, s⟩
      | .ok s => return ⟨.next (.inspect id), .counted id, s⟩
  | inspect id =>
      match s.fetchBatch id with
      | .error e => return ⟨.answer (.progress (.error e)), .ofError id e, s⟩
      | .ok row =>
          if row.processed < row.total ∨ row.status.isTerminal then
            return ⟨.answer (.progress (.ok (.of row))), .none, s⟩
          else return ⟨.next (.complete row id), .none, s⟩
  | complete row id =>
      match s.markCompleted id now with
      | .error e => return ⟨.answer (.progress (.error (.store e))), .ofStoreError id e, s⟩
      | .ok (changed, s) => do
          if changed then Store.reportCompletion ctx row id
          return ⟨.next (.review id), if changed then .completed id else .none, s⟩
  | review id =>
      match s.fetchBatch id with
      | .error e => return ⟨.answer (.progress (.error e)), .ofError id e, s⟩
      | .ok row => return ⟨.answer (.progress (.ok (.of row))), .none, s⟩
  | consult id => do
      let r ← s.mayPurge ctx id
      return ⟨.answer (.purge r), match r with | .error e => .ofError id e | .ok _ => .none, s⟩
  | find id reason =>
      match s.fetchBatch id with
      | .error e => return ⟨.answer (.failed (.error e)), .ofError id e, s⟩
      | .ok row => return ⟨.next (.giveUp row id reason), .none, s⟩
  | giveUp row id reason =>
      match s.markFailed id now with
      | .error e => return ⟨.answer (.failed (.error (.store e))), .ofStoreError id e, s⟩
      | .ok (changed, s) => do
          if changed then
            Noted.log .warn
              (ctx.text ++ " BATCH_FAILED batch=" ++ id ++ " reason=" ++ Text.quoted reason)
            Noted.emit (Batch.failedEvent row id reason)
          else
            Noted.log .info
              (ctx.text ++ " BATCH_FAIL_IGNORED batch=" ++ id ++ " status=" ++ row.status.name)
          return ⟨.answer (.failed (.ok changed)), if changed then .failed id else .none, s⟩

/-- Goes through so many stages, unless the answer comes first. -/
def finish (ctx : LogContext) (now : Timestamp) : ℕ → Turn → Store → Noted (Turn × Store)
  | 0, turn, s => pure (turn, s)
  | _ + 1, .answer a, s => pure (.answer a, s)
  | n + 1, .next stage, s => do
      let o ← stage.advance s ctx now
      finish ctx now n o.turn o.store

lemma finish_answer (ctx : LogContext) (now : Timestamp) (n : ℕ) (a : Answer) (s : Store) :
    finish ctx now n (.answer a) s = pure (.answer a, s) := by
  cases n with
  | zero => rfl
  | succ n => rfl

/-- The last look at a row reports its progress. -/
lemma finish_review (ctx : LogContext) (now : Timestamp) (n : ℕ) (id : String) (s : Store) :
    finish ctx now (n + 1) (.next (.review id)) s =
      pure (.answer (.progress (s.batchProgress id)), s) := by
  simp only [finish, Stage.advance, Store.batchProgress]
  rcases s.fetchBatch id with e | row
  · simp [finish_answer, Except.map]
  · simp [finish_answer, Except.map]

/-- Behind the count a call completes the batch and looks at it once more. -/
lemma finish_complete (ctx : LogContext) (now : Timestamp) (row : BatchRow) (id : String)
    (s : Store) :
    finish ctx now 2 (.next (.complete row id)) s =
      (fun p => (.answer (.progress p.1), p.2)) <$> s.completeBatch ctx now row id := by
  rw [finish]
  simp only [Stage.advance, Store.completeBatch]
  rcases s.markCompleted id now with e | ⟨changed, settled⟩
  · simp [finish_answer]
  · cases changed with
    | true => simp [finish_review, Store.batchProgress]
    | false => simp [finish_review, Store.batchProgress]

/-- **The stages of a call.**  The ledger answers a call by asking the store four times at most, one
stage after the other. -/
theorem finish_first (ctx : LogContext) (now : Timestamp) (s : Store) (call : Call) :
    finish ctx now 4 (call.first now) s = (fun p => (.answer p.1, p.2)) <$> call.run s ctx now := by
  cases call with
  | openBatch randomBytes deviceId total =>
      simp only [Call.first, Call.run, Store.openBatch]
      split
      · simp [finish_answer]
      · split
        · simp [finish_answer]
        · simp only [finish, Stage.advance]
          split <;> simp_all [finish_answer]
  | mark id =>
      simp only [Call.first, Call.run, Store.markProcessed]
      rw [finish]
      simp only [Stage.advance]
      rcases s.incrementProcessed id with e | counted
      · simp [finish_answer]
      · simp only [pure_bind]
        rw [finish]
        simp only [Stage.advance]
        rcases counted.fetchBatch id with e | row
        · simp [finish_answer]
        · by_cases hdue : row.processed < row.total ∨ row.status.isTerminal = true
          · simp [finish_answer, hdue]
          · simp [hdue, finish_complete]
  | progress id => simp [Call.first, Call.run, finish_review]
  | purge id => simp [Call.first, Call.run, finish, Stage.advance]
  | fail id reason =>
      simp only [Call.first, Call.run, Store.failBatch]
      rw [finish]
      simp only [Stage.advance]
      rcases s.fetchBatch id with e | row
      · simp [finish_answer]
      · simp only [pure_bind]
        rw [finish]
        simp only [Stage.advance]
        rcases s.markFailed id now with e | ⟨changed, settled⟩
        · simp [finish_answer]
        · cases changed with
          | true => simp [finish_answer]
          | false => simp [finish_answer]

/-! ### What one store call can do -/

/-- The batch that a stage is about. -/
def Stage.subject : Stage → String
  | insert row => row.batchId
  | increment id | inspect id | complete _ id | review id | consult id | find id _
  | giveUp _ id _ => id

/-- The store call of a stage. -/
def Stage.call : Stage → StoreCall
  | insert _ => .insertBatch
  | increment _ => .incrementProcessed
  | inspect _ | review _ | consult _ | find _ _ => .getBatch
  | complete _ _ => .markCompleted
  | giveUp _ _ _ => .markFailed

/-- All that is left to count of a batch is counted, and nobody has settled it. -/
def Due (row : BatchRow) : Prop :=
  row.status.isTerminal = false ∧ row.total ≤ row.processed

lemma not_due_iff {row : BatchRow} :
    ¬ Due row ↔ row.status.isTerminal = true ∨ row.processed < row.total := by
  rw [Due, not_and_or, not_le, Bool.not_eq_false]

/-- A row on which one item more is counted. -/
def countOn (row : BatchRow) : BatchRow :=
  { row with processed := row.processed + 1 }

/-- A row whose status is settled. -/
def settle (status : BatchStatus) (now : Timestamp) (row : BatchRow) : BatchRow :=
  { row with status := status, completedAt := some now }

section Rows

variable (status : BatchStatus) (now : Timestamp) (row : BatchRow)

@[simp] lemma countOn_batchId : (countOn row).batchId = row.batchId := rfl
@[simp] lemma countOn_total : (countOn row).total = row.total := rfl
@[simp] lemma countOn_processed : (countOn row).processed = row.processed + 1 := rfl
@[simp] lemma countOn_status : (countOn row).status = row.status := rfl
@[simp] lemma countOn_completedAt : (countOn row).completedAt = row.completedAt := rfl

@[simp] lemma settle_batchId : (settle status now row).batchId = row.batchId := rfl
@[simp] lemma settle_total : (settle status now row).total = row.total := rfl
@[simp] lemma settle_processed : (settle status now row).processed = row.processed := rfl
@[simp] lemma settle_status : (settle status now row).status = status := rfl
@[simp] lemma settle_completedAt : (settle status now row).completedAt = some now := rfl

end Rows

/-- Everything that one store call can do. -/
inductive Stage.Does (s : Store) (now : Timestamp) : Stage → Outcome → List AuditEvent → Prop where
  | opens {row : BatchRow} : s.tables.batch? row.batchId = none →
      Does s now (.insert row) ⟨.answer (.opened (.ok row.batchId)), .opened row.batchId,
        { s with tables := { s.tables with batches := s.tables.batches ++ [row] } }⟩ []
  | rejects {row : BatchRow} {a : Answer} : Does s now (.insert row) ⟨.answer a, .none, s⟩ []
  | counts {id : String} {row : BatchRow} : s.tables.batch? id = some row →
      Does s now (.increment id) ⟨.next (.inspect id), .counted id,
        { s with
          overrun := s.overrun || decide (Store.greatestCount ≤ row.processed) }.changeBatch id
          countOn⟩ []
  | due {id : String} {row : BatchRow} : s.tables.batch? id = some row → Due row →
      Does s now (.inspect id) ⟨.next (.complete row id), .none, s⟩ []
  | reports {id : String} {row : BatchRow} {a : Answer} : s.tables.batch? id = some row →
      ¬ Due row → Does s now (.inspect id) ⟨.answer a, .none, s⟩ []
  | completes {seen row : BatchRow} {id : String} : s.tables.batch? id = some row → Due row →
      Does s now (.complete seen id)
        ⟨.next (.review id), .completed id, s.changeBatch id (settle .completed now)⟩
        [Batch.completedEvent seen id]
  | loses {seen row : BatchRow} {id : String} : s.tables.batch? id = some row → ¬ Due row →
      Does s now (.complete seen id) ⟨.next (.review id), .none, s⟩ []
  | reviews {id : String} {row : BatchRow} {a : Answer} : s.tables.batch? id = some row →
      Does s now (.review id) ⟨.answer a, .none, s⟩ []
  | consults {id : String} {row : BatchRow} {a : Answer} : s.tables.batch? id = some row →
      Does s now (.consult id) ⟨.answer a, .none, s⟩
        [Batch.purgeEvent row id (Batch.isPurgeable row)]
  | finds {id reason : String} {row : BatchRow} : s.tables.batch? id = some row →
      Does s now (.find id reason) ⟨.next (.giveUp row id reason), .none, s⟩ []
  | fails {seen row : BatchRow} {id reason : String} {a : Answer} :
      s.tables.batch? id = some row → row.status.isTerminal = false →
      Does s now (.giveUp seen id reason)
        ⟨.answer a, .failed id, s.changeBatch id (settle .failed now)⟩
        [Batch.failedEvent seen id reason]
  | ignores {seen row : BatchRow} {id reason : String} {a : Answer} :
      s.tables.batch? id = some row → row.status.isTerminal = true →
      Does s now (.giveUp seen id reason) ⟨.answer a, .none, s⟩ []
  | misses (stage : Stage) {a : Answer} : s.tables.batch? stage.subject = none →
      Does s now stage ⟨.answer a, .none, s⟩ []
  | refuses (stage : Stage) {a : Answer} : s.faults stage.call = true →
      Does s now stage ⟨.answer a, .refused stage.subject, s⟩ []

section StoreCalls

variable (s : Store) (id : String) (now : Timestamp)

lemma insertBatch_eq (row : BatchRow) :
    s.insertBatch row =
      if s.faults .insertBatch then .error (s.faults.error .insertBatch)
      else match s.tables.batch? row.batchId with
        | some _ => .error (.violated ("duplicate batch " ++ row.batchId))
        | none =>
            .ok { s with tables := { s.tables with batches := s.tables.batches ++ [row] } } := by
  rw [Store.insertBatch, Faults.check]
  cases s.faults .insertBatch with
  | true => rfl
  | false => cases s.tables.batch? row.batchId <;> rfl

lemma incrementProcessed_eq :
    s.incrementProcessed id =
      if s.faults .incrementProcessed then .error (s.faults.error .incrementProcessed)
      else match s.tables.batch? id with
        | none => .error (Store.missingBatch id)
        | some row => .ok
            ({ s with
              overrun := s.overrun || decide (Store.greatestCount ≤ row.processed) }.changeBatch
              id countOn) := by
  rw [Store.incrementProcessed, Faults.check]
  cases s.faults .incrementProcessed with
  | true => rfl
  | false => cases s.tables.batch? id <;> rfl

lemma fetchBatch_eq :
    s.fetchBatch id =
      if s.faults .getBatch then .error (.store (s.faults.error .getBatch))
      else match s.tables.batch? id with
        | none => .error (.notFound id)
        | some row => .ok row := by
  rw [Store.fetchBatch, Store.getBatch, Faults.check]
  cases s.faults .getBatch with
  | true => rfl
  | false => cases s.tables.batch? id <;> rfl

lemma markCompleted_eq :
    s.markCompleted id now =
      if s.faults .markCompleted then .error (s.faults.error .markCompleted)
      else match s.tables.batch? id with
        | none => .error (Store.missingBatch id)
        | some row =>
            if row.status.isTerminal ∨ row.processed < row.total then .ok (false, s)
            else .ok (true, s.changeBatch id (settle .completed now)) := by
  rw [Store.markCompleted, Faults.check]
  cases s.faults .markCompleted with
  | true => rfl
  | false => cases s.tables.batch? id <;> rfl

lemma markFailed_eq :
    s.markFailed id now =
      if s.faults .markFailed then .error (s.faults.error .markFailed)
      else match s.tables.batch? id with
        | none => .error (Store.missingBatch id)
        | some row =>
            if row.status.isTerminal then .ok (false, s)
            else .ok (true, s.changeBatch id (settle .failed now)) := by
  rw [Store.markFailed, Faults.check]
  cases s.faults .markFailed with
  | true => rfl
  | false => cases s.tables.batch? id <;> rfl

end StoreCalls

/-- **One store call.**  A stage does one of these things and emits the events that belong to it. -/
theorem Stage.does_advance (s : Store) (ctx : LogContext) (now : Timestamp) (stage : Stage) :
    stage.Does s now (stage.advance s ctx now).value (stage.advance s ctx now).events := by
  cases stage with
  | insert row =>
      rw [advance, insertBatch_eq]
      cases hdown : s.faults .insertBatch with
      | true => exact .rejects
      | false =>
          cases hrow : s.tables.batch? row.batchId with
          | some _ => exact .rejects
          | none => exact .opens hrow
  | increment id =>
      rw [advance, incrementProcessed_eq]
      cases hdown : s.faults .incrementProcessed with
      | true => exact .refuses (.increment id) hdown
      | false =>
          cases hrow : s.tables.batch? id with
          | none => exact .misses (.increment id) hrow
          | some row => exact .counts hrow
  | inspect id =>
      rw [advance, fetchBatch_eq]
      cases hdown : s.faults .getBatch with
      | true => exact .refuses (.inspect id) hdown
      | false =>
          cases hrow : s.tables.batch? id with
          | none => exact .misses (.inspect id) hrow
          | some row =>
              have hstop : (row.processed < row.total ∨ row.status.isTerminal = true) ↔ ¬ Due row :=
                or_comm.trans not_due_iff.symm
              by_cases hdue : Due row
              · simp only [Bool.false_eq_true, if_false, hstop, hdue, not_true_eq_false]
                exact .due hrow hdue
              · simp only [Bool.false_eq_true, if_false, hstop, hdue, not_false_eq_true, if_true]
                exact .reports hrow hdue
  | complete seen id =>
      rw [advance, markCompleted_eq]
      cases hdown : s.faults .markCompleted with
      | true => exact .refuses (.complete seen id) hdown
      | false =>
          cases hrow : s.tables.batch? id with
          | none => exact .misses (.complete seen id) hrow
          | some row =>
              by_cases hdue : Due row
              · simp only [Bool.false_eq_true, if_false, ← not_due_iff, hdue, not_true_eq_false]
                exact .completes hrow hdue
              · simp only [Bool.false_eq_true, if_false, ← not_due_iff, hdue, not_false_eq_true,
                  if_true]
                exact .loses hrow hdue
  | review id =>
      rw [advance, fetchBatch_eq]
      cases hdown : s.faults .getBatch with
      | true => exact .refuses (.review id) hdown
      | false =>
          cases hrow : s.tables.batch? id with
          | none => exact .misses (.review id) hrow
          | some row => exact .reviews hrow
  | consult id =>
      rw [advance, Store.mayPurge, fetchBatch_eq]
      cases hdown : s.faults .getBatch with
      | true => exact .refuses (.consult id) hdown
      | false =>
          cases hrow : s.tables.batch? id with
          | none => exact .misses (.consult id) hrow
          | some row =>
              have hconsults : Stage.Does s now (.consult id)
                  ⟨.answer (.purge (.ok (Batch.isPurgeable row))), .none, s⟩
                  [Batch.purgeEvent row id (Batch.isPurgeable row)] := .consults hrow
              cases hgranted : Batch.isPurgeable row with
              | true =>
                  simp only [Bool.false_eq_true, if_false, hgranted, if_true] at hconsults ⊢
                  exact hconsults
              | false =>
                  simp only [Bool.false_eq_true, if_false, hgranted] at hconsults ⊢
                  exact hconsults
  | find id reason =>
      rw [advance, fetchBatch_eq]
      cases hdown : s.faults .getBatch with
      | true => exact .refuses (.find id reason) hdown
      | false =>
          cases hrow : s.tables.batch? id with
          | none => exact .misses (.find id reason) hrow
          | some row => exact .finds hrow
  | giveUp seen id reason =>
      rw [advance, markFailed_eq]
      cases hdown : s.faults .markFailed with
      | true => exact .refuses (.giveUp seen id reason) hdown
      | false =>
          cases hrow : s.tables.batch? id with
          | none => exact .misses (.giveUp seen id reason) hrow
          | some row =>
              cases hterminal : row.status.isTerminal with
              | true =>
                  simp only [Bool.false_eq_true, if_false, hterminal, if_true]
                  exact .ignores hrow hterminal
              | false =>
                  simp only [Bool.false_eq_true, if_false, hterminal]
                  exact .fails hrow hterminal

end DeviceGate.Ledger
