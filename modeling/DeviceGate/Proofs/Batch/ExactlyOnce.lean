import DeviceGate.Proofs.Batch.Tally

/-!
A batch is settled once, in whatever order the store calls of those who count on it and of those who
fail it come.  The increments of a batch and the question whether it is complete are store calls of
their own, so several callers may see the last count, and a failure may slip in between; the
conditional updates decide.

* `Ledger.Settling`: the invariant.  Every item is counted or about to be; while the batch is open,
  whoever is to fail it is still under way, and so is a caller who will see that it is due.
* `Ledger.Settling.step`: a move without a failure of the store keeps it.
* `Ledger.Settling.settled`: what it says of a batch that no call is about any more.
* `Ledger.run_settled`: what holds when all calls have returned.
-/

namespace DeviceGate.Ledger

/-- The move begins a count of an item of that batch. -/
def Move.marks (id : String) : Move → Bool
  | begin _ (.mark id') => id' = id
  | _ => false

/-- The move begins a failure of that batch. -/
def Move.gives (id : String) : Move → Bool
  | begin _ (.fail id' _) => id' = id
  | _ => false

/-- The call has yet to count its item of that batch. -/
def Stage.marks (id : String) : Stage → Bool
  | increment id' => id' = id
  | _ => false

/-- The call has yet to fail that batch. -/
def Stage.gives (id : String) : Stage → Bool
  | find id' _ | giveUp _ id' _ => id' = id
  | _ => false

/-- A batch of so many items on which so many calls count and so many are to fail it. -/
structure Settling (id : String) (total marks gives : ℕ) (m : Session) (row : BatchRow) : Prop where
  up : m.store.faults.AllUp
  found : m.store.tables.batch? id = some row
  tallied : Tallied m.effects row
  completions : m.reported .batchCompleted id = m.effects.count (.completed id)
  failures : m.reported .batchFailed id = m.effects.count (.failed id)
  total : row.total = total
  marked : row.processed + m.pending.countP (Stage.marks id) = marks
  carried : Due row → ∃ stage ∈ m.pending, stage.Carries id
  given : row.status.isTerminal = false → m.pending.countP (Stage.gives id) = gives
  gives_pos : row.status = .failed → 0 < gives

lemma Stage.marks.subject {id : String} {stage : Stage} (h : stage.marks id = true) :
    stage.subject = id := by
  cases stage with
  | increment => exact of_decide_eq_true h
  | _ => simp [Stage.marks] at h

lemma Stage.gives.subject {id : String} {stage : Stage} (h : stage.gives id = true) :
    stage.subject = id := by
  cases stage with
  | find | giveUp => exact of_decide_eq_true h
  | _ => simp [Stage.gives] at h

section Does

variable {id : String} {s : Store} {now : Timestamp} {stage : Stage} {o : Outcome}
  {events : List AuditEvent}

lemma Stage.Does.faults (h : stage.Does s now o events) : o.store.faults = s.faults := by
  cases h with
  | _ => rfl

/-- A store that does not fail refuses nothing. -/
lemma Stage.Does.effect_ne_refused (h : stage.Does s now o events) (hup : s.faults.AllUp)
    (id : String) : o.effect ≠ .refused id := by
  cases h with
  | refuses _ hdown => simp [hup _] at hdown
  | _ => simp

/-- What a store call that does not fail does to a row.  One that leaves the row as it is neither
was to count an item of the batch nor, while that is open, gives up failing it. -/
lemma Stage.Does.row_cases (h : stage.Does s now o events) (hup : s.faults.AllUp)
    {row : BatchRow} (hrow : s.tables.batch? id = some row) :
    (o.store.tables.batch? id = some row ∧ stage.marks id = false ∧
      o.turn.stages.countP (Stage.marks id) = 0 ∧
      (row.status.isTerminal = false →
        o.turn.stages.countP (Stage.gives id) = [stage].countP (Stage.gives id))) ∨
    (stage = .increment id ∧ o.store.tables.batch? id = some (countOn row) ∧
      o.turn = .next (.inspect id)) ∨
    (∃ seen, stage = .complete seen id ∧ o.turn = .next (.review id) ∧
      o.store.tables.batch? id = some (settle .completed now row)) ∨
    (∃ seen reason, stage = .giveUp seen id reason ∧ row.status.isTerminal = false ∧
      o.turn.stages = [] ∧ o.store.tables.batch? id = some (settle .failed now row)) := by
  cases h with
  | @opens fresh hnew =>
      refine .inl ⟨?_, rfl, rfl, fun _ => rfl⟩
      rw [batch?_append s.tables fresh hnew, if_neg]
      · exact hrow
      · rintro rfl
        rw [hnew] at hrow
        cases hrow
  | @counts target counted hcounted =>
      rw [batch?_changeBatch _ _ countOn_batchId]
      by_cases heq : id = target
      · subst heq
        exact .inr (.inl ⟨rfl, by simp [hrow], rfl⟩)
      · exact .inl ⟨by simp [heq, hrow], by simp [Stage.marks, Ne.symm heq], rfl, fun _ => rfl⟩
  | @completes seen found target hfound hisdue =>
      rw [batch?_changeBatch _ _ (settle_batchId .completed now)]
      by_cases heq : id = target
      · subst heq
        exact .inr (.inr (.inl ⟨seen, rfl, rfl, by simp [hrow]⟩))
      · exact .inl ⟨by simp [heq, hrow], rfl, rfl, fun _ => rfl⟩
  | @fails seen found target reason a hfound hopen =>
      rw [batch?_changeBatch _ _ (settle_batchId .failed now)]
      by_cases heq : id = target
      · subst heq
        rw [hrow] at hfound
        cases hfound
        exact .inr (.inr (.inr ⟨seen, reason, rfl, hopen, rfl, by simp [hrow]⟩))
      · refine .inl ⟨by simp [heq, hrow], rfl, rfl, fun _ => ?_⟩
        simp [Turn.stages, Stage.gives, Ne.symm heq]
  | @ignores seen found target reason a hfound hterminal =>
      refine .inl ⟨hrow, rfl, rfl, fun hopen => ?_⟩
      have hne : target ≠ id := by
        rintro rfl
        rw [hrow] at hfound
        cases hfound
        rw [hopen] at hterminal
        cases hterminal
      simp [Turn.stages, Stage.gives, hne]
  | @misses stage a hmissing =>
      have hother : stage.subject ≠ id := by
        rintro rfl
        rw [hrow] at hmissing
        cases hmissing
      have hmarks : stage.marks id = false :=
        Bool.eq_false_iff.2 fun hmarks => hother (Stage.marks.subject hmarks)
      have hgives : stage.gives id = false :=
        Bool.eq_false_iff.2 fun hgives => hother (Stage.gives.subject hgives)
      exact .inl ⟨hrow, hmarks, rfl, fun _ => by simp [Turn.stages, hgives]⟩
  | @refuses stage a hdown => simp [hup _] at hdown
  | _ => exact .inl ⟨hrow, rfl, rfl, fun _ => rfl⟩

end Does

/-- The calls under way that have one thing to do, before and after one of them asks the store. -/
lemma countP_between (p : Stage → Bool) (before : List Stage) (stage : Stage) (after : List Stage)
    (next : List Stage) :
    (before ++ next ++ after).countP p + [stage].countP p =
      (before ++ stage :: after).countP p + next.countP p := by
  simp only [List.countP_append, List.countP_cons, List.countP_nil]
  omega

namespace Settling

variable {id : String} {total marks gives : ℕ} {m : Session} {row : BatchRow}

/-- A call that begins is about to count its item or to fail the batch, if it is one that does. -/
lemma countP_first (id : String) (now : Timestamp) (call : Call) :
    ((call.first now).stages.countP (Stage.marks id) =
        [Move.begin now call].countP (Move.marks id)) ∧
      ((call.first now).stages.countP (Stage.gives id) =
        [Move.begin now call].countP (Move.gives id)) := by
  cases call with
  | openBatch randomBytes deviceId total =>
      rw [Call.first]
      split_ifs <;> exact ⟨rfl, rfl⟩
  | _ => exact ⟨rfl, rfl⟩

section Advance

variable {before after : List Stage} {stage : Stage} {now : Timestamp} {o : Outcome}
  {events : List AuditEvent}

/-- A store call that does not fail leaves the counts of the batch as they should be. -/
lemma counts_of_does (h : Settling id total marks gives m row)
    (hpending : m.pending = before ++ stage :: after) (hdoes : stage.Does m.store now o events) :
    ∃ row', o.store.tables.batch? id = some row' ∧ row'.total = total ∧
      row'.processed + (before ++ o.turn.stages ++ after).countP (Stage.marks id) = marks ∧
      (row'.status.isTerminal = false →
        (before ++ o.turn.stages ++ after).countP (Stage.gives id) = gives) ∧
      (row'.status = .failed → 0 < gives) := by
  have hmarks := countP_between (Stage.marks id) before stage after o.turn.stages
  have hgives := countP_between (Stage.gives id) before stage after o.turn.stages
  rw [← hpending] at hmarks hgives
  have hbefore := h.marked
  rcases hdoes.row_cases h.up h.found with ⟨hsame, hnone, hnext, hkeeps⟩ |
    ⟨rfl, hcounted, hturn⟩ | ⟨seen, rfl, hturn, hcompletes⟩ |
    ⟨seen, reason, rfl, hopen, hturn, hfails⟩
  · refine ⟨row, hsame, h.total, ?_, fun hopen => ?_, h.gives_pos⟩
    · rw [List.countP_singleton, if_neg (by simp [hnone])] at hmarks
      omega
    · have hgiven := h.given hopen
      have hkept := hkeeps hopen
      omega
  · rw [hturn] at hmarks hgives ⊢
    simp only [Turn.stages, List.countP_singleton, Stage.marks, Stage.gives, decide_true,
      Bool.false_eq_true, if_true, if_false] at hmarks hgives
    refine ⟨countOn row, hcounted, h.total, ?_, fun hopen => ?_, h.gives_pos⟩
    · rw [countOn_processed, Turn.stages]
      omega
    · have hgiven := h.given hopen
      rw [Turn.stages]
      omega
  · rw [hturn] at hmarks ⊢
    simp only [Turn.stages, List.countP_singleton, Stage.marks, Bool.false_eq_true,
      if_false] at hmarks
    refine ⟨_, hcompletes, h.total, ?_, fun hopen => ?_, fun hfailed => ?_⟩
    · rw [settle_processed, Turn.stages]
      omega
    · simp [BatchStatus.isTerminal] at hopen
    · simp at hfailed
  · rw [hturn] at hmarks ⊢
    simp only [List.countP_nil, List.countP_singleton, Stage.marks, Bool.false_eq_true,
      if_false] at hmarks
    refine ⟨_, hfails, h.total, ?_, fun hopen => ?_, fun _ => ?_⟩
    · rw [settle_processed]
      omega
    · simp [BatchStatus.isTerminal] at hopen
    · rw [← h.given hopen, List.countP_pos_iff]
      exact ⟨.giveUp seen id reason, by simp [hpending], by simp [Stage.gives]⟩

/-- After a store call that does not fail, somebody still carries the batch that is due. -/
lemma carried_of_does (h : Settling id total marks gives m row)
    (hpending : m.pending = before ++ stage :: after) (hdoes : stage.Does m.store now o events)
    {row' : BatchRow} (hrow' : o.store.tables.batch? id = some row') (hdue : Due row') :
    ∃ carrier ∈ before ++ o.turn.stages ++ after, carrier.Carries id := by
  have hfresh : m.store.tables.batch? id = none → ∀ row, stage = .insert row → IsFresh row :=
    fun hnone => by rw [h.found] at hnone; cases hnone
  refine (hdoes.carried [] hfresh (fun due hfound hisdue => .inr ?_) hrow' hdue).resolve_left ?_
  · rw [h.found] at hfound
    cases hfound
    exact hpending ▸ h.carried hisdue
  · simpa [eq_comm] using hdoes.effect_ne_refused h.up id

/-- After a store call, the row agrees with what has happened. -/
lemma tallied_of_does (h : Settling id total marks gives m row)
    (hdoes : stage.Does m.store now o events) {row' : BatchRow}
    (hrow' : o.store.tables.batch? id = some row') : Tallied (m.effects ++ [o.effect]) row' := by
  have hfresh : m.store.tables.batch? id = none → ∀ row, stage = .insert row → IsFresh row :=
    fun hnone => by rw [h.found] at hnone; cases hnone
  have hbefore : Agrees m.effects id (m.store.tables.batch? id) := by
    rw [h.found]
    exact ⟨batchId_of_batch? h.found, h.tallied⟩
  have hagrees := hdoes.agrees hfresh hbefore
  rw [hrow'] at hagrees
  exact hagrees.2

end Advance

/-- A move keeps the batch as it should be, unless a call of the store is down behind it. -/
lemma step (h : Settling id total marks gives m row) (move : Move)
    (hmove : ∀ faults, move = .switch faults → faults.AllUp) :
    ∃ row', Settling id total (marks + [move].countP (Move.marks id))
      (gives + [move].countP (Move.gives id)) (m.step move) row' := by
  cases move with
  | switch faults => exact ⟨row, { h with up := hmove faults rfl }⟩
  | begin now call =>
      obtain ⟨hmarks, hgives⟩ := countP_first id now call
      refine ⟨row, { h with marked := ?_, carried := ?_, given := ?_, gives_pos := ?_ }⟩
      · rw [← hmarks, ← h.marked]
        simp only [Session.step, List.countP_append, add_assoc]
      · intro hdue
        obtain ⟨stage, hstage, hcarries⟩ := h.carried hdue
        exact ⟨stage, List.mem_append_left _ hstage, hcarries⟩
      · intro hopen
        rw [← hgives, ← h.given hopen]
        simp only [Session.step, List.countP_append]
      · exact fun hfailed => (h.gives_pos hfailed).trans_le (Nat.le_add_right _ _)
  | advance place ctx now =>
      simp only [List.countP_singleton, Move.marks, Move.gives, Bool.false_eq_true, if_false,
        add_zero]
      rcases Session.advance_cases m place ctx now with hidle | ⟨before, stage, after, o, events,
        hpending, hdoes, hstep⟩
      · exact ⟨row, by rwa [hidle]⟩
      rw [hstep]
      obtain ⟨hcompleted, hfailed⟩ := hdoes.countP_isAbout id
      obtain ⟨row', hfound, htotal, hmarked, hgiven, hpos⟩ := h.counts_of_does hpending hdoes
      exact ⟨row',
        { up := hdoes.faults ▸ h.up
          found := hfound
          tallied := h.tallied_of_does hdoes hfound
          completions := by
            rw [Session.reported, List.countP_append, List.count_append, hcompleted]
            exact congrArg (· + _) h.completions
          failures := by
            rw [Session.reported, List.countP_append, List.count_append, hfailed]
            exact congrArg (· + _) h.failures
          total := htotal
          marked := hmarked
          carried := h.carried_of_does hpending hdoes hfound
          given := hgiven
          gives_pos := hpos }⟩

/-- A run keeps the batch as it should be, as long as no call of the store is down. -/
lemma run (h : Settling id total marks gives m row) (moves : List Move)
    (hmoves : ∀ faults, .switch faults ∈ moves → faults.AllUp) :
    ∃ row', Settling id total (marks + moves.countP (Move.marks id))
      (gives + moves.countP (Move.gives id)) (m.run moves) row' := by
  induction moves generalizing marks gives m row with
  | nil => exact ⟨row, h⟩
  | cons move moves ih =>
      obtain ⟨next, hnext⟩ := h.step move fun faults hmove =>
        hmoves faults (hmove ▸ List.mem_cons_self)
      obtain ⟨last, hlast⟩ := ih hnext fun faults hrest =>
        hmoves faults (List.mem_cons_of_mem _ hrest)
      have hcons : ∀ p : Move → Bool,
          (move :: moves).countP p = [move].countP p + moves.countP p := fun p => by
        rw [← List.singleton_append, List.countP_append]
      rw [hcons, hcons, ← add_assoc, ← add_assoc]
      exact ⟨last, hlast⟩

/-- The events of a batch are the one of its status. -/
lemma reported_eq (h : Settling id total marks gives m row) :
    (m.reported .batchCompleted id, m.reported .batchFailed id) =
      (if row.status = .completed then 1 else 0, if row.status = .failed then 1 else 0) := by
  obtain rfl := batchId_of_batch? h.found
  rw [h.completions, h.failures, h.tallied.completed_eq, h.tallied.failed_eq]

/-- A batch is settled when no call about it is under way, if there was anything to settle it. -/
lemma settled (h : Settling id total marks gives m row)
    (hreturned : ∀ stage ∈ m.pending, stage.subject ≠ id) :
    let reported := (m.reported .batchCompleted id, m.reported .batchFailed id)
    row.processed = marks ∧
      (gives = 0 → total ≤ marks → row.status = .completed ∧ reported = (1, 0)) ∧
      (gives = 0 → marks < total → row.status = .processing ∧ reported = (0, 0)) ∧
      (0 < gives → row.status = .completed ∧ reported = (1, 0) ∨
        row.status = .failed ∧ reported = (0, 1)) := by
  intro reported
  have hreported : reported = _ := h.reported_eq
  have hnomarks : m.pending.countP (Stage.marks id) = 0 :=
    List.countP_eq_zero.2 fun stage hstage hmarks =>
      hreturned stage hstage (Stage.marks.subject hmarks)
  have hnogives : m.pending.countP (Stage.gives id) = 0 :=
    List.countP_eq_zero.2 fun stage hstage hgives =>
      hreturned stage hstage (Stage.gives.subject hgives)
  have hmarked : row.processed = marks := by
    have hall := h.marked
    rwa [hnomarks, add_zero] at hall
  have hnotdue : ¬ Due row := by
    intro hdue
    obtain ⟨stage, hstage, hcarries⟩ := h.carried hdue
    exact hreturned stage hstage hcarries.subject
  have htotal := h.total
  rw [hreported]
  rcases h.tallied.status_cases with hstatus | hstatus | hstatus
  · have hopen : row.status.isTerminal = false := by rw [hstatus]; rfl
    have hlt : marks < total := by
      have hmissing := (not_due_iff.1 hnotdue).resolve_left (by simp [hopen])
      omega
    have hgives : gives = 0 := (h.given hopen).symm.trans hnogives
    exact ⟨hmarked, fun _ hle => absurd hlt hle.not_gt, fun _ _ => ⟨hstatus, by simp [hstatus]⟩,
      fun hpos => absurd hgives hpos.ne'⟩
  · have hle : total ≤ marks := by
      have henough := h.tallied.total_le hstatus
      omega
    exact ⟨hmarked, fun _ _ => ⟨hstatus, by simp [hstatus]⟩, fun _ hlt => absurd hlt hle.not_gt,
      fun _ => .inl ⟨hstatus, by simp [hstatus]⟩⟩
  · have hpos : 0 < gives := h.gives_pos hstatus
    exact ⟨hmarked, fun hzero => absurd hzero hpos.ne', fun hzero => absurd hzero hpos.ne',
      fun _ => .inr ⟨hstatus, by simp [hstatus]⟩⟩

/-- A batch that has just been opened is as it should be. -/
lemma of_isFresh {s : Store} (hup : s.faults.AllUp) (hfound : s.tables.batch? id = some row)
    (hfresh : IsFresh row) : Settling id row.total 0 0 { store := s } row where
  up := hup
  found := hfound
  tallied := Unheard.tallied ⟨rfl, rfl, rfl⟩ hfresh
  completions := rfl
  failures := rfl
  total := rfl
  marked := by simp [hfresh.processed]
  carried := fun hdue => absurd (hfresh.processed ▸ hdue.2) hfresh.total_pos.not_ge
  given := fun _ => rfl
  gives_pos := fun hfailed => by simp [hfresh.status] at hfailed

end Settling

/-- A batch that has been opened is new, and stands behind the others. -/
lemma openBatch_eq_ok {s opened : Store} {ctx : LogContext} {now : Timestamp}
    {randomBytes : List UInt8} {device id : String} {total : ℕ}
    (h : (s.openBatch ctx now randomBytes device total).value = (.ok id, opened)) :
    ∃ row, IsFresh row ∧ row.total = total ∧ opened.faults = s.faults ∧
      opened.tables.batch? id = some row := by
  simp only [Store.openBatch, insertBatch_eq] at h
  split_ifs at h with hblank htotal hdown
  · cases h
  · cases h
  · cases h
  · cases hnew : s.tables.batch? (Batch.idText randomBytes) with
    | some _ => simp [hnew] at h
    | none =>
        simp only [hnew] at h
        obtain ⟨rfl, rfl⟩ : Batch.idText randomBytes = id ∧ _ = opened := by simpa using h
        exact ⟨{ batchId := Batch.idText randomBytes, deviceId := device, total := total
                 processed := 0, status := .processing, createdAt := now, completedAt := none },
          ⟨Nat.pos_of_ne_zero htotal, rfl, rfl, rfl⟩, rfl, rfl,
          by rw [batch?_append _ _ hnew, if_pos rfl]⟩

/-- **A batch is settled exactly once.**  However the store calls of those who count on a batch and
of those who are to fail it come, and whatever else goes on, at most one conditional update changes
its row while the store does not fail.  When all of them have returned, all items are counted; the
batch is completed as soon as no one was to fail it and enough items were counted, and stays open
with fewer; and where someone was to fail it, it is terminal.  The events of it are the one of its
status.  Where nobody interrupts anybody, all this is what the calls of the ledger, one after the
other, leave and emit. -/
theorem run_settled {s opened : Store} {ctx : LogContext} {now : Timestamp}
    {randomBytes : List UInt8} {device id : String} {total : ℕ}
    (hopened : (s.openBatch ctx now randomBytes device total).value = (.ok id, opened))
    (hup : s.faults.AllUp) (moves : List Move)
    (hmoves : ∀ faults, .switch faults ∈ moves → faults.AllUp) :
    let m := Session.run { store := opened } moves
    let marks := moves.countP (Move.marks id)
    let gives := moves.countP (Move.gives id)
    let reported := (m.reported .batchCompleted id, m.reported .batchFailed id)
    ∃ row, m.store.tables.batch? id = some row ∧ row.total = total ∧ row.processed ≤ marks ∧
      m.effects.count (.completed id) + m.effects.count (.failed id) ≤ 1 ∧
      ((∀ stage ∈ m.pending, stage.subject ≠ id) →
        row.processed = marks ∧
          (gives = 0 → total ≤ marks → row.status = .completed ∧ reported = (1, 0)) ∧
          (gives = 0 → marks < total → row.status = .processing ∧ reported = (0, 0)) ∧
          (0 < gives → row.status = .completed ∧ reported = (1, 0) ∨
            row.status = .failed ∧ reported = (0, 1))) ∧
      ∀ requests, moves = requests.flatMap (Request.moves 0) →
        m.store = after opened requests ∧ m.events = emitted opened requests ∧ m.pending = [] := by
  intro m marks gives reported
  obtain ⟨fresh, hfresh, rfl, hfaults, hfound⟩ := openBatch_eq_ok hopened
  obtain ⟨row, hrow⟩ := (Settling.of_isFresh (hfaults ▸ hup) hfound hfresh).run moves hmoves
  rw [zero_add, zero_add] at hrow
  obtain rfl := batchId_of_batch? hrow.found
  refine ⟨row, hrow.found, hrow.total, le_of_add_le_left hrow.marked.le, ?_, hrow.settled, ?_⟩
  · rw [hrow.tallied.completed_eq, hrow.tallied.failed_eq]
    split_ifs <;> simp_all
  · rintro requests rfl
    exact Session.run_requests { store := opened } requests

/-- A store with one open batch of one item. -/
def sampleStore : Store where
  tables.batches :=
    [{ batchId := Batch.idText [7], deviceId := "D1", total := 1, processed := 0
       status := .processing, createdAt := ⟨1767225600, 0⟩, completedAt := none }]

/-- Two callers count the one item of a batch, each of them sees that it is due, and the one who is
to fail it comes too late. -/
def sampleSchedule : List Move :=
  let ctx : LogContext := { request := "r-1" }
  let now : Timestamp := ⟨1767225600, 0⟩
  let id := Batch.idText [7]
  [.begin now (.mark id), .begin now (.mark id), .begin now (.fail id "aborted")] ++
    [0, 1, 0, 1, 2, 1, 0, 2, 1, 0].map fun place => .advance place ctx now

theorem run_settled_sample :
    let m := Session.run { store := sampleStore } sampleSchedule
    let reported := (m.reported .batchCompleted (Batch.idText [7]),
      m.reported .batchFailed (Batch.idText [7]))
    ∃ row, m.store.tables.batch? (Batch.idText [7]) = some row ∧ row.processed = 2 ∧
      (row.status = .completed ∧ reported = (1, 0) ∨ row.status = .failed ∧ reported = (0, 1)) := by
  have hidle : (Session.run { store := sampleStore } sampleSchedule).pending = [] := by
    have hlength : (Session.run { store := sampleStore } sampleSchedule).pending.length = 0 := by
      decide +kernel
    exact List.length_eq_zero_iff.1 hlength
  have hopened : (Store.openBatch {} { request := "r-1" } ⟨1767225600, 0⟩ [7] "D1" 1).value =
      (.ok (Batch.idText [7]), sampleStore) := by
    rfl
  obtain ⟨row, hrow, -, -, -, hreturned, -⟩ := run_settled hopened Faults.allUp_none sampleSchedule
    (by simp [sampleSchedule])
  obtain ⟨hmarked, -, -, hsettled⟩ := hreturned (by simp [hidle])
  exact ⟨row, hrow, hmarked.trans (by decide +kernel), hsettled (by decide +kernel)⟩

end DeviceGate.Ledger
