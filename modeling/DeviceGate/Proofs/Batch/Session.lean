import DeviceGate.Proofs.Batch.Stage

/-!
Runs of the ledger.  Any number of calls may be under way at the same time; a move begins a call,
lets one of those under way ask the store once, or changes which store calls are down.  A ledger
that is used by one caller at a time, with the same calls down from the beginning of a call to its
end, is the case in which a call is begun when none is under way and then goes on until it has
answered.

* `Ledger.Session`: the store, the calls under way, and what has happened so far.
* `Ledger.Session.run`: the session behind a list of moves.
* `Ledger.Session.run_call`: the moves that make up a whole call have its effect.
* `Ledger.Request`, `Ledger.after`, `Ledger.emitted`: calls of the ledger one after the other, each
  with what is down for it; `Ledger.Session.run_requests`: they make up a run.
* `Ledger.Session.advance_cases`: what a move of a call under way does.
-/

namespace DeviceGate.Ledger

/-- The store, the stages of the calls under way, and what has happened so far. -/
structure Session where
  store : Store
  pending : List Stage := []
  events : List AuditEvent := []
  effects : List Effect := []

/-- One move of a session. -/
inductive Move where
  | begin (now : Timestamp) (call : Call)
  /-- The call at that place among those under way asks the store once. -/
  | advance (place : ℕ) (ctx : LogContext) (now : Timestamp)
  | switch (faults : Faults)

/-- What is left to ask, if anything. -/
def Turn.stages : Turn → List Stage
  | next stage => [stage]
  | answer _ => []

namespace Session

/-- The session behind a move; a place where no call is under way changes nothing. -/
def step (m : Session) : Move → Session
  | .begin now call => { m with pending := m.pending ++ (call.first now).stages }
  | .advance place ctx now =>
      match m.pending[place]? with
      | none => m
      | some stage =>
          let o := stage.advance m.store ctx now
          { store := o.value.store
            pending := m.pending.take place ++ o.value.turn.stages ++ m.pending.drop (place + 1)
            events := m.events ++ o.events
            effects := m.effects ++ [o.value.effect] }
  | .switch faults => { m with store := { m.store with faults := faults } }

/-- The session behind some moves. -/
def run (m : Session) (moves : List Move) : Session :=
  moves.foldl step m

@[simp] lemma run_nil (m : Session) : m.run [] = m :=
  rfl

@[simp] lemma run_cons (m : Session) (move : Move) (moves : List Move) :
    m.run (move :: moves) = (m.step move).run moves :=
  rfl

/-- What every move keeps, every run keeps. -/
lemma run_induction {P : Session → Prop} {m : Session} (h : P m)
    (hstep : ∀ m move, P m → P (m.step move)) (moves : List Move) : P (m.run moves) := by
  induction moves generalizing m with
  | nil => exact h
  | cons move moves ih => exact ih (hstep m move h)

/-- What a move of a call under way does: the call is found between others, asks the store once, and
leaves them as they are. -/
lemma advance_cases (m : Session) (place : ℕ) (ctx : LogContext) (now : Timestamp) :
    m.step (.advance place ctx now) = m ∨
      ∃ before stage after o events, m.pending = before ++ stage :: after ∧
        stage.Does m.store now o events ∧
        m.step (.advance place ctx now) =
          { store := o.store, pending := before ++ o.turn.stages ++ after
            events := m.events ++ events, effects := m.effects ++ [o.effect] } := by
  cases hstage : m.pending[place]? with
  | none => exact .inl (by simp [step, hstage])
  | some stage =>
      obtain ⟨hplace, hget⟩ := List.getElem?_eq_some_iff.1 hstage
      refine .inr ⟨m.pending.take place, stage, m.pending.drop (place + 1), _, _, ?_,
        stage.does_advance m.store ctx now, by simp [step, hstage]⟩
      rw [← hget, List.getElem_cons_drop, List.take_append_drop]

/-! ### Whole calls -/

/-- A call that goes on while the others wait comes to what its stages come to. -/
lemma run_advance (ctx : LogContext) (now : Timestamp) (waiting : List Stage) (n : ℕ) (turn : Turn)
    (m : Session) (h : m.pending = waiting ++ turn.stages) :
    let last := m.run (List.replicate n (.advance waiting.length ctx now))
    let finished := finish ctx now n turn m.store
    last.store = finished.value.2 ∧ last.events = m.events ++ finished.events ∧
      last.pending = waiting ++ finished.value.1.stages := by
  induction n generalizing turn m with
  | zero => exact ⟨rfl, by simp [finish], h⟩
  | succ n ih =>
      cases turn with
      | answer a =>
          have hidle : m.step (.advance waiting.length ctx now) = m := by
            simp [step, h, Turn.stages]
          rw [List.replicate_succ, run_cons, hidle]
          simpa [finish_answer] using ih (.answer a) m h
      | next stage =>
          have hstage : m.pending[waiting.length]? = some stage := by simp [h, Turn.stages]
          rw [List.replicate_succ, run_cons]
          obtain ⟨hstore, hevents, hpending⟩ := ih (stage.advance m.store ctx now).value.turn
            (m.step (.advance waiting.length ctx now)) (by simp [step, h, Turn.stages])
          refine ⟨?_, ?_, ?_⟩
          · simpa [finish, step, hstage] using hstore
          · simpa [finish, step, hstage] using hevents
          · simpa [finish, step, hstage] using hpending

/-- **A whole call.**  The moves of a call that nobody interrupts have the effect of the ledger's
answer to it. -/
theorem run_call (m : Session) (ctx : LogContext) (now : Timestamp) (call : Call) :
    let last := m.run (.begin now call :: List.replicate 4 (.advance m.pending.length ctx now))
    let answered := call.run m.store ctx now
    last.store = answered.value.2 ∧ last.events = m.events ++ answered.events ∧
      last.pending = m.pending := by
  obtain ⟨hstore, hevents, hpending⟩ := run_advance ctx now m.pending 4 (call.first now)
    (m.step (.begin now call)) rfl
  rw [finish_first] at hstore hevents hpending
  rw [Noted.events_map] at hevents
  exact ⟨hstore, hevents, hpending.trans (List.append_nil _)⟩

end Session

/-! ### Calls one after the other -/

/-- A call, and the store calls that are down while it is served. -/
structure Request where
  call : Call
  faults : Faults := Faults.none
  ctx : LogContext := { request := "" }
  now : Timestamp

namespace Request

/-- The store that a request finds. -/
def found (q : Request) (s : Store) : Store :=
  { s with faults := q.faults }

/-- What the ledger makes of a request. -/
def served (q : Request) (s : Store) : Noted (Answer × Store) :=
  q.call.run (q.found s) q.ctx q.now

/-- The moves of a request that nobody interrupts, behind so many calls under way. -/
def moves (waiting : ℕ) (q : Request) : List Move :=
  .switch q.faults :: .begin q.now q.call :: List.replicate 4 (.advance waiting q.ctx q.now)

end Request

/-- The store behind the requests. -/
def after (s : Store) : List Request → Store
  | [] => s
  | q :: rest => after (q.served s).value.2 rest

/-- The events of the requests. -/
def emitted (s : Store) : List Request → List AuditEvent
  | [] => []
  | q :: rest => (q.served s).events ++ emitted (q.served s).value.2 rest

/-- **Whole calls.**  Calls of the ledger one after the other make up a run. -/
theorem Session.run_requests (m : Session) (requests : List Request) :
    let last := m.run (requests.flatMap (Request.moves m.pending.length))
    last.store = after m.store requests ∧ last.events = m.events ++ emitted m.store requests ∧
      last.pending = m.pending := by
  induction requests generalizing m with
  | nil => exact ⟨rfl, (List.append_nil _).symm, rfl⟩
  | cons q rest ih =>
      obtain ⟨hstore, hevents, hpending⟩ := (m.step (.switch q.faults)).run_call q.ctx q.now q.call
      change (m.run (q.moves m.pending.length)).store = (q.served m.store).value.2 at hstore
      change (m.run (q.moves m.pending.length)).events = m.events ++ (q.served m.store).events
        at hevents
      change (m.run (q.moves m.pending.length)).pending = m.pending at hpending
      have hrest := ih (m.run (q.moves m.pending.length))
      rw [hstore, hevents, hpending] at hrest
      rw [List.flatMap_cons, Session.run, List.foldl_append]
      obtain ⟨hlast, hemitted, hwaiting⟩ := hrest
      exact ⟨hlast, hemitted.trans (List.append_assoc ..), hwaiting⟩

end DeviceGate.Ledger
