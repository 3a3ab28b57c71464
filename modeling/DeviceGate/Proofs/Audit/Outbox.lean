import DeviceGate.Proofs.Audit.Emission

/-!
The outbox between the gate and its audit sink.  A call does not wait for its events: they are
queued, and a task of its own hands them to the sink one at a time, while the sink works or fails as
it will.  A caller who wants to know that they have been handled sends a request behind them and
waits until the task comes to it.

* `Outbox.Session`: the gate, what is queued, and what callers have learnt; `Outbox.Session.run`.
* `Outbox.Session.Accounts`: every message that was queued is handled or still queued, in its order,
  and every event that was handled is recorded or counted.
* `Outbox.Session.run_accounts`: a run accounts for its messages.
* `Outbox.Session.run_settled_steps`: a gate that waits for its outbox after every step.
* `Outbox.Session.run_agrees`: the sink neither changes an answer nor loses an event uncounted.
-/

namespace DeviceGate.Outbox

/-- What is queued: an event, or the request of a caller who waits until it is its turn. -/
inductive Message where
  | event (e : AuditEvent)
  | request

namespace Message

/-- The event of a message. -/
def event? : Message → Option AuditEvent
  | event e => some e
  | request => none

/-- The message is a request. -/
def isRequest : Message → Bool
  | event _ => false
  | request => true

end Message

/-- The gate, whose trail is what has been made of the events so far, the messages that are queued,
the answers of the calls, and how many requests have had their turn. -/
structure Session where
  world : World
  queue : List Message := []
  answers : List GateAnswer := []
  flushed : ℕ := 0

/-- One move of a session. -/
inductive Move where
  | call (c : GateCall)
  | request
  /-- The task hands the next message on. -/
  | deliver
  /-- The sink fails from now on, or works again. -/
  | switch (failing : Bool)

namespace Move

/-- The call of a move. -/
def call? : Move → Option GateCall
  | call c => some c
  | _ => none

/-- The move is a request. -/
def isRequest : Move → Bool
  | request => true
  | _ => false

end Move

/-- The calls among some moves. -/
def calls (moves : List Move) : List GateCall :=
  moves.filterMap Move.call?

/-- The messages that some moves queue, if the gate stands there before them. -/
def queued (w : World) : List Move → List Message
  | [] => []
  | .call c :: moves =>
      (w.emissions c.command).map .event ++ queued (w.perform c.command).world moves
  | .request :: moves => .request :: queued w moves
  | _ :: moves => queued w moves

/-- The trail has no say in what is queued. -/
lemma queued_onTrail (w : World) (trail : AuditTrail) (moves : List Move) :
    queued (w.onTrail trail) moves = queued w moves := by
  induction moves generalizing w trail with
  | nil => rfl
  | cons move moves ih =>
      cases move with
      | call c =>
          have hworld := (w.perform_onTrail trail c.blind).2
          rw [queued, hworld, ih]
          rfl
      | request => rw [queued, ih, queued]
      | deliver | switch _ => exact ih w trail

/-- The events among them are those that the calls emit. -/
lemma events_queued (w : World) (moves : List Move) :
    (queued w moves).filterMap Message.event? = w.emitted (calls moves) := by
  induction moves generalizing w with
  | nil => rfl
  | cons move moves ih =>
      cases move with
      | call c =>
          have hcalls : calls (.call c :: moves) = c :: calls moves := rfl
          rw [queued, hcalls, World.emitted_cons, List.filterMap_append, ih]
          simp [Function.comp_def, Message.event?]
      | request | deliver | switch _ => exact ih w

/-- The requests among them are those of the moves. -/
lemma countP_queued (w : World) (moves : List Move) :
    (queued w moves).countP Message.isRequest = moves.countP Move.isRequest := by
  induction moves generalizing w with
  | nil => rfl
  | cons move moves ih =>
      cases move with
      | call c =>
          have hevents :
              ((w.emissions c.command).map Message.event).countP Message.isRequest = 0 := by
            simp [List.countP_eq_zero, Message.isRequest]
          rw [queued, List.countP_append, hevents, ih]
          simp [Move.isRequest]
      | request =>
          rw [queued, List.countP_cons, List.countP_cons, ih]
          rfl
      | deliver | switch _ => simp [queued, ih, Move.isRequest]

namespace Session

/-- The trail with another sink, if it is one in memory. -/
def switched (failing : Bool) (trail : AuditTrail) : AuditTrail :=
  { trail with sink := World.switchSink failing trail.sink }

/-- The session behind a move. -/
def step (m : Session) : Move → Session
  | .call c =>
      { m with
        world := (m.world.perform c.command).world.onTrail m.world.trail
        queue := m.queue ++ (m.world.emissions c.command).map .event
        answers := m.answers ++ [(m.world.perform c.command).answer] }
  | .request => { m with queue := m.queue ++ [.request] }
  | .deliver =>
      match m.queue with
      | [] => m
      | .event e :: rest =>
          { m with world := m.world.onTrail (m.world.trail.deliver e).1, queue := rest }
      | .request :: rest => { m with queue := rest, flushed := m.flushed + 1 }
  | .switch failing => { m with world := m.world.onTrail (switched failing m.world.trail) }

/-- The session behind some moves. -/
def run (m : Session) (moves : List Move) : Session :=
  moves.foldl step m

@[simp] lemma run_nil (m : Session) : m.run [] = m :=
  rfl

@[simp] lemma run_cons (m : Session) (move : Move) (moves : List Move) :
    m.run (move :: moves) = (m.step move).run moves :=
  rfl

lemma run_append (m : Session) (moves moves' : List Move) :
    m.run (moves ++ moves') = (m.run moves).run moves' :=
  List.foldl_append

/-! ### What the gate does -/

/-- The sink has no say in what the gate does and answers. -/
lemma run_world (m : Session) (moves : List Move) :
    (m.run moves).answers = m.answers ++ m.world.answers (calls moves) ∧
    (m.run moves).world =
      (m.world.undisturbed (calls moves)).2.onTrail (m.run moves).world.trail := by
  induction moves generalizing m with
  | nil => exact ⟨(List.append_nil _).symm, rfl⟩
  | cons move moves ih =>
      obtain ⟨hanswers, hworld⟩ := ih (m.step move)
      cases move with
      | call c =>
          have hcalls : calls (.call c :: moves) = c :: calls moves := rfl
          refine ⟨?_, ?_⟩
          · rw [run_cons, hanswers, hcalls, World.answers_cons, step, List.append_assoc]
            rfl
          · rw [run_cons, hworld, hcalls, World.undisturbed_cons]
            rfl
      | request => exact ⟨hanswers, hworld⟩
      | deliver =>
          have hstep : (m.step .deliver).answers = m.answers ∧
              (m.step .deliver).world = m.world.onTrail (m.step .deliver).world.trail := by
            rw [step]
            rcases m.queue with _ | ⟨e | _, rest⟩
            · exact ⟨rfl, rfl⟩
            · exact ⟨rfl, rfl⟩
            · exact ⟨rfl, rfl⟩
          rw [hstep.1, hstep.2] at hanswers
          rw [hstep.2] at hworld
          exact ⟨hanswers, hworld⟩
      | switch failing => exact ⟨hanswers, hworld⟩

/-! ### What becomes of the messages -/

/-- One session has come from another, in which these messages were queued in between: the first of
them are handled and the others still queued, and each event that was handled has been recorded or
counted, as its fate says. -/
structure Accounts (m last : Session) (sent handled : List Message)
    (fates : List (AuditEvent × Bool)) : Prop where
  queue : m.queue ++ sent = handled ++ last.queue
  flushed : last.flushed = m.flushed + handled.countP Message.isRequest
  events : fates.map Prod.fst = handled.filterMap Message.event?
  recorded : last.world.trail.recorded =
    m.world.trail.recorded ++ (fates.filter (·.2)).map Prod.fst
  failed : last.world.trail.failed = m.world.trail.failed + fates.countP (!·.2)

namespace Accounts

variable {m next last : Session} {sent sent' handled handled' : List Message}
  {fates fates' : List (AuditEvent × Bool)}

lemma refl (m : Session) : m.Accounts m [] [] [] :=
  ⟨by simp, by simp, rfl, by simp, by simp⟩

lemma trans (h : m.Accounts next sent handled fates)
    (h' : next.Accounts last sent' handled' fates') :
    m.Accounts last (sent ++ sent') (handled ++ handled') (fates ++ fates') where
  queue := by rw [← List.append_assoc, h.queue, List.append_assoc, h'.queue, List.append_assoc]
  flushed := by rw [h'.flushed, h.flushed, List.countP_append, Nat.add_assoc]
  events := by rw [List.map_append, List.filterMap_append, h.events, h'.events]
  recorded := by
    rw [h'.recorded, h.recorded, List.filter_append, List.map_append, List.append_assoc]
  failed := by rw [h'.failed, h.failed, List.countP_append, Nat.add_assoc]

/-- Every event that was handled is recorded or counted. -/
lemma length_fates (h : m.Accounts last sent handled fates) :
    last.world.trail.recorded.length + last.world.trail.failed =
      m.world.trail.recorded.length + m.world.trail.failed + fates.length := by
  rw [h.recorded, h.failed, List.length_append, List.length_map, ← List.countP_eq_length_filter,
    fates.length_eq_countP_add_countP fun fate => fate.2]
  simp only [Bool.not_eq_true, Bool.decide_eq_false]
  omega

end Accounts

/-- The sink is one in memory. -/
def InMemory (m : Session) : Prop :=
  ∃ failing, m.world.trail.sink = .memory failing

lemma InMemory.step {m : Session} (h : m.InMemory) (move : Move) : (m.step move).InMemory := by
  obtain ⟨failing, hsink⟩ := h
  cases move with
  | call c | request => exact ⟨failing, hsink⟩
  | deliver =>
      rw [Session.step]
      rcases m.queue with _ | ⟨e | _, rest⟩
      · exact ⟨failing, hsink⟩
      · exact ⟨failing, (AuditTrail.sink_deliver _ e).trans hsink⟩
      · exact ⟨failing, hsink⟩
  | switch failing' =>
      refine ⟨failing', ?_⟩
      simp [Session.step, switched, hsink, World.onTrail, World.switchSink]

/-- A move accounts for the messages that it queues, and for the one that it handles. -/
lemma exists_accounts_step {m : Session} (h : m.InMemory) (move : Move) :
    ∃ handled fates, m.Accounts (m.step move) (queued m.world [move]) handled fates := by
  cases move with
  | call c => exact ⟨[], [], by simp [step, queued], rfl, rfl, by simp [step, World.onTrail], rfl⟩
  | request => exact ⟨[], [], by simp [step, queued], rfl, rfl, by simp [step], rfl⟩
  | switch failing =>
      exact ⟨[], [], by simp [step, queued], rfl, rfl, by simp [step, World.onTrail, switched], rfl⟩
  | deliver =>
      obtain ⟨failing, hsink⟩ := h
      rcases hqueue : m.queue with _ | ⟨e | _, rest⟩
      · have hidle : m.step .deliver = m := by simp [step, hqueue]
        rw [hidle]
        exact ⟨[], [], .refl m⟩
      · refine ⟨[.event e], [(e, !failing)], ?_, ?_, ?_, ?_, ?_⟩
        · simp [step, queued, hqueue]
        · simp [step, hqueue, Message.isRequest]
        · simp [Message.event?]
        · cases failing <;> simp [step, hqueue, World.onTrail, AuditTrail.deliver, hsink]
        · cases failing <;> simp [step, hqueue, World.onTrail, AuditTrail.deliver, hsink]
      · refine ⟨[.request], [], ?_, ?_, ?_, ?_, ?_⟩
        · simp [step, queued, hqueue]
        · simp [step, hqueue, Message.isRequest]
        · simp [Message.event?]
        · simp [step, hqueue]
        · simp [step, hqueue]

/-- What a move queues comes before what the later ones queue. -/
lemma queued_cons (m : Session) (move : Move) (moves : List Move) :
    queued m.world (move :: moves) =
      queued m.world [move] ++ queued (m.step move).world moves := by
  cases move with
  | call c => simp [queued, step, queued_onTrail]
  | request => rfl
  | switch failing => simp [queued, step, queued_onTrail]
  | deliver =>
      rw [step]
      rcases m.queue with _ | ⟨e | _, rest⟩
      · rfl
      · simp [queued, queued_onTrail]
      · rfl

lemma queued_append (m : Session) (moves moves' : List Move) :
    queued m.world (moves ++ moves') =
      queued m.world moves ++ queued (m.run moves).world moves' := by
  induction moves generalizing m with
  | nil => rfl
  | cons move moves ih =>
      rw [List.cons_append, queued_cons, ih, queued_cons m move moves, List.append_assoc, run_cons]

/-- **Accounting.**  A run accounts for the messages that it queues. -/
lemma run_accounts {m : Session} (h : m.InMemory) (moves : List Move) :
    ∃ handled fates, m.Accounts (m.run moves) (queued m.world moves) handled fates := by
  induction moves generalizing m with
  | nil => exact ⟨[], [], .refl m⟩
  | cons move moves ih =>
      obtain ⟨handled, fates, hfirst⟩ := exists_accounts_step h move
      obtain ⟨handled', fates', hrest⟩ := ih (h.step move)
      rw [queued_cons]
      exact ⟨_, _, hfirst.trans hrest⟩

/-- As many deliveries as messages are queued empty the queue. -/
lemma queue_run_deliver (m : Session) (n : ℕ) :
    (m.run (List.replicate n .deliver)).queue = m.queue.drop n := by
  induction n generalizing m with
  | zero => rfl
  | succ n ih =>
      have hstep : (m.step .deliver).queue = m.queue.tail := by
        rcases hqueue : m.queue with _ | ⟨e | _, rest⟩
        · simp [step, hqueue]
        · simp [step, hqueue]
        · simp [step, hqueue]
      rw [List.replicate_succ, run_cons, ih, hstep, List.drop_tail]

lemma queued_deliver (w : World) (n : ℕ) : queued w (List.replicate n .deliver) = [] := by
  induction n with
  | zero => rfl
  | succ n ih => exact ih

/-- A task that goes on until nothing is queued has given every request its turn. -/
lemma flushed_run_deliver {m : Session} (h : m.InMemory) (hidle : m.queue = [])
    (moves : List Move) :
    ((m.run moves).run (List.replicate (m.run moves).queue.length .deliver)).flushed =
      m.flushed + moves.countP Move.isRequest := by
  have hempty := queue_run_deliver (m.run moves) (m.run moves).queue.length
  rw [List.drop_length] at hempty
  obtain ⟨handled, fates, haccounts⟩ :=
    run_accounts h (moves ++ List.replicate (m.run moves).queue.length .deliver)
  rw [run_append] at haccounts
  have hqueue := haccounts.queue
  rw [hidle, hempty, queued_append, queued_deliver, List.nil_append, List.append_nil,
    List.append_nil] at hqueue
  rw [haccounts.flushed, ← hqueue, countP_queued]

/-- Once a request has had its turn, no event that was emitted before it is still queued. -/
lemma events_queue_of_flushed {m : Session} {before after : List Move} {handled : List Message}
    {fates : List (AuditEvent × Bool)} (hidle : m.queue = []) (hlast : calls after = [])
    (haccounts : m.Accounts (m.run (before ++ .request :: after))
      (queued m.world (before ++ .request :: after)) handled fates)
    (hflushed : m.flushed + before.countP Move.isRequest <
      (m.run (before ++ .request :: after)).flushed) :
    (m.run (before ++ .request :: after)).queue.filterMap Message.event? = [] := by
  have hqueue := haccounts.queue
  rw [hidle, List.nil_append, queued_append, queued] at hqueue
  have hlater := events_queued (m.run before).world after
  have hrequests := countP_queued m.world before
  have hhandled := haccounts.flushed
  rw [hlast] at hlater
  rcases List.append_eq_append_iff.1 hqueue with ⟨rest, heq, hrest⟩ | ⟨rest, heq, -⟩
  · cases rest with
    | nil =>
        rw [heq, List.append_nil] at hhandled
        omega
    | cons message rest =>
        rw [List.cons_append, List.cons.injEq] at hrest
        rw [hrest.2, List.filterMap_append] at hlater
        exact (List.append_eq_nil_iff.1 hlater).2
  · rw [heq, List.countP_append] at hrequests
    omega

/-! ### A gate that waits for its outbox -/

/-- The task hands on the events that stand first in the queue. -/
lemma run_deliver (m : Session) (es : List AuditEvent) (rest : List Message)
    (hqueue : m.queue = es.map .event ++ rest) :
    m.run (List.replicate es.length .deliver) =
      { m with
        world := m.world.onTrail (m.world.trail.deliverAll es).1
        queue := rest } := by
  induction es generalizing m with
  | nil =>
      rw [List.map_nil, List.nil_append] at hqueue
      rw [← hqueue]
      rfl
  | cons e es ih =>
      have hstep : m.step .deliver =
          { m with
            world := m.world.onTrail (m.world.trail.deliver e).1
            queue := es.map .event ++ rest } := by
        simp only [step, hqueue, List.map_cons, List.cons_append]
      rw [List.length_cons, List.replicate_succ, run_cons, hstep, ih _ rfl]
      rfl

end Session

/-- A step of a gate that waits for its outbox: a call, or a switch of the sink. -/
inductive Step where
  | call (c : GateCall)
  | switch (failing : Bool)

namespace Step

/-- The command of a step. -/
def command : Step → GateCommand
  | call c => c.command
  | switch failing => .sinkFailing failing

/-- The answer that a caller gets in a step. -/
def answer? (a : GateAnswer) : Step → Option GateAnswer
  | call _ => some a
  | switch _ => none

/-- The move of a step. -/
def move : Step → Move
  | call c => .call c
  | switch failing => .switch failing

end Step

namespace Session

/-- The moves of some steps, each of which is followed by the delivery of its events. -/
def settled (w : World) : List Step → List Move
  | [] => []
  | s :: steps =>
      s.move :: List.replicate (queued w [s.move]).length .deliver ++
        settled (w.perform s.command).world steps

/-- A step whose events are delivered behind it does what the gate does. -/
lemma run_settle (m : Session) (hidle : m.queue = []) (s : Step) :
    m.run (s.move :: List.replicate (queued m.world [s.move]).length .deliver) =
      { m with
        world := (m.world.perform s.command).world
        answers := m.answers ++ (s.answer? (m.world.perform s.command).answer).toList } := by
  cases s with
  | call c =>
      have hqueued : queued m.world [.call c] = (m.world.emissions c.command).map .event := by
        simp [queued]
      have hqueue : (m.step (.call c)).queue = (m.world.emissions c.command).map .event ++ [] := by
        rw [step, hidle]
        simp
      have hworld : (m.world.perform c.command).world.onTrail
          (m.world.trail.deliverAll (m.world.emissions c.command)).1 =
            (m.world.perform c.command).world :=
        (m.world.perform_onTrail m.world.trail c.blind).2.symm
      rw [Step.move, run_cons, hqueued, List.length_map, run_deliver _ _ _ hqueue, Step.command,
        ← hworld, hidle]
      rfl
  | switch failing =>
      rw [Step.answer?, Option.toList_none, List.append_nil]
      rfl

/-- **A gate that waits for its outbox.**  When the events of every step are delivered before the
next one, the outbox has no say in anything: the session is that of the gate, whose trail gets its
events at once. -/
theorem run_settled_steps (m : Session) (hidle : m.queue = []) (steps : List Step) :
    let last := m.run (settled m.world steps)
    let performed := m.world.performAll (steps.map Step.command)
    last.queue = [] ∧ last.world = performed.2 ∧
      last.answers = m.answers ++
        (steps.zip performed.1).filterMap fun p => p.1.answer? p.2.1 := by
  induction steps generalizing m with
  | nil => exact ⟨hidle, rfl, (List.append_nil _).symm⟩
  | cons s steps ih =>
      let next : Session :=
        { m with
          world := (m.world.perform s.command).world
          answers := m.answers ++ (s.answer? (m.world.perform s.command).answer).toList }
      have hrun : m.run (settled m.world (s :: steps)) = next.run (settled next.world steps) := by
        rw [settled, run_append, run_settle m hidle s]
      obtain ⟨hqueue, hworld, hanswers⟩ := ih next hidle
      rw [hrun]
      refine ⟨hqueue, hworld, ?_⟩
      rw [hanswers, List.append_assoc, List.map_cons, World.performAll]
      simp only [List.zip_cons_cons]
      cases s <;> rfl

/-! ### The sink -/

/-- **The sink neither decides anything nor loses an event uncounted.**  Whatever calls are made,
and however the sink is switched and the outbox gets on in between, the calls answer and the gate
becomes what they would on a trail that loses nothing.  The events are those of that other session,
each once: the first of them have been handled, and are recorded in their order or counted, and the
others are still queued.  None is queued any more once a request that came behind the last call has
had its turn; and every request has its turn if the outbox goes on.  The events of that other
session are those of its calls, one after the other, and a call on the state of the gate emits what
it notes. -/
theorem run_agrees (w : World) (failing : Bool) (recorded : List AuditEvent) (lost : ℕ)
    (moves : List Move) :
    let trail : AuditTrail := ⟨.memory failing, recorded, lost⟩
    let m := Session.run { world := w.onTrail trail } moves
    let other := w.undisturbed (calls moves)
    m.answers = other.1.map (·.1) ∧ m.world = other.2.onTrail m.world.trail ∧
    (∃ fates : List (AuditEvent × Bool),
      fates.map Prod.fst ++ m.queue.filterMap Message.event? = other.2.trail.recorded ∧
      m.world.trail.recorded = recorded ++ (fates.filter (·.2)).map Prod.fst ∧
      m.world.trail.failed = lost + fates.countP (!·.2)) ∧
    (∀ before after, moves = before ++ .request :: after → calls after = [] →
      before.countP Move.isRequest < m.flushed →
      m.world.trail.recorded.length + m.world.trail.failed =
        recorded.length + lost + other.2.trail.recorded.length) ∧
    (m.run (List.replicate m.queue.length .deliver)).flushed = moves.countP Move.isRequest ∧
    other.2.trail.recorded = w.told (calls moves) ∧
    ∀ (w' : World) (c : GateCommand) (act : World → Act GateState GateAnswer),
      (∀ w : World, w.perform c = w.answerWith (act w)) →
      (∀ trail, act (w'.onTrail trail) = act w') → w'.emissions c = (act w' w'.state).events := by
  intro trail m other
  let first : Session := { world := w.onTrail trail }
  obtain ⟨hanswers, hworld⟩ := first.run_world moves
  obtain ⟨handled, fates, haccounts⟩ := run_accounts (m := first) ⟨failing, rfl⟩ moves
  have hevents : fates.map Prod.fst ++ m.queue.filterMap Message.event? =
      other.2.trail.recorded := by
    rw [haccounts.events, ← List.filterMap_append, ← haccounts.queue]
    exact events_queued first.world moves
  refine ⟨hanswers, hworld, ⟨fates, hevents, haccounts.recorded, haccounts.failed⟩, ?_, ?_,
    w.emitted_eq_told (calls moves), fun _ _ => World.emissions_answerWith⟩
  · rintro before after rfl hlast hflushed
    have hnone := events_queue_of_flushed rfl hlast haccounts (by simpa [first] using hflushed)
    rw [← hevents, hnone, List.append_nil, List.length_map]
    exact haccounts.length_fates
  · exact (flushed_run_deliver (m := first) ⟨failing, rfl⟩ rfl moves).trans (Nat.zero_add _)

end Session

end DeviceGate.Outbox
