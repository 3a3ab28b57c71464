import DeviceGate.Certificate.Desk
import DeviceGate.Gate.World
import DeviceGate.Proofs.Schedule.Deadlines

/-!
The two background loops, the sweeps of a world and the rotations of a desk, as tasks.

* `Place.phase`, `Task.phase?`: what is seen of a task.
* `Rhythm.Drives`, `Rhythm.advance_ticks`: a loop that runs all its cycles up to some moment does
  what the task does second by second.
* `LoopOrder`: what is done to a loop; `LoopOrder.spelled`: what it means to the task.
* `World.sweeps`, `Desk.rotations`: the loops; `World.shown`, `Desk.shown`: the states that the
  tasks bring about.
-/

namespace DeviceGate

variable {σ ο τ : Type}

lemma Clock.le_wake (moment seconds : ℕ) : moment ≤ Clock.wake moment seconds := by
  rw [wake, after?]
  split
  · exact Nat.le_add_right ..
  · exact Nat.le_add_right ..

/-- The phase of a loop, which does not tell the head of the loop from the wait. -/
def Place.phase : Place → LoopPhase
  | .head deadline | .waiting deadline => .waiting deadline
  | .finished => .finished
  | .stranded => .stranded

/-- The phase of a loop that is told by somebody. -/
def Task.phase? (t : Task σ ο) : Option LoopPhase :=
  if t.sender then some t.place.phase else none

namespace Rhythm

/-- So many seconds, one at a time. -/
def ticks (l : Rhythm σ ο) (seconds : ℕ) (t : Task σ ο) : Task σ ο :=
  (List.replicate seconds (.pass 1)).foldl l.after t

/-- A cycle on states that show those of a loop. -/
structure Drives (l : Rhythm σ ο) (cycle : τ → ℕ × τ) (Shows : τ → σ → Prop) : Prop where
  wait : ∀ {x s}, Shows x s → (cycle x).1 = l.waitBehind (l.turn s).1
  state : ∀ {x s}, Shows x s → Shows (cycle x).2 (l.turn s).2

variable {l : Rhythm σ ο} {t : Task σ ο} {d : ℕ}

/-! ### Phases -/

lemma phase_looked {moment wait : ℕ} (hplace : t.place = .entering moment wait) :
    t.looked.place.phase = (LoopPhase.waitingFrom moment wait).notified t.value := by
  rw [LoopPhase.waitingFrom]
  rw [Place.entering] at hplace
  cases hnext : Clock.after? moment wait with
  | none =>
    simp only [hnext] at hplace
    rw [Task.looked_of_stranded hplace, hplace]
    rfl
  | some deadline =>
    simp only [hnext] at hplace
    rw [Task.looked_of_head hplace]
    cases t.value with
    | true => rfl
    | false => rfl

lemma notified_false (p : LoopPhase) : p.notified false = p := by
  cases p with
  | waiting _ | finished | stranded => rfl

lemma phase_started (now : ℕ) (signal unseen : Bool) (s : σ) :
    (l.started now signal unseen s).place.phase =
      (LoopPhase.waitingFrom now l.interval).notified signal :=
  phase_looked rfl

lemma notified_of_over {p : Place} (h : p.IsOver) (value : Bool) :
    p.phase.notified value = p.phase := by
  rcases h with rfl | rfl
  · rfl
  · rfl

/-- What a notification does to a loop, as far as it can be seen. -/
lemma after_notify_shows (hrests : t.Rests) (value : Bool) :
    (l.after t (.notify value)).state = t.state ∧
      (l.after t (.notify value)).phase? = t.phase?.map (LoopPhase.notified value) := by
  cases hrests with
  | waiting hplace _ _ hsender _ =>
      rw [after_notify hplace hsender, Task.phase?, Task.phase?, if_pos hsender, if_pos hsender,
        hplace]
      cases value with
      | true => exact ⟨rfl, rfl⟩
      | false => exact ⟨rfl, rfl⟩
  | ended hover =>
      have hsame : t.hears (.notify value) = t := if_neg fun h => h.2 hover
      rw [after_of_over hover, hsame, Task.phase?]
      refine ⟨rfl, ?_⟩
      split
      · rw [Option.map_some, notified_of_over hover]
      · rfl

lemma phase?_after_drop (t : Task σ ο) : (l.after t .drop).phase? = none := by
  have hsender : (l.after t .drop).sender = false := by
    rw [after]
    split
    · rfl
    · rfl
  rw [Task.phase?, hsender]
  rfl

/-! ### Second by second -/

lemma ticks_succ (n : ℕ) : l.ticks (n + 1) t = l.ticks n (l.after t (.pass 1)) := rfl

lemma now_ticks (n : ℕ) : (l.ticks n t).now = t.now + n := by
  rw [ticks, now_foldl, List.map_replicate, List.sum_replicate]
  simp [Occurrence.seconds]

lemma sender_after_pass (n : ℕ) : (l.after t (.pass n)).sender = t.sender := by
  cases hplace : t.place with
  | waiting d =>
      rw [after_pass hplace]
      split
      · exact (Task.looked_keeps _).2.1
      · rfl
  | head _ | finished | stranded =>
      rw [after, hplace]
      rfl

lemma sender_ticks (n : ℕ) : (l.ticks n t).sender = t.sender := by
  induction n generalizing t with
  | zero => rfl
  | succ n ih => rw [ticks_succ, ih, sender_after_pass]

variable {cycle : τ → ℕ × τ} {Shows : τ → σ → Prop} {x : τ}

/-- A cycle that is due is run, and what follows is the loop that waits from then on. -/
lemma runUntil_of_due {target : ℕ} (hdue : d ≤ target) (hwait : 0 < (cycle x).1) :
    LoopPhase.runUntil cycle target d x =
      (LoopPhase.waitingFrom d (cycle x).1).advance cycle target (cycle x).2 := by
  rw [LoopPhase.runUntil, if_pos hdue, LoopPhase.waitingFrom]
  cases hnext : Clock.after? d (cycle x).1 with
  | none => simp only [hnext, LoopPhase.advance]
  | some next =>
      have hlater : d < next := by
        obtain ⟨-, rfl⟩ := Clock.after?_eq_some_iff.mp hnext
        omega
      simp only [hnext, if_pos hlater, LoopPhase.advance]

lemma advance_of_over {p : Place} (h : p.IsOver) (target : ℕ) :
    p.phase.advance cycle target x = (p.phase, x) := by
  rcases h with rfl | rfl
  · rfl
  · rfl

/-- A loop that runs all its cycles up to some moment does what the task does second by second. -/
lemma advance_ticks (hpos : l.Positive) (hdrives : l.Drives cycle Shows) (n : ℕ)
    (hrests : t.Rests) (hshows : Shows x t.state) :
    (t.place.phase.advance cycle (t.now + n) x).1 = (l.ticks n t).place.phase ∧
      Shows (t.place.phase.advance cycle (t.now + n) x).2 (l.ticks n t).state := by
  induction n generalizing t x with
  | zero =>
      have hstays : t.place.phase.advance cycle (t.now + 0) x = (t.place.phase, x) := by
        cases hrests with
        | @waiting d hplace _ _ _ hlater =>
            have hearly : ¬ d ≤ t.now + 0 := Nat.not_le_of_lt hlater
            rw [hplace, Place.phase, LoopPhase.advance, LoopPhase.runUntil, if_neg hearly]
        | ended hover => exact advance_of_over hover _
      rw [hstays]
      exact ⟨rfl, hshows⟩
  | succ n ih =>
      have hnext := rests_after hpos hrests (.pass 1)
      have htarget : t.now + (n + 1) = (l.after t (.pass 1)).now + n := by
        rw [now_after, Occurrence.seconds]
        omega
      rw [ticks_succ, htarget]
      cases hrests with
      | @waiting d hplace hvalue hseen hsender hlater =>
          by_cases hdue : d ≤ t.now + 1
          · -- the deadline is the very next second, and the rest is the loop behind this cycle
            obtain rfl : d = t.now + 1 := by omega
            have hfired : l.after t (.pass 1) = (l.fired { t with now := t.now + 1 }).looked := by
              rw [after_pass hplace, if_pos hdue]
            have hphase : (l.after t (.pass 1)).place.phase =
                LoopPhase.waitingFrom (t.now + 1) (cycle x).1 := by
              have hquiet : (l.fired { t with now := t.now + 1 }).value = false := hvalue
              rw [hfired, phase_looked rfl, hdrives.wait hshows, hquiet, notified_false]
            have hstate : (l.after t (.pass 1)).state = (l.turn t.state).2 := by
              rw [hfired, (Task.looked_keeps _).2.2.2]
              rfl
            have hwait : 0 < (cycle x).1 := by
              rw [hdrives.wait hshows]
              exact hpos.waitBehind _
            have hlate : t.now + 1 ≤ (l.after t (.pass 1)).now + n := by
              rw [now_after, Occurrence.seconds]
              omega
            rw [hplace, Place.phase, LoopPhase.advance, runUntil_of_due hlate hwait, ← hphase]
            exact ih hnext (hstate ▸ hdrives.state hshows)
          · have hsame : l.after t (.pass 1) = { t with now := t.now + 1 } := by
              rw [after_pass hplace, if_neg hdue]
            rw [hsame] at hnext ⊢
            exact ih hnext hshows
      | ended hover =>
          have hsame : l.after t (.pass 1) = { t with now := t.now + 1 } := after_of_over hover
          rw [hsame] at hnext ⊢
          exact ih hnext hshows

end Rhythm

/-! ### What is done to a loop -/

/-- What is done to a loop that runs. -/
inductive LoopOrder where
  | advance (seconds : ℕ)
  | signal (value : Bool)
  | dropSignal
  deriving DecidableEq

namespace LoopOrder

/-- The order as a command to a world. -/
def gateCommand : LoopOrder → GateCommand
  | advance seconds => .advance seconds
  | signal value => .signal value
  | dropSignal => .dropSignal

/-- The order as a command to a desk. -/
def deskCommand : LoopOrder → DeskCommand
  | advance seconds => .advance seconds
  | signal value => .signal value
  | dropSignal => .dropSignal

/-- What an order means to a task.  A clock that is moved on shows every second on the way. -/
def occurrences (now : ℕ) : LoopOrder → List Occurrence
  | advance seconds => List.replicate (Clock.wake now seconds - now) (.pass 1)
  | signal value => [.notify value]
  | dropSignal => [.drop]

/-- The moment behind an order. -/
def clock (now : ℕ) : LoopOrder → ℕ
  | advance seconds => Clock.wake now seconds
  | signal _ | dropSignal => now

/-- What several orders mean to a task. -/
def spelled (now : ℕ) : List LoopOrder → List Occurrence
  | [] => []
  | order :: rest => order.occurrences now ++ spelled (order.clock now) rest

lemma sum_occurrences (now : ℕ) (order : LoopOrder) :
    now + ((order.occurrences now).map Occurrence.seconds).sum = order.clock now := by
  cases order with
  | advance seconds =>
      have hlater := Clock.le_wake now seconds
      rw [occurrences, clock, List.map_replicate, List.sum_replicate, Occurrence.seconds]
      simp only [smul_eq_mul, mul_one]
      omega
  | signal _ | dropSignal => rfl

end LoopOrder

/-! ### Systems that run a loop -/

/-- A system that runs a loop, which is one of its parts along with the clock. -/
structure LoopHost (l : Rhythm σ ο) (τ : Type) where
  /-- The system over a state of the loop, with the loop in some phase and the clock at a moment. -/
  placed : σ → Option LoopPhase → ℕ → τ
  cycle : τ × List LogLine → ℕ × τ × List LogLine
  runDue : τ → τ
  start : Bool → τ → τ
  obey : LoopOrder → τ → τ
  drives : ∀ loop now, l.Drives cycle fun x s => x.1 = placed s loop now
  runDue_none : ∀ s now, runDue (placed s none now) = placed s none now
  runDue_some : ∀ {s s' : σ} {phase : LoopPhase} {now : ℕ},
    (phase.advance cycle now (placed s (some phase) now, [])).2.1 = placed s' (some phase) now →
      runDue (placed s (some phase) now) =
        placed s' (some (phase.advance cycle now (placed s (some phase) now, [])).1) now
  start_placed : ∀ signal s loop now, start signal (placed s loop now) =
    runDue (placed s (some ((LoopPhase.waitingFrom now l.interval).notified signal)) now)
  obey_advance : ∀ seconds s loop now,
    obey (.advance seconds) (placed s loop now) = runDue (placed s loop (Clock.wake now seconds))
  obey_signal : ∀ value s loop now,
    obey (.signal value) (placed s loop now) = placed s (loop.map (LoopPhase.notified value)) now
  obey_dropSignal : ∀ s loop now, obey .dropSignal (placed s loop now) = placed s none now

namespace LoopHost

variable {l : Rhythm σ ο} {h : LoopHost l τ} {t : Task σ ο}

/-- The system that a task brings about. -/
def shown (h : LoopHost l τ) (t : Task σ ο) : τ := h.placed t.state t.phase? t.now

lemma runDue_shown (hpos : l.Positive) (hrests : t.Rests) (n : ℕ) :
    h.runDue (h.placed t.state t.phase? (t.now + n)) = h.shown (l.ticks n t) := by
  have hnow : (l.ticks n t).now = t.now + n := Rhythm.now_ticks n
  have hsender : (l.ticks n t).sender = t.sender := Rhythm.sender_ticks n
  rw [shown, hnow]
  by_cases htold : t.sender = true
  · obtain ⟨hphase, hshows⟩ := Rhythm.advance_ticks hpos
      (h.drives (some t.place.phase) (t.now + n)) n hrests
      (x := (h.placed t.state (some t.place.phase) (t.now + n), [])) rfl
    rw [Task.phase?, if_pos htold, h.runDue_some hshows, hphase, Task.phase?, hsender,
      if_pos htold]
  · have hover : t.place.IsOver := by
      cases hrests with
      | waiting _ _ _ hsender _ => exact absurd hsender htold
      | ended hover => exact hover
    have hstate : (l.ticks n t).state = t.state := (Rhythm.foldl_of_over hover _).2.1
    rw [Task.phase?, if_neg htold, h.runDue_none, hstate, Task.phase?, hsender, if_neg htold]

lemma start_shown (hpos : l.Positive) (signal unseen : Bool) (s : σ) (loop : Option LoopPhase)
    (now : ℕ) :
    h.start signal (h.placed s loop now) = h.shown (l.started now signal unseen s) := by
  obtain ⟨hnow, hsender, -, hstate⟩ := (l.begun now signal unseen s).looked_keeps
  have htold : (l.started now signal unseen s).sender = true := hsender
  have hphase : (l.started now signal unseen s).phase? =
      some ((LoopPhase.waitingFrom now l.interval).notified signal) := by
    rw [Task.phase?, if_pos htold, Rhythm.phase_started]
  have hrests : (l.started now signal unseen s).Rests := Rhythm.rests_started hpos
  have hrun := runDue_shown (h := h) hpos hrests 0
  rw [hphase] at hrun
  rw [h.start_placed]
  rwa [Rhythm.started, hstate, hnow] at hrun

lemma obey_shown (hpos : l.Positive) (hrests : t.Rests) (order : LoopOrder) :
    h.obey order (h.shown t) = h.shown ((order.occurrences t.now).foldl l.after t) := by
  cases order with
  | advance seconds =>
      obtain ⟨n, hn⟩ := Nat.exists_eq_add_of_le (Clock.le_wake t.now seconds)
      rw [shown, h.obey_advance, hn, runDue_shown hpos hrests, LoopOrder.occurrences, hn,
        Nat.add_sub_cancel_left, Rhythm.ticks]
  | signal value =>
      obtain ⟨hstate, hphase⟩ := Rhythm.after_notify_shows hrests value
      rw [shown, h.obey_signal, LoopOrder.occurrences, List.foldl_cons, List.foldl_nil, shown,
        hstate, hphase, Rhythm.now_after, Occurrence.seconds, Nat.add_zero]
  | dropSignal =>
      obtain ⟨-, hstate, -⟩ := Rhythm.after_of_ends (l := l) hrests (.inr rfl)
      rw [shown, h.obey_dropSignal, LoopOrder.occurrences, List.foldl_cons, List.foldl_nil, shown,
        hstate, Rhythm.phase?_after_drop, Rhythm.now_after, Occurrence.seconds, Nat.add_zero]

/-- A system that obeys several orders shows what they mean to the task. -/
lemma foldl_shown (hpos : l.Positive) (hrests : t.Rests) (orders : List LoopOrder) :
    orders.foldl (fun x order => h.obey order x) (h.shown t) =
      h.shown ((LoopOrder.spelled t.now orders).foldl l.after t) := by
  induction orders generalizing t with
  | nil => rfl
  | cons order rest ih =>
      have hrests' := Rhythm.rests_foldl hpos hrests (order.occurrences t.now)
      rw [List.foldl_cons, obey_shown hpos hrests, ih hrests', LoopOrder.spelled,
        List.foldl_append, Rhythm.now_foldl, LoopOrder.sum_occurrences]

/-- **A system does to its loop what the orders mean to the task.** -/
lemma exists_course (hpos : l.Positive) (signal unseen : Bool) (s : σ) (loop : Option LoopPhase)
    (now : ℕ) (orders : List LoopOrder) :
    ∃ t, l.Course now signal unseen s (LoopOrder.spelled now orders) t ∧
      orders.foldl (fun x order => h.obey order x) (h.start signal (h.placed s loop now)) =
        h.shown t := by
  have hnow : (l.started now signal unseen s).now = now :=
    (l.begun now signal unseen s).looked_keeps.1
  refine ⟨_, (Rhythm.course_iff hpos).mpr rfl, ?_⟩
  rw [start_shown hpos signal unseen, foldl_shown hpos (Rhythm.rests_started hpos), hnow]

end LoopHost

/-! ### The sweeps of a world -/

namespace World

/-- The sweeps of a world, over its state and its trail. -/
def sweeps (w : World) : Rhythm (GateState × AuditTrail) (List LogLine) where
  interval := w.config.sweepInterval
  turn s :=
    let ((), swept, lines) :=
      { w with state := s.1, trail := s.2 }.run (sweepNow w.config.deviceTimeout)
    (lines, swept.state, swept.trail)
  waitBehind _ := w.config.sweepInterval

lemma sweeps_positive {w : World} (h : 0 < w.config.sweepInterval) : w.sweeps.Positive :=
  ⟨h, fun _ => h⟩

/-- The world as the system that runs its sweeps. -/
def sweeping (w : World) : LoopHost w.sweeps World where
  placed s loop now := { w with state := s.1, trail := s.2, loop := loop, elapsed := now }
  cycle := runCycle
  runDue x := x.runDue.1
  start signal x := (x.startLoop signal).world
  obey order x := (x.perform order.gateCommand).world
  drives loop now :=
    { wait := by
        rintro ⟨x, lines⟩ s rfl
        rfl
      state := by
        rintro ⟨x, lines⟩ s rfl
        rfl }
  runDue_none _ _ := rfl
  runDue_some h := by
    simp only [World.runDue, h]
  start_placed signal s loop now := by
    cases loop with
    | none => rfl
    | some phase => rfl
  obey_advance _ _ _ _ := rfl
  obey_signal value s loop now := by
    cases loop with
    | none => rfl
    | some phase => rfl
  obey_dropSignal s loop now := by
    cases loop with
    | none => rfl
    | some phase => rfl

end World

/-! ### The rotations of a desk -/

namespace Desk

/-- The rotations of a desk, over its authority, its connection and its trail. -/
def rotations (d : Desk) :
    Rhythm ((ScriptedAuthority × RehearsedConnection) × AuditTrail)
      (RotationOutcome × List LogLine) where
  interval := d.interval
  turn s :=
    let (outcome, rotated, lines) :=
      { d with authority := s.1.1, connection := s.1.2, trail := s.2 }.run (cycle d.request)
    ((outcome, lines), (rotated.authority, rotated.connection), rotated.trail)
  waitBehind o :=
    match o.1 with
    | .failed _ => d.retryInterval
    | _ => d.interval

lemma rotations_positive {d : Desk} (hinterval : 0 < d.interval) (hretry : 0 < d.retryInterval) :
    d.rotations.Positive := by
  refine ⟨hinterval, ?_⟩
  rintro ⟨outcome, lines⟩
  cases outcome with
  | failed message => exact hretry
  | unchanged | rotated serial => exact hinterval

/-- The desk as the system that runs its rotations. -/
def rotating (d : Desk) : LoopHost d.rotations Desk where
  placed s loop now :=
    { d with
      authority := s.1.1
      connection := s.1.2
      trail := s.2
      loop := loop
      elapsed := now }
  cycle := runCycle
  runDue x := x.runDue.1
  start signal x := (x.startLoop signal).1
  obey order x := (x.perform order.deskCommand).2.1
  drives loop now :=
    { wait := by
        rintro ⟨x, lines⟩ s rfl
        rfl
      state := by
        rintro ⟨x, lines⟩ s rfl
        rfl }
  runDue_none _ _ := rfl
  runDue_some h := by
    simp only [Desk.runDue, h]
  start_placed signal s loop now := by
    cases loop with
    | none => rfl
    | some phase => rfl
  obey_advance _ _ _ _ := rfl
  obey_signal value s loop now := by
    cases loop with
    | none => rfl
    | some phase => rfl
  obey_dropSignal s loop now := by
    cases loop with
    | none => rfl
    | some phase => rfl

end Desk

/-! ### Both loops -/

lemma World.performAll_orders (w : World) (orders : List LoopOrder) :
    (w.performAll (orders.map LoopOrder.gateCommand)).2 =
      orders.foldl (fun x order => (x.perform order.gateCommand).world) w := by
  induction orders generalizing w with
  | nil => rfl
  | cons order rest ih =>
      rw [List.map_cons, performAll, List.foldl_cons, ← ih]

/-- **The background loops keep their schedule.**  The sweeps of a world are run one interval after
one another, the rotations of a desk one interval after one another or, behind a failed one, one
retry interval later, except that a loop has broken down once the clock never shows its next
deadline; `false` notifications make no difference, and a loop that was told to end, or has lost its
sender, is over for good.  What the commands do to the world and to the desk is what they mean to
these tasks.  Intervals and advances are whole seconds, as the settings have them, and the clock of
the loops stands still while a cycle is run. -/
theorem loops_keep_schedule (signal unseen : Bool) (orders : List LoopOrder) :
    (∀ w : World, 0 < w.config.sweepInterval →
      w.sweeps.KeepsSchedule w.elapsed signal unseen (w.state, w.trail) ∧
      ∃ t, w.sweeps.Course w.elapsed signal unseen (w.state, w.trail)
          (LoopOrder.spelled w.elapsed orders) t ∧
        (w.performAll (.startSweeps signal :: orders.map LoopOrder.gateCommand)).2 =
          w.sweeping.shown t) ∧
    ∀ d : Desk, 0 < d.interval → 0 < d.retryInterval →
      d.rotations.KeepsSchedule d.elapsed signal unseen ((d.authority, d.connection), d.trail) ∧
      ∃ t, d.rotations.Course d.elapsed signal unseen ((d.authority, d.connection), d.trail)
          (LoopOrder.spelled d.elapsed orders) t ∧
        (DeskCommand.startLoop signal :: orders.map LoopOrder.deskCommand).foldl
            (fun x command => (x.perform command).2.1) d =
          d.rotating.shown t := by
  constructor
  · intro w hinterval
    have hpos := World.sweeps_positive hinterval
    refine ⟨Rhythm.keepsSchedule hpos _ _ _ _, ?_⟩
    obtain ⟨t, hcourse, hshown⟩ := LoopHost.exists_course (h := w.sweeping) hpos signal unseen
      (w.state, w.trail) w.loop w.elapsed orders
    refine ⟨t, hcourse, ?_⟩
    rw [World.performAll, World.performAll_orders]
    exact hshown
  · intro d hinterval hretry
    have hpos := Desk.rotations_positive hinterval hretry
    refine ⟨Rhythm.keepsSchedule hpos _ _ _ _, ?_⟩
    obtain ⟨t, hcourse, hshown⟩ := LoopHost.exists_course (h := d.rotating) hpos signal unseen
      ((d.authority, d.connection), d.trail) d.loop d.elapsed orders
    refine ⟨t, hcourse, ?_⟩
    rw [List.foldl_cons, List.foldl_map]
    exact hshown

/-- A world that sweeps twice a minute. -/
def World.watchful : World where
  config :=
    { policy := {}
      admission := ⟨none, 60⟩
      publishSecret := none
      deviceTimeout := 60
      sweepInterval := 30 }
  state :=
    { records := { store := {}, cache := {} }
      clock := ⟨1767225600, 0⟩
      entropy := { seed := [] } }
  trail := { sink := .memory false }

/-- A desk whose authority is down, and that waits for longer than its clock counts before it asks
again. -/
def Desk.patient : Desk where
  request := ⟨"ares-server", "ares-role"⟩
  authority := { script := .failing (.transport "down"), clock := ⟨1767225600, 0⟩ }
  connection := { connector := { mode := .detached } }
  trail := { sink := .memory false }
  interval := 100
  retryInterval := 18446744073709551615
  elapsed := 0

lemma Desk.patient_failed :
    (Desk.runCycle ({ Desk.patient with loop := some (.waiting 100), elapsed := 101 }, [])).1 =
      18446744073709551615 := rfl

lemma Desk.patient_started :
    (Desk.patient.perform (.startLoop false)).2.1 =
      { Desk.patient with loop := some (.waiting 100) } := by
  have hstart : (Desk.patient.perform (.startLoop false)).2.1 =
      ({ Desk.patient with loop := some (.waiting 100) } : Desk).runDue.1 := rfl
  rw [hstart, Desk.runDue]
  simp only [LoopPhase.advance]
  rw [LoopPhase.runUntil, if_neg (by decide)]

/-- The loop of the patient desk breaks down over its first failure, which nobody asked it to. -/
theorem loops_keep_schedule_patient :
    (∃ t, World.watchful.sweeps.Course 0 false false (World.watchful.state, World.watchful.trail)
        (List.replicate 61 (.pass 1)) t ∧
      (World.watchful.performAll [.startSweeps false, .advance 61]).2 =
        World.watchful.sweeping.shown t) ∧
    ∃ t, Desk.patient.rotations.Course 0 false false
        ((Desk.patient.authority, Desk.patient.connection), Desk.patient.trail)
        (List.replicate 101 (.pass 1)) t ∧
      t.phase? = some .stranded ∧
      ((Desk.patient.perform (.startLoop false)).2.1.perform (.advance 101)).2.1 =
        Desk.patient.rotating.shown t := by
  obtain ⟨-, t, hcourse, hshown⟩ :=
    (loops_keep_schedule false false [.advance 61]).1 World.watchful (by decide)
  refine ⟨⟨t, hcourse, hshown⟩, ?_⟩
  obtain ⟨-, t, hcourse, hshown⟩ :=
    (loops_keep_schedule false false [.advance 101]).2 Desk.patient (by decide) (by decide)
  refine ⟨t, hcourse, ?_, hshown⟩
  have hloop : (Desk.patient.rotating.shown t).loop = t.phase? := rfl
  rw [← hloop, ← hshown, List.foldl_cons, Desk.patient_started]
  have hadvance : ([LoopOrder.advance 101].map LoopOrder.deskCommand).foldl
      (fun x command => (x.perform command).2.1) { Desk.patient with loop := some (.waiting 100) } =
        ({ Desk.patient with loop := some (.waiting 100), elapsed := 101 } : Desk).runDue.1 := rfl
  rw [hadvance, Desk.runDue]
  simp only [LoopPhase.advance]
  rw [Rhythm.runUntil_of_due (by decide) (by rw [Desk.patient_failed]; decide), Desk.patient_failed]
  rfl

end DeviceGate
