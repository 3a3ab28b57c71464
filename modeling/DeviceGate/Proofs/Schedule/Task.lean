import DeviceGate.Schedule
import Mathlib.Tactic

/-!
A background loop as the task that it is.  At the head of the loop the task looks at its signal and
takes note of it; then it waits for whichever comes first: its deadline, a signal that it has not
taken note of, or the loss of the sender.  Nothing tells which of two that are ready comes first.
Moments are whole seconds of the loop's clock, and a cycle takes none of them.

* `Rhythm`: what a loop does at its deadlines, and how long it waits in between.
* `Task`, `Rhythm.Step`: the task, and one step of it.
* `Rhythm.ComesToRest`: the task takes its steps until there is none left.
* `Occurrence`, `Rhythm.Course`: what happens to a task from outside, one at a time.
* `Task.Rests`: the task has nothing to do; `Rhythm.after`: what an occurrence then comes to.
* `Rhythm.settles_iff`, `Rhythm.course_iff`: with positive waits a task comes to rest, in one way
  only, so that a course is a matter of `Rhythm.after`.
-/

namespace DeviceGate

/-- A loop: the wait before its first cycle, what a cycle does, and the wait behind a cycle, by its
outcome. -/
structure Rhythm (σ ο : Type) where
  interval : ℕ
  turn : σ → ο × σ
  waitBehind : ο → ℕ

/-- No wait is empty. -/
structure Rhythm.Positive {σ ο : Type} (l : Rhythm σ ο) : Prop where
  interval : 0 < l.interval
  waitBehind : ∀ o, 0 < l.waitBehind o

/-- A cycle that was run: when, with which outcome, and what it left. -/
structure Execution (σ ο : Type) where
  moment : ℕ
  outcome : ο
  state : σ

/-- Where a task stands. -/
inductive Place where
  /-- At the head of the loop, with the deadline set. -/
  | head (deadline : ℕ)
  | waiting (deadline : ℕ)
  | finished
  /-- The next deadline is one that the clock never shows; the task has broken down over it. -/
  | stranded
  deriving DecidableEq

/-- A task and its signal. -/
structure Task (σ ο : Type) where
  now : ℕ
  /-- What the signal says. -/
  value : Bool
  /-- Whether the signal was set since the task took note of it. -/
  unseen : Bool
  /-- Whether the sender of the signal is there. -/
  sender : Bool
  place : Place
  state : σ
  /-- The cycles so far, the last one last. -/
  executions : List (Execution σ ο) := []

/-- The head of the loop with a deadline so many seconds after a moment. -/
def Place.entering (moment wait : ℕ) : Place :=
  match Clock.after? moment wait with
  | some deadline => .head deadline
  | none => .stranded

/-- The loop has been left. -/
def Place.IsOver (p : Place) : Prop := p = .finished ∨ p = .stranded

instance (p : Place) : Decidable p.IsOver := inferInstanceAs (Decidable (_ ∨ _))

/-- What happens to a task from outside. -/
inductive Occurrence where
  | pass (seconds : ℕ)
  | notify (value : Bool)
  | drop
  deriving DecidableEq

/-- The task is told to end. -/
def Occurrence.Ends (o : Occurrence) : Prop := o = .notify true ∨ o = .drop

instance (o : Occurrence) : Decidable o.Ends := inferInstanceAs (Decidable (_ ∨ _))

/-- The seconds that go by. -/
def Occurrence.seconds : Occurrence → ℕ
  | .pass seconds => seconds
  | .notify _ | .drop => 0

/-- The task when something has happened and it has done nothing yet.  A signal is sent by its
sender, and reaches nobody when the task has left its loop. -/
def Task.hears {σ ο : Type} (t : Task σ ο) : Occurrence → Task σ ο
  | .pass seconds => { t with now := t.now + seconds }
  | .notify value =>
      if t.sender = true ∧ ¬ t.place.IsOver then { t with value := value, unseen := true } else t
  | .drop => { t with sender := false }

namespace Rhythm

variable {σ ο : Type} (l : Rhythm σ ο)

/-- The task at its beginning. -/
def begun (now : ℕ) (signal unseen : Bool) (s : σ) : Task σ ο where
  now := now
  value := signal
  unseen := unseen
  sender := true
  place := .entering now l.interval
  state := s

/-- The task behind a cycle. -/
def fired (t : Task σ ο) : Task σ ο :=
  let (outcome, s) := l.turn t.state
  { t with
    place := .entering t.now (l.waitBehind outcome)
    state := s
    executions := t.executions ++ [⟨t.now, outcome, s⟩] }

/-- One step of a task. -/
inductive Step (t : Task σ ο) : Task σ ο → Prop
  /-- The signal says that the loop is to end. -/
  | stop {d : ℕ} (hplace : t.place = .head d) (hvalue : t.value = true) :
      Step t { t with unseen := false, place := .finished }
  | listen {d : ℕ} (hplace : t.place = .head d) (hvalue : t.value = false) :
      Step t { t with unseen := false, place := .waiting d }
  /-- The deadline has come. -/
  | fire {d : ℕ} (hplace : t.place = .waiting d) (hdue : d ≤ t.now) : Step t (l.fired t)
  /-- The signal was set, to whatever value. -/
  | heed {d : ℕ} (hplace : t.place = .waiting d) (hunseen : t.unseen = true) :
      Step t { t with unseen := false, place := .head d }
  /-- The sender is gone, and has left no signal behind. -/
  | part {d : ℕ} (hplace : t.place = .waiting d) (hseen : t.unseen = false)
      (hgone : t.sender = false) : Step t { t with place := .finished }

/-- The task has no step to take. -/
def Idle (t : Task σ ο) : Prop := ∀ u, ¬ l.Step t u

/-- The task takes steps until it is idle. -/
def ComesToRest (t u : Task σ ο) : Prop := Relation.ReflTransGen l.Step t u ∧ l.Idle u

/-- Several occurrences, each of which finds the task idle. -/
inductive Runs : Task σ ο → List Occurrence → Task σ ο → Prop
  | nil (t : Task σ ο) : Runs t [] t
  | cons {t u v : Task σ ο} {o : Occurrence} {os : List Occurrence}
      (hrest : l.ComesToRest (t.hears o) u) (hruns : Runs u os v) : Runs t (o :: os) v

/-- A task from its beginning on. -/
def Course (now : ℕ) (signal unseen : Bool) (s : σ) (os : List Occurrence) (t : Task σ ο) : Prop :=
  ∃ first, l.ComesToRest (l.begun now signal unseen s) first ∧ l.Runs first os t

variable {l} {t u v : Task σ ο} {d : ℕ}

/-! ### The steps from a place -/

lemma step_iff_of_head (hplace : t.place = .head d) :
    l.Step t u ↔
      u = { t with unseen := false, place := if t.value then .finished else .waiting d } := by
  constructor
  · rintro (⟨hhead, hvalue⟩ | ⟨hhead, hvalue⟩ | ⟨hwaits, -⟩ | ⟨hwaits, -⟩ | ⟨hwaits, -, -⟩)
    · rw [hvalue, if_pos rfl]
    · obtain rfl := Place.head.inj (hplace.symm.trans hhead)
      rw [hvalue, if_neg Bool.false_ne_true]
    all_goals cases hplace.symm.trans hwaits
  · rintro rfl
    by_cases hvalue : t.value = true
    · rw [if_pos hvalue]
      exact .stop hplace hvalue
    · rw [if_neg hvalue]
      exact .listen hplace (by simpa using hvalue)

lemma step_iff_of_waiting (hplace : t.place = .waiting d) :
    l.Step t u ↔
      d ≤ t.now ∧ u = l.fired t ∨
      t.unseen = true ∧ u = { t with unseen := false, place := .head d } ∨
      (t.unseen = false ∧ t.sender = false) ∧ u = { t with place := .finished } := by
  constructor
  · rintro (⟨hhead, -⟩ | ⟨hhead, -⟩ | ⟨hwaits, hdue⟩ | ⟨hwaits, hunseen⟩ | ⟨hwaits, hseen, hgone⟩)
    · cases hplace.symm.trans hhead
    · cases hplace.symm.trans hhead
    all_goals obtain rfl := Place.waiting.inj (hplace.symm.trans hwaits)
    · exact .inl ⟨hdue, rfl⟩
    · exact .inr (.inl ⟨hunseen, rfl⟩)
    · exact .inr (.inr ⟨⟨hseen, hgone⟩, rfl⟩)
  · rintro (⟨hdue, rfl⟩ | ⟨hunseen, rfl⟩ | ⟨⟨hseen, hgone⟩, rfl⟩)
    · exact .fire hplace hdue
    · exact .heed hplace hunseen
    · exact .part hplace hseen hgone

/-- A loop that was left takes no step. -/
lemma Step.not_isOver (h : l.Step t u) : ¬ t.place.IsOver := by
  cases h with
  | stop hplace _ | listen hplace _ | fire hplace _ | heed hplace _ | part hplace _ _ =>
      simp [hplace, Place.IsOver]

/-! ### Steps that are the only ones -/

/-- A task that is idle is at rest. -/
lemma comesToRest_iff_of_idle (h : l.Idle t) : l.ComesToRest t v ↔ v = t := by
  constructor
  · rintro ⟨hsteps, -⟩
    rcases Relation.ReflTransGen.cases_head hsteps with rfl | ⟨u, hstep, -⟩
    · rfl
    · exact absurd hstep (h u)
  · rintro rfl
    exact ⟨.refl, h⟩

/-- A step that is the only one is taken. -/
lemma comesToRest_iff_of_step (honly : ∀ v, l.Step t v ↔ v = u) :
    l.ComesToRest t v ↔ l.ComesToRest u v := by
  have h : l.Step t u := (honly u).mpr rfl
  constructor
  · rintro ⟨hsteps, hidle⟩
    rcases Relation.ReflTransGen.cases_head hsteps with rfl | ⟨w, hstep, hsteps⟩
    · exact absurd h (hidle u)
    · obtain rfl := (honly w).mp hstep
      exact ⟨hsteps, hidle⟩
  · rintro ⟨hsteps, hidle⟩
    exact ⟨.head h hsteps, hidle⟩

end Rhythm

/-! ### Rest -/

lemma Place.entering_eq (moment wait : ℕ) :
    Place.entering moment wait =
      if moment + wait ≤ Clock.greatest then .head (moment + wait)
      else .stranded := by
  rw [entering, Clock.after?]
  by_cases hshown : moment + wait ≤ Clock.greatest
  · rw [if_pos hshown, if_pos hshown]
  · rw [if_neg hshown, if_neg hshown]

lemma Place.entering_ne_finished (moment wait : ℕ) :
    Place.entering moment wait ≠ .finished := by
  rw [entering_eq]
  split
  · simp
  · simp

namespace Task

variable {σ ο : Type}

/-- The task waits for a deadline that is to come, or has left its loop. -/
inductive Rests (t : Task σ ο) : Prop
  | waiting {d : ℕ} (hplace : t.place = .waiting d) (hvalue : t.value = false)
      (hseen : t.unseen = false) (hsender : t.sender = true) (hlater : t.now < d)
  | ended (hover : t.place.IsOver)

/-- The task is at the head of its loop with a deadline that is to come, or has broken down over
one that the clock never shows. -/
inductive Turns (t : Task σ ο) : Prop
  | head {d : ℕ} (hplace : t.place = .head d) (hsender : t.sender = true) (hlater : t.now < d)
  | stranded (hplace : t.place = .stranded)

/-- The task once it has looked at its signal. -/
def looked (t : Task σ ο) : Task σ ο :=
  match t.place with
  | .head d =>
      { t with unseen := false, place := if t.value then .finished else .waiting d }
  | _ => t

variable {l : Rhythm σ ο} {t v : Task σ ο} {d : ℕ}

lemma looked_of_head (hplace : t.place = .head d) :
    t.looked =
      { t with unseen := false, place := if t.value then .finished else .waiting d } := by
  rw [looked, hplace]

lemma looked_of_stranded (hplace : t.place = .stranded) : t.looked = t := by
  rw [looked, hplace]

/-- What happens from outside moves neither the task's place nor what it has done. -/
lemma hears_keeps (t : Task σ ο) (o : Occurrence) :
    (t.hears o).place = t.place ∧ (t.hears o).executions = t.executions ∧
      (t.hears o).state = t.state := by
  cases o with
  | pass _ | drop => exact ⟨rfl, rfl, rfl⟩
  | notify value =>
      rw [hears]
      split
      · exact ⟨rfl, rfl, rfl⟩
      · exact ⟨rfl, rfl, rfl⟩

lemma turns_entering {wait : ℕ} (hwait : 0 < wait) (hsender : t.sender = true)
    (hplace : t.place = .entering t.now wait) : t.Turns := by
  rw [Place.entering_eq] at hplace
  split at hplace
  · exact .head hplace hsender (by omega)
  · exact .stranded hplace

/-- A look at the signal changes neither the clock nor what was done. -/
lemma looked_keeps (t : Task σ ο) :
    t.looked.now = t.now ∧ t.looked.sender = t.sender ∧ t.looked.executions = t.executions ∧
      t.looked.state = t.state := by
  rw [looked]
  split
  · exact ⟨rfl, rfl, rfl, rfl⟩
  · exact ⟨rfl, rfl, rfl, rfl⟩

lemma place_looked_of_entering {moment wait : ℕ} (hplace : t.place = .entering moment wait) :
    t.looked.place = .finished ∨
      t.looked.place =
        if moment + wait ≤ Clock.greatest then .waiting (moment + wait)
        else .stranded := by
  rw [Place.entering_eq] at hplace
  split at hplace
  · next hshown =>
    rw [looked_of_head hplace, if_pos hshown]
    cases t.value with
    | true => exact .inl rfl
    | false => exact .inr rfl
  · next hlost =>
    rw [looked_of_stranded hplace, if_neg hlost]
    exact .inr hplace

lemma looked_ne_finished (hvalue : t.value = false) (hplace : t.place ≠ .finished) :
    t.looked.place ≠ .finished := by
  rw [looked]
  split
  · simp [hvalue]
  · exact hplace

lemma Turns.rests_looked (h : t.Turns) : t.looked.Rests := by
  cases h with
  | head hplace hsender hlater =>
      rw [looked_of_head hplace]
      by_cases hvalue : t.value = true
      · exact .ended (.inl (if_pos hvalue))
      · exact .waiting (if_neg hvalue) (by simpa using hvalue) rfl hsender hlater
  | stranded hplace =>
      rw [looked_of_stranded hplace]
      exact .ended (.inr hplace)

lemma Rests.idle (h : t.Rests) : l.Idle t := by
  cases h with
  | waiting hplace hvalue hseen hsender hlater =>
      intro u hstep
      rw [Rhythm.step_iff_of_waiting hplace] at hstep
      rcases hstep with ⟨hdue, -⟩ | ⟨hunseen, -⟩ | ⟨⟨-, hgone⟩, -⟩
      · omega
      · simp [hseen] at hunseen
      · simp [hsender] at hgone
  | ended hover => exact fun u hstep => hstep.not_isOver hover

/-- At the head of its loop a task looks at its signal, and that is all. -/
lemma Turns.comesToRest_iff (h : t.Turns) : l.ComesToRest t v ↔ v = t.looked := by
  have hidle := h.rests_looked.idle (l := l)
  cases h with
  | head hplace hsender hlater =>
      rw [looked_of_head hplace] at hidle ⊢
      rw [Rhythm.comesToRest_iff_of_step fun w => Rhythm.step_iff_of_head hplace]
      exact Rhythm.comesToRest_iff_of_idle hidle
  | stranded hplace =>
      rw [looked_of_stranded hplace] at hidle ⊢
      exact Rhythm.comesToRest_iff_of_idle hidle

end Task

namespace Rhythm

variable {σ ο : Type} (l : Rhythm σ ο)

/-- The task when something has happened to it while it rested, and it has come to rest again. -/
def after (t : Task σ ο) (o : Occurrence) : Task σ ο :=
  let u := t.hears o
  match t.place with
  | .waiting d =>
    match o with
    | .pass _ => if d ≤ u.now then (l.fired u).looked else u
    | .notify _ => { u with place := .head d }.looked
    | .drop => { u with place := .finished }
  | _ => u

/-- The task that has come to rest for the first time. -/
def started (now : ℕ) (signal unseen : Bool) (s : σ) : Task σ ο :=
  (l.begun now signal unseen s).looked

variable {l} {t u v : Task σ ο} {o : Occurrence} {os : List Occurrence} {d now : ℕ}
  {signal unseen : Bool} {s : σ}

lemma after_pass (hplace : t.place = .waiting d) (n : ℕ) :
    l.after t (.pass n) =
      if d ≤ t.now + n then (l.fired { t with now := t.now + n }).looked
      else { t with now := t.now + n } := by
  cases t
  cases hplace
  rfl

lemma after_notify (hplace : t.place = .waiting d) (hsender : t.sender = true) (value : Bool) :
    l.after t (.notify value) =
      { t with
        value := value
        unseen := false
        place := if value then .finished else .waiting d } := by
  have hopen : ¬ t.place.IsOver := by simp [hplace, Place.IsOver]
  rw [after, hplace, Task.hears, if_pos ⟨hsender, hopen⟩]
  rfl

lemma after_drop (hplace : t.place = .waiting d) :
    l.after t .drop = { t with sender := false, place := .finished } := by
  rw [after, hplace]
  rfl

lemma after_of_over (h : t.place.IsOver) : l.after t o = t.hears o := by
  rcases h with hplace | hplace
  · rw [after, hplace]
  · rw [after, hplace]

lemma turns_begun (hpos : l.Positive) : (l.begun now signal unseen s).Turns :=
  Task.turns_entering hpos.interval rfl rfl

lemma turns_fired (hpos : l.Positive) (hsender : t.sender = true) : (l.fired t).Turns :=
  Task.turns_entering (hpos.waitBehind _) hsender rfl

/-- A task at rest comes to rest again, whatever happens to it. -/
lemma rests_after (hpos : l.Positive) (h : t.Rests) (o : Occurrence) : (l.after t o).Rests := by
  cases h with
  | @waiting d hplace hvalue hseen hsender hlater =>
      cases o with
      | pass n =>
          rw [after_pass hplace]
          split
          · exact (turns_fired (t := { t with now := t.now + n }) hpos hsender).rests_looked
          · next hearly =>
            exact .waiting hplace hvalue hseen hsender (Nat.lt_of_not_le hearly)
      | notify value =>
          rw [after_notify hplace hsender]
          cases value with
          | false => exact .waiting rfl rfl rfl hsender hlater
          | true => exact .ended (.inl rfl)
      | drop =>
          rw [after_drop hplace]
          exact .ended (.inl rfl)
  | ended hover =>
      rw [after_of_over hover]
      refine .ended ?_
      rwa [(t.hears_keeps o).1]

/-- **What an occurrence comes to.** -/
lemma settles_iff (hpos : l.Positive) (h : t.Rests) (o : Occurrence) :
    l.ComesToRest (t.hears o) v ↔ v = l.after t o := by
  have hidle := (rests_after hpos h o).idle (l := l)
  cases h with
  | @waiting d hplace hvalue hseen hsender hlater =>
      -- in each case one of the three steps of a task that waits is ready, and the others are not
      have hstep (w : Task σ ο) := step_iff_of_waiting (l := l) (u := w)
        ((t.hears_keeps o).1.trans hplace)
      cases o with
      | pass n =>
          have hunseen : (t.hears (.pass n)).unseen = false := hseen
          have hpresent : (t.hears (.pass n)).sender = true := hsender
          rw [after_pass hplace] at hidle ⊢
          by_cases hdue : d ≤ t.now + n
          · have hready : d ≤ (t.hears (.pass n)).now := hdue
            rw [comesToRest_iff_of_step (u := l.fired (t.hears (.pass n))), if_pos hdue]
            · exact (turns_fired hpos hpresent).comesToRest_iff
            · simp [hstep, hready, hunseen, hpresent]
          · rw [if_neg hdue] at hidle ⊢
            exact comesToRest_iff_of_idle hidle
      | notify value =>
          have hopen : ¬ t.place.IsOver := by simp [hplace, Place.IsOver]
          have hears : t.hears (.notify value) = { t with value := value, unseen := true } :=
            if_pos ⟨hsender, hopen⟩
          have hearly : ¬ d ≤ t.now := Nat.not_le_of_lt hlater
          have hturns : Task.Turns
              { t with value := value, unseen := false, place := .head d } :=
            .head rfl hsender hlater
          rw [hears] at hstep ⊢
          rw [after_notify hplace hsender, comesToRest_iff_of_step fun w => ?_]
          · exact hturns.comesToRest_iff
          · simp [hstep, hearly]
      | drop =>
          have hearly : ¬ d ≤ t.now := Nat.not_le_of_lt hlater
          have hears : t.hears .drop = { t with sender := false } := rfl
          rw [after_drop hplace] at hidle ⊢
          rw [hears] at hstep ⊢
          rw [comesToRest_iff_of_step fun w => ?_]
          · exact comesToRest_iff_of_idle hidle
          · rw [hstep]
            simp [hearly, hseen]
  | ended hover =>
      rw [after_of_over hover] at hidle ⊢
      exact comesToRest_iff_of_idle hidle

/-! ### Whole courses -/

lemma rests_started (hpos : l.Positive) : (l.started now signal unseen s).Rests :=
  (turns_begun hpos).rests_looked

lemma rests_foldl (hpos : l.Positive) (h : t.Rests) (os : List Occurrence) :
    (os.foldl l.after t).Rests := by
  induction os generalizing t with
  | nil => exact h
  | cons o os ih => exact ih (rests_after hpos h o)

lemma runs_iff (hpos : l.Positive) (h : t.Rests) : l.Runs t os v ↔ v = os.foldl l.after t := by
  induction os generalizing t with
  | nil =>
      constructor
      · rintro ⟨⟩
        rfl
      · rintro rfl
        exact .nil _
  | cons o os ih =>
      rw [List.foldl_cons, ← ih (rests_after hpos h o)]
      constructor
      · rintro (_ | ⟨hrest, hruns⟩)
        rw [settles_iff hpos h] at hrest
        rwa [hrest] at hruns
      · intro hruns
        exact .cons ((settles_iff hpos h o).mpr rfl) hruns

lemma course_iff (hpos : l.Positive) :
    l.Course now signal unseen s os t ↔ t = os.foldl l.after (l.started now signal unseen s) := by
  have hfirst (first : Task σ ο) :
      l.ComesToRest (l.begun now signal unseen s) first ↔ first = l.started now signal unseen s :=
    (turns_begun hpos).comesToRest_iff
  simp only [Course, hfirst, exists_eq_left, runs_iff hpos (rests_started hpos)]

end Rhythm

end DeviceGate
