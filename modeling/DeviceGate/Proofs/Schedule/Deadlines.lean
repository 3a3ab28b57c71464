import DeviceGate.Proofs.Schedule.Task

/-!
The schedule of a background loop.  The next deadline is one wait behind the last cycle, whatever
was notified in between, and a loop that was told to end runs no cycle any more.

* `Rhythm.dueAt`, `Rhythm.placeBehind`: the next deadline, and where it leaves the loop.
* `Rhythm.Timed`: the cycles of a loop and their moments.
* `Rhythm.Kept`: what every task keeps, whatever happens to it; `Rhythm.kept_after`.
* `Rhythm.KeepsSchedule`: what is expected of a loop; `Rhythm.keepsSchedule`.
-/

namespace DeviceGate

namespace Rhythm

variable {σ ο : Type} {l : Rhythm σ ο} {t : Task σ ο} {o : Occurrence} {now : ℕ}
  {signal unseen : Bool} {s : σ}

/-! ### The clock -/

lemma now_after (t : Task σ ο) (o : Occurrence) : (l.after t o).now = t.now + o.seconds := by
  have hears : (t.hears o).now = t.now + o.seconds := by
    cases o with
    | pass _ | drop => rfl
    | notify value =>
        rw [Task.hears]
        split
        · rfl
        · rfl
  rw [← hears, after]
  split
  · split
    · split
      · exact (Task.looked_keeps _).1
      · rfl
    · exact (Task.looked_keeps _).1
    · rfl
  · rfl

lemma now_foldl (t : Task σ ο) (os : List Occurrence) :
    (os.foldl l.after t).now = t.now + (os.map Occurrence.seconds).sum := by
  induction os generalizing t with
  | nil => rfl
  | cons o os ih =>
      rw [List.foldl_cons, ih, now_after, List.map_cons, List.sum_cons, Nat.add_assoc]

/-! ### Notifications that say nothing -/

lemma after_notify_false (h : t.Rests) : l.after t (.notify false) = t := by
  cases h with
  | waiting hplace hvalue hseen hsender hlater =>
      rw [after_notify hplace hsender]
      cases t
      simp_all
  | ended hover =>
      rw [after_of_over hover]
      exact if_neg fun h => h.2 hover

lemma foldl_filter (hpos : l.Positive) (h : t.Rests) (os : List Occurrence) :
    (os.filter (· ≠ .notify false)).foldl l.after t = os.foldl l.after t := by
  induction os generalizing t with
  | nil => rfl
  | cons o os ih =>
      rw [List.foldl_cons, ← ih (rests_after hpos h o)]
      by_cases hvoid : o = .notify false
      · rw [hvoid, List.filter_cons_of_neg (by simp), after_notify_false h]
      · rw [List.filter_cons_of_pos (by simpa using hvoid), List.foldl_cons]

/-! ### The end of a loop -/

lemma after_of_ends (h : t.Rests) (ho : o.Ends) :
    (l.after t o).executions = t.executions ∧ (l.after t o).state = t.state ∧
      (l.after t o).place = if t.place = .stranded then .stranded else .finished := by
  cases h with
  | waiting hplace hvalue hseen hsender hlater =>
      rcases ho with rfl | rfl
      · simp [after_notify hplace hsender, hplace]
      · simp [after_drop hplace, hplace]
  | ended hover =>
      obtain ⟨hplace, hexecutions, hstate⟩ := t.hears_keeps o
      rw [after_of_over hover]
      refine ⟨hexecutions, hstate, hplace.trans ?_⟩
      rcases hover with hplace | hplace
      · simp [hplace]
      · simp [hplace]

/-- A loop that was left stays as it was left. -/
lemma foldl_of_over (h : t.place.IsOver) (os : List Occurrence) :
    (os.foldl l.after t).executions = t.executions ∧ (os.foldl l.after t).state = t.state ∧
      (os.foldl l.after t).place = t.place := by
  induction os generalizing t with
  | nil => exact ⟨rfl, rfl, rfl⟩
  | cons o os ih =>
      obtain ⟨hplace, hexecutions, hstate⟩ := t.hears_keeps o
      rw [List.foldl_cons, after_of_over h, ← hplace, ← hexecutions, ← hstate]
      exact ih (hplace ▸ h)

/-! ### Deadlines -/

/-- When the next cycle is due. -/
def dueAt (l : Rhythm σ ο) (start : ℕ) (es : List (Execution σ ο)) : ℕ :=
  match es.getLast? with
  | none => start + l.interval
  | some e => e.moment + l.waitBehind e.outcome

/-- What the cycles have left. -/
def stateAfter (s : σ) (es : List (Execution σ ο)) : σ :=
  match es.getLast? with
  | none => s
  | some e => e.state

/-- Where a loop is behind its cycles, as long as nothing has ended it. -/
def placeBehind (l : Rhythm σ ο) (start : ℕ) (es : List (Execution σ ο)) : Place :=
  if l.dueAt start es ≤ Clock.greatest then .waiting (l.dueAt start es)
  else .stranded

/-- Every cycle is run with what the one before it has left, at a moment that has to do with its
deadline. -/
inductive Timed (l : Rhythm σ ο) (fits : ℕ → ℕ → Prop) (start : ℕ) (s : σ) :
    List (Execution σ ο) → Prop
  | nil : Timed l fits start s []
  | snoc {es : List (Execution σ ο)} {e : Execution σ ο} (htimed : Timed l fits start s es)
      (hmoment : fits (l.dueAt start es) e.moment)
      (hturn : (e.outcome, e.state) = l.turn (stateAfter s es)) :
      Timed l fits start s (es ++ [e])

/-- What a task has done is what its deadlines asked for. -/
structure Kept (l : Rhythm σ ο) (fits : ℕ → ℕ → Prop) (start : ℕ) (s : σ) (t : Task σ ο) :
    Prop where
  timed : l.Timed fits start s t.executions
  state : t.state = stateAfter s t.executions
  place : t.place = .finished ∨ t.place = l.placeBehind start t.executions

variable {fits : ℕ → ℕ → Prop} {start : ℕ}

lemma isOver_started : (l.started now true unseen s).place.IsOver := by
  have hplace : (l.begun now true unseen s).place = .entering now l.interval := rfl
  rw [Place.entering_eq] at hplace
  rw [started]
  split at hplace
  · rw [Task.looked_of_head hplace]
    exact .inl rfl
  · rw [Task.looked_of_stranded hplace]
    exact .inr hplace

lemma kept_started : l.Kept fits now s (l.started now signal unseen s) := by
  obtain ⟨-, -, hexecutions, hstate⟩ := (l.begun now signal unseen s).looked_keeps
  refine ⟨?_, ?_, ?_⟩
  · rw [started, hexecutions]
    exact .nil
  · rw [started, hexecutions, hstate]
    rfl
  · rw [started, hexecutions]
    exact Task.place_looked_of_entering rfl

lemma kept_fired (h : l.Kept fits start s t) (hdue : fits (l.dueAt start t.executions) t.now) :
    l.Kept fits start s (l.fired t).looked := by
  obtain ⟨-, -, hexecutions, hstate⟩ := (l.fired t).looked_keeps
  have hfired : (l.fired t).executions =
      t.executions ++ [⟨t.now, (l.turn t.state).1, (l.turn t.state).2⟩] := rfl
  rw [hfired] at hexecutions
  refine ⟨?_, ?_, ?_⟩
  · rw [hexecutions]
    refine .snoc h.timed hdue ?_
    rw [← h.state]
  · rw [hexecutions, hstate, stateAfter, List.getLast?_concat]
    rfl
  · rw [hexecutions, placeBehind, dueAt, List.getLast?_concat]
    exact Task.place_looked_of_entering rfl

lemma kept_after (h : l.Kept fits start s t) (hrests : t.Rests) {o : Occurrence}
    (hfits : ∀ n d, o = .pass n → t.now < d → d ≤ t.now + n → fits d (t.now + n)) :
    l.Kept fits start s (l.after t o) := by
  cases hrests with
  | @waiting d hplace hvalue hseen hsender hlater =>
      -- the deadline of a task that waits is the one that its cycles ask for
      have hdeadline : d = l.dueAt start t.executions := by
        have hbehind := h.place
        rw [hplace, placeBehind] at hbehind
        split at hbehind
        · simpa using hbehind
        · simp at hbehind
      cases o with
      | pass n =>
          have hlate : l.Kept fits start s { t with now := t.now + n } :=
            ⟨h.timed, h.state, h.place⟩
          rw [after_pass hplace]
          split
          · next hdue =>
            refine kept_fired hlate ?_
            rw [← hdeadline]
            exact hfits n d rfl hlater hdue
          · exact hlate
      | notify value =>
          have hbehind := h.place
          rw [hplace] at hbehind
          rw [after_notify hplace hsender]
          refine ⟨h.timed, h.state, ?_⟩
          cases value with
          | true => exact .inl rfl
          | false => exact hbehind
      | drop =>
          rw [after_drop hplace]
          exact ⟨h.timed, h.state, .inl rfl⟩
  | ended hover =>
      obtain ⟨hplace, hexecutions, hstate⟩ := t.hears_keeps o
      rw [after_of_over hover]
      exact ⟨hexecutions ▸ h.timed, by rw [hexecutions, hstate]; exact h.state,
        by rw [hexecutions, hplace]; exact h.place⟩

lemma kept_foldl (hpos : l.Positive) (h : l.Kept fits start s t) (hrests : t.Rests)
    {os : List Occurrence}
    (hfits : ∀ n d m, .pass n ∈ os → m < d → d ≤ m + n → fits d (m + n)) :
    l.Kept fits start s (os.foldl l.after t) := by
  induction os generalizing t with
  | nil => exact h
  | cons o os ih =>
      refine ih (kept_after h hrests fun n d ho => ?_) (rests_after hpos hrests o)
        fun n d m hn => hfits n d m (.tail _ hn)
      exact hfits n d t.now (ho ▸ .head _)

lemma ne_finished_after (hrests : t.Rests) (hopen : t.place ≠ .finished) (ho : ¬ o.Ends) :
    (l.after t o).place ≠ .finished := by
  cases hrests with
  | waiting hplace hvalue hseen hsender hlater =>
      cases o with
      | pass n =>
          rw [after_pass hplace]
          split
          · exact Task.looked_ne_finished hvalue (Place.entering_ne_finished _ _)
          · exact hopen
      | notify value =>
          cases value with
          | true => exact absurd (.inl rfl) ho
          | false => simp [after_notify hplace hsender]
      | drop => exact absurd (.inr rfl) ho
  | ended hover =>
      rwa [after_of_over hover, (t.hears_keeps o).1]

lemma ne_finished_foldl (hpos : l.Positive) (hrests : t.Rests) (hopen : t.place ≠ .finished)
    {os : List Occurrence} (hos : ∀ o ∈ os, ¬ o.Ends) :
    (os.foldl l.after t).place ≠ .finished := by
  induction os generalizing t with
  | nil => exact hopen
  | cons o os ih =>
      exact ih (rests_after hpos hrests o) (ne_finished_after hrests hopen (hos o (.head _)))
        fun o' ho' => hos o' (.tail _ ho')

/-! ### The schedule -/

/-- **What is expected of a loop** that begins at some moment, with its signal set or not. -/
structure KeepsSchedule (l : Rhythm σ ο) (start : ℕ) (signal unseen : Bool) (s : σ) : Prop where
  /-- Whatever happens, the task comes to rest, and in one way only. -/
  settled : ∀ os, ∃! t, l.Course start signal unseen s os t
  clock : ∀ {os t}, l.Course start signal unseen s os t →
    t.now = start + (os.map Occurrence.seconds).sum
  /-- A `false` notification changes nothing, neither the cycles nor their moments nor what they
  leave. -/
  spurious : ∀ {os t}, l.Course start signal unseen s os t →
    l.Course start signal unseen s (os.filter (· ≠ .notify false)) t
  /-- A cycle is never run ahead of its deadline, and a deadline is one wait after the cycle
  before. -/
  timed : ∀ {os t}, l.Course start signal unseen s os t → l.Timed (· ≤ ·) start s t.executions
  /-- On a clock that shows every second it is run at its deadline. -/
  exact : ∀ {os t}, l.Course start signal unseen s os t → (∀ n, .pass n ∈ os → n ≤ 1) →
    l.Timed (· = ·) start s t.executions
  /-- A loop that was not told to end waits for the next deadline, which is still to come; it has
  broken down if and only if the clock never shows that deadline. -/
  untold : ∀ {os t}, l.Course start signal unseen s os t → signal = false →
    (∀ o ∈ os, ¬ o.Ends) →
      t.place = l.placeBehind start t.executions ∧ ∀ d, t.place = .waiting d → t.now < d
  /-- A loop that finds its signal set runs no cycle. -/
  early : ∀ {os t}, l.Course start signal unseen s os t → signal = true →
    t.executions = [] ∧ t.state = s ∧ t.place.IsOver
  /-- A loop that was told to end is over, and runs no cycle any more. -/
  ended : ∀ {os o later t u}, l.Course start signal unseen s os t → o.Ends →
    l.Course start signal unseen s (os ++ o :: later) u →
      u.executions = t.executions ∧ u.state = t.state ∧
        u.place = if t.place = .stranded then .stranded else .finished

/-- **A loop whose waits are positive keeps its schedule.** -/
lemma keepsSchedule (hpos : l.Positive) (start : ℕ) (signal unseen : Bool) (s : σ) :
    l.KeepsSchedule start signal unseen s := by
  have hrests : (l.started start signal unseen s).Rests := rests_started hpos
  constructor
  case settled =>
    intro os
    simp only [course_iff hpos, existsUnique_eq]
  case clock =>
    intro os t ht
    rw [(course_iff hpos).mp ht, now_foldl, started, (Task.looked_keeps _).1]
    rfl
  case spurious =>
    intro os t ht
    rw [course_iff hpos] at ht ⊢
    rw [foldl_filter hpos hrests, ht]
  case timed =>
    intro os t ht
    rw [(course_iff hpos).mp ht]
    exact (kept_foldl hpos kept_started hrests fun n d m _ _ hdue => hdue).timed
  case exact =>
    intro os t ht hticks
    rw [(course_iff hpos).mp ht]
    refine (kept_foldl hpos kept_started hrests fun n d m hn hlater hdue => ?_).timed
    have hn := hticks n hn
    show d = m + n
    omega
  case untold =>
    intro os t ht hsignal hos
    rw [(course_iff hpos).mp ht]
    have hopen : (l.started start signal unseen s).place ≠ .finished := by
      subst hsignal
      exact Task.looked_ne_finished rfl (Place.entering_ne_finished _ _)
    have hkept : l.Kept (· ≤ ·) start s (os.foldl l.after (l.started start signal unseen s)) :=
      kept_foldl hpos kept_started hrests fun n d m _ _ hdue => hdue
    have hplace := hkept.place.resolve_left (ne_finished_foldl hpos hrests hopen hos)
    refine ⟨hplace, fun d hwaits => ?_⟩
    cases rests_foldl hpos hrests os with
    | waiting hwaits' _ _ _ hlater =>
        rwa [Place.waiting.inj (hwaits'.symm.trans hwaits)] at hlater
    | ended hover =>
        rcases hover with hover | hover
        · cases hover.symm.trans hwaits
        · cases hover.symm.trans hwaits
  case early =>
    intro os t ht hsignal
    rw [(course_iff hpos).mp ht]
    obtain ⟨-, -, hexecutions, hstate⟩ := (l.begun start signal unseen s).looked_keeps
    have hover : (l.started start signal unseen s).place.IsOver := by
      subst hsignal
      exact isOver_started
    obtain ⟨hexecutions', hstate', hplace⟩ := foldl_of_over hover os
    exact ⟨hexecutions'.trans hexecutions, hstate'.trans hstate, hplace ▸ hover⟩
  case ended =>
    intro os o later t u ht ho hu
    rw [course_iff hpos] at ht hu
    rw [List.foldl_append, ← ht, List.foldl_cons] at hu
    have hrests' : t.Rests := ht ▸ rests_foldl hpos hrests os
    obtain ⟨hexecutions, hstate, hplace⟩ := after_of_ends (l := l) hrests' ho
    have hover : (l.after t o).place.IsOver := by
      rw [hplace]
      split
      · exact .inr rfl
      · exact .inl rfl
    obtain ⟨hexecutions', hstate', hplace'⟩ := foldl_of_over (l := l) hover later
    rw [hu]
    exact ⟨hexecutions'.trans hexecutions, hstate'.trans hstate, hplace'.trans hplace⟩

end Rhythm

end DeviceGate
