import DeviceGate.Time.Clock

/-!
Background loops on a clock of whole seconds.  A loop waits for its deadline or for the signal to
end; a cycle runs when the clock reaches the deadline, and tells how long to wait for the next one.
A loop whose next deadline is beyond its clock has nothing to wait for: it is stranded, and takes no
leave.

* `LoopPhase`: waiting for a deadline, finished, or stranded.
* `LoopPhase.waitingFrom`: the beginning of a loop.
* `LoopPhase.advance`: the cycles that fall due up to some moment, one after the other.
* `LoopPhase.notified`, `released`: the signal was set, its sender is gone.
-/

namespace DeviceGate

/-- Where a loop stands. -/
inductive LoopPhase where
  | waiting (deadline : Nat)
  | finished
  | stranded
  deriving DecidableEq

namespace LoopPhase

/-- Whether the loop has ended. -/
def isFinished : LoopPhase → Bool
  | waiting _ => false
  | finished | stranded => true

/-- Whether a loop in this phase takes leave when it moves on to the next one. -/
def leaves (phase next : LoopPhase) : Bool :=
  !phase.isFinished && next = finished

/-- A loop that waits so many seconds from some moment on. -/
def waitingFrom (moment wait : Nat) : LoopPhase :=
  match Clock.after? moment wait with
  | some deadline => waiting deadline
  | none => stranded

/-- The signal was set to a value; only `true` ends the loop, anything else leaves the deadline
where it was. -/
def notified (value : Bool) : LoopPhase → LoopPhase
  | waiting deadline => if value then finished else waiting deadline
  | ended => ended

/-- The sender of the signal is gone, which ends the loop. -/
def released : LoopPhase → LoopPhase :=
  notified true

/-- The cycles that fall due up to `target`, each at its deadline; a cycle gives the wait until the
next one and changes the state. -/
def runUntil {σ : Type} (cycle : σ → Nat × σ) (target deadline : Nat) (s : σ) : LoopPhase × σ :=
  if deadline ≤ target then
    let (wait, s) := cycle s
    match Clock.after? deadline wait with
    | none => (stranded, s)
    | some next => if deadline < next then runUntil cycle target next s else (waiting next, s)
  else (waiting deadline, s)
termination_by target + 1 - deadline

/-- The clock moves on to `target`. -/
def advance {σ : Type} (cycle : σ → Nat × σ) (target : Nat) (phase : LoopPhase) (s : σ) :
    LoopPhase × σ :=
  match phase with
  | waiting deadline => runUntil cycle target deadline s
  | ended => (ended, s)

end LoopPhase

end DeviceGate
