/-!
A clock that only counts up, in whole seconds since some moment before the gate began.  It holds
63 bits, so a moment that is far enough away is one that it never shows.

* `Clock.after?`: the moment so many seconds after another, if the clock gets there.
* `Clock.wake`: the moment at which a sleep ends.
-/

namespace DeviceGate.Clock

/-- The greatest number of seconds that the clock holds. -/
def greatest : Nat := 9223372036854775807

/-- The moment so many seconds after another, if the clock gets there. -/
def after? (moment seconds : Nat) : Option Nat :=
  if moment + seconds ≤ greatest then some (moment + seconds) else none

/-- The length of a sleep whose end the clock would never show: thirty years of 365 days. -/
def longSleep : Nat := 946080000

/-- The moment at which a sleep ends. -/
def wake (moment seconds : Nat) : Nat :=
  (after? moment seconds).getD (moment + longSleep)

theorem after?_eq_some_iff {moment seconds next : Nat} :
    after? moment seconds = some next ↔
      next ≤ greatest ∧ next = moment + seconds := by
  unfold after?
  split <;> simp <;> omega

end DeviceGate.Clock
