import DeviceGate.Time.Civil
import DeviceGate.Time.Span

/-!
Points in time at nanosecond precision, in UTC.  A leap second is the second 59 with a billion or
more nanoseconds; it is ordered after second 59 and before second 0 of the next minute.

* `Timestamp.le`, `Timestamp.lt`: the order, by second and then by nanosecond.
* `Timestamp.since`: the span between two points; a leap second on the earlier or the later side
  counts when the other side lies beyond it on the clock face.
* `Timestamp.plus`: a point moved by whole seconds.
* `Timestamp.inRange`: the dates from the year -262143 to the year 262142.
-/

namespace DeviceGate

/-- A point in time: seconds since 1970-01-01T00:00:00Z and nanoseconds into that second. -/
structure Timestamp where
  second : Int
  nano : Nat
  deriving DecidableEq

namespace Timestamp

/-- The day since 1970-01-01. -/
def day (t : Timestamp) : Int := t.second.fdiv 86400

/-- The second of the day. -/
def secondOfDay (t : Timestamp) : Nat := (t.second.fmod 86400).toNat

/-- The date. -/
def date (t : Timestamp) : Civil := .ofDays t.day

/-- A leap second. -/
def isLeapSecond (t : Timestamp) : Bool := 1000000000 ≤ t.nano

instance : LE Timestamp where
  le a b := a.second < b.second ∨ (a.second = b.second ∧ a.nano ≤ b.nano)

instance : LT Timestamp where
  lt a b := a.second < b.second ∨ (a.second = b.second ∧ a.nano < b.nano)

instance (a b : Timestamp) : Decidable (a ≤ b) :=
  inferInstanceAs (Decidable (_ ∨ _))

instance (a b : Timestamp) : Decidable (a < b) :=
  inferInstanceAs (Decidable (_ ∨ _))

/-- The span from `b` to `a`. -/
def since (a b : Timestamp) : Span :=
  let leap : Int :=
    if b.secondOfDay < a.secondOfDay then (if b.isLeapSecond then 1 else 0)
    else if a.secondOfDay < b.secondOfDay then (if a.isLeapSecond then -1 else 0)
    else 0
  ⟨(a.second - b.second + leap) * 1000000000 + ((a.nano : Int) - b.nano)⟩

/-- The point so many seconds later. -/
def plus (t : Timestamp) (seconds : Int) : Timestamp :=
  { t with second := t.second + seconds }

/-- The point so many nanoseconds later. -/
def plusNanos (t : Timestamp) (nanos : Nat) : Timestamp :=
  let total := t.nano + nanos
  { second := t.second + (total / 1000000000 : Nat), nano := total % 1000000000 }

/-- The point of a date and a time of day, which is an offset's worth of seconds ahead of UTC. -/
def ofLocal (date : Civil) (hour minute second nano : Nat) (offset : Int) : Timestamp :=
  let leap := second = 60
  let ofDay : Int := ((hour * 60 + minute) * 60 + (if leap then 59 else second) : Nat)
  { second := date.toDays * 86400 + ofDay - offset
    nano := if leap then nano + 1000000000 else nano }

/-- The first second in range. -/
def firstSecond : Int := (Civil.mk (-262143) 1 1).toDays * 86400

/-- The last second in range. -/
def lastSecond : Int := (Civil.mk 262142 12 31).toDays * 86400 + 86399

/-- The date is one that can be written. -/
def inRange (t : Timestamp) : Bool :=
  firstSecond ≤ t.second && t.second ≤ lastSecond

theorem le_refl (t : Timestamp) : t ≤ t :=
  Or.inr ⟨rfl, Nat.le_refl _⟩

theorem le_trans {a b c : Timestamp} (hab : a ≤ b) (hbc : b ≤ c) : a ≤ c := by
  rcases hab with h | ⟨h, h'⟩ <;> rcases hbc with k | ⟨k, k'⟩
  · exact Or.inl (by omega)
  · exact Or.inl (by omega)
  · exact Or.inl (by omega)
  · exact Or.inr ⟨h.trans k, Nat.le_trans h' k'⟩

theorem not_le {a b : Timestamp} : ¬a ≤ b ↔ b < a := by
  show ¬(_ ∨ _) ↔ (_ ∨ _)
  omega

end Timestamp

end DeviceGate
