import DeviceGate.Time.Timestamp
import Mathlib.Tactic

/-!
How long ago a moment is.  The span between two moments is the difference of what the clock shows,
unless one of them is a leap second that does not end its day.  In a leap second the clock goes on,
behind it the clock has been set back by one second; so a span grows with its later end, and shrinks
with its earlier one, from any moment that is not in a leap second, but not from one that is.

* `Timestamp.clock`: what the clock shows; `Timestamp.clock_mono`: it does not go back from a moment
  that is not in a leap second.
* `Timestamp.InPlace`: a leap second ends its day; `Timestamp.nanos_since`: then spans are
  differences of the clock.
* `Timestamp.since_mono`, `Timestamp.since_anti`: spans grow with the later end and shrink with the
  earlier one.
* `Timestamp.nanos_since_nonpos`: no time has passed since a moment that is still to come.
-/

namespace DeviceGate

lemma Span.le_trans {a b c : Span} (h : a ≤ b) (h' : b ≤ c) : a ≤ c := Int.le_trans h h'

lemma Span.not_lt {a b : Span} : ¬a < b ↔ b ≤ a := Int.not_lt

namespace Timestamp

variable {a b t t' : Timestamp}

/-- What the clock shows, in nanoseconds. -/
def clock (t : Timestamp) : ℤ := t.second * 1000000000 + t.nano

/-- The moment is not in a leap second, or in one that ends its day. -/
def InPlace (t : Timestamp) : Prop := t.isLeapSecond = true → t.secondOfDay = 86399

instance (t : Timestamp) : Decidable t.InPlace :=
  inferInstanceAs (Decidable (_ → _))

lemma inPlace_of_regular (h : t.isLeapSecond = false) : t.InPlace := by
  intro hleap
  rw [h] at hleap
  cases hleap

lemma secondOfDay_le (t : Timestamp) : t.secondOfDay ≤ 86399 := by
  have := Int.fmod_lt_of_pos t.second (show (0 : ℤ) < 86400 by omega)
  rw [secondOfDay]
  omega

/-- A moment in place has no leap second behind it on its day. -/
lemma not_isLeapSecond_of_lt (h : t.InPlace) (hlt : t.secondOfDay < t'.secondOfDay) :
    t.isLeapSecond = false := by
  by_contra hleap
  have hlast := h (Bool.not_eq_false _ ▸ hleap)
  have := t'.secondOfDay_le
  omega

/-- Between moments in place, the span is the difference of what the clock shows. -/
lemma nanos_since (ha : a.InPlace) (hb : b.InPlace) : (a.since b).nanos = a.clock - b.clock := by
  have hspan : (a.second - b.second) * 1000000000 + ((a.nano : ℤ) - b.nano) =
      a.clock - b.clock := by
    rw [clock, clock]
    omega
  rw [← hspan, since]
  split_ifs with hlater hleap hearlier hleap
  · rw [not_isLeapSecond_of_lt hb hlater] at hleap
    cases hleap
  · rw [Int.add_zero]
  · rw [not_isLeapSecond_of_lt ha hearlier] at hleap
    cases hleap
  · rw [Int.add_zero]
  · rw [Int.add_zero]

/-- From a moment that is not in a leap second the clock does not go back. -/
lemma clock_mono (h : t ≤ t') (ht : t.isLeapSecond = false) : t.clock ≤ t'.clock := by
  rw [isLeapSecond, decide_eq_false_iff_not] at ht
  rw [clock, clock]
  rcases h with h | ⟨h, h'⟩
  · omega
  · omega

/-- A span grows with its later end. -/
lemma since_mono (h : t ≤ t') (ht : t.isLeapSecond = false) (ht' : t'.InPlace) (hb : b.InPlace) :
    t.since b ≤ t'.since b := by
  change (t.since b).nanos ≤ (t'.since b).nanos
  rw [nanos_since (inPlace_of_regular ht) hb, nanos_since ht' hb]
  exact Int.sub_le_sub_right (clock_mono h ht) _

/-- A span shrinks with its earlier end. -/
lemma since_anti (h : t ≤ t') (ht : t.isLeapSecond = false) (ht' : t'.InPlace) (ha : a.InPlace) :
    a.since t' ≤ a.since t := by
  change (a.since t').nanos ≤ (a.since t).nanos
  rw [nanos_since ha ht', nanos_since ha (inPlace_of_regular ht)]
  exact Int.sub_le_sub_left (clock_mono h ht) _

/-- At a moment that is not in a leap second, no time has passed since one that is still to come, be
that one in a leap second or not. -/
lemma nanos_since_nonpos (h : t ≤ t') (ht : t.isLeapSecond = false) : (t.since t').nanos ≤ 0 := by
  rcases hleap : t'.isLeapSecond with _ | _
  · rw [nanos_since (inPlace_of_regular ht) (inPlace_of_regular hleap)]
    exact Int.sub_nonpos_of_le (clock_mono h ht)
  · have hcounted : (t.since t').nanos ≤ (t.second - t'.second + 1) * 1000000000 +
        ((t.nano : ℤ) - t'.nano) := by
      rw [since]
      split_ifs <;> simp
    rw [isLeapSecond, decide_eq_false_iff_not] at ht
    rw [isLeapSecond, decide_eq_true_eq] at hleap
    rcases h with h | ⟨h, h'⟩
    · omega
    · have hsame : t.secondOfDay = t'.secondOfDay := by rw [secondOfDay, secondOfDay, h]
      simp only [since, hsame, lt_irrefl, if_false]
      omega

end Timestamp

end DeviceGate
