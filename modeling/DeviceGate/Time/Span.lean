/-!
Spans of time: signed numbers of nanoseconds, read in coarser units by truncation towards zero.

* `Span.inMilliseconds`, `inMinutes`, `inHours`: the whole units of a span.
* `Span.ofNanos`, `ofSeconds`, `ofHours`, `ofMilliseconds`: spans of whole units; `ofMilliseconds?`
  minds the range of spans.
-/

namespace DeviceGate

/-- A signed span of time. -/
structure Span where
  nanos : Int
  deriving DecidableEq

namespace Span

/-- A number of nanoseconds. -/
def ofNanos (n : Nat) : Span := ⟨n⟩

/-- A number of milliseconds. -/
def ofMilliseconds (n : Int) : Span := ⟨n * 1000000⟩

/-- The greatest number of milliseconds in a span, to either side of zero. -/
def greatestMilliseconds : Nat := 9223372036854775807

/-- A number of milliseconds that may be beyond the range of spans. -/
def ofMilliseconds? (n : Int) : Option Span :=
  if n.natAbs ≤ greatestMilliseconds then some (ofMilliseconds n) else none

/-- A number of seconds. -/
def ofSeconds (n : Int) : Span := ⟨n * 1000000000⟩

/-- A number of hours. -/
def ofHours (n : Int) : Span := ofSeconds (n * 3600)

@[simp] theorem ofNanos_seconds (n : Nat) : ofNanos (n * 1000000000) = ofSeconds n := by
  simp [ofNanos, ofSeconds]

/-- The whole milliseconds. -/
def inMilliseconds (s : Span) : Int := s.nanos.tdiv 1000000

/-- The whole minutes. -/
def inMinutes (s : Span) : Int := s.nanos.tdiv 60000000000

/-- The whole hours. -/
def inHours (s : Span) : Int := s.nanos.tdiv 3600000000000

instance : LE Span where
  le a b := a.nanos ≤ b.nanos

instance : LT Span where
  lt a b := a.nanos < b.nanos

instance (a b : Span) : Decidable (a ≤ b) :=
  inferInstanceAs (Decidable (a.nanos ≤ b.nanos))

instance (a b : Span) : Decidable (a < b) :=
  inferInstanceAs (Decidable (a.nanos < b.nanos))

/-- The longer of two spans. -/
def longer (a b : Span) : Span := if a ≤ b then b else a

theorem le_longer_left (a b : Span) : a ≤ longer a b := by
  unfold longer
  split
  · assumption
  · exact Int.le_refl _

theorem le_longer_right (a b : Span) : b ≤ longer a b := by
  unfold longer
  split
  · exact Int.le_refl _
  · rename_i h
    have : ¬a.nanos ≤ b.nanos := h
    show b.nanos ≤ a.nanos
    omega

end Span

end DeviceGate
