import DeviceGate.Telemetry.Sequence
import Mathlib.Algebra.Order.Group.Pointwise.Interval
import Mathlib.Order.Interval.Finset.Nat
import Mathlib.Tactic

/-!
The numbers between two messages.  A gap tells a date and two counters, and the numbers that these
stand for are all those strictly between the last number and the current one.  Finding it takes sums
and differences that fit into a machine word for any two numbers, and into the counters of a date
for any two between which something is missing.  Along increasing numbers of one date the gaps fill
up exactly what the numbers leave out.

* `SequenceGap.missing`: the numbers of a gap.
* `Sequence.gapBelow?`, `SequenceGap.missedBelow?`: the same arithmetic, where every result has to
  fit below a limit.
* `Sequence.missing_eq_Ioo`: what is missing between two numbers.
* `Sequence.gaps`: the gaps between neighbours; `Sequence.mem_or_missing_iff`: what they cover, and
  `Sequence.pairwise_disjoint_gaps`: that they do not overlap.
* `Sequence.gaps_exact`: all of this together.
-/

namespace DeviceGate

namespace Sequence

/-- An integer as a number below a limit. -/
def below? (limit : ℕ) (z : ℤ) : Option ℕ :=
  if 0 ≤ z ∧ z < limit then some z.toNat else none

/-- The gap between two numbers, where every sum and every difference has to fit below a limit. -/
def gapBelow? (limit last current : ℕ) : Option (Option SequenceGap) := do
  let (lastDate, lastCounter) := split last
  let (date, counter) := split current
  if date = lastDate then
    let next ← below? limit (lastCounter + 1)
    if next < counter then
      let final ← below? limit (counter - 1)
      return some { dateBucket := date, firstMissing := next, lastMissing := final }
    else return none
  else return none

/-- A number comes after another one of the same date. -/
def Follows (last current : ℕ) : Prop :=
  last < current ∧ current / bucketSize = last / bucketSize

/-- The gaps between neighbours. -/
def gaps : List ℕ → List SequenceGap
  | last :: current :: rest => (gap? last current).toList ++ gaps (current :: rest)
  | _ => []

end Sequence

namespace SequenceGap

open Sequence

/-- The numbers of a gap. -/
def missing (g : SequenceGap) : Finset ℕ :=
  (Finset.Icc g.firstMissing g.lastMissing).image (g.dateBucket * bucketSize + ·)

/-- How many counters were missed, where the difference and the sum have to fit below a limit. -/
def missedBelow? (limit : ℕ) (g : SequenceGap) : Option ℕ := do
  let span ← below? limit (g.lastMissing - g.firstMissing)
  below? limit (span + 1)

end SequenceGap

namespace Sequence

open SequenceGap

variable {last current limit n : ℕ} {g : SequenceGap}

/-! ### One gap -/

lemma gap?_eq (last current : ℕ) : gap? last current =
    if current / bucketSize = last / bucketSize ∧
      last % bucketSize + 1 < current % bucketSize then
        some ⟨current / bucketSize, last % bucketSize + 1, current % bucketSize - 1⟩
    else none :=
  rfl

/-- A gap is one of counters of the same date, from behind the last number to before the current
one. -/
lemma gap?_eq_some_iff : gap? last current = some g ↔
    current / bucketSize = last / bucketSize ∧ last % bucketSize + 1 < current % bucketSize ∧
      g = ⟨current / bucketSize, last % bucketSize + 1, current % bucketSize - 1⟩ := by
  rw [gap?_eq]
  split_ifs with hgap
  · rw [Option.some_inj]
    exact ⟨fun h => ⟨hgap.1, hgap.2, h.symm⟩, fun h => h.2.2.symm⟩
  · exact iff_of_false id fun h => hgap ⟨h.1, h.2.1⟩

/-- There is a gap exactly if the numbers are of one date and more than one apart. -/
lemma isSome_gap?_iff : (gap? last current).isSome ↔
    last / bucketSize = current / bucketSize ∧ last + 2 ≤ current := by
  simp only [Option.isSome_iff_exists, gap?_eq_some_iff, bucketSize]
  constructor
  · rintro ⟨-, hdate, hcounter, -⟩
    omega
  · rintro ⟨hdate, hfar⟩
    exact ⟨_, by omega, by omega, rfl⟩

/-- What is missing is what lies between the two numbers. -/
lemma missing_eq_Ioo (h : gap? last current = some g) : g.missing = Finset.Ioo last current := by
  obtain ⟨hdate, hcounter, rfl⟩ := gap?_eq_some_iff.1 h
  rw [missing, Finset.image_add_left_Icc]
  ext n
  simp only [bucketSize, Finset.mem_Icc, Finset.mem_Ioo] at hdate hcounter ⊢
  omega

lemma missed_eq (h : gap? last current = some g) : g.missed = current - last - 1 := by
  obtain ⟨hdate, hcounter, rfl⟩ := gap?_eq_some_iff.1 h
  simp only [missed, bucketSize] at hdate hcounter ⊢
  omega

/-- What lies between two numbers of one date is missing, and if there is no gap it is nothing. -/
lemma exists_missing_iff (h : Follows last current) :
    (∃ g, gap? last current = some g ∧ n ∈ g.missing) ↔ last < n ∧ n < current := by
  constructor
  · rintro ⟨g, hgap, hn⟩
    rwa [missing_eq_Ioo hgap, Finset.mem_Ioo] at hn
  · rintro ⟨hlast, hcurrent⟩
    obtain ⟨g, hgap⟩ := Option.isSome_iff_exists.1 (isSome_gap?_iff.2 ⟨h.2.symm, by omega⟩)
    refine ⟨g, hgap, ?_⟩
    rw [missing_eq_Ioo hgap, Finset.mem_Ioo]
    exact ⟨hlast, hcurrent⟩

/-! ### Arithmetic below a limit -/

lemma below?_of_eq {z : ℤ} (h : z = n) (hn : n < limit) : below? limit z = some n := by
  subst h
  rw [below?, if_pos (by omega), Int.toNat_natCast]

lemma counter_lt (n : ℕ) : n % bucketSize < bucketSize :=
  Nat.mod_lt n (by decide)

/-- Below a limit that the counter behind the last one meets, finding a gap is exact. -/
lemma gapBelow?_eq (hnext : last % bucketSize + 1 < limit) (hlimit : bucketSize ≤ limit) :
    gapBelow? limit last current = some (gap? last current) := by
  have hbucket := counter_lt current
  have hsum : below? limit ((last % bucketSize : ℕ) + 1) = some (last % bucketSize + 1) :=
    below?_of_eq (Nat.cast_succ _).symm hnext
  rw [gap?_eq, gapBelow?]
  dsimp only [split]
  rw [hsum]
  generalize last % bucketSize = lastCounter at hnext
  generalize current % bucketSize = counter at hbucket
  by_cases hdate : current / bucketSize = last / bucketSize
  · by_cases hcounter : lastCounter + 1 < counter
    · have hfinal : below? limit (counter - 1) = some (counter - 1) :=
        below?_of_eq (by omega) (by omega)
      simp [hdate, hcounter, hfinal]
    · simp [hdate, hcounter]
  · simp [hdate]

/-- Below a limit that the sum meets, counting what is missed is exact. -/
lemma missedBelow?_eq (hle : g.firstMissing ≤ g.lastMissing) (hsum : g.missed < limit) :
    g.missedBelow? limit = some g.missed := by
  rw [missed] at hsum ⊢
  have hspan : below? limit (g.lastMissing - g.firstMissing) =
      some (g.lastMissing - g.firstMissing) := below?_of_eq (by omega) (by omega)
  rw [missedBelow?, hspan]
  exact below?_of_eq (Nat.cast_succ _).symm hsum

/-- A machine word holds all that is computed, for any two numbers. -/
lemma gapBelow?_word (last current : ℕ) :
    gapBelow? (2 ^ 64) last current = some (gap? last current) := by
  have hbucket := counter_lt last
  have hword : bucketSize < 2 ^ 64 := by decide
  exact gapBelow?_eq (by omega) hword.le

/-- All that is computed of a gap is a counter of a date. -/
lemma below?_bucket (h : gap? last current = some g) :
    gapBelow? bucketSize last current = some (some g) ∧
      g.missedBelow? bucketSize = some g.missed := by
  obtain ⟨-, hcounter, rfl⟩ := gap?_eq_some_iff.1 h
  have hbucket := counter_lt current
  refine ⟨?_, missedBelow?_eq (Nat.le_sub_one_of_lt hcounter) ?_⟩
  · rw [gapBelow?_eq (hcounter.trans hbucket) le_rfl, h]
  · rw [missed]
    dsimp only
    omega

/-! ### The gaps along a list -/

section Along

variable {first : ℕ} {rest : List ℕ}

lemma exists_mem_gaps_iff : (∃ g ∈ gaps (last :: current :: rest), n ∈ g.missing) ↔
    (∃ g, gap? last current = some g ∧ n ∈ g.missing) ∨
      ∃ g ∈ gaps (current :: rest), n ∈ g.missing := by
  simp only [gaps, List.mem_append, Option.mem_toList, or_and_right, exists_or]

/-- The numbers and their gaps are all the numbers from the first to the last. -/
lemma mem_or_missing_iff (h : (first :: rest).IsChain Follows) :
    (n ∈ first :: rest ∨ ∃ g ∈ gaps (first :: rest), n ∈ g.missing) ↔
      first ≤ n ∧ n ≤ rest.getLastD first := by
  induction rest generalizing first n with
  | nil =>
      simp only [gaps, List.mem_singleton, List.not_mem_nil, false_and, exists_false, or_false,
        List.getLastD_nil]
      omega
  | cons second rest ih =>
      obtain ⟨hfollows, hrest⟩ := List.isChain_cons_cons.1 h
      have hlt : first < second := hfollows.1
      have hlast : second ≤ rest.getLastD second := ((ih hrest).1 (.inl List.mem_cons_self)).2
      rw [List.mem_cons, exists_mem_gaps_iff, exists_missing_iff hfollows, or_or_or_comm, ih hrest,
        List.getLastD_cons]
      omega

/-- No number that is missing is one of the numbers. -/
lemma not_mem_of_missing (h : (first :: rest).IsChain Follows)
    (hn : ∃ g ∈ gaps (first :: rest), n ∈ g.missing) : n ∉ first :: rest := by
  induction rest generalizing first with
  | nil =>
      obtain ⟨g, hg, -⟩ := hn
      cases hg
  | cons second rest ih =>
      obtain ⟨hfollows, hrest⟩ := List.isChain_cons_cons.1 h
      have hlt : first < second := hfollows.1
      have hbehind := mem_or_missing_iff (n := n) hrest
      rw [exists_mem_gaps_iff, exists_missing_iff hfollows] at hn
      rw [List.mem_cons, not_or]
      rcases hn with ⟨hfirst, hbefore⟩ | hn
      · exact ⟨hfirst.ne', fun hmem => Nat.not_le.2 hbefore (hbehind.1 (.inl hmem)).1⟩
      · exact ⟨(hlt.trans_le (hbehind.1 (.inr hn)).1).ne', ih hrest hn⟩

/-- No number is missing in two of the gaps. -/
lemma pairwise_disjoint_gaps (h : (first :: rest).IsChain Follows) :
    (gaps (first :: rest)).Pairwise fun g g' => Disjoint g.missing g'.missing := by
  induction rest generalizing first with
  | nil => exact .nil
  | cons second rest ih =>
      obtain ⟨-, hrest⟩ := List.isChain_cons_cons.1 h
      rw [gaps, List.pairwise_append]
      refine ⟨?_, ih hrest, ?_⟩
      · cases gap? first second with
        | none => exact .nil
        | some g => exact List.pairwise_singleton _ g
      · -- the first gap ends before the second number, and all others begin behind it
        intro g hg g' hg'
        rw [missing_eq_Ioo (Option.mem_toList.1 hg), Finset.disjoint_left]
        intro n hn hn'
        have hbehind : second ≤ n := ((mem_or_missing_iff hrest).1 (.inr ⟨g', hg', hn'⟩)).1
        exact absurd (Finset.mem_Ioo.1 hn).2 (Nat.not_lt.2 hbehind)

end Along

/-- **Gaps are exact.**  For any two numbers, nothing that is computed leaves a machine word; there
is a gap exactly if they are of one date and at least two apart, and then what is missing is what
lies strictly between them, it is counted rightly, and nothing that is computed on the way leaves
the counters of a date.  The gaps between the neighbours of a list of increasing numbers of one date
do not overlap, and each number from the first to the last is either in the list or missing. -/
theorem gaps_exact :
    (∀ last current,
      gapBelow? (2 ^ 64) last current = some (gap? last current) ∧
      ((gap? last current).isSome ↔
        last / bucketSize = current / bucketSize ∧ last + 2 ≤ current) ∧
      ∀ g, gap? last current = some g →
        g.missing = Finset.Ioo last current ∧ g.missed = current - last - 1 ∧
        gapBelow? bucketSize last current = some (some g) ∧
        g.missedBelow? bucketSize = some g.missed) ∧
    (∀ date first rest, (first :: rest).IsChain (· < ·) →
      (∀ m ∈ first :: rest, m / bucketSize = date) →
      ((gaps (first :: rest)).Pairwise fun g g' => Disjoint g.missing g'.missing) ∧
      ∀ n, ((first ≤ n ∧ n ≤ rest.getLastD first) ↔
          n ∈ first :: rest ∨ ∃ g ∈ gaps (first :: rest), n ∈ g.missing) ∧
        ¬ (n ∈ first :: rest ∧ ∃ g ∈ gaps (first :: rest), n ∈ g.missing)) := by
  refine ⟨fun last current => ?_, fun date first rest hup hdate => ?_⟩
  · refine ⟨gapBelow?_word last current, isSome_gap?_iff, fun g h => ?_⟩
    exact ⟨missing_eq_Ioo h, missed_eq h, below?_bucket h⟩
  · have hfollows : (first :: rest).IsChain Follows :=
      hup.imp_of_mem_imp fun a b ha hb hlt => ⟨hlt, (hdate b hb).trans (hdate a ha).symm⟩
    refine ⟨pairwise_disjoint_gaps hfollows, fun n => ⟨(mem_or_missing_iff hfollows).symm, ?_⟩⟩
    rintro ⟨hmem, hmissing⟩
    exact not_mem_of_missing hfollows hmissing hmem

/-- The last date that a machine word can tell, from its first counter to the largest word. -/
theorem gaps_of_last_date :
    let first := 18446744073709500000
    let rest := [18446744073709500003, 18446744073709500004, 18446744073709551615]
    gaps (first :: rest) = [⟨184467440737095, 1, 2⟩, ⟨184467440737095, 5, 51614⟩] ∧
    SequenceGap.missed ⟨184467440737095, 5, 51614⟩ = 51610 ∧
    ∃ g ∈ gaps (first :: rest), 18446744073709551614 ∈ g.missing := by
  intro first rest
  obtain ⟨hpair, hlist⟩ := gaps_exact
  obtain ⟨-, -, hgap⟩ := hpair 18446744073709500004 18446744073709551615
  obtain ⟨-, hcover⟩ := hlist 184467440737095 first rest (by decide) (by decide)
  obtain ⟨-, hmissed, -, -⟩ := hgap ⟨184467440737095, 5, 51614⟩ (by decide)
  refine ⟨by decide, hmissed, ?_⟩
  have hwithin : first ≤ 18446744073709551614 ∧ 18446744073709551614 ≤ rest.getLastD first := by
    decide
  have hfresh : 18446744073709551614 ∉ first :: rest := by decide
  exact ((hcover 18446744073709551614).1.1 hwithin).resolve_left hfresh

end Sequence

end DeviceGate
