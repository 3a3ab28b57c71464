import DeviceGate.Config.Settings
import DeviceGate.Proofs.Number.Reading

/-!
Which lifetimes of certificates can be configured.  A text spells a lifetime if, without the blanks
around it, it is a run of digits and a unit.  A lifetime whose amount or whose text is wrong is
refused like every other setting that breaks a rule; but one whose amount is in range, and whose
span is not, is not answered at all.

* `Ttl.Spells`: the texts that spell a lifetime.
* `Ttl.spells_iff`, `Ttl.Spells.unique`: where the digits and the unit are found, and that there is
  one such reading.
* `Ttl.read_eq`, `Ttl.read_of_not_spells`: what is read.
* `Settings.ComesToTtl`, `Settings.exists_comesToTtl`: when the rules come to the lifetime.
* `Settings.ttl_answered`: what a text says, and what becomes of the settings that have it.
-/

namespace DeviceGate

namespace Ttl

/-- The units, each with its seconds; no unit stands for seconds. -/
def units : List (List Char × ℕ) :=
  [([], 1), (['s'], 1), (['m'], 60), (['h'], 3600), (['d'], 86400)]

/-- Without the blanks around it, the text is a run of digits that amount to so much, and a unit of
so many seconds. -/
def Spells (s : String) (amount unit : ℕ) : Prop :=
  ∃ digits suffix, (Text.trim s).toList = digits ++ suffix ∧ digits ≠ [] ∧
    (∀ c ∈ digits, '0' ≤ c ∧ c ≤ '9') ∧ amount = Nat.ofDigitChars 10 digits 0 ∧
    (suffix, unit) ∈ units

/-- The greatest amount. -/
def greatestAmount : ℕ := 9223372036854775807

variable {s : String} {amount unit n : ℕ}

/-! ### The parts of a text -/

lemma unitSeconds?_eq_some_iff {suffix : List Char} :
    unitSeconds? suffix = some unit ↔ (suffix, unit) ∈ units := by
  simp only [units, List.mem_cons, List.not_mem_nil, or_false, Prod.mk.injEq]
  constructor
  · intro h
    unfold unitSeconds? at h
    split at h <;> simp_all
  · rintro (⟨rfl, rfl⟩ | ⟨rfl, rfl⟩ | ⟨rfl, rfl⟩ | ⟨rfl, rfl⟩ | ⟨rfl, rfl⟩) <;> rfl

/-- A unit does not begin with a digit. -/
lemma endsDigits_of_mem_units {suffix : List Char} (h : (suffix, unit) ∈ units) :
    Json.EndsDigits suffix := by
  simp only [units, List.mem_cons, List.not_mem_nil, or_false, Prod.mk.injEq] at h
  intro c hc
  rcases h with ⟨rfl, -⟩ | ⟨rfl, -⟩ | ⟨rfl, -⟩ | ⟨rfl, -⟩ | ⟨rfl, -⟩ <;> cases hc <;> rfl

lemma isDigit_iff {c : Char} : isDigit c = true ↔ '0' ≤ c ∧ c ≤ '9' := by
  rw [isDigit, Bool.and_eq_true, decide_eq_true_eq, decide_eq_true_eq]

/-- The digits are those that the text begins with, and the unit is all that follows. -/
lemma spells_iff :
    Spells s amount unit ↔
      (Text.trim s).toList.takeWhile isDigit ≠ [] ∧
      amount = digitsValue ((Text.trim s).toList.takeWhile isDigit) ∧
      unitSeconds? ((Text.trim s).toList.dropWhile isDigit) = some unit := by
  rw [unitSeconds?_eq_some_iff]
  constructor
  · rintro ⟨digits, suffix, htext, hne, hdigits, hamount, hunit⟩
    have hall : ∀ c ∈ digits, c.isDigit = true := fun c hc => by
      rw [← Json.isDigit_eq, isDigit_iff]
      exact hdigits c hc
    obtain ⟨htake, hdrop⟩ :=
      Json.takeWhile_isDigit_append hall (endsDigits_of_mem_units hunit)
    rw [htext, htake, hdrop]
    exact ⟨hne, hamount, hunit⟩
  · rintro ⟨hne, hamount, hunit⟩
    refine ⟨_, _, List.takeWhile_append_dropWhile.symm, hne, fun c hc => ?_, hamount, hunit⟩
    exact isDigit_iff.1 (List.mem_takeWhile_imp hc)

/-- A text spells one lifetime at most. -/
lemma Spells.unique {amount' unit' : ℕ} (h : Spells s amount unit) (h' : Spells s amount' unit') :
    amount = amount' ∧ unit = unit' := by
  obtain ⟨-, hamount, hunit⟩ := spells_iff.1 h
  obtain ⟨-, hamount', hunit'⟩ := spells_iff.1 h'
  exact ⟨hamount.trans hamount'.symm, Option.some.inj (hunit.symm.trans hunit')⟩

/-! ### What is read -/

/-- A lifetime whose amount is in range is read, if its span is in range too. -/
lemma read_eq (h : Spells s amount unit) (hamount : amount ≤ greatestAmount) :
    read s = if amount * unit * 1000 ≤ Span.greatestMilliseconds then .seconds (amount * unit)
      else .beyondRange := by
  obtain ⟨hne, hvalue, hunit⟩ := spells_iff.1 h
  have hread : readBelow? 9223372036854775808 ((Text.trim s).toList.takeWhile isDigit) =
      some amount :=
    readBelow?_eq_some_iff.2
      ⟨hne, fun _ => List.mem_takeWhile_imp, hvalue, Nat.lt_succ_of_le hamount⟩
  have hrange : amount * unit ≤ maxSeconds ↔ amount * unit * 1000 ≤ Span.greatestMilliseconds := by
    rw [maxSeconds, Nat.le_div_iff_mul_le (by omega)]
  simp only [read, hread, hunit, hrange]

/-- All other texts are refused. -/
lemma read_of_not_spells (h : ¬∃ amount unit, Spells s amount unit ∧ amount ≤ greatestAmount) :
    read s = .unreadable := by
  rcases hread : readBelow? 9223372036854775808 ((Text.trim s).toList.takeWhile isDigit) with
    _ | amount
  · simp only [read, hread]
  · rcases hunit : unitSeconds? ((Text.trim s).toList.dropWhile isDigit) with _ | unit
    · simp only [read, hread, hunit]
    · obtain ⟨hne, -, hvalue, hlt⟩ := readBelow?_eq_some_iff.1 hread
      exact absurd ⟨amount, unit, spells_iff.2 ⟨hne, hvalue, hunit⟩, Nat.le_of_lt_succ hlt⟩ h

lemma exists_spells (h : read s ≠ .unreadable) :
    ∃ amount unit, Spells s amount unit ∧ amount ≤ greatestAmount :=
  by_contra fun hno => h (read_of_not_spells hno)

lemma read_eq_unreadable_iff :
    read s = .unreadable ↔ ¬∃ amount unit, Spells s amount unit ∧ amount ≤ greatestAmount := by
  constructor
  · rintro hread ⟨amount, unit, hspells, hamount⟩
    rw [read_eq hspells hamount] at hread
    split at hread <;> cases hread
  · exact read_of_not_spells

lemma read_eq_seconds_iff :
    read s = .seconds n ↔
      ∃ amount unit, Spells s amount unit ∧ amount ≤ greatestAmount ∧ n = amount * unit ∧
        n * 1000 ≤ Span.greatestMilliseconds := by
  constructor
  · intro hread
    obtain ⟨amount, unit, hspells, hamount⟩ := exists_spells (by rw [hread]; nofun)
    rw [read_eq hspells hamount] at hread
    split at hread <;> cases hread
    rename_i hrange
    exact ⟨amount, unit, hspells, hamount, rfl, hrange⟩
  · rintro ⟨amount, unit, hspells, hamount, rfl, hrange⟩
    rw [read_eq hspells hamount, if_pos hrange]

lemma read_eq_beyondRange_iff :
    read s = .beyondRange ↔
      ∃ amount unit, Spells s amount unit ∧ amount ≤ greatestAmount ∧
        Span.greatestMilliseconds < amount * unit * 1000 := by
  constructor
  · intro hread
    obtain ⟨amount, unit, hspells, hamount⟩ := exists_spells (by rw [hread]; nofun)
    rw [read_eq hspells hamount] at hread
    split at hread <;> cases hread
    rename_i hrange
    exact ⟨amount, unit, hspells, hamount, not_le.1 hrange⟩
  · rintro ⟨amount, unit, hspells, hamount, hrange⟩
    rw [read_eq hspells hamount, if_neg (not_le.2 hrange)]

end Ttl

/-! ### The settings -/

namespace Settings

/-- The rules come to the lifetime of certificates, since no rule before it is broken. -/
structure ComesToTtl (s : Settings) (p : PkiSettings) : Prop where
  pki : s.pki = some p
  listenAddr : Text.isBlankText s.server.listenAddr = false
  topicNamespace : isTopicSegment s.telemetry.topicNamespace = true
  sweepInterval : s.telemetry.sweepInterval ≠ 0
  address : Text.isBlankText p.address = false
  commonName : Text.isBlankText p.commonName = false
  roleName : Text.isBlankText p.roleName = false

/-- The settings obey the rules, or break one, and the answer says which. -/
def Answered (s : Settings) : Prop :=
  s.check = .ok () ∨ ∃ why, s.check = .error (.invalid why)

variable {s : Settings} {p : PkiSettings}

/-- Where the rules come to the lifetime, those about the authority decide. -/
lemma check_eq (h : s.ComesToTtl p) : s.check = p.check := by
  simp only [check, h.pki, h.listenAddr, h.topicNamespace, h.sweepInterval, Bool.not_true,
    Bool.false_eq_true, if_false]

lemma check_of_unreadable (h : s.ComesToTtl p) (hread : Ttl.read p.ttl = .unreadable) :
    s.check = broken ("pki.ttl is invalid: " ++ Text.quoted p.ttl) := by
  simp only [check_eq h, PkiSettings.check, h.address, h.commonName, h.roleName, hread,
    Bool.false_eq_true, if_false]

lemma check_of_beyondRange (h : s.ComesToTtl p) (hread : Ttl.read p.ttl = .beyondRange) :
    s.check = .error .ttlBeyondRange := by
  simp only [check_eq h, PkiSettings.check, h.address, h.commonName, h.roleName, hread,
    Bool.false_eq_true, if_false]

/-- Behind the lifetime stand the rules about the intervals. -/
lemma check_of_seconds {n : ℕ} (h : s.ComesToTtl p) (hread : Ttl.read p.ttl = .seconds n) :
    s.check = if p.rotationInterval = 0 ∨ p.retryInterval = 0 then
        broken "pki rotation and retry intervals must be positive"
      else .ok () := by
  simp only [check_eq h, PkiSettings.check, h.address, h.commonName, h.roleName, hread,
    Bool.false_eq_true, if_false]

/-- Settings that are not answered break no rule before the lifetime. -/
lemma exists_comesToTtl (h : ¬s.Answered) : ∃ p, s.ComesToTtl p := by
  have hfault : ∀ why, s.check ≠ broken why := fun why hcheck => h (.inr ⟨why, hcheck⟩)
  have hlisten : Text.isBlankText s.server.listenAddr = false :=
    Bool.eq_false_iff.2 fun hblank => hfault _ (if_pos hblank)
  have htopic : isTopicSegment s.telemetry.topicNamespace = true := by
    by_contra hno
    exact hfault _ (by simp only [check, hlisten, hno]; rfl)
  have hsweep : s.telemetry.sweepInterval ≠ 0 := fun hzero =>
    hfault _ (by simp only [check, hlisten, htopic, hzero]; rfl)
  rcases hpki : s.pki with _ | p
  · refine absurd (.inl ?_) h
    simp only [check, hlisten, htopic, hsweep, hpki, Bool.not_true, Bool.false_eq_true, if_false]
  have hcheck : s.check = p.check := by
    simp only [check, hlisten, htopic, hsweep, hpki, Bool.not_true, Bool.false_eq_true, if_false]
  have haddress : Text.isBlankText p.address = false :=
    Bool.eq_false_iff.2 fun hblank => hfault _ (hcheck.trans (if_pos hblank))
  have hcommon : Text.isBlankText p.commonName = false :=
    Bool.eq_false_iff.2 fun hblank =>
      hfault _ (by rw [hcheck, PkiSettings.check, haddress, hblank]; rfl)
  have hrole : Text.isBlankText p.roleName = false :=
    Bool.eq_false_iff.2 fun hblank =>
      hfault _ (by rw [hcheck, PkiSettings.check, haddress, hcommon, hblank]; rfl)
  exact ⟨p, hpki, hlisten, htopic, hsweep, haddress, hcommon, hrole⟩

/-- Settings are not answered if the rules come to a lifetime that is beyond the range of spans. -/
lemma answered_or : s.Answered ∨
    s.check = .error .ttlBeyondRange ∧ ∃ p, s.ComesToTtl p ∧ Ttl.read p.ttl = .beyondRange := by
  by_cases h : s.Answered
  · exact .inl h
  obtain ⟨p, hp⟩ := exists_comesToTtl h
  rcases hread : Ttl.read p.ttl with n | _ | _
  · have hcheck := check_of_seconds hp hread
    by_cases hzero : p.rotationInterval = 0 ∨ p.retryInterval = 0
    · exact .inl (.inr ⟨_, hcheck.trans (if_pos hzero)⟩)
    · exact .inl (.inl (hcheck.trans (if_neg hzero)))
  · exact .inl (.inr ⟨_, check_of_unreadable hp hread⟩)
  · exact .inr ⟨check_of_beyondRange hp hread, p, hp, hread⟩

end Settings

open Ttl in
/-- **Lifetimes in the settings.**  A text is read as a lifetime exactly if, without the blanks
around it, it is a run of digits and a unit, and both the amount and the span are in range.  If it
is no such text, or the amount is out of range, then it is unreadable, and settings in which the
rules come to it are refused by name.  But if the amount is in range and the span is not, then the
text is neither read nor unreadable; settings in which the rules come to such a text are not
answered, and all others are. -/
theorem Settings.ttl_answered (s : String) :
    (∀ n, read s = .seconds n ↔
      ∃ amount unit, Spells s amount unit ∧ amount ≤ greatestAmount ∧ n = amount * unit ∧
        n * 1000 ≤ Span.greatestMilliseconds) ∧
    (read s = .unreadable ↔
      ¬∃ amount unit, Spells s amount unit ∧ amount ≤ greatestAmount) ∧
    (read s = .beyondRange ↔
      ∃ amount unit, Spells s amount unit ∧ amount ≤ greatestAmount ∧
        Span.greatestMilliseconds < amount * unit * 1000) ∧
    (∀ t : Settings,
      (t.Answered ↔ t.check ≠ .error .ttlBeyondRange) ∧
      (t.Answered ↔ ¬∃ p, t.ComesToTtl p ∧ read p.ttl = .beyondRange)) ∧
    ∀ (t : Settings) (p : PkiSettings), t.ComesToTtl p → p.ttl = s →
      (∀ n, read s = .seconds n →
        (t.check = .ok () ↔ p.rotationInterval ≠ 0 ∧ p.retryInterval ≠ 0)) ∧
      (read s = .unreadable →
        t.check = .error (.invalid ("pki.ttl is invalid: " ++ Text.quoted s))) := by
  have hanswered : ∀ t : Settings, t.Answered → t.check ≠ .error .ttlBeyondRange := by
    rintro t (hok | ⟨why, hwhy⟩) <;> simp_all
  refine ⟨fun n => read_eq_seconds_iff, read_eq_unreadable_iff, read_eq_beyondRange_iff,
    fun t => ⟨⟨hanswered t, fun hno => ?_⟩, fun ht => ?_, fun hno => ?_⟩, ?_⟩
  · obtain ht | ⟨hcheck, -⟩ := answered_or (s := t)
    · exact ht
    · exact absurd hcheck hno
  · rintro ⟨p, hp, hread⟩
    exact hanswered t ht (check_of_beyondRange hp hread)
  · obtain ht | ⟨-, hp⟩ := answered_or (s := t)
    · exact ht
    · exact absurd hp hno
  · rintro t p hp rfl
    refine ⟨fun n hread => ?_, check_of_unreadable hp⟩
    rw [check_of_seconds hp hread]
    by_cases hzero : p.rotationInterval = 0 ∨ p.retryInterval = 0
    · simp only [if_pos hzero, broken, reduceCtorEq, false_iff]
      omega
    · simp only [if_neg hzero, true_iff]
      omega

/-- The greatest number of days, and one day more: settings that ask for it are not answered. -/
theorem Settings.ttl_answered_longest :
    Ttl.read "106751991167d" = .seconds 9223372036828800 ∧
    Ttl.read "106751991168d" = .beyondRange ∧
    ¬({ pki := some
          { address := "https://pki", token := "", mount := "pki", roleName := "gate",
            commonName := "gate.local", ttl := "106751991168d", rotationInterval := 3600,
            retryInterval := 60, requestTimeout := 30 } } : Settings).Answered := by
  have hlong : Ttl.read "106751991168d" = .beyondRange :=
    (Settings.ttl_answered "106751991168d").2.2.1.2
      ⟨106751991168, 86400,
        Ttl.spells_iff.2 ⟨by decide +kernel, by decide +kernel, by decide +kernel⟩,
        by decide, by decide⟩
  refine ⟨?_, hlong, fun h => ?_⟩
  · exact ((Settings.ttl_answered "106751991167d").1 _).2
      ⟨106751991167, 86400,
        Ttl.spells_iff.2 ⟨by decide +kernel, by decide +kernel, by decide +kernel⟩,
        by decide, by decide, by decide⟩
  · refine ((Settings.ttl_answered "106751991168d").2.2.2.1 _).2.1 h
      ⟨_, ⟨rfl, ?_, ?_, ?_, ?_, ?_, ?_⟩, hlong⟩ <;> decide +kernel

end DeviceGate
