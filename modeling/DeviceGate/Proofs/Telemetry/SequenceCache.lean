import DeviceGate.Proofs.Json.Canonical
import DeviceGate.Proofs.Number.Reading
import DeviceGate.Proofs.Telemetry.Answer

/-!
The cache of sequence numbers.  It keeps texts under texts; but the key of a device and an instance
determines both, whatever characters the name of the instance holds, and the text of a number is
read as that number.  So a cache that answers, and none of whose entries is over, is a finite map
from devices and instances to numbers.

* `Sequence.key_inj`: keys of different devices or instances are different.
* `readUnsigned64?_trim_toString`: a number is read as it was written.
* `Cache.Serves`: the cache answers, and no entry of it is over.
* `Cache.Keeps`: it knows the latest number of each device and instance.
* `Cache.Keeps.lastSeen`, `Sequence.keeps_remember`: what is looked up, and what is kept.
* `Sequence.reconcile_eq`: the gap before a number, and its event.
-/

namespace DeviceGate

/-! ### Keys -/

lemma Json.toList_toString_int (n : ℤ) : (toString n).toList = Json.encodeInt n := by
  rw [Int.toString_eq_repr, Int.repr_eq_if, Json.encodeInt]
  by_cases hn : n < 0
  · have hnat : (-n).toNat = n.natAbs := by omega
    rw [if_neg (by omega), if_pos hn, hnat, Nat.repr_eq_ofList_toDigits, String.toList_append,
      String.toList_ofList]
    simp
  · have hnat : n.toNat = n.natAbs := by omega
    rw [if_pos (by omega), if_neg hn, hnat, Nat.repr_eq_ofList_toDigits, String.toList_ofList]

lemma Sequence.toList_key (deviceId : ℤ) (instanceName : String) :
    (key deviceId instanceName).toList =
      "seq:".toList ++ (Json.encodeInt deviceId ++ ':' :: instanceName.toList) := by
  have hcolon : ":".toList = [':'] := by simp
  simp only [key, String.toList_append, Json.toList_toString_int, hcolon, List.append_assoc,
    List.singleton_append]

/-- **Keys.**  A key determines the device and the instance: the id of the device ends at the second
colon, and all that follows is the name of the instance. -/
lemma Sequence.key_inj {deviceId deviceId' : ℤ} {instanceName instanceName' : String} :
    key deviceId instanceName = key deviceId' instanceName' ↔
      deviceId = deviceId' ∧ instanceName = instanceName' := by
  constructor
  · intro h
    have hlist := congrArg String.toList h
    rw [toList_key, toList_key] at hlist
    have hnumber : ∀ n : ℤ, ∀ c ∈ Json.encodeInt n, DecimalLayout.isNumberChar c = true := by
      intro n c hc
      rcases Json.mem_encodeInt hc with hdigit | rfl
      · simp [DecimalLayout.isNumberChar, hdigit]
      · rfl
    have hcolon : ∀ name : List Char, Json.IsClosed (':' :: name) := by
      intro name c hc
      obtain rfl : ':' = c := by simpa using hc
      rfl
    obtain ⟨hid, hname⟩ := Json.number_append_inj (hnumber _) (hnumber _) (hcolon _) (hcolon _)
      (List.append_cancel_left hlist)
    exact ⟨Json.encodeInt_injective hid, String.toList_inj.1 (List.cons.inj hname).2⟩
  · rintro ⟨rfl, rfl⟩
    rfl

/-! ### Numbers as texts -/

/-- A text without blanks is not trimmed. -/
lemma Text.trim_eq_self {s : String} (h : ∀ c ∈ s.toList, isBlank c = false) : trim s = s := by
  have hdrop : ∀ cs : List Char, (∀ c ∈ cs, isBlank c = false) → cs.dropWhile isBlank = cs := by
    intro cs hcs
    cases cs with
    | nil => rfl
    | cons c rest => exact List.dropWhile_cons_of_neg (by simp [hcs c List.mem_cons_self])
  have hreverse : s.toList.reverse.dropWhile isBlank = s.toList.reverse :=
    hdrop _ fun c hc => h c (List.mem_reverse.1 hc)
  rw [trim, trimChars, trimLeft, hdrop _ h, trimRight, hreverse, List.reverse_reverse,
    String.ofList_toList]

lemma Text.isBlank_of_isDigit {c : Char} (h : c.isDigit = true) : isBlank c = false := by
  have hrange : 48 ≤ c.toNat ∧ c.toNat ≤ 57 := Char.isDigit_iff_toNat.1 h
  have houtside : ∀ r ∈ blankRanges, r.2 < 48 ∨ 57 < r.1 := by decide
  rw [isBlank, List.any_eq_false]
  intro r hr
  rw [Bool.and_eq_true, decide_eq_true_eq, decide_eq_true_eq]
  rcases houtside r hr with hbelow | habove
  · omega
  · omega

/-- **Numbers as texts.**  A number of 64 bits is read as it was written. -/
lemma readUnsigned64?_trim_toString {n : ℕ} (h : n < 18446744073709551616) :
    readUnsigned64? (Text.trim (toString n)) = some n := by
  have htext : (toString n).toList = Nat.toDigits 10 n := by
    rw [Nat.toString_eq_repr, Nat.repr_eq_ofList_toDigits, String.toList_ofList]
  obtain ⟨hne, hdigits⟩ := DecimalText.isDigits_toDigits n
  rw [Text.trim_eq_self fun c hc => Text.isBlank_of_isDigit (hdigits c (htext ▸ hc)),
    readUnsigned64?, htext]
  have hread : readBelow? 18446744073709551616 (Nat.toDigits 10 n) = some n :=
    readBelow?_eq_some_iff.2 ⟨hne, fun c hc => by rw [Json.isDigit_eq, hdigits c hc],
      by rw [Json.digitsValue_eq, Nat.ofDigitChars_ten_toDigits], h⟩
  split
  · rename_i ds hplus
    have hsign := hdigits '+' (by simp [hplus])
    exact absurd hsign (by decide)
  · exact hread

lemma lt_of_readUnsigned64? {s : String} {n : ℕ} (h : readUnsigned64? s = some n) :
    n < 18446744073709551616 := by
  rw [readUnsigned64?] at h
  split at h
  · exact lt_of_readBelow? h
  · exact lt_of_readBelow? h

namespace TelemetryPayload

/-- The sequence number is what the payload says. -/
lemma sequenceOf_eq {payload : Json} {t : TelemetryPayload} (h : ofJson? payload = .ok t) :
    sequenceOf payload = .ok t.sequenceNumber := by
  rw [ofJson?] at h
  split at h
  · cases h
  · simp only [bind_eq_ok_iff] at h
    obtain ⟨_, -, _, -, _, -, number, hnumber, h⟩ := h
    split at h
    · simp only [bind_eq_ok_iff, pure_eq_ok_iff] at h
      obtain ⟨_, -, _, -, rfl⟩ := h
      exact hnumber
    · cases h

lemma lt_of_asSequence? {v : Json} {n : ℕ} (h : asSequence? v = some n) :
    n < 18446744073709551616 := by
  cases v with
  | integer i =>
      obtain ⟨hpos, rfl⟩ : 0 ≤ i.val ∧ i.val.toNat = n := by simpa [asSequence?] using h
      have hi := i.lt
      omega
  | text s => exact lt_of_readUnsigned64? h
  | _ => cases h

/-- The sequence number of a message has 64 bits. -/
lemma sequenceNumber_lt {payload : Json} {t : TelemetryPayload} {n : ℕ}
    (h : ofJson? payload = .ok t) (hn : t.sequenceNumber = some n) : n < 18446744073709551616 := by
  have hsequence := sequenceOf_eq h
  rw [hn, sequenceOf] at hsequence
  split at hsequence
  · cases hsequence
  · cases hsequence
  · split at hsequence
    · rename_i hread
      cases hsequence
      exact lt_of_asSequence? hread
    · cases hsequence

end TelemetryPayload

/-! ### The cache as a map -/

/-- The sequence numbers of devices and instances, the latest one first. -/
abbrev Sequence.History := List ((ℤ × String) × ℕ)

namespace Cache

/-- The cache answers, means something, and no entry of it is over. -/
structure Serves (c : Cache) : Prop where
  answers : c.unavailable = false
  counts : c.overrun = false
  lasts : ∀ e ∈ c.entries, c.now < e.2.expiresAt

/-- The cache knows the latest number of each device and instance. -/
structure Keeps (c : Cache) (h : Sequence.History) : Prop where
  latest : ∀ deviceId instanceName,
    (c.entries.lookup (Sequence.key deviceId instanceName)).map (·.value) =
      (h.lookup (deviceId, instanceName)).map toString
  bounded : ∀ e ∈ h, e.2 < 18446744073709551616

variable {c : Cache} {h : Sequence.History}

lemma check_of_answers (hanswers : c.unavailable = false) : c.check = .ok () := by
  rw [check, hanswers]
  rfl

lemma set_eq_ok (hanswers : c.unavailable = false) (key value : String) {ttl moment : ℕ}
    (hclock : Clock.after? c.now ttl = some moment) :
    c.set key value ttl =
      .ok { c with entries := (key, ⟨value, moment⟩) :: (c.drop key).entries } := by
  rw [set, check_of_answers hanswers, hclock]
  rfl

/-- Of a cache that serves, what is listed under a key is its value. -/
lemma Serves.get (hserves : c.Serves) (key : String) :
    c.get key = .ok ((c.entries.lookup key).map (·.value), c) := by
  rw [Cache.get, check_of_answers hserves.answers]
  rcases hentry : c.entries.lookup key with _ | e
  · rfl
  · have hlasts := hserves.lasts (key, e) (Json.mem_of_lookup_eq_some hentry)
    change (if e.expiresAt ≤ c.now then _ else _) = _
    rw [if_neg hlasts.not_ge]
    rfl

/-- Looking a number up leaves it as it is, whatever the entry says. -/
lemma Serves.lastSeen_snd (hserves : c.Serves) (deviceId : ℤ) (instanceName : String) :
    (c.lastSeen deviceId instanceName).2 = c := by
  rw [Cache.lastSeen, hserves.get]
  rcases c.entries.lookup (Sequence.key deviceId instanceName) with _ | e
  · rfl
  · rcases hread : readUnsigned64? (Text.trim e.value) with _ | n
    · simp only [Option.map_some, hread]
    · simp only [Option.map_some, hread]

/-- **Looking a number up.**  A cache that serves gives the latest number. -/
lemma Keeps.lastSeen (hkeeps : c.Keeps h) (hserves : c.Serves) (deviceId : ℤ)
    (instanceName : String) :
    (c.lastSeen deviceId instanceName).1 = .ok (h.lookup (deviceId, instanceName)) := by
  rw [Cache.lastSeen, hserves.get, hkeeps.latest]
  rcases hlatest : h.lookup (deviceId, instanceName) with _ | n
  · rfl
  · have hn : n < 18446744073709551616 := hkeeps.bounded _ (Json.mem_of_lookup_eq_some hlatest)
    simp only [Option.map_some, readUnsigned64?_trim_toString hn]

end Cache

/-! ### Reconciling a number -/

namespace Sequence

section Reconcile

variable {c : Cache} {h : History} (ctx : LogContext) (ttl : ℕ) (device : Device)
  (instanceName : String) (current : ℕ)

lemma history_ok (previous : Option ℕ) : history ctx (.ok previous) = pure previous :=
  rfl

/-- The gap is the one behind the number before, and its event is that of the gap. -/
lemma reportGap_eq (previous : Option ℕ) :
    (reportGap ctx device instanceName previous current).value = previous.bind (gap? · current) ∧
      (reportGap ctx device instanceName previous current).events =
        (previous.bind (gap? · current)).toList.map (gapEvent device instanceName) := by
  cases previous with
  | none => exact ⟨rfl, rfl⟩
  | some last =>
      rw [Option.bind_some, reportGap]
      rcases hgap : gap? last current with _ | g
      · split <;> simp [Noted.events]
      · split <;> simp [Noted.events]

lemma events_remember (deviceId : ℤ) (c : Cache) :
    (remember ctx ttl deviceId instanceName current c).events = [] := by
  rw [remember]
  rcases c.set (key deviceId instanceName) (toString current) ttl with e | after
  · rfl
  · rfl

/-- A cache that serves keeps a number until its clock has counted so many seconds more, if it gets
there. -/
lemma value_remember (hanswers : c.unavailable = false) (deviceId : ℤ) {moment : ℕ}
    (hclock : Clock.after? c.now ttl = some moment) :
    (remember ctx ttl deviceId instanceName current c).value =
      { c with
        entries := (key deviceId instanceName, ⟨toString current, moment⟩) ::
          (c.drop (key deviceId instanceName)).entries } := by
  rw [remember, Cache.set_eq_ok hanswers _ _ hclock]
  rfl

/-- Where keeping a number has not overrun the cache, its clock gets to the end of the entry. -/
lemma exists_after?_of_remember (hanswers : c.unavailable = false) {deviceId : ℤ}
    (hcounts : (remember ctx ttl deviceId instanceName current c).value.overrun = false) :
    ∃ moment, Clock.after? c.now ttl = some moment := by
  rw [← Option.ne_none_iff_exists']
  intro hnone
  have hoverrun := (overrun_remember ctx ttl deviceId instanceName current c).2
    (.inr ⟨hanswers, hnone⟩)
  rw [hcounts] at hoverrun
  cases hoverrun

/-- **Keeping a number.**  It is the latest one of its device and instance from then on. -/
lemma keeps_remember (hkeeps : c.Keeps h) (hanswers : c.unavailable = false) (deviceId : ℤ)
    {moment : ℕ} (hclock : Clock.after? c.now ttl = some moment)
    (hcurrent : current < 18446744073709551616) :
    (remember ctx ttl deviceId instanceName current c).value.Keeps
      (((deviceId, instanceName), current) :: h) := by
  rw [value_remember ctx ttl instanceName current hanswers deviceId hclock]
  refine ⟨fun other name => ?_, List.forall_mem_cons.2 ⟨hcurrent, hkeeps.bounded⟩⟩
  have hdropped := Json.lookup_filter_ne (key deviceId instanceName) (key other name) c.entries
  rw [Json.lookup_cons_ite, Json.lookup_cons_ite, Cache.drop, hdropped]
  by_cases hsame : key other name = key deviceId instanceName
  · obtain ⟨rfl, rfl⟩ := key_inj.1 hsame
    rw [if_pos rfl, if_pos rfl]
    rfl
  · have hpair : (other, name) ≠ (deviceId, instanceName) := fun heq =>
      hsame (key_inj.2 (Prod.mk.inj heq))
    rw [if_neg hsame, if_neg hsame, if_neg hpair]
    exact hkeeps.latest other name

lemma reconcile_snd (hserves : c.Serves) :
    (reconcile ctx ttl device instanceName current c).value.2 =
      (remember ctx ttl device.id instanceName current c).value := by
  simp only [reconcile, Noted.value_bind, Noted.value_pure, hserves.lastSeen_snd]

/-- **Reconciling a number.**  The gap is the one behind the latest number of the same device and
instance, and is reported by its event. -/
lemma reconcile_eq (hkeeps : c.Keeps h) (hserves : c.Serves) :
    let gap := (h.lookup (device.id, instanceName)).bind (gap? · current)
    let reconciled := reconcile ctx ttl device instanceName current c
    reconciled.value.1 = gap ∧
      reconciled.events = gap.toList.map (gapEvent device instanceName) := by
  intro gap reconciled
  obtain ⟨hvalue, hevents⟩ := reportGap_eq ctx device instanceName current
    (h.lookup (device.id, instanceName))
  simp only [reconciled, reconcile, hkeeps.lastSeen hserves, history_ok, pure_bind,
    Noted.value_bind, Noted.events_bind, Noted.value_pure, Noted.events_pure, events_remember,
    List.append_nil]
  exact ⟨hvalue, hevents⟩

end Reconcile

end Sequence

end DeviceGate
