import DeviceGate.Proofs.Certificate.Cycles
import DeviceGate.Proofs.Time.Since

/-!
When a certificate is used on.  It is used on while it is valid, and then there is enough left of
it: twelve hours, and a tenth of its lifetime.  As time goes on, less is left of it, so that it
never gets better; one that was to be replaced is to be replaced ever after.  Leap seconds are the
exception: behind one, the clock has been set back, and there is more left of a certificate than
before.

* `CertificateValidity.rank`: the order of the states.
* `Certificate.isValid_iff`, `Certificate.validityAt_eq_expired_iff`: the states in terms of the
  time that is left.
* `Certificate.remainingAt_anti`, `Certificate.rank_mono`: less is left, and no state gets better.
* `Certificate.not_isValid_of_short`: what lives for less than twelve hours is never used on.
* `Lifecycle.Reuses`: the certificate is used on; `Lifecycle.reuses_iff`: while it is valid.
* `Lifecycle.renewal_policy`: all of this, of one decision and of a later one.
* `Lifecycle.reuse_behind_leap_second`: what goes wrong around leap seconds.
-/

namespace DeviceGate

/-- The place of a state in the order from valid to expired. -/
def CertificateValidity.rank : CertificateValidity → ℕ
  | valid _ => 0
  | expiringSoon _ _ => 1
  | expired => 2

lemma CertificateValidity.rank_eq_zero_iff {v : CertificateValidity} :
    v.rank = 0 ↔ v.isValid = true := by
  cases v with
  | valid remaining => exact iff_of_true rfl rfl
  | expired => exact iff_of_false nofun nofun
  | expiringSoon remaining threshold => exact iff_of_false nofun nofun

namespace Certificate

variable {c : Certificate} {t t' : Timestamp}

/-! ### States -/

lemma validityAt_eq_expired_iff : c.validityAt t = .expired ↔ c.expiration ≤ t := by
  rw [validityAt]
  split_ifs with hover
  · exact iff_of_true rfl hover
  · dsimp only
    split_ifs
    · exact iff_of_false nofun hover
    · exact iff_of_false nofun hover

/-- A certificate is valid while enough is left of it. -/
lemma isValid_iff :
    (c.validityAt t).isValid = true ↔
      ¬c.expiration ≤ t ∧ renewalThreshold c.lifetime ≤ c.remainingAt t := by
  rw [validityAt]
  split_ifs with hover
  · exact iff_of_false nofun fun h => h.1 hover
  · dsimp only
    split_ifs with hsoon
    · exact iff_of_false nofun fun h => Span.not_lt.2 h.2 hsoon
    · exact iff_of_true rfl ⟨hover, Span.not_lt.1 hsoon⟩

/-- Whatever its lifetime, twelve hours must be left of a certificate. -/
lemma hours_le_renewalThreshold (lifetime : Span) : Span.ofHours 12 ≤ renewalThreshold lifetime :=
  Span.le_longer_left _ _

/-! ### As time goes on -/

/-- Less is left of the certificate. -/
lemma remainingAt_anti (h : t ≤ t') (ht : t.isLeapSecond = false) (ht' : t'.InPlace)
    (hexpiration : c.expiration.InPlace) : c.remainingAt t' ≤ c.remainingAt t :=
  Timestamp.since_anti h ht ht' hexpiration

/-- A certificate that was to be replaced is to be replaced ever after. -/
lemma isValid_of_later (h : t ≤ t') (ht : t.isLeapSecond = false) (ht' : t'.InPlace)
    (hexpiration : c.expiration.InPlace) (hvalid : (c.validityAt t').isValid = true) :
    (c.validityAt t).isValid = true := by
  rw [isValid_iff] at hvalid ⊢
  obtain ⟨hcurrent, henough⟩ := hvalid
  exact ⟨fun hover => hcurrent (Timestamp.le_trans hover h),
    Span.le_trans henough (remainingAt_anti h ht ht' hexpiration)⟩

/-- The state of a certificate never gets better. -/
lemma rank_mono (h : t ≤ t') (ht : t.isLeapSecond = false) (ht' : t'.InPlace)
    (hexpiration : c.expiration.InPlace) :
    (c.validityAt t).rank ≤ (c.validityAt t').rank := by
  have hexpired : c.validityAt t = .expired → c.validityAt t' = .expired := by
    rw [validityAt_eq_expired_iff, validityAt_eq_expired_iff]
    exact fun hover => Timestamp.le_trans hover h
  have hvalid : (c.validityAt t').rank = 0 → (c.validityAt t).rank = 0 := by
    rw [CertificateValidity.rank_eq_zero_iff, CertificateValidity.rank_eq_zero_iff]
    exact isValid_of_later h ht ht' hexpiration
  rcases hstate : c.validityAt t with remaining | _ | ⟨remaining, threshold⟩
  · exact Nat.zero_le _
  · rw [hexpired hstate]
  · rw [hstate] at hvalid
    exact Nat.one_le_iff_ne_zero.2 fun hzero => nomatch hvalid hzero

/-- A certificate that lives for less than twelve hours is not valid from its issue on. -/
lemma not_isValid_of_short (hshort : c.lifetime < Span.ofHours 12) (h : c.issuedAt ≤ t)
    (hissued : c.issuedAt.isLeapSecond = false) (ht : t.InPlace)
    (hexpiration : c.expiration.InPlace) : ¬(c.validityAt t).isValid = true := by
  rw [isValid_iff]
  rintro ⟨-, henough⟩
  have hless : c.remainingAt t ≤ c.lifetime := Timestamp.since_anti h hissued ht hexpiration
  have hfloor : Span.ofHours 12 ≤ c.lifetime :=
    Span.le_trans (Span.le_trans (hours_le_renewalThreshold c.lifetime) henough) hless
  exact Span.not_lt.2 hfloor hshort

end Certificate

namespace Lifecycle

/-! ### Decisions -/

section Decisions

variable {σ : Type}

/-- The decision is to use the certificate on: what is acquired is not a new one. -/
def Reuses (authority : Authority σ) (request : CertificateRequest) (c : Certificate)
    (t : Timestamp) (s : σ) : Prop :=
  ∃ acquired, (acquireCertificate authority request (some c) t s).value.1 = .ok acquired ∧
    acquired.newBecause = none

/-- What is acquired when the certificate is not used on: what the authority issues. -/
def renewed (reason : String) : Except PkiError Certificate → Except PkiError AcquiredCertificate
  | .ok issued => .ok { certificate := issued, newBecause := some reason }
  | .error e => .error e

variable {authority : Authority σ} {request : CertificateRequest} {c : Certificate} {t : Timestamp}
  {s : σ}

/-- A certificate that is valid is what is acquired, and the authority is not asked. -/
lemma acquire_eq_of_valid (h : (c.validityAt t).isValid = true) :
    (acquireCertificate authority request (some c) t s).value =
      (.ok { certificate := c, newBecause := none }, s) :=
  (acquire_of_valid authority request s rfl (dueBecause?_eq_none_iff.2 ⟨c, rfl, h⟩)).1

/-- For one that is not, the authority is asked once, and what it answers decides. -/
lemma acquire_eq_of_not_valid (h : ¬(c.validityAt t).isValid = true) :
    ∃ reason, (acquireCertificate authority request (some c) t s).value =
      (renewed reason (authority.issue request s).1, (authority.issue request s).2) := by
  rcases hdue : dueBecause? (some c) t with _ | reason
  · obtain ⟨c', hc, hvalid⟩ := dueBecause?_eq_none_iff.1 hdue
    cases hc
    exact absurd hvalid h
  · refine ⟨reason, ?_⟩
    rw [acquire_of_due authority request hdue]
    rcases hissue : authority.issue request s with ⟨e | issued, s'⟩
    · exact (renew_of_failed hissue reason).1
    · exact (renew_of_issued hissue reason).1

lemma renewed_newBecause {reason : String} {answer : Except PkiError Certificate}
    {acquired : AcquiredCertificate} (h : renewed reason answer = .ok acquired) :
    acquired.newBecause = some reason := by
  cases answer with
  | error e => cases h
  | ok issued =>
      cases h
      rfl

/-- A certificate is used on exactly while it is valid. -/
lemma reuses_iff :
    Reuses authority request c t s ↔ (c.validityAt t).isValid = true := by
  constructor
  · rintro ⟨acquired, hacquired, hnone⟩
    by_contra hdue
    obtain ⟨reason, heq⟩ : ∃ reason, (acquireCertificate authority request (some c) t s).value =
        (renewed reason (authority.issue request s).1, (authority.issue request s).2) :=
      acquire_eq_of_not_valid hdue
    rw [heq] at hacquired
    rw [renewed_newBecause hacquired] at hnone
    cases hnone
  · intro hvalid
    exact ⟨_, congrArg Prod.fst (acquire_eq_of_valid hvalid), rfl⟩

/-- **Renewal.**  A certificate is used on exactly while it is valid; then it is what is acquired,
and twelve hours and the threshold of its lifetime are left of it.  Otherwise what is acquired is
what the authority issues.  It is expired exactly from its expiration on.  As time goes on, its
state never gets better, so that a certificate that was to be replaced is to be replaced ever after;
and one that lives for less than twelve hours is to be replaced from its issue on.  The last two
hold of moments that are not in a leap second, or in one that ends its day and not the earlier
moment. -/
theorem renewal_policy (authority : Authority σ) (request : CertificateRequest) (c : Certificate)
    (t : Timestamp) (s : σ) :
    (Reuses authority request c t s ↔ (c.validityAt t).isValid = true) ∧
    (Reuses authority request c t s →
      (acquireCertificate authority request (some c) t s).value =
        (.ok { certificate := c, newBecause := none }, s) ∧
      Span.ofHours 12 ≤ c.remainingAt t ∧ renewalThreshold c.lifetime ≤ c.remainingAt t) ∧
    (¬Reuses authority request c t s →
      ∃ reason, (acquireCertificate authority request (some c) t s).value =
        (renewed reason (authority.issue request s).1, (authority.issue request s).2)) ∧
    (c.validityAt t = .expired ↔ c.expiration ≤ t) ∧
    (∀ t', t ≤ t' → t.isLeapSecond = false → t'.InPlace → c.expiration.InPlace →
      (c.validityAt t).rank ≤ (c.validityAt t').rank ∧
      (¬Reuses authority request c t s → ∀ s', ¬Reuses authority request c t' s')) ∧
    (c.lifetime < Span.ofHours 12 → c.issuedAt ≤ t → c.issuedAt.isLeapSecond = false → t.InPlace →
      c.expiration.InPlace → ¬Reuses authority request c t s) := by
  have hreuses : ∀ {t' s'}, Reuses authority request c t' s' ↔ (c.validityAt t').isValid = true :=
    reuses_iff
  refine ⟨hreuses, fun hreused => ?_, fun hdue => acquire_eq_of_not_valid (mt hreuses.2 hdue),
    Certificate.validityAt_eq_expired_iff,
    fun t' h ht ht' hexpiration => ⟨?_, fun hdue s' hreused => ?_⟩,
    fun hshort h hissued ht hexpiration hreused => ?_⟩
  · have hvalid := hreuses.1 hreused
    have henough := (Certificate.isValid_iff.1 hvalid).2
    exact ⟨acquire_eq_of_valid hvalid,
      Span.le_trans (Certificate.hours_le_renewalThreshold c.lifetime) henough, henough⟩
  · exact Certificate.rank_mono h ht ht' hexpiration
  · exact hdue (hreuses.2
      (Certificate.isValid_of_later h ht ht' hexpiration (hreuses.1 hreused)))
  · exact Certificate.not_isValid_of_short hshort h hissued ht hexpiration (hreuses.1 hreused)

end Decisions

namespace Sample

def request : CertificateRequest where
  commonName := "gate"
  roleName := "server"

/-- An authority that always fails. -/
def authority : Authority Unit where
  name := "down"
  issue _ s := (.error (.transport "down"), s)

def certificate (issuedAt expiration : Timestamp) : Certificate where
  certificate := "CERT"
  privateKey := "KEY"
  issuingCa := "CA"
  serialNumber := "7a:01"
  commonName := "gate"
  issuedAt := issuedAt
  expiration := expiration

/-- A certificate of thirty days. -/
def monthly : Certificate := certificate ⟨1767225600, 0⟩ ⟨1769817600, 0⟩

/-- A certificate that is issued in a leap second, half a second before midnight, and expires a
quarter of a second after noon. -/
def brief : Certificate := certificate ⟨1767311999, 1500000000⟩ ⟨1767355200, 250000000⟩

/-- A certificate that expires at 22:00:59. -/
def daily : Certificate := certificate ⟨1767225600, 0⟩ ⟨1767304859, 0⟩

/-- A certificate of fourteen days that expires in a leap second of the morning. -/
def fortnightly : Certificate := certificate ⟨1766037060, 0⟩ ⟨1767261659, 1500000000⟩

end Sample

open Sample in
/-- Of thirty days the last three are for the renewal; of eleven hours, all. -/
theorem renewal_policy_monthly :
    Reuses authority request monthly ⟨1769558400, 0⟩ () ∧
      (∀ s', ¬Reuses authority request monthly ⟨1769558401, 0⟩ s') ∧
      ¬Reuses authority request (certificate ⟨1767225600, 0⟩ ⟨1767265200, 0⟩)
        ⟨1767225600, 0⟩ () := by
  obtain ⟨hreuses, -⟩ := renewal_policy authority request monthly ⟨1769558400, 0⟩ ()
  obtain ⟨hdue, -, -, -, hever, -⟩ := renewal_policy authority request monthly ⟨1769558400, 1⟩ ()
  obtain ⟨-, -, -, -, -, hshort⟩ := renewal_policy authority request
    (certificate ⟨1767225600, 0⟩ ⟨1767265200, 0⟩) ⟨1767225600, 0⟩ ()
  refine ⟨hreuses.2 (by decide), ?_, hshort (by decide) (by decide) rfl (by decide) (by decide)⟩
  exact (hever ⟨1769558401, 0⟩ (by decide) rfl (by decide) (by decide)).2
    (mt hdue.1 (by decide))

open Sample in
/-- A certificate that lives for less than twelve hours is refused in the leap second in which it is
issued, and used on at midnight, half a second later.  Others are refused at one moment and used on
shortly after it, because the later moment is in a leap second at another time of day, or because
the certificate expires in one. -/
theorem reuse_behind_leap_second :
    (brief.lifetime < Span.ofHours 12 ∧ brief.issuedAt ≤ ⟨1767312000, 0⟩ ∧
      ¬Reuses authority request brief brief.issuedAt () ∧
      Reuses authority request brief ⟨1767312000, 0⟩ () ∧
      (brief.validityAt ⟨1767312000, 0⟩).rank < (brief.validityAt brief.issuedAt).rank) ∧
    ((⟨1767261659, 900000000⟩ : Timestamp) ≤ ⟨1767261659, 1000000000⟩ ∧
      ¬Reuses authority request daily ⟨1767261659, 900000000⟩ () ∧
      Reuses authority request daily ⟨1767261659, 1000000000⟩ ()) ∧
    ((⟨1767139199, 900000000⟩ : Timestamp) ≤ ⟨1767139200, 0⟩ ∧
      ¬Reuses authority request fortnightly ⟨1767139199, 900000000⟩ () ∧
      Reuses authority request fortnightly ⟨1767139200, 0⟩ ()) := by
  simp only [reuses_iff]
  decide

end Lifecycle

end DeviceGate
