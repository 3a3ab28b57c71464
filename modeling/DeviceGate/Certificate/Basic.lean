import DeviceGate.Number.Binary64
import DeviceGate.Text.Quoted
import DeviceGate.Time.Rfc3339

/-!
The gate's own certificate and when it is due for renewal: with less than twelve hours left, or with
less than a tenth of its lifetime.

* `Certificate.validityAt`: valid, expiring soon or expired.
* `renewalThreshold`: how much time must be left.
* `Certificate.debugText`: what may be written to a log; the key material is left out.
-/

namespace DeviceGate

/-- A certificate with its key material, which stays in memory. -/
structure Certificate where
  certificate : String
  privateKey : String
  issuingCa : String
  serialNumber : String
  commonName : String
  issuedAt : Timestamp
  expiration : Timestamp
  deriving DecidableEq

/-- The state of a certificate at some moment. -/
inductive CertificateValidity where
  | valid (remaining : Span)
  | expired
  | expiringSoon (remaining threshold : Span)
  deriving DecidableEq

namespace CertificateValidity

/-- Whether the certificate may be used on. -/
def isValid : CertificateValidity → Bool
  | valid _ => true
  | _ => false

/-- Why the certificate is to be replaced, if it is. -/
def reason? : CertificateValidity → Option String
  | valid _ => none
  | expired => some "certificate expired"
  | expiringSoon remaining threshold =>
    some ("certificate expiring soon: " ++ toString remaining.inMinutes ++
      "m remaining, threshold " ++ toString threshold.inMinutes ++ "m")

end CertificateValidity

/-- The least time that must be left of any certificate. -/
def minRenewalWindow : Span := .ofHours 12

/-- A tenth of a lifetime in whole milliseconds; a negative lifetime counts as none. -/
def lifetimeShare (lifetime : Span) : Span :=
  .ofMilliseconds
    ((Binary64.ofInt (max lifetime.inMilliseconds 0)).mul (.ofRatio false 1 10)).toInt64

/-- The time that must be left of a certificate of that lifetime. -/
def renewalThreshold (lifetime : Span) : Span :=
  minRenewalWindow.longer (lifetimeShare lifetime)

namespace Certificate

/-- From issue to expiration. -/
def lifetime (c : Certificate) : Span := c.expiration.since c.issuedAt

/-- From `now` to expiration. -/
def remainingAt (c : Certificate) (now : Timestamp) : Span := c.expiration.since now

/-- The state at a moment. -/
def validityAt (c : Certificate) (now : Timestamp) : CertificateValidity :=
  if c.expiration ≤ now then .expired
  else
    let remaining := c.remainingAt now
    let threshold := renewalThreshold c.lifetime
    if remaining < threshold then .expiringSoon remaining threshold else .valid remaining

/-- Both come from one issue, which the serial number names. -/
def sameIssuance (a b : Certificate) : Bool :=
  a.serialNumber = b.serialNumber

/-- The certificate as a log may show it. -/
def debugText (c : Certificate) : String :=
  "ServerCertificate \x7b serial_number: " ++ Text.quoted c.serialNumber ++ ", common_name: " ++
    Text.quoted c.commonName ++ ", issued_at: " ++ c.issuedAt.zuluText ++ ", expiration: " ++
    c.expiration.zuluText ++ ", .. \x7d"

end Certificate

end DeviceGate
