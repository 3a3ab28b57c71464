import DeviceGate.Audit.Journal
import DeviceGate.Certificate.Authority

/-!
Reuse or renewal of the certificate.  The current one is used on while it is valid; otherwise the
authority is asked for a new one.  Every success emits exactly one audit event.

* `acquireCertificate`: the certificate to use and how it was obtained.
-/

namespace DeviceGate

/-- A certificate to use; a new one comes with the reason for it. -/
structure AcquiredCertificate where
  certificate : Certificate
  newBecause : Option String
  deriving DecidableEq

namespace Lifecycle

/-- The context of the log lines. -/
def context (request : CertificateRequest) : LogContext where
  request := "cert"
  subject := some request.commonName

/-- What an event tells about a certificate. -/
def describe (e : AuditEvent) (request : CertificateRequest) (c : Certificate) : AuditEvent :=
  e.detail "common_name" request.commonName
    |>.detail "serial_number" c.serialNumber |>.detail "expiration" c.expiration.text

/-- The event of a certificate that is used on. -/
def reusedEvent (request : CertificateRequest) (c : Certificate) : AuditEvent :=
  describe (.of .certificateReused "Server certificate reused") request c

/-- The event of a new certificate. -/
def issuedEvent (request : CertificateRequest) (c : Certificate) (reason : String) : AuditEvent :=
  (describe (.of .certificateAcquiredNew "Server certificate issued") request c).detail "reason"
    reason

/-- Uses a certificate on. -/
def reuse (request : CertificateRequest) (c : Certificate) (now : Timestamp) :
    Noted AcquiredCertificate := do
  Noted.log .info
    ((context request).text ++ " CERT_REUSED serial=" ++ c.serialNumber ++ " remaining_hours=" ++
      toString (c.remainingAt now).inHours)
  Noted.emit (reusedEvent request c)
  return { certificate := c, newBecause := none }

/-- Asks the authority for a new certificate. -/
def renew {σ : Type} (authority : Authority σ) (request : CertificateRequest) (reason : String) :
    Act σ (Except PkiError AcquiredCertificate) := do
  let ctx := context request
  Act.log .info
    (ctx.text ++ " CERT_REQUEST authority=" ++ authority.name ++ " role=" ++ request.roleName ++
      " reason=" ++ Text.quoted reason)
  match ← modifyGet (authority.issue request) with
  | .error e =>
    Act.log .error (ctx.text ++ " CERT_ISSUE_FAILED error=" ++ e.message)
    return .error e
  | .ok issued =>
    Act.log .info
      (ctx.text ++ " CERT_ACQUIRED_NEW serial=" ++ issued.serialNumber ++ " expiration=" ++
        issued.expiration.text)
    Act.emit (issuedEvent request issued reason)
    return .ok { certificate := issued, newBecause := some reason }

end Lifecycle

/-- The current certificate while it is valid, or else a new one. -/
def acquireCertificate {σ : Type} (authority : Authority σ) (request : CertificateRequest)
    (current : Option Certificate) (now : Timestamp) :
    Act σ (Except PkiError AcquiredCertificate) :=
  match current with
  | none => Lifecycle.renew authority request "no current certificate"
  | some c =>
    match (c.validityAt now).reason? with
    | none => Except.ok <$> StateT.lift (Lifecycle.reuse request c now)
    | some reason => Lifecycle.renew authority request reason

end DeviceGate
