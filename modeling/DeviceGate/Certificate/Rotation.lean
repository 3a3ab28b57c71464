import DeviceGate.Certificate.Connection
import DeviceGate.Certificate.Lifecycle

/-!
One cycle of rotation: a valid certificate is acquired, and if it is another one than the active
one, the connection is swapped over to it.

* `rotate`: the cycle; `RotationOutcome`: what came of it.
-/

namespace DeviceGate

/-- What came of a cycle. -/
inductive RotationOutcome where
  | unchanged
  | rotated (serialNumber : String)
  | failed (message : String)
  deriving DecidableEq

namespace Rotation

/-- Whether the acquired certificate is the active one. -/
def isActive (active : Option Certificate) (c : Certificate) : Bool :=
  match active with
  | some a => a.sameIssuance c
  | none => false

variable {ς κ : Type}

/-- Swaps the connection over to a certificate. -/
def apply (broker : Broker ς κ) (c : Connection ς κ) (certificate : Certificate) :
    Noted (RotationOutcome × Connection ς κ) := do
  let serial := certificate.serialNumber
  match ← c.swap broker certificate with
  | (.ok (), c) =>
    Noted.log .info ("CERT_ROTATED serial=" ++ serial)
    return (.rotated serial, c)
  | (.error e, c) =>
    Noted.log .error
      ("CERT_ROTATION_FAILED stage=swap serial=" ++ serial ++ " error=" ++ e.message)
    return (.failed e.message, c)

end Rotation

/-- One cycle of rotation. -/
def rotate {σ ς κ : Type} (authority : Authority σ) (broker : Broker ς κ)
    (request : CertificateRequest) (now : Timestamp) :
    Act (σ × Connection ς κ) RotationOutcome := fun (s, c) => do
  let active := c.activeCertificate
  match ← acquireCertificate authority request active now s with
  | (.error e, s) =>
    Noted.log .error ("CERT_ROTATION_FAILED stage=acquire error=" ++ e.message)
    return (.failed e.message, s, c)
  | (.ok acquired, s) =>
    if Rotation.isActive active acquired.certificate then
      Noted.log .debug "CERT_ROTATION_SKIPPED reason=still_valid"
      return (.unchanged, s, c)
    else
      let (outcome, c) ← Rotation.apply broker c acquired.certificate
      return (outcome, s, c)

end DeviceGate
