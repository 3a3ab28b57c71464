import DeviceGate.Audit.Journal
import DeviceGate.Digest.Hmac
import DeviceGate.Json.Canonical
import DeviceGate.Number.Literal
import DeviceGate.Store.Basic
import DeviceGate.Text.Base64Url
import DeviceGate.Text.Hex

/-!
Integrity of a payload: it repeats the serial number of the device's processor, and it carries the
keyed digest of its own canonical encoding, signature left out, under the device's secret.

* `Signature.sign`: the digest of a payload; `Signature.agrees`: a digest as it was sent agrees with
  the computed one.
* `Device.checkSerial`, `Device.checkSignature`: the two checks.
* `Store.enrollSecret`: a device's secret, given to it if it has none.
-/

namespace DeviceGate

namespace Signature

/-- The member that carries the signature. -/
def field : String := "signature"

/-- The payload without its own signature. -/
def strip : Json → Json
  | .object members => .object (Json.dropMember field members)
  | v => v

/-- The text that the signature covers. -/
def signedText (payload : Json) : String :=
  (strip payload).canonicalText

/-- The bytes of a text. -/
def bytesOf (s : String) : List UInt8 :=
  s.toUTF8.toList

/-- The signature of a payload under a secret. -/
def sign (secret : String) (payload : Json) : String :=
  Digest.Hmac.hexDigest (bytesOf secret) (bytesOf (signedText payload))

/-- Two hexadecimal digests stand for the same bytes; the second may be in either case. -/
def agrees (expected provided : String) : Bool :=
  match Text.Hex.decode? expected.toList, Text.Hex.decode? (lowerAscii provided).toList with
  | some a, some b => a == b
  | _, _ => false

end Signature

/-- The outcome of an integrity check. -/
inductive IntegrityCheck where
  | valid
  | rejected (reason : String)
  /-- The hardware may have been tampered with. -/
  | tampered (reason : String)
  deriving DecidableEq

namespace IntegrityCheck

/-- Whether the check passed. -/
def isValid : IntegrityCheck → Bool
  | valid => true
  | _ => false

/-- Why the check failed, when it did. -/
def reason? : IntegrityCheck → Option String
  | valid => none
  | rejected reason | tampered reason => some reason

/-- Whether the failure is a grave one. -/
def isCritical : IntegrityCheck → Bool
  | tampered _ => true
  | _ => false

end IntegrityCheck

namespace Device

/-- The payload must repeat the registered serial number. -/
def checkSerial (d : Device) (ctx : LogContext) (payload : Json) : Noted IntegrityCheck := do
  let id := " device_id=" ++ toString d.id
  match nonempty? d.cpuSerial with
  | none =>
    Noted.log .warn (ctx.text ++ " CPU_SERIAL_UNREGISTERED" ++ id)
    return .rejected "device has no registered cpu_serial"
  | some registered =>
    match (payload.member? "cpu_serial").bind Json.text? with
    | none =>
      Noted.log .warn (ctx.text ++ " CPU_SERIAL_MISSING" ++ id)
      return .rejected "payload missing cpu_serial"
    | some claimed =>
      if claimed = registered then
        Noted.log .debug (ctx.text ++ " CPU_SERIAL_VERIFIED" ++ id)
        return .valid
      else
        Noted.log .error
          (ctx.text ++ " CRITICAL CPU_SERIAL_MISMATCH" ++ id ++ " registered=" ++ registered ++
            " claimed=" ++ claimed ++ " note=possible_storage_medium_swap")
        return .tampered "cpu_serial mismatch: possible storage-medium swap"

/-- The payload must be signed with the device's secret. -/
def checkSignature (d : Device) (ctx : LogContext) (payload : Json) : Noted IntegrityCheck := do
  let id := " device_id=" ++ toString d.id
  match nonempty? d.hmacSecret with
  | none =>
    Noted.log .warn (ctx.text ++ " HMAC_SKIP reason=no_secret" ++ id)
    return .rejected "device has no HMAC secret"
  | some secret =>
    match (payload.member? Signature.field).bind Json.text? with
    | none =>
      Noted.log .warn (ctx.text ++ " HMAC_SKIP reason=no_signature" ++ id)
      return .rejected "missing signature"
    | some provided =>
      if Signature.agrees (Signature.sign secret payload) provided then
        Noted.log .debug (ctx.text ++ " HMAC_VERIFY" ++ id ++ " valid=true")
        return .valid
      else
        Noted.log .warn (ctx.text ++ " HMAC_MISMATCH" ++ id)
        return .rejected "HMAC signature mismatch"

end Device

/-- The text of a secret made from random bytes. -/
def secretText (randomBytes : List UInt8) : String :=
  String.ofList (Text.Base64Url.encode randomBytes)

/-- A device's secret: the one of the record at hand, or else a new one, which is stored and
reported. -/
def Store.enrollSecret (s : Store) (ctx : LogContext) (d : Device) (randomBytes : List UInt8) :
    Noted (Except StoreError String × Store) := do
  match nonempty? d.hmacSecret with
  | some secret =>
    Noted.log .info
      (ctx.text ++ " SECRET_ENROLL_SKIP reason=already_enrolled device_id=" ++ toString d.id)
    return (.ok secret, s)
  | none =>
    let secret := secretText randomBytes
    match s.setSecret d.id secret with
    | .error e => return (.error e, s)
    | .ok s =>
      Noted.log .info (ctx.text ++ " SECRET_ENROLLED device_id=" ++ toString d.id)
      Noted.emit <| AuditEvent.of .deviceSecretEnrolled "Device HMAC secret enrolled"
        |>.byActor (some d.uuid) |>.detail "device_id" (toString d.id)
      return (.ok secret, s)

end DeviceGate
