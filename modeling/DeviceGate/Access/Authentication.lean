import DeviceGate.Access.Decision
import DeviceGate.Audit.Journal
import DeviceGate.Store.Basic

/-!
Connection-level authentication.  A caller with a username and a password is a user, of whom only
the existence is checked here; a caller with a client id and no password is a device, whose
certificate the broker has verified already.  Every answer emits exactly one audit event.

* `Store.authenticate`: the decision.
* `reportUnknownDevice`: a device check and the event of its failure.
-/

namespace DeviceGate

/-- What a caller presents. -/
structure Credentials where
  username : Option String
  password : Option String
  clientId : Option String
  deriving DecidableEq

namespace Credentials

/-- A text that is there and not blank. -/
def present? (s : Option String) : Option String :=
  s.filter fun t => !Text.isBlankText t

end Credentials

/-- A device as it was looked up; a missing one is reported. -/
def reportUnknownDevice (ctx : LogContext) (device : Option Device) (clientId : String) :
    Noted (Option Device) := do
  if device.isNone then
    Noted.log .warn (ctx.text ++ " DEVICE_AUTH_DENY reason=device_not_registered")
    Noted.emit <| AuditEvent.of .deviceAuthFailed "Unknown device attempted mTLS hail"
      |>.byActor (some clientId) |>.graded .warning
      |>.detail "client_id" clientId |>.detail "reason" "device not registered"
  return device

namespace Store

/-- A user who presented a password. -/
def authenticateUser (s : Store) (ctx : LogContext) (username : String)
    (clientId : Option String) : Noted Decision := do
  let client := clientId.getD ""
  let reject (reason : String) : Noted Decision := do
    Noted.emit <| AuditEvent.of .authFailed "Broker login rejected"
      |>.byActor (some username) |>.graded .warning
      |>.detail "client_id" client |>.detail "reason" reason
    return .deny reason
  match s.findUser username with
  | .ok (some user) =>
    Noted.log .info
      (ctx.text ++ " AUTH_SUCCESS username=" ++ username ++ " user_id=" ++ toString user.id)
    Noted.emit <| AuditEvent.of .authSuccess "Broker login accepted"
      |>.byActor (some username)
      |>.detail "client_id" client |>.detail "user_id" (toString user.id)
    return .allow
  | .ok none =>
    Noted.log .warn (ctx.text ++ " AUTH_DENY reason=unknown_user username=" ++ username)
    reject "user not found"
  | .error e =>
    Noted.log .error
      (ctx.text ++ " AUTH_LOOKUP_FAILED username=" ++ username ++ " error=" ++ e.message)
    reject "account lookup failed"

/-- A device that the broker has verified. -/
def authenticateDevice (s : Store) (ctx : LogContext) (clientId : String) : Noted Decision := do
  let ctx := ctx.about clientId
  let found ← match s.findDevice clientId with
    | .ok device => pure device
    | .error e => do
      Noted.log .error (ctx.text ++ " DEVICE_AUTH_LOOKUP_FAILED error=" ++ e.message)
      pure none
  match ← reportUnknownDevice ctx found clientId with
  | none => return .deny "device not registered"
  | some device =>
    Noted.log .info
      (ctx.text ++ " DEVICE_AUTH_SUCCESS device_id=" ++ toString device.id ++ " status=" ++
        device.status.name)
    Noted.emit <| AuditEvent.of .deviceAuthSuccess "Device mTLS hail accepted"
      |>.byActor (some clientId)
      |>.detail "device_id" (toString device.id) |>.detail "status" device.status.name
    return .allow

/-- A caller who is neither. -/
def refuseIncomplete (ctx : LogContext) (username clientId : Option String) : Noted Decision := do
  Noted.log .warn
    (ctx.text ++ " AUTH_DENY reason=missing_credentials username=" ++
      Text.quotedOption username ++ " client_id=" ++ Text.quotedOption clientId)
  Noted.emit <| AuditEvent.of .authFailed "Missing broker credentials"
    |>.byActor username |>.graded .warning
    |>.detail "client_id" (clientId.getD "") |>.detail "reason" "missing credentials"
  return .deny "missing credentials"

/-- Whether a connection may proceed. -/
def authenticate (s : Store) (ctx : LogContext) (c : Credentials) : Noted Decision :=
  let username := Credentials.present? c.username
  let clientId := Credentials.present? c.clientId
  match username, Credentials.present? c.password, clientId with
  | some username, some _, clientId => s.authenticateUser ctx username clientId
  | _, none, some clientId => s.authenticateDevice ctx clientId
  | username, _, clientId => refuseIncomplete ctx username clientId

end Store

end DeviceGate
