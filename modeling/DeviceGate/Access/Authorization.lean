import DeviceGate.Access.Rule
import DeviceGate.Audit.Journal
import DeviceGate.Store.Basic

/-!
Authorization of one access to one topic.  The first step that applies decides: superusers, static
rules, the existence of the topic's device, a device's access to itself, and ownership.  Denials are
audited, allowances are not.

* `AccessPolicy`: the configured superusers and rules.
* `AccessPolicy.authorize`: the decision.
* `AccessPolicy.evaluate`: the steps behind the superusers; `ownershipGrants`: the last one.
-/

namespace DeviceGate

/-- A question about one access. -/
structure AccessRequest where
  username : Option String
  clientId : String
  topic : String
  access : Access
  deriving DecidableEq

/-- What is configured about access. -/
structure AccessPolicy where
  superusers : List String := []
  rules : List SystemRule := []
  deriving DecidableEq

/-- Some active relationship names the user, or an organization in which the user is active, in a
role that grants the access. -/
def ownershipGrants (user : User) (memberships : List Membership)
    (relationships : List Relationship) (access : Access) : Bool :=
  let organizations := (memberships.filter (·.active)).map (·.organizationId)
  relationships.any fun r =>
    r.active &&
    (r.userId == some user.id ||
      match r.organizationId with
      | some organization => organizations.contains organization
      | none => false) &&
    r.role.grants access

namespace AccessPolicy

/-- A user's access to a device, by ownership. -/
def checkOwnership (s : Store) (ctx : LogContext) (user : User) (device : Device)
    (access : Access) : Noted Decision := do
  match s.memberships user.id with
  | .error e =>
    Noted.log .error
      (ctx.text ++ " ACL_MEMBERSHIP_LOOKUP_FAILED user_id=" ++ toString user.id ++ " error=" ++
        e.message)
    return .deny "membership lookup failed"
  | .ok memberships =>
    match s.deviceRelationships device.id with
    | .error e =>
      Noted.log .error
        (ctx.text ++ " ACL_OWNERSHIP_LOOKUP_FAILED device_id=" ++ toString device.id ++
          " error=" ++ e.message)
      return .deny "ownership lookup failed"
    | .ok relationships =>
      if ownershipGrants user memberships relationships access then return .allow
      else return .deny "no valid ownership"

/-- A caller's access to a registered device: without a username to itself only, else by
ownership. -/
def checkDevice (s : Store) (ctx : LogContext) (username : Option String) (r : AccessRequest)
    (device : Device) : Noted Decision := do
  match username with
  | none => if device.uuid = r.clientId then return .allow else return .deny "device ID mismatch"
  | some username =>
    match s.findUser username with
    | .ok (some user) => checkOwnership s ctx user device r.access
    | .ok none => return .deny "user not found"
    | .error e =>
      Noted.log .error
        (ctx.text ++ " ACL_USER_LOOKUP_FAILED username=" ++ username ++ " error=" ++ e.message)
      return .deny "user lookup failed"

/-- The steps behind the superusers. -/
def evaluate (policy : AccessPolicy) (s : Store) (ctx : LogContext) (username : Option String)
    (r : AccessRequest) : Noted Decision := do
  match SystemRule.find? policy.rules [username.getD r.clientId] r.topic with
  | some rule =>
    Noted.log .debug
      (ctx.text ++ " ACL_SYSTEM_RULE prefix=" ++ rule.callerStart ++ " filter=" ++ rule.filter ++
        " permission=" ++ rule.permission.label)
    if rule.permission.grants r.access then return .allow else return .deny "system rule"
  | none =>
    match Topic.deviceId? r.topic with
    | none => return .deny "malformed topic"
    | some uuid =>
      match s.findDevice uuid with
      | .ok (some device) => checkDevice s ctx username r device
      | .ok none => return .deny "device not registered"
      | .error e =>
        Noted.log .error
          (ctx.text ++ " ACL_DEVICE_LOOKUP_FAILED device=" ++ uuid ++ " error=" ++ e.message)
        return .deny "device lookup failed"

/-- The report of a decision: a denial is audited. -/
def report (ctx : LogContext) (username : Option String) (r : AccessRequest) :
    Decision → Noted Unit
  | .allow =>
    Noted.log .debug
      (ctx.text ++ " ACL_ALLOW client_id=" ++ r.clientId ++ " topic=" ++ r.topic ++ " access=" ++
        r.access.name)
  | .deny reason => do
    Noted.log .warn
      (ctx.text ++ " ACL_DENY username=" ++ Text.quotedOption username ++ " client_id=" ++
        r.clientId ++ " topic=" ++ r.topic ++ " access=" ++ r.access.name ++ " reason=" ++
        Text.quoted reason)
    Noted.emit <| AuditEvent.of .aclDenied "MQTT topic access denied"
      |>.byActor username |>.graded .warning
      |>.detail "username" (username.getD "") |>.detail "client_id" r.clientId
      |>.detail "topic" r.topic |>.detail "access" r.access.name |>.detail "reason" reason

/-- Whether the username is one of the superusers. -/
def isSuperuser (policy : AccessPolicy) (username : Option String) : Bool :=
  match username with
  | some user => policy.superusers.contains user
  | none => false

/-- Whether the caller may use the topic in that way; superusers may, and leave no trace. -/
def authorize (policy : AccessPolicy) (s : Store) (ctx : LogContext) (r : AccessRequest) :
    Noted Decision := do
  let username := nonempty? r.username
  if policy.isSuperuser username then return .allow
  let decision ← policy.evaluate s ctx username r
  report ctx username r decision
  return decision

end AccessPolicy

end DeviceGate
