import DeviceGate.Access.Rule
import DeviceGate.Config.Tree
import DeviceGate.Fleet.Seed
import DeviceGate.Time.Rfc3339

/-!
Readers of the records that stand in configuration: rules, devices and what belongs to them.

* `SystemRule.ofTree?`, `Device.ofTree?`, …: one record each.
* `Seed.ofTree?`: all records to start with.
-/

namespace DeviceGate

open ConfigTree

/-- A rule. -/
def SystemRule.ofTree? (t : ConfigTree) : Option SystemRule := do
  let r ← t.record? ["prefix", "filter", "permission"]
  return {
    callerStart := ← r.required "prefix" text?
    filter := ← r.required "filter" text?
    permission := ← r.required "permission" (named? RulePermission.ofName?) }

/-- A timestamp. -/
def Timestamp.ofTree? (t : ConfigTree) : Option Timestamp :=
  t.text?.bind Timestamp.readLenient?

/-- A device. -/
def Device.ofTree? (t : ConfigTree) : Option Device := do
  let r ← t.record? ["id", "uuid", "cpu_serial", "hmac_secret", "status", "last_seen_at"]
  return {
    id := ← r.required "id" int?
    uuid := ← r.required "uuid" text?
    cpuSerial := ← r.optional "cpu_serial" text?
    hmacSecret := ← r.optional "hmac_secret" text?
    status := ← r.required "status" (named? DeviceStatus.ofName?)
    lastSeenAt := ← r.optional "last_seen_at" Timestamp.ofTree? }

/-- A component type. -/
def ComponentType.ofTree? (t : ConfigTree) : Option ComponentType := do
  let r ← t.record? ["id", "name"]
  return { id := ← r.required "id" int?, name := ← r.required "name" text? }

/-- An attachment. -/
def Attachment.ofTree? (t : ConfigTree) : Option Attachment := do
  let r ← t.record? ["device_id", "component_type_id", "instance_name"]
  return {
    deviceId := ← r.required "device_id" int?
    componentTypeId := ← r.required "component_type_id" int?
    instanceName := ← r.required "instance_name" text? }

/-- A user. -/
def User.ofTree? (t : ConfigTree) : Option User := do
  let r ← t.record? ["id", "username"]
  return { id := ← r.required "id" int?, username := ← r.required "username" text? }

/-- A membership. -/
def Membership.ofTree? (t : ConfigTree) : Option Membership := do
  let r ← t.record? ["organization_id", "user_id", "active"]
  return {
    organizationId := ← r.required "organization_id" int?
    userId := ← r.required "user_id" int?
    active := ← r.required "active" bool? }

/-- A relationship. -/
def Relationship.ofTree? (t : ConfigTree) : Option Relationship := do
  let r ← t.record? ["device_id", "organization_id", "user_id", "role", "active"]
  return {
    deviceId := ← r.required "device_id" int?
    organizationId := ← r.optional "organization_id" int?
    userId := ← r.optional "user_id" int?
    role := ← r.required "role" (named? OwnershipRole.ofName?)
    active := ← r.required "active" bool? }

/-- The records to start with; each list may be missing. -/
def Seed.ofTree? (t : ConfigTree) : Option Seed := do
  let r ← t.record?
    ["devices", "component_types", "attachments", "users", "memberships", "relationships"]
  return {
    devices := ← r.orElse "devices" [] (listOf? Device.ofTree?)
    componentTypes := ← r.orElse "component_types" [] (listOf? ComponentType.ofTree?)
    attachments := ← r.orElse "attachments" [] (listOf? Attachment.ofTree?)
    users := ← r.orElse "users" [] (listOf? User.ofTree?)
    memberships := ← r.orElse "memberships" [] (listOf? Membership.ofTree?)
    relationships := ← r.orElse "relationships" [] (listOf? Relationship.ofTree?) }

end DeviceGate
