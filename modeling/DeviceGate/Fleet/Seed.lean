import DeviceGate.Fleet.Records
import DeviceGate.Store.Basic
import DeviceGate.Log

/-!
Records that the store starts with.

* `Seed.apply`: the tables with the records added, one after the other.
* `Seed.isEmpty`: there is nobody and nothing to add.
-/

namespace DeviceGate

/-- Records to be added. -/
structure Seed where
  devices : List Device := []
  componentTypes : List ComponentType := []
  attachments : List Attachment := []
  users : List User := []
  memberships : List Membership := []
  relationships : List Relationship := []
  deriving DecidableEq

namespace Seed

/-- No devices, no users and no component types. -/
def isEmpty (s : Seed) : Bool :=
  s.devices.isEmpty && s.users.isEmpty && s.componentTypes.isEmpty

/-- The tables with the records added. -/
def apply (s : Seed) (t : Tables) : Tables :=
  let t := s.devices.foldl Tables.addDevice t
  let t := s.componentTypes.foldl Tables.addComponentType t
  let t := s.attachments.foldl Tables.attach t
  let t := s.users.foldl Tables.addUser t
  let t := s.memberships.foldl Tables.addMembership t
  s.relationships.foldl Tables.addRelationship t

/-- The report of the addition. -/
def appliedLine (s : Seed) : LogLine where
  level := .info
  message :=
    "SEED_APPLIED devices=" ++ toString s.devices.length ++ " components=" ++
      toString s.componentTypes.length ++ " attachments=" ++ toString s.attachments.length ++
      " users=" ++ toString s.users.length

end Seed

end DeviceGate
