import DeviceGate.Config.Settings
import DeviceGate.Gate.World

/-!
From settings to a running gate.

* `GateConfig.ofSettings`: the part of the settings that calls need.
* `World.ofSettings`: the gate at the beginning.
-/

namespace DeviceGate

/-- The configuration of the gate; the check of the topics' first segment may be left out. -/
def GateConfig.ofSettings (s : Settings) (checksNamespace : Bool) : GateConfig where
  policy := s.access
  admission :=
    { topicNamespace := if checksNamespace then some s.telemetry.topicNamespace else none
      sequenceTtl := s.telemetry.sequenceTtl }
  publishSecret := s.server.publishSecret
  deviceTimeout := s.telemetry.deviceTimeout
  sweepInterval := s.telemetry.sweepInterval

/-- The gate at the beginning, and the report of its seed. -/
def World.ofSettings (s : Settings) (checksNamespace : Bool) (sink : AuditSink) (clock : Timestamp)
    (host : Host) : World × List LogLine :=
  World.start (.ofSettings s checksNamespace) s.seed sink clock host

end DeviceGate
