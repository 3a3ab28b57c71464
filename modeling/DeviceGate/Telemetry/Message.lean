import DeviceGate.Log
import DeviceGate.Topic

/-!
A message on its way into the gate: its id, its topic, and how it came.
-/

namespace DeviceGate

/-- How a message came. -/
inductive Transport where
  | mqtt
  | http
  deriving DecidableEq

/-- The name of a transport. -/
def Transport.name : Transport → String
  | .mqtt => "mqtt"
  | .http => "http"

/-- A message without its payload. -/
structure Message where
  id : String
  topic : String
  transport : Transport
  deriving DecidableEq

/-- The context of a message's log lines, about the topic's device where there is one. -/
def Message.context (m : Message) : LogContext where
  request := m.id
  subject := Topic.deviceId? m.topic

end DeviceGate
