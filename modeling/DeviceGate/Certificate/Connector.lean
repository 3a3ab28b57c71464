import DeviceGate.Certificate.Connection

/-!
A broker that does what it is told to, for rehearsals of the certificate's life: it refuses connects
and publishes as long as it has a reason to, and keeps a record of the rest.

* `Connector`: how the broker answers, how many sessions it has opened, and what has happened.
* `Connector.broker`: it as a broker.
-/

namespace DeviceGate

/-- A session: its number among those opened, and the serial number it was opened with. -/
structure BrokerSession where
  number : Nat
  serial : String
  deriving DecidableEq

/-- What happened at the broker. -/
inductive BrokerEvent where
  | connected (session : BrokerSession)
  | refused (serial : String)
  | published (session : BrokerSession) (topic payload : String)
  | disconnected (session : BrokerSession)
  deriving DecidableEq

/-- How connects and publishes are answered. -/
inductive ConnectorMode where
  /-- There is no broker: sessions exist, nothing is sent. -/
  | detached
  /-- There is a broker, which refuses connects or publishes for the given reasons. -/
  | attached (refusal publishFailure : Option String)
  deriving DecidableEq

/-- How the broker answers, how many sessions were opened, and what happened. -/
structure Connector where
  mode : ConnectorMode
  opened : Nat := 0
  history : List BrokerEvent := []

namespace Connector

/-- The connector with one event more, which nobody keeps where there is no broker. -/
def record (k : Connector) (e : BrokerEvent) : Connector :=
  match k.mode with
  | .detached => k
  | .attached _ _ => { k with history := k.history ++ [e] }

/-- Opens a session. -/
def accept (k : Connector) (c : Certificate) : BrokerSession × Connector :=
  let session : BrokerSession := { number := k.opened + 1, serial := c.serialNumber }
  (session, { k with opened := k.opened + 1 }.record (.connected session))

/-- Opens a session, unless connects are refused. -/
def connect (k : Connector) (c : Certificate) :
    Noted (Except BrokerError BrokerSession × Connector) := do
  match k.mode with
  | .detached =>
    Noted.log .info
      ("BROKER_DETACHED serial=" ++ c.serialNumber ++ " common_name=" ++ c.commonName)
    let (session, k) := k.accept c
    return (.ok session, k)
  | .attached (some why) _ => return (.error (.connect why), k.record (.refused c.serialNumber))
  | .attached none _ =>
    let (session, k) := k.accept c
    return (.ok session, k)

/-- Publishes on a session. -/
def publish (k : Connector) (session : BrokerSession) (topic payload : String) :
    Noted (Except BrokerError Unit × Connector) := do
  match k.mode with
  | .detached =>
    Noted.log .warn ("BROKER_PUBLISH_DROPPED topic=" ++ topic ++ " serial=" ++ session.serial)
    return (.error .notConnected, k)
  | .attached _ (some why) => return (.error (.publish why), k)
  | .attached _ none => return (.ok (), k.record (.published session topic payload))

/-- Ends a session. -/
def disconnect (k : Connector) (session : BrokerSession) : Connector :=
  k.record (.disconnected session)

/-- The connector as a broker; every payload of a rehearsal is text. -/
def broker : Broker BrokerSession Connector where
  connect certificate k := k.connect certificate
  publish session topic payload k := k.publish session topic ((String.fromUTF8? payload).getD "")
  disconnect session k := return ((), k.disconnect session)
  events_connect certificate k := by
    rcases hmode : k.mode with _ | ⟨_ | _, _⟩ <;> simp [connect, hmode]
  events_publish session topic payload k := by
    rcases hmode : k.mode with _ | ⟨_, _ | _⟩ <;> simp [publish, hmode]
  events_disconnect session k := rfl

end Connector

end DeviceGate
