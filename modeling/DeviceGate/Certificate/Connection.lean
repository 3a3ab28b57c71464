import DeviceGate.Audit.Journal
import DeviceGate.Certificate.Basic

/-!
The session with the broker and its credential.  A new session is opened before the old one is let
go, so that a refused connect leaves the old one in place.

* `Broker`: whatever opens sessions, takes messages on them and ends them.
* `Connection`: the live session, if there is one, with its certificate.
* `Connection.swap`, `publish`, `shutdown`: the operations.
-/

namespace DeviceGate

/-- Why the broker does not do as asked. -/
inductive BrokerError where
  | connect (why : String)
  | notConnected
  | publish (why : String)
  deriving DecidableEq

/-- The wording of a failure. -/
def BrokerError.message : BrokerError → String
  | connect why => "broker connect failed: " ++ why
  | notConnected => "broker not connected"
  | publish why => "publish failed: " ++ why

/-- A broker whose sessions are of type `ς`, over a state, which a call may change.  It writes to
the log and has no part in the audit trail. -/
structure Broker (ς κ : Type) where
  connect : Certificate → Act κ (Except BrokerError ς)
  publish : ς → String → ByteArray → Act κ (Except BrokerError Unit)
  disconnect : ς → Act κ Unit
  events_connect (certificate : Certificate) (k : κ) : (connect certificate k).events = []
  events_publish (session : ς) (topic : String) (payload : ByteArray) (k : κ) :
    (publish session topic payload k).events = []
  events_disconnect (session : ς) (k : κ) : (disconnect session k).events = []

attribute [simp] Broker.events_connect Broker.events_publish Broker.events_disconnect

/-- A session and the certificate that it was opened with. -/
structure LiveConnection (ς : Type) where
  certificate : Certificate
  session : ς
  deriving DecidableEq

/-- The gate's connection: the state of the broker, and the live session. -/
structure Connection (ς κ : Type) where
  connector : κ
  live : Option (LiveConnection ς) := none

namespace Connection

variable {ς κ : Type}

/-- The certificate in use. -/
def activeCertificate (c : Connection ς κ) : Option Certificate :=
  c.live.map (·.certificate)

/-- Opens a session with a new certificate, makes it the live one, and ends the one before. -/
def swap (broker : Broker ς κ) (c : Connection ς κ) (certificate : Certificate) :
    Noted (Except BrokerError Unit × Connection ς κ) := do
  match ← broker.connect certificate c.connector with
  | (.error e, k) => return (.error e, { c with connector := k })
  | (.ok session, k) =>
    let live := some { certificate := certificate, session := session }
    match c.live with
    | some old =>
      Noted.log .info
        ("BROKER_CREDENTIALS_SWAPPED old_serial=" ++ old.certificate.serialNumber ++
          " new_serial=" ++ certificate.serialNumber)
      let ((), k) ← broker.disconnect old.session k
      return (.ok (), { connector := k, live := live })
    | none =>
      Noted.log .info ("BROKER_CONNECTED serial=" ++ certificate.serialNumber)
      return (.ok (), { connector := k, live := live })

/-- Publishes on the live session. -/
def publish (broker : Broker ς κ) (c : Connection ς κ) (topic : String) (payload : ByteArray) :
    Noted (Except BrokerError Unit × Connection ς κ) := do
  match c.live with
  | none => return (.error .notConnected, c)
  | some live =>
    let (answer, k) ← broker.publish live.session topic payload c.connector
    return (answer, { c with connector := k })

/-- Ends the live session. -/
def shutdown (broker : Broker ς κ) (c : Connection ς κ) : Noted (Connection ς κ) := do
  match c.live with
  | none => return c
  | some old =>
    Noted.log .info ("BROKER_DISCONNECTED serial=" ++ old.certificate.serialNumber)
    let ((), k) ← broker.disconnect old.session c.connector
    return { connector := k, live := none }

end Connection

end DeviceGate
