import DeviceGate.Access.Authorization
import DeviceGate.Certificate.Ttl
import DeviceGate.Config.Records
import DeviceGate.Config.Toml
import DeviceGate.Text.Quoted

/-!
The settings of the gate, with a value for every one that is missing, and the rules that they must
obey before the gate starts.

* `Settings.ofTree?`: the settings of a configuration tree.
* `Settings.check`: the first rule that is broken.
* `Settings.ofToml`, `ofJson`: both, from a document.
-/

namespace DeviceGate

open ConfigTree

/-- Where the gate listens, and what publishing over HTTP requires. -/
structure ServerSettings where
  listenAddr : String := "0.0.0.0:8080"
  publishSecret : Option String := none
  deriving DecidableEq

/-- Telemetry and its timing, in seconds. -/
structure TelemetrySettings where
  topicNamespace : String := "ares4"
  sequenceTtl : Nat := 604800
  deviceTimeout : Nat := 300
  sweepInterval : Nat := 60
  deriving DecidableEq

/-- The authority that issues certificates, and when to turn to it. -/
structure PkiSettings where
  address : String
  token : String
  mount : String
  roleName : String
  commonName : String
  ttl : String
  rotationInterval : Nat
  retryInterval : Nat
  requestTimeout : Nat
  deriving DecidableEq

/-- All settings; without an authority certificates are not rotated. -/
structure Settings where
  server : ServerSettings := {}
  access : AccessPolicy := { superusers := [], rules := SystemRule.builtIn }
  telemetry : TelemetrySettings := {}
  pki : Option PkiSettings := none
  seed : Seed := {}
  deriving DecidableEq

/-- Why settings are not used. -/
inductive SettingsFault where
  | missing (why : String)
  /-- The document is malformed, or a value is of the wrong kind. -/
  | unreadable
  | invalid (why : String)
  /-- The configured lifetime of certificates is beyond the range of spans. -/
  | ttlBeyondRange
  deriving DecidableEq

/-- The wording of a fault. -/
def SettingsFault.message : SettingsFault → String
  | missing why => "failed to read config: " ++ why
  | unreadable => "failed to parse config"
  | invalid why => "invalid config: " ++ why
  | ttlBeyondRange => "pki.ttl is beyond the range of spans"

/-! ### Reading -/

/-- The server's settings. -/
def ServerSettings.ofTree? (t : ConfigTree) : Option ServerSettings := do
  let absent : ServerSettings := {}
  let r ← t.record? ["listen_addr", "publish_secret"]
  return {
    listenAddr := ← r.orElse "listen_addr" absent.listenAddr text?
    publishSecret := ← r.orElse "publish_secret" none (nullable? text?) }

/-- The settings about access. -/
def AccessPolicy.ofTree? (t : ConfigTree) : Option AccessPolicy := do
  let r ← t.record? ["superusers", "system_rules"]
  return {
    superusers := ← r.orElse "superusers" [] (listOf? text?)
    rules := ← r.orElse "system_rules" SystemRule.builtIn (listOf? SystemRule.ofTree?) }

/-- The settings of telemetry. -/
def TelemetrySettings.ofTree? (t : ConfigTree) : Option TelemetrySettings := do
  let absent : TelemetrySettings := {}
  let r ← t.record?
    ["topic_namespace", "sequence_ttl_secs", "device_timeout_secs", "sweep_interval_secs"]
  return {
    topicNamespace := ← r.orElse "topic_namespace" absent.topicNamespace text?
    sequenceTtl := ← r.orElse "sequence_ttl_secs" absent.sequenceTtl nat?
    deviceTimeout := ← r.orElse "device_timeout_secs" absent.deviceTimeout nat?
    sweepInterval := ← r.orElse "sweep_interval_secs" absent.sweepInterval nat? }

/-- The settings of the authority. -/
def PkiSettings.ofTree? (t : ConfigTree) : Option PkiSettings := do
  let r ← t.record?
    ["address", "token", "mount", "role_name", "common_name", "ttl", "rotation_interval_secs",
     "retry_interval_secs", "request_timeout_secs"]
  return {
    address := ← r.required "address" text?
    token := ← r.orElse "token" "" text?
    mount := ← r.orElse "mount" "pki" text?
    roleName := ← r.required "role_name" text?
    commonName := ← r.required "common_name" text?
    ttl := ← r.orElse "ttl" "720h" text?
    rotationInterval := ← r.orElse "rotation_interval_secs" 3600 nat?
    retryInterval := ← r.orElse "retry_interval_secs" 60 nat?
    requestTimeout := ← r.orElse "request_timeout_secs" 30 nat? }

/-- The settings of a configuration tree. -/
def Settings.ofTree? (t : ConfigTree) : Option Settings := do
  let absent : Settings := {}
  let r ← t.record? ["server", "acl", "telemetry", "pki", "seed"]
  return {
    server := ← r.orElse "server" absent.server ServerSettings.ofTree?
    access := ← r.orElse "acl" absent.access AccessPolicy.ofTree?
    telemetry := ← r.orElse "telemetry" absent.telemetry TelemetrySettings.ofTree?
    pki := ← r.orElse "pki" none (nullable? PkiSettings.ofTree?)
    seed := ← r.orElse "seed" absent.seed Seed.ofTree? }

/-! ### Rules -/

/-- A text that can stand as one segment of a topic, and is not blank. -/
def isTopicSegment (s : String) : Bool :=
  !Text.isBlankText s && !s.toList.any fun c => c = '/' || c = '+' || c = '#'

/-- A broken rule. -/
def broken {α : Type} (why : String) : Except SettingsFault α :=
  .error (.invalid why)

/-- The rules about the authority. -/
def PkiSettings.check (p : PkiSettings) : Except SettingsFault Unit :=
  if Text.isBlankText p.address then broken "pki.address is empty"
  else if Text.isBlankText p.commonName then broken "pki.common_name is empty"
  else if Text.isBlankText p.roleName then broken "pki.role_name is empty"
  else
    match Ttl.read p.ttl with
    | .unreadable => broken ("pki.ttl is invalid: " ++ Text.quoted p.ttl)
    | .beyondRange => .error .ttlBeyondRange
    | .seconds _ =>
      if p.rotationInterval = 0 ∨ p.retryInterval = 0 then
        broken "pki rotation and retry intervals must be positive"
      else .ok ()

namespace Settings

/-- The rules of all settings. -/
def check (s : Settings) : Except SettingsFault Unit :=
  if Text.isBlankText s.server.listenAddr then broken "server.listen_addr is empty"
  else if !isTopicSegment s.telemetry.topicNamespace then
    broken ("telemetry.topic_namespace is not a single topic segment: " ++
      Text.quoted s.telemetry.topicNamespace)
  else if s.telemetry.sweepInterval = 0 then
    broken "telemetry.sweep_interval_secs must be positive"
  else
    match s.pki with
    | some pki => pki.check
    | none => .ok ()

/-- The settings of a tree that obey the rules. -/
def ofTree (t : ConfigTree) : Except SettingsFault Settings :=
  match ofTree? t with
  | none => .error .unreadable
  | some s => s.check.map fun _ => s

/-- The settings of a TOML document. -/
def ofToml (document : String) : Except SettingsFault Settings :=
  match Toml.read? document with
  | none => .error .unreadable
  | some t => ofTree t

/-- The settings of a file's content, if there is such a file. -/
def ofFile (content : Option String) : Except SettingsFault Settings :=
  match content with
  | none => .error (.missing "no such file")
  | some document => ofToml document

/-- The settings of a JSON value. -/
def ofJson (v : Json) : Except SettingsFault Settings :=
  ofTree (.ofJson v)

end Settings

end DeviceGate
