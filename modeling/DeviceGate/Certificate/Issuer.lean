import DeviceGate.Certificate.Authority
import DeviceGate.Certificate.Ttl
import DeviceGate.Config.Tree
import DeviceGate.Json.Canonical
import DeviceGate.Json.Reader
import DeviceGate.Text.Blank

/-!
The authority behind HTTP.  A request names the role in its address and carries a token; the answer
holds the key material and perhaps the moment of expiration, in whose absence the requested lifetime
counts.

* `PkiClient.make`: a client of an address that is not blank.
* `PkiClient.call`: the request; `PkiClient.interpret`: the certificate of an answer.
* `PkiClient.authority`: the authority, over any way to exchange a request for an answer.
-/

namespace DeviceGate

/-- How an authority is reached. -/
structure PkiClient where
  address : String
  token : String
  mount : String
  ttl : String
  deriving DecidableEq

/-- What is sent to the authority. -/
structure PkiCall where
  url : String
  token : String
  body : String
  deriving DecidableEq

/-- What comes back. -/
structure PkiAnswer where
  status : Nat
  body : String
  deriving DecidableEq

/-- The material in an answer. -/
structure IssuedMaterial where
  certificate : String
  privateKey : String
  issuingCa : String
  serialNumber : String
  expiration : Option Int
  deriving DecidableEq

namespace IssuedMaterial

open ConfigTree

/-- The material of a JSON value, under its member `data`. -/
def ofJson? (v : Json) : Option IssuedMaterial := do
  let answer ← (ConfigTree.ofJson v).record? ["data"]
  let r ← (← answer.member? "data").record?
    ["certificate", "private_key", "issuing_ca", "serial_number", "expiration"]
  return {
    certificate := ← r.required "certificate" text?
    privateKey := ← r.required "private_key" text?
    issuingCa := ← r.required "issuing_ca" text?
    serialNumber := ← r.required "serial_number" text?
    expiration := ← r.orElse "expiration" none (nullable? int?) }

end IssuedMaterial

namespace PkiClient

/-- A text without slashes at its end. -/
def dropLastSlashes (s : String) : String :=
  String.ofList (s.toList.reverse.dropWhile (· = '/')).reverse

/-- A text without slashes at either end. -/
def dropOuterSlashes (s : String) : String :=
  dropLastSlashes (String.ofList (s.toList.dropWhile (· = '/')))

/-- A client, unless the address is blank. -/
def make (address token mount ttl : String) : Except PkiError PkiClient :=
  if Text.isBlankText address then .error (.transport "PKI address is empty")
  else
    .ok
      { address := dropLastSlashes address, token := token, mount := dropOuterSlashes mount
        ttl := ttl }

/-- The request for a certificate. -/
def call (c : PkiClient) (request : CertificateRequest) : PkiCall where
  url := c.address ++ "/v1/" ++ c.mount ++ "/issue/" ++ request.roleName
  token := c.token
  body :=
    (Json.object [("common_name", .text request.commonName), ("ttl", .text c.ttl)]).plainText

/-- The moment of expiration: the one that the answer gives, or the requested lifetime after the
issue. -/
def expirationOf (c : PkiClient) (given : Option Int) (issuedAt : Timestamp) :
    Except PkiError Timestamp :=
  match given, Ttl.read c.ttl with
  | some second, _ =>
    let t : Timestamp := { second := second, nano := 0 }
    if t.inRange then .ok t
    else .error (.malformed ("expiration out of range: " ++ toString second))
  | none, .seconds n => .ok (issuedAt.plus n)
  | none, _ => .error (.malformed "response has no expiration and ttl is unparseable")

/-- The certificate of an answer. -/
def interpret (c : PkiClient) (request : CertificateRequest) (issuedAt : Timestamp)
    (answer : PkiAnswer) : Except PkiError Certificate := do
  if answer.status < 200 ∨ 300 ≤ answer.status then throw (.status answer.status answer.body)
  match (Json.read? answer.body).bind IssuedMaterial.ofJson? with
  | none => throw (.malformed "undecodable body")
  | some m =>
    if m.certificate.isEmpty || m.privateKey.isEmpty then
      throw (.malformed "empty certificate material")
    return {
      certificate := m.certificate
      privateKey := m.privateKey
      issuingCa := m.issuingCa
      serialNumber := m.serialNumber
      commonName := request.commonName
      issuedAt := issuedAt
      expiration := ← c.expirationOf m.expiration issuedAt }

/-- The name of the authority in log lines. -/
def authorityName : String := "vault"

/-- The authority, over a clock and a way to exchange a request for an answer, or for the reason why
there is none. -/
def authority {σ : Type} (c : PkiClient) (clock : σ → Timestamp × σ)
    (exchange : PkiCall → σ → Except String PkiAnswer × σ) : Authority σ where
  name := authorityName
  issue request s :=
    let (issuedAt, s) := clock s
    match exchange (c.call request) s with
    | (.error why, s) => (.error (.transport why), s)
    | (.ok answer, s) => (c.interpret request issuedAt answer, s)

end PkiClient

end DeviceGate
