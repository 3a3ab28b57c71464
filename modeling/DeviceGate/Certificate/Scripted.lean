import DeviceGate.Certificate.Authority

/-!
An authority whose answers are set beforehand, for rehearsals of the certificate's life.

* `ScriptedAuthority`: the answer in force, what was asked so far, and a clock that moves on with
  every look at it.
* `ScriptedAuthority.authority`: it as an authority.
-/

namespace DeviceGate

/-- An answer set beforehand. -/
inductive IssueScript where
  /-- A certificate from now for so many seconds. -/
  | lasting (seconds : Int) (serial : Option String)
  /-- A certificate with fixed dates. -/
  | dated (issuedAt expiration : Timestamp) (serial : Option String)
  | failing (e : PkiError)
  deriving DecidableEq

/-- The authority's state. -/
structure ScriptedAuthority where
  script : IssueScript
  clock : Timestamp
  /-- The number of certificates issued. -/
  issued : Nat := 0
  requests : List CertificateRequest := []
  /-- Whether a certificate was to end at a date that cannot be written; nothing that follows means
  anything. -/
  overrun : Bool := false

namespace ScriptedAuthority

/-- The time that passes between two looks at the clock, in nanoseconds. -/
def tick : Nat := 1000

/-- The time, which moves on a little with every look at the clock. -/
def readClock (a : ScriptedAuthority) : Timestamp × ScriptedAuthority :=
  (a.clock, { a with clock := a.clock.plusNanos tick })

/-- A certificate with the next serial number, unless one is set. -/
def issueDated (a : ScriptedAuthority) (request : CertificateRequest)
    (issuedAt expiration : Timestamp) (serial : Option String) : Certificate × ScriptedAuthority :=
  let issued := a.issued + 1
  ({ certificate := "CERT", privateKey := "KEY", issuingCa := "CA"
     serialNumber := serial.getD ("s" ++ toString issued)
     commonName := request.commonName, issuedAt := issuedAt, expiration := expiration },
   { a with issued := issued })

/-- The answer to a request. -/
def issue (request : CertificateRequest) (a : ScriptedAuthority) :
    Except PkiError Certificate × ScriptedAuthority :=
  let a := { a with requests := a.requests ++ [request] }
  match a.script with
  | .failing e => (.error e, a)
  | .dated issuedAt expiration serial =>
    let (c, a) := a.issueDated request issuedAt expiration serial
    (.ok c, a)
  | .lasting seconds serial =>
    let (now, a) := a.readClock
    let expiration := now.plus seconds
    let (c, a) := a.issueDated request now expiration serial
    (.ok c, { a with overrun := a.overrun || !expiration.inRange })

/-- The scripted authority as an authority. -/
def authority : Authority ScriptedAuthority where
  name := "scripted"
  issue := issue

end ScriptedAuthority

end DeviceGate
