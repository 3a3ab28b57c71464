import DeviceGate.Certificate.Basic

/-!
The authority that issues certificates, seen from here: a request goes in, a certificate or a
failure comes out.

* `CertificateRequest`, `PkiError`: both ends.
* `Authority`: anything that issues certificates, with a state of its own.
-/

namespace DeviceGate

/-- What a certificate is asked for. -/
structure CertificateRequest where
  commonName : String
  roleName : String
  deriving DecidableEq

/-- Why no certificate was issued. -/
inductive PkiError where
  | transport (why : String)
  | status (code : Nat) (body : String)
  | malformed (why : String)
  deriving DecidableEq

/-- The wording of a failure. -/
def PkiError.message : PkiError → String
  | transport why => "PKI request failed: " ++ why
  | status code body => "PKI authority returned status " ++ toString code ++ ": " ++ body
  | malformed why => "PKI response malformed: " ++ why

/-- An authority over a state, which an answer may change. -/
structure Authority (σ : Type) where
  /-- The name in log lines. -/
  name : String
  issue : CertificateRequest → σ → Except PkiError Certificate × σ

end DeviceGate
