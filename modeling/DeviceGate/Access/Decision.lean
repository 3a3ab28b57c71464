import DeviceGate.Number.Literal
import DeviceGate.Text.Blank
import DeviceGate.Fleet.Records

/-!
Decisions about a caller, and the two kinds of access that a caller asks for.

* `Decision`: allow, or deny with a reason.
* `Access`: publish or subscribe; `Access.ofText?` reads its names and numeric codes.
* `OwnershipRole.grants`: what a role permits.
-/

namespace DeviceGate

/-- The outcome of a check. -/
inductive Decision where
  | allow
  | deny (reason : String)
  deriving DecidableEq

namespace Decision

/-- The outcome in one word. -/
def word : Decision → String
  | allow => "allow"
  | deny _ => "deny"

/-- Whether the check passed. -/
def isAllowed : Decision → Bool
  | allow => true
  | deny _ => false

/-- Why the check failed, when it did. -/
def reason? : Decision → Option String
  | allow => none
  | deny reason => some reason

theorem reason?_eq_none_iff (d : Decision) : d.reason? = none ↔ d = allow := by
  cases d <;> simp [reason?]

end Decision

/-- What a caller wants to do with a topic. -/
inductive Access where
  | publish
  | subscribe
  deriving DecidableEq

namespace Access

/-- The name of an access. -/
def name : Access → String
  | publish => "publish"
  | subscribe => "subscribe"

/-- The form in which a text is compared: without outer blanks, in lower case. -/
def normalized (s : String) : String :=
  lowerAscii (Text.trim s)

/-- The access of a name or a numeric code. -/
def ofText? (s : String) : Option Access :=
  match normalized s with
  | "publish" | "pub" | "2" => some publish
  | "subscribe" | "sub" | "1" => some subscribe
  | _ => none

/-- What is said about a text that names no access. -/
def unknownMessage (s : String) : String :=
  "unknown access type: " ++ normalized s

end Access

/-- Owners and operators may publish and subscribe, viewers may only subscribe. -/
def OwnershipRole.grants : OwnershipRole → Access → Bool
  | .owner, _ => true
  | .operator, _ => true
  | .viewer, access => access = .subscribe

end DeviceGate
