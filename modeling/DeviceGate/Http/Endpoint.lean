import DeviceGate.Text.Percent
import DeviceGate.Topic

/-!
The addresses of the gate and the method that each of them answers.

* `Endpoint.ofTarget?`: the endpoint of a request target.
* `Endpoint.answers`: the endpoint has an answer to a method.
-/

namespace DeviceGate

/-- What a request is addressed to; the id of a batch is still in its percent-encoded form. -/
inductive Endpoint where
  | health
  | auth
  | acl
  | superuser
  | publish
  | telemetry
  | batches
  | batch (segment : String)
  | processed (segment : String)
  | purge (segment : String)
  deriving DecidableEq

namespace Endpoint

/-- The characters of a scheme. -/
def isSchemeChar (c : Char) : Bool :=
  c.isAlphanum || c = '+' || c = '-' || c = '.'

/-- The target without scheme and authority, if it has them: `http://gate/health` asks for
`/health`. -/
def dropAuthority (cs : List Char) : List Char :=
  match cs.dropWhile isSchemeChar with
  | ':' :: '/' :: '/' :: rest => rest.dropWhile fun c => c ≠ '/' && c ≠ '?' && c ≠ '#'
  | _ => cs

/-- The path of a request target, without authority, query and fragment. -/
def pathOf (target : String) : String :=
  String.ofList ((dropAuthority target.toList).takeWhile fun c => c ≠ '?' && c ≠ '#')

/-- The endpoint that a request target names. -/
def ofTarget? (target : String) : Option Endpoint :=
  match Topic.segments (pathOf target) with
  | ["", "health"] => some health
  | ["", "auth"] => some auth
  | ["", "acl"] => some acl
  | ["", "superuser"] => some superuser
  | ["", "publish"] => some publish
  | ["", "telemetry"] => some telemetry
  | ["", "batches"] => some batches
  | ["", "batches", id] => if id.isEmpty then none else some (batch id)
  | ["", "batches", id, "processed"] => some (processed id)
  | ["", "batches", id, "purge"] => some (purge id)
  | _ => none

/-- The endpoint only reads. -/
def isReading : Endpoint → Bool
  | health | batch _ | purge _ => true
  | _ => false

/-- The endpoint answers the method; what answers `GET` answers `HEAD` too. -/
def answers (e : Endpoint) (method : String) : Bool :=
  if e.isReading then method = "GET" || method = "HEAD" else method = "POST"

end Endpoint

end DeviceGate
