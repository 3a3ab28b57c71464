import DeviceGate.Access.Decision
import DeviceGate.Batch.Ledger
import DeviceGate.Json.Basic

/-!
Replies, and the failures that become replies of their own.

* `ApiError`: why a request is answered with an error; `ApiError.status`, `publicText`: what the
  caller learns about it.
* `Reply`: a status and, unless there is nothing to say, a `ReplyBody`.
-/

namespace DeviceGate

/-- Why a request is answered with an error. -/
inductive ApiError where
  | unauthorized
  | badRequest (why : String)
  | notFound (what : String)
  /-- The detail is for the log only. -/
  | internal (detail : String)
  deriving DecidableEq

namespace ApiError

/-- The wording of an error. -/
def message : ApiError → String
  | unauthorized => "missing or invalid publish secret"
  | badRequest why => "bad request: " ++ why
  | notFound what => "not found: " ++ what
  | internal detail => "internal error: " ++ detail

/-- The status of the reply. -/
def status : ApiError → Nat
  | unauthorized => 401
  | badRequest _ => 400
  | notFound _ => 404
  | internal _ => 500

/-- What the caller is told. -/
def publicText : ApiError → String
  | unauthorized => "unauthorized"
  | badRequest why => why
  | notFound what => what ++ " not found"
  | internal _ => "internal server error"

/-- The failure of a batch call as an error. -/
def ofLedger : LedgerError → ApiError
  | .notFound id => notFound ("batch " ++ id)
  | .invalid what => badRequest what
  | .store e => internal e.message

end ApiError

/-- What a reply says. -/
inductive ReplyBody where
  | healthy
  | decision (allowed : Bool)
  | accepted
  | rejected (reason : String)
  | opened (batchId : String)
  | progress (p : BatchProgress)
  | purge (batchId : String) (granted : Bool)
  | failure (text : String)
  deriving DecidableEq

/-- The progress of a batch as a JSON object. -/
def BatchProgress.json (p : BatchProgress) : Json :=
  .object
    [("batch_id", .text p.batchId), ("percent", .ofFloat p.percent),
     ("processed", .ofNat p.processed), ("status", .text p.status.name), ("total", .ofNat p.total)]

/-- The body as a JSON object. -/
def ReplyBody.json : ReplyBody → Json
  | healthy => .object [("status", .text "ok")]
  | decision allowed => .object [("result", .text (if allowed then "allow" else "deny"))]
  | accepted => .object [("result", .text "accepted")]
  | rejected reason => .object [("reason", .text reason), ("result", .text "rejected")]
  | opened batchId => .object [("batch_id", .text batchId)]
  | progress p => p.json
  | purge batchId granted => .object [("batch_id", .text batchId), ("purge", .bool granted)]
  | failure text => .object [("error", .text text)]

/-- A reply. -/
structure Reply where
  status : Nat
  body : Option ReplyBody
  deriving DecidableEq

namespace Reply

/-- A reply that says something. -/
def ok (body : ReplyBody) : Reply where
  status := 200
  body := some body

/-- A reply that is only a status. -/
def bare (status : Nat) : Reply where
  status := status
  body := none

/-- The reply of an error. -/
def ofError (e : ApiError) : Reply where
  status := e.status
  body := some (.failure e.publicText)

/-- The reply without its body. -/
def headOnly (r : Reply) : Reply :=
  { r with body := none }

end Reply

end DeviceGate
