import DeviceGate.Gate.State
import DeviceGate.Http.Body
import DeviceGate.Http.Endpoint
import DeviceGate.Http.MediaType
import DeviceGate.Http.Reply
import DeviceGate.Json.Label

/-!
The answers of the endpoints: the webhooks of the broker, the bridge for messages, and the batches.

* `FieldValue`, `HttpRequest`: a request; `Gate.respond`: its reply.
* `Gate.deliver`: a message that came over a bridge.
-/

namespace DeviceGate

/-- The value of a header: bytes, which need not be those of a text. -/
structure FieldValue where
  bytes : List UInt8
  deriving DecidableEq

namespace FieldValue

/-- The value that is a text. -/
def ofText (s : String) : FieldValue where
  bytes := s.toUTF8.data.toList

instance : Coe String FieldValue where
  coe := ofText

instance : Coe (List (String × String)) (List (String × FieldValue)) where
  coe headers := headers.map fun h => (h.1, ofText h.2)

end FieldValue

/-- A request; its id ties its log lines together. -/
structure HttpRequest where
  id : String
  method : String
  target : String
  headers : List (String × FieldValue)
  body : String
  deriving DecidableEq

namespace HttpRequest

/-- The value of the first header of a name, which is compared without regard to case. -/
def header? (r : HttpRequest) (name : String) : Option FieldValue :=
  (r.headers.find? fun h => lowerAscii h.1 = name).map (·.2)

/-- The context of the request's log lines. -/
def context (r : HttpRequest) : LogContext where
  request := r.id

/-- The request says that its body is JSON. -/
def saysJson (r : HttpRequest) : Bool :=
  ((r.header? "content-type").map fun v => MediaType.isJson v.bytes).getD false

/-- The greatest number of bytes that a body may have. -/
def greatestBody : Nat := 2097152

/-- The fields of a JSON body, or the status that refuses it. -/
def fields (r : HttpRequest) (form : BodyForm) : Except Nat (List (String × Json)) :=
  if !r.saysJson then .error 415
  else if greatestBody < r.body.utf8ByteSize then .error 413
  else
    match form.read r.body with
    | .ok found => .ok found
    | .error .unreadable => .error 400
    | .error .misshapen => .error 422

end HttpRequest

namespace Http

/-- A field of the fields found; null counts as missing. -/
def field? (found : List (String × Json)) (name : String) : Option Json :=
  match found.lookup name with
  | some .null => none
  | v => v

/-- A text among the fields found. -/
def textField? (found : List (String × Json)) (name : String) : Option String :=
  (field? found name).bind Json.text?

/-- The body of a question about a connection. -/
def authForm : BodyForm :=
  [⟨"username", .text, true⟩, ⟨"password", .text, true⟩, ⟨"clientid", .text, true⟩]

/-- The body of a question about an access. -/
def aclForm : BodyForm :=
  [⟨"username", .text, true⟩, ⟨"clientid", .text, true⟩, ⟨"topic", .text, true⟩,
   ⟨"access", .anything, true⟩]

/-- The body of a message. -/
def messageForm : BodyForm :=
  [⟨"topic", .text, false⟩, ⟨"payload", .anything, false⟩]

/-- The body that opens a batch. -/
def batchForm : BodyForm :=
  [⟨"device_id", .text, false⟩, ⟨"total_count", .natural, false⟩]

/-- An access, by its name or as the broker's numeric code. -/
def accessOf? : Json → Option Access
  | .text s => Access.ofText? s
  | .integer n => Access.ofText? (toString n.val)
  | .real x => Access.ofText? (String.ofList (DecimalLayout.plain.write x))
  | _ => none

/-- The payload of a message, which may also be a text that holds the JSON; of any other text the
reader complains. -/
def decodePayload (complaint : String → String) : Json → Except ApiError Json
  | .text raw =>
    match Json.read? raw with
    | some v => .ok v
    | none => .error (.badRequest ("payload is not JSON: " ++ complaint raw))
  | v => .ok v

/-- The header that carries the secret of publishing. -/
def secretHeader : String := "x-publish-secret"

/-- The request presents the secret, where one is required. -/
def presentsSecret (g : GateConfig) (r : HttpRequest) : Bool :=
  match g.publishSecret with
  | none => true
  | some secret => r.header? secretHeader = some (.ofText secret)

end Http

namespace Gate

open Http

/-- The reply of an error; details that the caller does not learn are logged. -/
def failWith (e : ApiError) : Act GateState Reply := do
  match e with
  | .internal detail => Act.log .error ("HTTP_INTERNAL_ERROR detail=" ++ detail)
  | _ => pure ()
  return .ofError e

/-- A reply that says something, or the reply of an error. -/
def replyWith (r : Except ApiError ReplyBody) : Act GateState Reply :=
  match r with
  | .ok body => return .ok body
  | .error e => failWith e

/-- May a connection proceed? -/
def answerAuth (r : HttpRequest) (found : List (String × Json)) : Act GateState Reply := do
  let decision ← authenticate r.context
    { username := textField? found "username"
      password := textField? found "password"
      clientId := textField? found "clientid" }
  return .ok (.decision decision.isAllowed)

/-- May a caller use a topic? -/
def answerAcl (g : GateConfig) (r : HttpRequest) (found : List (String × Json)) :
    Act GateState Reply := do
  let clientId := textField? found "clientid"
  let topic := textField? found "topic"
  let access := field? found "access"
  match nonempty? clientId, nonempty? topic, access.bind accessOf? with
  | some client, some topic, some access =>
    let decision ← authorize g r.context
      { username := textField? found "username", clientId := client, topic := topic
        access := access }
    return .ok (.decision decision.isAllowed)
  | _, _, _ =>
    Act.log .warn
      (r.context.text ++ " ACL_DENY reason=missing_fields client_id=" ++
        Text.quotedOption clientId ++ " topic=" ++ Text.quotedOption topic ++ " access=" ++
        Json.labelOption access)
    return .ok (.decision false)

/-- A telemetry message that came over a bridge. -/
def deliver (g : GateConfig) (r : HttpRequest) (topic : String) (payload : Json)
    (transport : Transport) : Act GateState Reply := do
  match ← accept g { id := r.id, topic := topic, transport := transport } payload with
  | .ok _ => return .ok .accepted
  | .error rejection => return .ok (.rejected rejection.error.message)

/-- Hands an image message on. -/
def forwardImage (ctx : LogContext) (topic : String) (payload : Json) : Act GateState Reply := do
  match ← tryStore fun s => (s.ingestImage topic payload).map fun s => ((), s) with
  | .error e => failWith (.internal ("image ingestion: " ++ e.message))
  | .ok () =>
    Act.log .info (ctx.text ++ " IMAGE_FORWARDED topic=" ++ topic)
    return .ok .accepted

/-- A message for the broker's topics, routed by its kind. -/
def answerPublish (g : GateConfig) (r : HttpRequest) (found : List (String × Json)) :
    Act GateState Reply := do
  let ctx := r.context
  let topic := (textField? found "topic").getD ""
  if !presentsSecret g r then
    Act.log .warn (ctx.text ++ " PUBLISH_UNAUTHORIZED topic=" ++ topic)
    failWith .unauthorized
  else
    match decodePayload g.complaint ((field? found "payload").getD .null) with
    | .error e => failWith e
    | .ok payload =>
      match Topic.kind topic with
      | .telemetry => deliver g r topic payload .mqtt
      | .image => forwardImage ctx topic payload
      | .other =>
        Act.log .warn (ctx.text ++ " PUBLISH_UNROUTABLE topic=" ++ topic)
        failWith (.badRequest ("no route for topic " ++ topic))

/-- A telemetry message. -/
def answerTelemetry (g : GateConfig) (r : HttpRequest) (found : List (String × Json)) :
    Act GateState Reply := do
  match decodePayload g.complaint ((field? found "payload").getD .null) with
  | .error e => failWith e
  | .ok payload => deliver g r ((textField? found "topic").getD "") payload .http

/-- Opens a batch. -/
def answerOpenBatch (r : HttpRequest) (found : List (String × Json)) : Act GateState Reply := do
  let deviceId := (textField? found "device_id").getD ""
  let total := ((field? found "total_count").bind Json.nat?).getD 0
  match ← openBatch (r.context.about deviceId) deviceId total with
  | .ok id => return { status := 201, body := some (.opened id) }
  | .error e => failWith (.ofLedger e)

/-- Answers about a batch. -/
def answerBatch {α : Type} (call : Act GateState (Except LedgerError α)) (body : α → ReplyBody) :
    Act GateState Reply := do
  replyWith (((← call).mapError ApiError.ofLedger).map body)

/-- Reads the fields of the body and goes on with them. -/
def withFields (r : HttpRequest) (form : BodyForm)
    (answer : List (String × Json) → Act GateState Reply) : Act GateState Reply :=
  match r.fields form with
  | .ok found => answer found
  | .error status => return .bare status

/-- Decodes the id of a batch and goes on with it. -/
def withId (segment : String) (answer : String → Act GateState Reply) : Act GateState Reply :=
  match Text.Percent.decode? segment with
  | some id => answer id
  | none => return .bare 400

/-- The answer of an endpoint. -/
def answer (g : GateConfig) (r : HttpRequest) : Endpoint → Act GateState Reply
  | .health => return .ok .healthy
  | .auth => withFields r authForm (answerAuth r)
  | .acl => withFields r aclForm (answerAcl g r)
  | .superuser => return .ok (.decision false)
  | .publish => withFields r messageForm (answerPublish g r)
  | .telemetry => withFields r messageForm (answerTelemetry g r)
  | .batches => withFields r batchForm (answerOpenBatch r)
  | .batch segment => withId segment fun id =>
    answerBatch (fromStore fun s => return s.batchProgress id) .progress
  | .processed segment => withId segment fun id =>
    answerBatch (markProcessed r.context id) .progress
  | .purge segment => withId segment fun id =>
    answerBatch (fromStore fun s => s.mayPurge r.context id) (.purge id)

/-- The reply to a request. -/
def respond (g : GateConfig) (r : HttpRequest) : Act GateState Reply := do
  match Endpoint.ofTarget? r.target with
  | none => return .bare 404
  | some endpoint =>
    if !endpoint.answers r.method then return .bare 405
    else
      let reply ← answer g r endpoint
      return if r.method = "HEAD" then reply.headOnly else reply

end Gate

end DeviceGate
