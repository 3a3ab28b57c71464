import DeviceGate.Fleet.Records
import DeviceGate.Json.Basic
import DeviceGate.Number.Literal
import DeviceGate.Time.Rfc3339

/-!
The telemetry envelope that a device sends: which component speaks, which snapshot it fills, and one
reading for each entry of `data`, its statistics filled up where they are missing.

* `TelemetryPayload.ofJson?`: the envelope of a JSON value, or the first `PayloadFault`.
* `Json.asFloat?`, `Json.asInt?`: numbers, also from texts that spell one.
-/

namespace DeviceGate

namespace Json

/-- The floating-point number that a number or a text stands for. -/
def asFloat? : Json → Option Binary64
  | integer n => some (.ofInt n.val)
  | real x => some (.finite x)
  | text s => Binary64.ofText? s
  | _ => none

/-- The signed 64-bit integer that a number or a text stands for; other numbers are truncated and
clamped, other texts refused. -/
def asInt? : Json → Option Int
  | integer n =>
    some (if n.val < 9223372036854775808 then n.val else (Binary64.ofInt n.val).toInt64)
  | real x => some (Binary64.finite x).toInt64
  | text s => readSigned64? s
  | _ => none

end Json

/-- The first thing wrong with an envelope. -/
inductive PayloadFault where
  | notObject
  | missingField (field : String)
  | invalidSequence
  | missingMetric (index : Nat)
  | missingValue (index : Nat)
  deriving DecidableEq

/-- The wording of a fault. -/
def PayloadFault.message : PayloadFault → String
  | notObject => "payload is not a JSON object"
  | missingField field => "missing field: " ++ field
  | invalidSequence => "invalid sequence_number"
  | missingMetric i => "data[" ++ toString i ++ "]: missing metric"
  | missingValue i => "data[" ++ toString i ++ "]: missing value"

/-- The envelope. -/
structure TelemetryPayload where
  componentType : String
  instanceName : String
  snapshotId : String
  capturedAt : Option Timestamp
  sequenceNumber : Option Nat
  readings : List Reading
  deriving DecidableEq

namespace TelemetryPayload

/-- A text that must be there and not be empty. -/
def requiredText (payload : Json) (field : String) : Except PayloadFault String :=
  match nonempty? ((payload.member? field).bind Json.text?) with
  | some s => .ok s
  | none => .error (.missingField field)

/-- The moment of capture; one that is not a timestamp counts as missing. -/
def capturedAtOf (payload : Json) : Option Timestamp :=
  ((payload.member? "captured_at").bind Json.text?).bind Timestamp.read?

/-- An unsigned 64-bit integer, or a text that spells one. -/
def asSequence? : Json → Option Nat
  | .integer n => if 0 ≤ n.val then some n.val.toNat else none
  | .text s => readUnsigned64? s
  | _ => none

/-- The sequence number, which may be missing or null but not anything else. -/
def sequenceOf (payload : Json) : Except PayloadFault (Option Nat) :=
  match payload.member? "sequence_number" with
  | none => .ok none
  | some .null => .ok none
  | some v =>
    match asSequence? v with
    | some n => .ok (some n)
    | none => .error .invalidSequence

/-- One entry of `data`: a statistic that is missing follows from another one. -/
def readingOf (index : Nat) (entry : Json) : Except PayloadFault Reading :=
  match nonempty? ((entry.member? "metric").bind Json.text?) with
  | none => .error (.missingMetric index)
  | some metric =>
    let field (name : String) : Option Binary64 := (entry.member? name).bind Json.asFloat?
    match (field "value").or (field "avg") with
    | none => .error (.missingValue index)
    | some value =>
      let avg := (field "avg").getD value
      .ok
        { metric := metric
          unit := (entry.member? "unit").bind Json.text?
          value := value
          avg := avg
          min := (field "min").getD avg
          max := (field "max").getD avg
          stddev := (field "stddev").getD .zero
          slope := (field "slope").getD .zero
          sampleCount := ((entry.member? "count").bind Json.asInt?).getD 1 }

/-- The entries of `data` from an index on. -/
def readingsFrom (index : Nat) : List Json → Except PayloadFault (List Reading)
  | [] => .ok []
  | entry :: rest => do
    let reading ← readingOf index entry
    let others ← readingsFrom (index + 1) rest
    return reading :: others

/-- The envelope of a JSON value. -/
def ofJson? (payload : Json) : Except PayloadFault TelemetryPayload := do
  if !payload.isObject then throw .notObject
  let componentType ← requiredText payload "component_type"
  let instanceName ← requiredText payload "instance_name"
  let snapshotId ← requiredText payload "snapshot_id"
  let sequenceNumber ← sequenceOf payload
  let entries ← match (payload.member? "data").bind Json.items? with
    | some items => .ok items
    | none => .error (.missingField "data")
  let readings ← readingsFrom 0 entries
  return {
    componentType := componentType
    instanceName := instanceName
    snapshotId := snapshotId
    capturedAt := capturedAtOf payload
    sequenceNumber := sequenceNumber
    readings := readings }

end TelemetryPayload

end DeviceGate
