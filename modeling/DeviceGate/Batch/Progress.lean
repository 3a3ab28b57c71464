import DeviceGate.Fleet.Records
import DeviceGate.Number.Binary64

/-!
The progress of a batch as it is reported: the counts, the status, and the share of processed items
in percent, capped at one hundred and rounded to two places.

* `BatchProgress.of`: the report of a row.
-/

namespace DeviceGate

/-- What is reported about a batch. -/
structure BatchProgress where
  batchId : String
  processed : Nat
  total : Nat
  percent : Binary64
  status : BatchStatus
  deriving DecidableEq

namespace BatchProgress

/-- The share of processed items in percent, before it is rounded; an empty batch has none. -/
def share (processed total : Nat) : Binary64 :=
  if total = 0 then .zero
  else (((Binary64.ofNat processed).div (.ofNat total)).mul (.ofNat 100)).min (.ofNat 100)

/-- The report of a row. -/
def of (row : BatchRow) : BatchProgress where
  batchId := row.batchId
  processed := row.processed
  total := row.total
  percent :=
    ((share row.processed row.total).mul (.ofNat 100)).roundHalfAway.div (.ofNat 100)
  status := row.status

end BatchProgress

end DeviceGate
