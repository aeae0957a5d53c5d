import FrametimeCfg.Domain.Evidence

/-!
# The evidence document

Receipts of the preparation steps, beside entries of a shape that is not known.  A new
receipt takes the place of those of its step; a lookup validates what it finds.
-/

namespace FrametimeCfg.Domain

open FrametimeCfg.Lib.OrderedMap

inductive EvidenceEntry where
  | observation (receipt : ObservationReceipt)
  | unknown (value : Value)
  deriving DecidableEq

structure EvidenceFile where
  entries : List EvidenceEntry := []
  created : String
  unknown : BTreeMap Value := ∅

namespace EvidenceEntry

/-- The entry is a receipt of `step`. -/
def observes (step : String) : EvidenceEntry → Bool
  | .observation receipt => receipt.step = step
  | .unknown _ => false

/-- The receipt of an entry of `step`. -/
def receiptFor (step : String) : EvidenceEntry → Option ObservationReceipt
  | .observation receipt => if receipt.step = step then some receipt else none
  | .unknown _ => none

end EvidenceEntry

namespace EvidenceFile

/-- `EvidenceFile::replace_observation`. -/
def replaceObservation (file : EvidenceFile) (receipt : ObservationReceipt) : EvidenceFile :=
  { file with
    entries := file.entries.filter (fun entry => !entry.observes receipt.step) ++
      [.observation receipt] }

/-- `EvidenceFile::observation_for`. -/
def observationFor (digest : Digest) (file : EvidenceFile) (step : String) :
    Except EvidenceError (Option ObservationReceipt) :=
  match file.entries.filterMap (EvidenceEntry.receiptFor step) with
  | [] => .ok none
  | [receipt] => do
      receipt.validateFor digest step
      return some receipt
  | _ => .error .invalidSubjectSet

end EvidenceFile

end FrametimeCfg.Domain
