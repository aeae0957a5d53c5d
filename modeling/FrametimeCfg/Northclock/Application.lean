import FrametimeCfg.Northclock.OperationWorkflow

/-!
# Northclock commands

A command runs when the backend reports its capability as usable, and returns the report
with its result.  The commands of a process affinity have their workflow here.
-/

namespace FrametimeCfg.Northclock

open FrametimeCfg.Domain
open FrametimeCfg.Lib.Checks
open FrametimeCfg.Lib.Effect

variable {σ : Type}

/-! ## Capabilities -/

/-- `capability`: the report with the name, or one that there is none. -/
def capability (backend : BackendBundle σ) (name : String) :
    Prog σ (CapabilityReport × NorthclockError) CapabilityReport := fun s =>
  let (reports, t) := backend.capabilities s
  (.ok ((reports.find? fun report => report.name = name).getD
    (.new name .unsupported "none" "no backend registered")), t)

/-- `unusable_capability_error`. -/
def unusableCapabilityError (report : CapabilityReport) : NorthclockError :=
  .unavailable (report.name ++ ": " ++ report.detail)

/-- The operation under a report of its capability. -/
def underReport (report : CapabilityReport) (operation : Prog σ NorthclockError Value) :
    Prog σ (CapabilityReport × NorthclockError) (CapabilityReport × Value) :=
  if report.isUsable then do
    let value ← relabel (fun error => (report, error)) operation
    return (report, value)
  else raise (report, unusableCapabilityError report)

/-- `with_capability`. -/
def withCapability (backend : BackendBundle σ) (name : String)
    (operation : Prog σ NorthclockError Value) :
    Prog σ (CapabilityReport × NorthclockError) (CapabilityReport × Value) :=
  capability backend name >>= fun report => underReport report operation

/-! ## Process affinities -/

/-- `validate_affinity_plan`. -/
def validateAffinityPlan (plan : ProcessAffinityPlan) : Except NorthclockError Unit :=
  reject (plan.id.isEmpty || plan.processId = 0 || plan.requestedMask = 0 ||
      plan.capturedMask = 0 || plan.systemMask = 0 ||
      plan.requestedMask &&& ~~~plan.systemMask ≠ 0 ||
      plan.capturedMask &&& ~~~plan.systemMask ≠ 0)
    (.permissionOrSafety
      "process affinity plan contains invalid identity, mask, or system bounds")

/-- The receipt of an affinity that was applied. -/
def checkAffinityReceipt (receipt : ProcessAffinityReceipt) (plan : ProcessAffinityPlan) :
    Except NorthclockError Unit :=
  reject (receipt.planId ≠ plan.id || receipt.processId ≠ plan.processId ||
      receipt.capturedMask ≠ plan.capturedMask || receipt.requestedMask ≠ plan.requestedMask ||
      !receipt.rollbackAvailable || !receipt.validationPassed ||
      receipt.readbackMask ≠ receipt.requestedMask)
    (.hardwareOperation "process affinity receipt failed contract validation")

/-- The receipt of an affinity that was rolled back. -/
def checkAffinityRollback (rollback : ProcessAffinityRollbackReceipt)
    (receipt : ProcessAffinityReceipt) : Except NorthclockError Unit :=
  reject (rollback.planId ≠ receipt.planId || rollback.processId ≠ receipt.processId ||
      !rollback.validationPassed || rollback.restoredMask ≠ receipt.capturedMask ||
      rollback.readbackMask ≠ rollback.restoredMask)
    (.hardwareOperation "process affinity rollback readback validation failed")

/-- `process_affinity_preview`. -/
def processAffinityPreview (backend : BackendBundle σ) (processId : UInt32) (mask : UInt64) :
    Prog σ (CapabilityReport × NorthclockError) (CapabilityReport × Value) :=
  withCapability backend "process.affinity" do
    ofExcept (reject (processId = 0 || mask = 0)
      (.invalidUsage "process ID and affinity mask must be non-zero"))
    let plan ← backend.previewProcessAffinity processId mask
    ofExcept (validateAffinityPlan plan)
    return ProcessAffinityPlan.codec.write { plan with boundsValidated := true }

/-- `process_affinity_apply` under its capability. -/
def affinityApply (backend : BackendBundle σ) (plan : ProcessAffinityPlan)
    (flags : WriteFlags) : Prog σ NorthclockError Value := do
  ofExcept (reject (!plan.boundsValidated)
    (.permissionOrSafety "affinity apply requires a validated preview"))
  ofExcept (validateAffinityPlan plan)
  let current ← backend.previewProcessAffinity plan.processId plan.requestedMask
  ofExcept (reject (current.capturedMask ≠ plan.capturedMask ||
      current.systemMask ≠ plan.systemMask)
    (.permissionOrSafety "process affinity changed after preview; create a new preview"))
  authorizeWrite backend flags
  let receipt ← backend.applyProcessAffinity plan
  ofExcept (checkAffinityReceipt receipt plan)
  return ProcessAffinityReceipt.codec.write receipt

/-- `process_affinity_apply`. -/
def processAffinityApply (backend : BackendBundle σ) (plan : ProcessAffinityPlan)
    (flags : WriteFlags) :
    Prog σ (CapabilityReport × NorthclockError) (CapabilityReport × Value) :=
  withCapability backend "process.affinity" (affinityApply backend plan flags)

/-- `process_affinity_rollback`. -/
def processAffinityRollback (backend : BackendBundle σ) (receipt : ProcessAffinityReceipt)
    (flags : WriteFlags) :
    Prog σ (CapabilityReport × NorthclockError) (CapabilityReport × Value) :=
  withCapability backend "process.affinity" do
    ofExcept (reject (receipt.planId.isEmpty || !receipt.rollbackAvailable ||
        !receipt.validationPassed || receipt.readbackMask ≠ receipt.requestedMask)
      (.permissionOrSafety "rollback requires a validated affinity apply receipt"))
    let current ← backend.previewProcessAffinity receipt.processId receipt.capturedMask
    ofExcept (reject (current.capturedMask ≠ receipt.readbackMask)
      (.permissionOrSafety "process affinity changed after apply; refusing stale rollback"))
    authorizeWrite backend flags
    let rollback ← backend.rollbackProcessAffinity receipt
    ofExcept (checkAffinityRollback rollback receipt)
    return ProcessAffinityRollbackReceipt.codec.write rollback

/-! ## Operations -/

/-- `operation_preview`. -/
def operationPreview (backend : BackendBundle σ) (request : OperationRequest) :
    Prog σ (CapabilityReport × NorthclockError) (CapabilityReport × Value) :=
  withCapability backend request.target.capabilityName (preview backend request)

/-- `operation_apply`. -/
def operationApply (backend : BackendBundle σ) (plan : OperationPlan) (flags : WriteFlags) :
    Prog σ (CapabilityReport × NorthclockError) (CapabilityReport × Value) :=
  withCapability backend plan.target.capabilityName (apply backend plan flags)

/-- `operation_rollback`. -/
def operationRollback (backend : BackendBundle σ) (receipt : ApplyReceipt)
    (flags : WriteFlags) :
    Prog σ (CapabilityReport × NorthclockError) (CapabilityReport × Value) :=
  withCapability backend receipt.target.capabilityName (rollback backend receipt flags)

end FrametimeCfg.Northclock
