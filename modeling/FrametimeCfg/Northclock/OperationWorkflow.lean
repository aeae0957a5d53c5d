import FrametimeCfg.Lib.Text
import FrametimeCfg.Northclock.Backend

/-!
# The workflow of an operation

A preview answers with a plan.  The plan is applied later, from its document, if another
preview answers with the same; and a receipt is rolled back, from its document, if the
hardware still has what was applied.  A backend is not trusted: its plans and receipts
are compared with what was asked.
-/

namespace FrametimeCfg.Northclock

open FrametimeCfg.Domain
open FrametimeCfg.Lib.Checks
open FrametimeCfg.Lib.Effect
open FrametimeCfg.Lib.OrderedMap

variable {σ : Type}

/-- The text is white space, or nothing. -/
def isBlank (text : String) : Bool := (Lib.Text.trim text.toList).isEmpty

/-! ## Checks -/

/-- `request_from_plan`. -/
def requestFromPlan (plan : OperationPlan) : OperationRequest where
  target := plan.target
  changes := plan.requestedChanges

/-- `validate_preview_contract`. -/
def validatePreviewContract (plan : OperationPlan) (request : OperationRequest) :
    Except NorthclockError Unit :=
  reject (isBlank plan.id || isBlank plan.backend || plan.target ≠ request.target ||
      plan.requestedChanges ≠ request.changes || plan.capturedState.isEmpty ||
      plan.capturedState.keys ≠ plan.requestedChanges.keys)
    (.permissionOrSafety
      "backend preview did not preserve the requested target, changes, or complete captured state")

/-- `validate_apply_plan`. -/
def validateApplyPlan (plan : OperationPlan) (request : OperationRequest) :
    Except NorthclockError Unit := do
  reject (!plan.boundsValidated) (.permissionOrSafety "apply requires a validated preview")
  SafetyPolicy.validate request
  validatePreviewContract plan request

/-- The preview is the one that the plan was made from. -/
def checkCurrent (current plan : OperationPlan) : Except NorthclockError Unit :=
  reject (current.target ≠ plan.target || current.backend ≠ plan.backend ||
      current.requestedChanges ≠ plan.requestedChanges ||
      current.capturedState ≠ plan.capturedState ||
      current.hardwareVerified ≠ plan.hardwareVerified)
    (.permissionOrSafety
      "preview backend, contract, or captured hardware state changed; create a new preview")

/-- `validate_receipt_identity`. -/
def validateReceiptIdentity (receipt : ApplyReceipt) (plan : OperationPlan) :
    Except NorthclockError Unit :=
  reject (receipt.planId ≠ plan.id || receipt.target ≠ plan.target ||
      receipt.backend ≠ plan.backend || receipt.capturedState ≠ plan.capturedState ||
      receipt.requestedChanges ≠ plan.requestedChanges || !receipt.rollbackAvailable ||
      receipt.hardwareVerified ≠ plan.hardwareVerified)
    (.hardwareOperation
      "backend returned a receipt inconsistent with the previewed operation")

/-- The values that the hardware answers after a write are those that were asked for. -/
def readbackPassed (receipt : ApplyReceipt) : Bool :=
  receipt.validationPassed && receipt.readback = receipt.requestedChanges

/-- `validate_rollback_input`. -/
def validateRollbackInput (receipt : ApplyReceipt) : Except NorthclockError Unit := do
  reject (isBlank receipt.planId || isBlank receipt.backend || !receipt.rollbackAvailable ||
      !receipt.validationPassed || receipt.capturedState.isEmpty ||
      receipt.requestedChanges.isEmpty || receipt.readback ≠ receipt.requestedChanges ||
      receipt.capturedState.keys ≠ receipt.requestedChanges.keys)
    (.permissionOrSafety "rollback requires a complete validated apply receipt")
  SafetyPolicy.validate { target := receipt.target, changes := receipt.requestedChanges }
  SafetyPolicy.validate { target := receipt.target, changes := receipt.capturedState }

/-- The hardware has what the receipt says was applied. -/
def checkUnchanged (current : OperationPlan) (receipt : ApplyReceipt) :
    Except NorthclockError Unit :=
  reject (current.target ≠ receipt.target || current.backend ≠ receipt.backend ||
      current.requestedChanges ≠ receipt.requestedChanges ||
      current.capturedState ≠ receipt.readback ||
      current.hardwareVerified ≠ receipt.hardwareVerified)
    (.permissionOrSafety ("backend, operation contract, or hardware state changed after " ++
      "apply; refusing stale rollback"))

/-- `validate_rollback_receipt`. -/
def validateRollbackReceipt (rollback : RollbackReceipt) (receipt : ApplyReceipt) :
    Except NorthclockError Unit :=
  reject (rollback.planId ≠ receipt.planId || rollback.backend ≠ receipt.backend ||
      rollback.hardwareVerified ≠ receipt.hardwareVerified ||
      rollback.restoredState ≠ receipt.capturedState || !rollback.validationPassed ||
      rollback.readback ≠ rollback.restoredState)
    (.hardwareOperation "rollback readback did not match captured state")

/-! ## Commands -/

/-- `preview`. -/
def preview (backend : BackendBundle σ) (request : OperationRequest) :
    Prog σ NorthclockError Value := do
  ofExcept (SafetyPolicy.validate request)
  let plan ← backendPreview backend request
  ofExcept (validatePreviewContract plan request)
  return OperationPlan.codec.write { plan with boundsValidated := true }

/-- What a failed readback is reported as, after the rollback of the write. -/
def failedReadback (receipt : ApplyReceipt) :
    Except NorthclockError RollbackReceipt → NorthclockError
  | .ok rollback =>
      if validateRollbackReceipt rollback receipt = .ok () then
        .hardwareOperation "readback validation failed; captured state was restored"
      else .hardwareOperation "readback validation and rollback validation both failed"
  | .error error =>
      .hardwareOperation ("readback validation failed and rollback failed: " ++ error.text)

/-- `rollback_after_failed_readback`. -/
def rollbackAfterFailedReadback (backend : BackendBundle σ) (receipt : ApplyReceipt) :
    Prog σ NorthclockError Value := do
  let answer ← attempt (backendRollback backend receipt)
  raise (failedReadback receipt answer)

/-- `apply`. -/
def apply (backend : BackendBundle σ) (plan : OperationPlan) (flags : WriteFlags) :
    Prog σ NorthclockError Value := do
  let request := requestFromPlan plan
  ofExcept (validateApplyPlan plan request)
  let current ← backendPreview backend request
  ofExcept (validatePreviewContract current request)
  ofExcept (checkCurrent current plan)
  authorizeWrite backend flags
  let receipt ← backendApply backend plan
  ofExcept (validateReceiptIdentity receipt plan)
  if readbackPassed receipt then return ApplyReceipt.codec.write receipt
  else rollbackAfterFailedReadback backend receipt

/-- `rollback`. -/
def rollback (backend : BackendBundle σ) (receipt : ApplyReceipt) (flags : WriteFlags) :
    Prog σ NorthclockError Value := do
  ofExcept (validateRollbackInput receipt)
  let request : OperationRequest :=
    { target := receipt.target, changes := receipt.requestedChanges }
  let current ← backendPreview backend request
  ofExcept (validatePreviewContract current request)
  ofExcept (checkUnchanged current receipt)
  authorizeWrite backend flags
  let rollback ← backendRollback backend receipt
  ofExcept (validateRollbackReceipt rollback receipt)
  return RollbackReceipt.codec.write rollback

end FrametimeCfg.Northclock
