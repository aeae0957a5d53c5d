import FrametimeCfg.Lib.Effect
import FrametimeCfg.Northclock.Operation

/-!
# Northclock backends

A backend reports its capabilities and whether its process is elevated; it previews,
applies and rolls back operations of the processor and of the graphics card, and process
affinities.  Its state is the hardware and the process that it runs in.
-/

namespace FrametimeCfg.Northclock

open FrametimeCfg.Lib.Effect

/-! ## Capabilities -/

inductive CapabilityState where
  | available
  | unsupported
  | experimental
  | permissionRequired
  | unverified
  deriving DecidableEq

structure CapabilityReport where
  name : String
  state : CapabilityState
  backend : String
  detail : String
  hardwareVerified : Bool
  deriving DecidableEq

/-- `CapabilityReport::new`. -/
def CapabilityReport.new (name : String) (state : CapabilityState) (backend detail : String) :
    CapabilityReport where
  name := name
  state := state
  backend := backend
  detail := detail
  hardwareVerified := false

def CapabilityReport.isUsable (report : CapabilityReport) : Bool :=
  report.state = .available || report.state = .experimental

/-! ## Backends -/

/-- The methods of a backend that the workflows call. -/
structure BackendBundle (σ : Type) where
  capabilities : σ → List CapabilityReport × σ
  isElevated : Prog σ NorthclockError Bool
  previewCpuOperation : OperationRequest → Prog σ NorthclockError OperationPlan
  applyCpuOperation : OperationPlan → Prog σ NorthclockError ApplyReceipt
  rollbackCpuOperation : ApplyReceipt → Prog σ NorthclockError RollbackReceipt
  previewGpuOperation : OperationRequest → Prog σ NorthclockError OperationPlan
  applyGpuOperation : OperationPlan → Prog σ NorthclockError ApplyReceipt
  rollbackGpuOperation : ApplyReceipt → Prog σ NorthclockError RollbackReceipt
  previewProcessAffinity : UInt32 → UInt64 → Prog σ NorthclockError ProcessAffinityPlan
  applyProcessAffinity : ProcessAffinityPlan → Prog σ NorthclockError ProcessAffinityReceipt
  rollbackProcessAffinity :
    ProcessAffinityReceipt → Prog σ NorthclockError ProcessAffinityRollbackReceipt

/-- What the caller of a write allows: the flags of the command and the build. -/
structure WriteFlags where
  experimentalHardwareWrites : Bool
  experimental : Bool
  apply : Bool
  riskAcknowledgement : Option String

/-- The authorisation that the flags make for a process. -/
def WriteFlags.authorization (flags : WriteFlags) (elevated : Bool) : WriteAuthorization where
  experimental := flags.experimental
  apply := flags.apply
  elevated := elevated
  riskAcknowledgement := flags.riskAcknowledgement

/-- The flags allow a write to a process that is or is not elevated. -/
def WriteFlags.allow (flags : WriteFlags) (elevated : Bool) : Except NorthclockError Unit :=
  (flags.authorization elevated).validate flags.experimentalHardwareWrites

variable {σ : Type}

/-- `authorize_write`. -/
def authorizeWrite (backend : BackendBundle σ) (flags : WriteFlags) :
    Prog σ NorthclockError Unit := do
  let elevated ← backend.isElevated
  ofExcept (flags.allow elevated)

/-- `backend_preview`. -/
def backendPreview (backend : BackendBundle σ) (request : OperationRequest) :
    Prog σ NorthclockError OperationPlan :=
  match request.target with
  | .cpuCurveOptimizer => backend.previewCpuOperation request
  | .gpuTuning => backend.previewGpuOperation request

/-- `backend_apply`. -/
def backendApply (backend : BackendBundle σ) (plan : OperationPlan) :
    Prog σ NorthclockError ApplyReceipt :=
  match plan.target with
  | .cpuCurveOptimizer => backend.applyCpuOperation plan
  | .gpuTuning => backend.applyGpuOperation plan

/-- `backend_rollback`. -/
def backendRollback (backend : BackendBundle σ) (receipt : ApplyReceipt) :
    Prog σ NorthclockError RollbackReceipt :=
  match receipt.target with
  | .cpuCurveOptimizer => backend.rollbackCpuOperation receipt
  | .gpuTuning => backend.rollbackGpuOperation receipt

end FrametimeCfg.Northclock
