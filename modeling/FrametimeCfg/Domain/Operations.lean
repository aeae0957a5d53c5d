import FrametimeCfg.Domain.Catalog

/-!
# GPU branches and the plan of a step

A GPU branch is the vendor family the user selected or the host was found to
have.  A step applies to every branch, to the NVIDIA branches or to AMD only.
-/

namespace FrametimeCfg.Domain

inductive GpuBranch where
  | nvidiaRtx5000
  | nvidia
  | amd
  | intelArc
  deriving DecidableEq, Repr

/-- `TryFrom<u8>`. -/
def GpuBranch.tryFrom (value : UInt8) : Except String GpuBranch :=
  if value = 1 then .ok .nvidiaRtx5000
  else if value = 2 then .ok .nvidia
  else if value = 3 then .ok .amd
  else if value = 4 then .ok .intelArc
  else .error "GPU branch must be 1, 2, 3, or 4"

/-- The number of a branch. -/
def GpuBranch.number : GpuBranch → UInt8
  | .nvidiaRtx5000 => 1
  | .nvidia => 2
  | .amd => 3
  | .intelArc => 4

@[simp] theorem GpuBranch.tryFrom_number (branch : GpuBranch) :
    GpuBranch.tryFrom branch.number = .ok branch := by
  cases branch <;> rfl

/-- `GpuBranch::label`. -/
def GpuBranch.label : GpuBranch → String
  | .nvidiaRtx5000 => "NVIDIA RTX 5000"
  | .nvidia => "other NVIDIA"
  | .amd => "AMD Radeon"
  | .intelArc => "Intel Arc"

/-- `GpuBranch::is_nvidia`. -/
def GpuBranch.isNvidia : GpuBranch → Bool
  | .nvidiaRtx5000 | .nvidia => true
  | .amd | .intelArc => false

/-- `Step::is_compatible_with_gpu`. -/
def Step.isCompatibleWithGpu (step : Step) (branch : GpuBranch) : Bool :=
  match step.gpuApplicability with
  | .any => true
  | .nvidiaOnly => branch.isNvidia
  | .amdOnly => branch = .amd

structure PlannedAction where
  id : StepId
  kind : OperationKind
  title : String
  mutating : Bool
  applicable : Bool
  branch : GpuBranch
  deriving DecidableEq

/-- `plan_for_step`. -/
def planForStep (step : Step) (branch : GpuBranch) : PlannedAction where
  id := step.id
  kind := step.operation
  title := step.title
  mutating := step.intent.isMutating
  applicable := step.isCompatibleWithGpu branch
  branch := branch

end FrametimeCfg.Domain
