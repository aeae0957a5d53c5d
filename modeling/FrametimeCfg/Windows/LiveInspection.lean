import FrametimeCfg.Windows.LiveObservations

/-!
# Inspection by the two backends

The planner answers from the catalog alone.  The live backend asks the host: the contract
of the action first, then the preparations and the interrupt policies, then the actions
with an inspection of their own, and for the rest `inspect_action`.
-/

namespace FrametimeCfg.Windows

open FrametimeCfg.Domain
open FrametimeCfg.Lib.Checks
open FrametimeCfg.Lib.Effect
open FrametimeCfg.Lib.OrderedMap
open FrametimeCfg.Lib.Text

/-! ## The planner -/

namespace PlannerBackend

/-- The actions that the planner takes for satisfied. -/
def isGuidance : Action → Bool
  | .fpsCapInfo | .gpuDriverCleanPreparation | .nvidiaProfilePreparation | .safeModeHandoff
  | .phaseThreeHandoff | .msiPreparation | .nicAffinityPreparation | .cs2LaunchVideoGuide
  | .amdRadeonGuide | .vramUsageGuide | .finalChecklistGuide => true
  | _ => false

/-- `PlannerBackend::inspect`. -/
def inspect (gpuBranch : UInt8) (operation : Operation) : Except String Inspection := do
  let branch ← GpuBranch.tryFrom gpuBranch
  if !(planForStep operation.step branch).applicable then return .inapplicable
  else do
    let descriptor ← descriptorFor operation.step
    match descriptor.capability with
    | .advisory reason => return .advisory reason
    | .supported => return if isGuidance descriptor.action then .satisfied else .needsApply

end PlannerBackend

/-! ## The live backend -/

/-- `guidance_message`. -/
def guidanceMessage : Action → Option String
  | .gpuDriverCleanPreparation => some
      ("P1:18: confirm the exact target GPU and signed replacement driver before clean " ++
        "removal; Safe Mode and recovery must be prepared first. This workflow does not " ++
        "remove drivers, arm a handoff, or reboot.")
  | .nvidiaProfilePreparation => some
      "P1:20 requires the native read-only NVIDIA DRS inspection adapter."
  | .msiPreparation => some
      ("P1:21: enable MSI only for specifically supported devices after recording the " ++
        "current state; reboot and verify negotiated mode, because a registry request does " ++
        "not prove MSI or MSI-X is active.")
  | .nicAffinityPreparation => some
      ("P1:22: set NIC affinity only after a reproducible NIC DPC diagnosis and " ++
        "authoritative logical-processor topology check; an unsuitable mask can increase " ++
        "latency or concentrate load.")
  | .cs2LaunchVideoGuide => some
      ("P3:6: configure CS2 launch options and video settings manually. Use the Raw " ++
        "latency, NVIDIA VRR, AMD FreeSync, or GPU-constrained UI guidance as appropriate; " ++
        "this workflow does not write Steam launch options or CS2 video files.")
  | .amdRadeonGuide => some
      ("P3:8: review AMD Radeon settings manually; verify current AMD and game " ++
        "documentation, including anti-cheat compatibility, before enabling driver " ++
        "features. This workflow does not change firmware or AMD settings automatically.")
  | .vramUsageGuide => some
      ("P3:11: compare VRAM use with the same map, settings, and workload; allocation alone " ++
        "does not establish a leak.")
  | .finalChecklistGuide => some
      ("P3:12: review the final checklist and validate results with comparable " ++
        "before/after captures.")
  | _ => none

namespace LiveBackend

/-- `key`. -/
def key (operation : Operation) : String := operation.step.id.progressKey

section

variable {σ Session Profile : Type} (n : Native σ Session Profile)

/-- `inspect_cs2_registry`. -/
def inspectCs2Registry (action : Cs2RegistryAction) (s : σ) : Except String Inspection := do
  if !(← hasSupportedHybridGpuTopology n s) then return .inapplicable
  else
    match discoverCs2RegistryBinding n s with
    | .error error =>
        if error = NO_CS2_INSTALL ||
            error = "HKCU Valve Steam SteamPath is absent or not a non-empty REG_SZ" then
          return .inapplicable
        else .error error
    | .ok binding => do
        let change := cs2RegistryChanges binding action
        let value ← n.registryRead change s
        return if value = some change.value then .satisfied else .needsApply

/-- `inspect_cs2_config`. -/
def inspectCs2Config (s : σ) : Except String Inspection := do
  match ← discoverCs2ConfigBinding n s with
  | none => return .inapplicable
  | some binding => do
      let files ← bindCs2ConfigFs n binding.install s
      let controller ← newCs2ConfigController n "validate" binding.install
      match (controller.verify n.cfgAssets binding.request files).1 with
      | .ok () => return .satisfied
      | .error _ => return .needsApply

/-- `inspect_driver_cleanup_preparation_action`. -/
def inspectDriverCleanupPreparationAction (s : σ) : Except String Inspection := do
  let (targetGpu, _) ← n.inspectDriverCleanupPreparation s
  return if targetGpu.vendorId = 0x10de then .satisfied else .inapplicable

/-- `inspect_action`. -/
def inspectAction (action : Action) (s : σ) : Except String Inspection :=
  match guidanceMessage action with
  | some _ => .ok .satisfied
  | none =>
    match action with
    | .observeConfigState | .observeGpuInventory | .observeChipsetDriver
    | .observeMemoryTopology | .baselineBenchmark | .finalBenchmark | .fpsCapInfo =>
        .error "typed observations require live backend context"
    | .nvidiaDriverDownloadPreparation | .safeModeHandoff | .phaseThreeHandoff =>
        .ok .satisfied
    | .nvidiaDriverRemoval | .nvidiaDriverInstall =>
        .error "driver execution requires the persisted P1:18/P1:19 NVIDIA transaction"
    | .nvidiaProfileApply =>
        .error "NVIDIA DRS application requires its dedicated native transaction"
    | .networkStack => .error "P1:16 requires its native transaction binding"
    | .registryBatch changes => do
        changes.forM fun change => (n.registryRead change s).map fun _ => ()
        return .needsApply
    | .msiInterrupts | .nicInterruptAffinity =>
        .error "interrupt-policy inspection requires exact live device bindings"
    | .pagefile => .error "P1:8 inspection requires native CIM inventory context"
    | .cs2Registry action => inspectCs2Registry n action s
    | .cs2Config => .error "P1:34 inspection requires its dedicated CS2 config binding"
    | .tool _ => .ok .needsApply
    | .advisory reason => .ok (.advisory reason)
    | .gpuDriverCleanPreparation | .nvidiaProfilePreparation | .msiPreparation
    | .nicAffinityPreparation | .cs2LaunchVideoGuide | .amdRadeonGuide | .vramUsageGuide
    | .finalChecklistGuide => .error "guidance actions are handled above"

/-- The panic at the end of `inspect_action` is not reached. -/
theorem inspectAction_guidance {action : Action} (h : PlannerBackend.isGuidance action = true)
    (hfps : action ≠ .fpsCapInfo) (s : σ) : inspectAction n action s = .ok .satisfied := by
  cases action <;> first | rfl | exact absurd rfl hfps | cases h

/-- `native_pagefile_inventory`. -/
def nativePagefileInventory : Prog σ String PagefileInventory := do
  n.connectPagefile
  n.pagefile.inventory

def PAGEFILE_ADVISORY : String :=
  "Windows system-managed pagefile is the baseline. Enable it manually or provide an " ++
    "explicit pagefile_mb experiment override."

/-- What `inspect_pagefile` answers for an inventory. -/
def pagefileInspection (state : State) (inventory : PagefileInventory) :
    Except String Inspection :=
  if state.pagefileMb = 0 then
    .ok (if inventory.automaticManaged then .satisfied else .advisory PAGEFILE_ADVISORY)
  else if inventory.physicalRamMb = 0 then .ok .unsupported
  else do
    let _ ← capturePagefileBinding "P1:8" state inventory
    return .needsApply

/-- `inspect_pagefile`. -/
def inspectPagefile (state : State) : LiveM σ Inspection := do
  match ← attempt (onHost (nativePagefileInventory n)) with
  | .error _ => return .unsupported
  | .ok inventory => ofExcept (pagefileInspection state inventory)

/-- `inspect_nvidia_drs_preparation`. -/
def inspectNvidiaDrsPreparation : LiveM σ Inspection := do
  let _ ← onHost (withNvapi n (prepareCs2Profile n))
  return .satisfied

/-- `require_descriptor_inputs`. -/
def requireDescriptorInputs (descriptor : ActionDescriptor) (s : Live σ) :
    Except String Unit :=
  reject (descriptor.requiredInputs.contains .gpuBranch && s.configuredGpuBranch.isNone)
    "native action requires a validated GPU branch"

/-- `nvidia_preparation_is_inapplicable`. -/
def nvidiaPreparationIsInapplicable (action : Action) (operation : Operation) (s : Live σ) :
    Except String Bool :=
  if action ≠ .nvidiaDriverDownloadPreparation ∧ action ≠ .nvidiaProfilePreparation then
    .ok false
  else do
    let branch ← okOr s.configuredGpuBranch
      "GPU branch is unknown; select a validated branch before NVIDIA preparation"
    return !(planForStep operation.step branch).applicable

/-- The answer to a comparison with the wanted values. -/
def satisfiedOr (satisfied : Bool) : Inspection := if satisfied then .satisfied else .needsApply

/-- `inspect_interrupt_action`. -/
def inspectInterruptAction (action : Action) (operation : Operation) :
    LiveM σ (Option Inspection) :=
  match action with
  | .msiPreparation => do
      let batches ← ask (discoverNativeMsiBatches n.interrupts)
      update fun s => { s with observedMsiPreparation := some batches }
      return some .satisfied
  | .nicAffinityPreparation => do
      let binding ← ask (discoverNativeNicAffinity n.interrupts)
      update fun s => { s with observedNicAffinityPreparation := some binding }
      return some .satisfied
  | .msiInterrupts => do
      onHost (requireStoredPreparation n "P1:21")
      let batches ← ask (discoverNativeMsiBatches n.interrupts)
      let satisfied ← ask fun s => nativeInterruptBatchesSatisfied n.interrupts s batches
      update fun s =>
        { s with capturedMsiBatches := s.capturedMsiBatches.insert (key operation) batches }
      return some (satisfiedOr satisfied)
  | .nicInterruptAffinity => do
      onHost (requireStoredPreparation n "P1:22")
      let binding ← ask (discoverNativeNicAffinity n.interrupts)
      let satisfied ← ask fun s => nativeInterruptBatchesSatisfied n.interrupts s [binding.batch]
      update fun s =>
        { s with
          capturedNicAffinityBindings :=
            s.capturedNicAffinityBindings.insert (key operation) binding }
      return some (satisfiedOr satisfied)
  | _ => pure none

/-- The answer to what may be missing. -/
def presentOr {α : Type} : Option α → Inspection
  | some _ => .satisfied
  | none => .inapplicable

/-- The actions that `inspect` inspects by themselves. -/
def inspectDedicated (action : Action) : LiveM σ (Option Inspection) :=
  match action with
  | .observeConfigState => do
      let inspection ← consult fun s => inspectConfigState (some s.config) s.state
      return some inspection
  | .observeGpuInventory => do
      let inspection ← consult fun s => inspectGpuInventory s.hardware
      return some inspection
  | .baselineBenchmark => do
      let persisted ← gets fun s => baselineBenchmarkIsPersisted n s.host
      return some (if persisted then .satisfied else .unsupported)
  | .finalBenchmark => pure (some .unsupported)
  | .observeChipsetDriver => do
      let captured ← ask (captureChipsetInventory n)
      update fun s => { s with chipsetInventory := some captured }
      return some (presentOr captured)
  | .observeMemoryTopology => do
      let captured ← ask (captureMemoryTopology n)
      update fun s => { s with memoryTopology := some captured }
      return some (presentOr captured)
  | .fpsCapInfo => do
      let inspection ← consult fun s => inspectFpsCapInfo (some s.config) s.state
      return some inspection
  | .pagefile => do
      let state ← gets Live.state
      let inspection ← inspectPagefile n state
      return some inspection
  | .cs2Registry action => do
      let inspection ← ask (inspectCs2Registry n action)
      return some inspection
  | .cs2Config => do
      let inspection ← ask (inspectCs2Config n)
      return some inspection
  | .gpuDriverCleanPreparation => do
      let inspection ← ask (inspectDriverCleanupPreparationAction n)
      return some inspection
  | .nvidiaProfilePreparation => do
      let inspection ← inspectNvidiaDrsPreparation n
      return some inspection
  | .finalChecklistGuide => do
      ask (requireHagsEffectiveBeforeFinalChecklist n)
      let inspection ← ask (inspectAction n action)
      return some inspection
  | _ => pure none

/-- The last part of `inspect`: the applicability, and `inspect_action`. -/
def inspectRemaining (action : Action) (operation : Operation) : LiveM σ Inspection := do
  let branch ← consult fun s => okOr s.configuredGpuBranch
    "GPU branch is unknown; select a validated branch before live execution"
  if !(planForStep operation.step branch).applicable then return .inapplicable
  else ask (inspectAction n action)

def DOWNLOAD_EVIDENCE : String :=
  "P1:19 requires durable P1:18/P1:19 NVIDIA evidence; run `frametime driver " ++
    "prepare-nvidia` first"

/-- The actions that are supported. -/
def inspectSupported (action : Action) (operation : Operation) : LiveM σ Inspection := do
  if ← consult (nvidiaPreparationIsInapplicable action operation) then return .inapplicable
  else if action = .nvidiaDriverDownloadPreparation then do
    let loaded ← ask (loadDriverTransactionAt n)
    ofExcept (okOr (loaded.map fun _ => .satisfied) DOWNLOAD_EVIDENCE)
  else
    match ← inspectInterruptAction n action operation with
    | some inspection => return inspection
    | none =>
      match ← inspectDedicated n action with
      | some inspection => return inspection
      | none => inspectRemaining n action operation

/-- `LiveBackend::inspect`. -/
def inspect (operation : Operation) : LiveM σ Inspection := do
  ask n.requireElevation
  let descriptor ← ofExcept (descriptorFor operation.step)
  match descriptor.capability with
  | .advisory reason => return .advisory reason
  | .supported => do
      consult (requireDescriptorInputs descriptor)
      inspectSupported n descriptor.action operation

end

end LiveBackend

end FrametimeCfg.Windows
