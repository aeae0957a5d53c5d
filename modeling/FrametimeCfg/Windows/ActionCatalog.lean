import FrametimeCfg.Domain.Audit
import FrametimeCfg.Domain.Catalog
import FrametimeCfg.Domain.Evidence

/-!
# Native actions and their contracts

The Windows adapter maps each intent of the catalog to a native action and
attaches the contract of that action: whether its state can be observed at
all, which inputs it requires, how a mutation is made recoverable and whether
its observation leaves a durable receipt.  An action that can only be
acknowledged carries the reason as an advisory.
-/

namespace FrametimeCfg.Windows

open FrametimeCfg.Domain

/-! ## External tools -/

inductive CommandName where
  | bcdedit
  | powercfg
  | pnputil
  | fsutil
  | defrag
  | netsh
  deriving DecidableEq, Repr

def COMMAND_ALLOWLIST : List CommandName :=
  [.bcdedit, .powercfg, .pnputil, .fsutil, .defrag, .netsh]

structure CommandVector where
  command : CommandName
  arguments : List String
  deriving DecidableEq, Repr

/-- An argument that `CommandVector::new` refuses. -/
def unsafeArgument (value : String) : Bool :=
  value.isEmpty || value.toList.any fun c =>
    c = '\x00' || c = '|' || c = ';' || c = '\n' || c = '\r'

/-- `CommandVector::new`. -/
def CommandVector.new (command : CommandName) (arguments : List String) :
    Except String CommandVector :=
  if command ∉ COMMAND_ALLOWLIST then .error "command is not allowlisted"
  else if arguments.any unsafeArgument then
    .error "unsafe external-tool argument"
  else .ok { command := command, arguments := arguments }

/-! ## Actions -/

inductive Hive where
  | localMachine
  | currentUser
  deriving DecidableEq, Repr

inductive RegValue where
  | dword (value : UInt32)
  | string (value : String)
  | binary (value : List UInt8)
  deriving DecidableEq, Repr

structure RegistryChange where
  hive : Hive
  key : String
  name : String
  value : RegValue
  deriving DecidableEq, Repr

inductive Cs2RegistryAction where
  | highPerformanceGpu
  deriving DecidableEq, Repr

inductive Action where
  | observeConfigState
  | observeGpuInventory
  | observeChipsetDriver
  | observeMemoryTopology
  | baselineBenchmark
  | finalBenchmark
  | fpsCapInfo
  | gpuDriverCleanPreparation
  | nvidiaDriverDownloadPreparation
  | nvidiaDriverRemoval
  | nvidiaDriverInstall
  | nvidiaProfilePreparation
  | nvidiaProfileApply
  | safeModeHandoff
  | phaseThreeHandoff
  | msiPreparation
  | nicAffinityPreparation
  | networkStack
  | cs2LaunchVideoGuide
  | amdRadeonGuide
  | vramUsageGuide
  | finalChecklistGuide
  | registryBatch (changes : List RegistryChange)
  | msiInterrupts
  | nicInterruptAffinity
  | pagefile
  | cs2Registry (action : Cs2RegistryAction)
  | cs2Config
  | tool (command : CommandVector)
  | advisory (reason : String)
  deriving DecidableEq, Repr

def XMP_EXPO_ADVISORY : String :=
  "XMP/EXPO observation requires authoritative SMBIOS " ++
    "memory-profile data"

def SHADER_CACHE_HEALTH_ADVISORY : String :=
  "P1:3 preserves shader caches. Clear only a diagnosed corrupt " ++
    "cache as a repair action, then compare cold and warmed runs " ++
    "separately."

def FULLSCREEN_OPTIMIZATIONS_ADVISORY : String :=
  "P1:4 preserves Windows Fullscreen Optimizations. Use a " ++
    "per-executable opt-out only after a reproducible presentation " ++
    "regression and retain the prior value for recovery."

def POWER_POLICY_ADVISORY : String :=
  "P1:6 preserves the active OEM or Windows power policy. Use the " ++
    "OEM gaming mode or Best performance only when plugged in and " ++
    "measurements show throttling."

def HAGS_ADVISORY : String :=
  "P1:7 preserves the current supported HAGS state. Compare HAGS " ++
    "only as an explicit, reversible A/B experiment after a driver " ++
    "or Windows change."

def RESIZABLE_BAR_ADVISORY : String :=
  "Resizable BAR observation requires PCIe capability inspection"

def WINDOWS_TIMER_DEFAULTS_ADVISORY : String :=
  "P1:10 preserves the Windows boot timer defaults. BCDEdit timer " ++
    "switches, including disabledynamictick, are debugging controls " ++
    "and are not gaming tweaks."

def MPO_HEALTH_ADVISORY : String :=
  "P1:11 preserves Multiplane Overlay. Disable MPO only as a " ++
    "reversible workaround for a reproduced compositor, flicker, or " ++
    "presentation fault."

def BACKGROUND_APPS_ADVISORY : String :=
  "P1:13 preserves installed applications. Use a temporary clean " ++
    "boot to identify a measured offender before removing software."

def AUTOSTART_INVENTORY_ADVISORY : String :=
  "P1:14 inventories startup applications without removing " ++
    "user-selected entries. Disable only a measured offender with " ++
    "explicit consent."

def WINDOWS_UPDATE_ADVISORY : String :=
  "P1:15 preserves Windows Update servicing. Schedule updates " ++
    "outside play rather than disabling update services."

def FAST_STARTUP_ADVISORY : String :=
  "P1:23 preserves Fast Startup. Change it only to diagnose a " ++
    "reproduced shutdown, driver, or dual-boot problem."

def TCP_DEFAULTS_ADVISORY : String :=
  "P1:25 preserves interface TCP defaults. TcpNoDelay and " ++
    "TcpAckFrequency do not tune CS2 UDP gameplay."

def FULLSCREEN_PRESENTATION_ADVISORY : String :=
  "P1:26 preserves the Windows fullscreen-presentation defaults. " ++
    "Test a per-game exception only after measuring a regression " ++
    "with the current compositor and driver."

def MULTIMEDIA_DEFAULTS_ADVISORY : String :=
  "P1:27 preserves the documented Windows scheduler, MMCSS, " ++
    "maintenance, memory-manager, and NTFS defaults. Diagnose a " ++
    "specific fault before a reversible, measured exception."

def TIMER_REQUEST_ADVISORY : String :=
  "P1:28 preserves Windows timer-request defaults. Do not install " ++
    "a global timer registry policy as a gaming preset."

def POINTER_PREFERENCE_ADVISORY : String :=
  "P1:29 preserves the user's Windows pointer preference. " ++
    "Acceleration off is a consistency preference, not a frametime " ++
    "optimization."

def GAME_DVR_ADVISORY : String :=
  "P1:31 preserves capture features. Disable Game DVR only for a " ++
    "measured conflict or controlled benchmark session."

def OVERLAY_ADVISORY : String :=
  "P1:32 preserves overlay preferences. Disable only a measured " ++
    "conflicting overlay, and keep capture tooling mutually " ++
    "exclusive."

def AUDIO_STACK_ADVISORY : String :=
  "P1:33 preserves the current audio stack. Device, EQ, " ++
    "spatialization, and buffer choices require device-specific " ++
    "tests."

def VISUAL_EFFECTS_ADVISORY : String :=
  "P1:36 preserves visual-effects and Auto HDR preferences. " ++
    "Select them for display consistency or measured cost, not as a " ++
    "universal latency preset."

def WINDOWS_SERVICES_ADVISORY : String :=
  "P1:37 preserves Windows service defaults. Use a temporary " ++
    "clean boot or targeted diagnosis for a measured background " ++
    "offender rather than a service-disable preset."

def VBS_HVCI_ADVISORY : String :=
  "P3:7 preserves VBS, HVCI, and Memory Integrity. Disabling " ++
    "kernel protections is not an optimization baseline."

def DNS_ADVISORY : String :=
  "P3:9 preserves the configured resolver. DNS affects name " ++
    "resolution, not an established CS2 match flow."

def PROCESS_PRIORITY_ADVISORY : String :=
  "P3:10 preserves Normal process priority. Do not force IFEO " ++
    "priority or affinity as a general CS2 preset; test an " ++
    "explicit, reversible exception with system-wide measurements."

/-- `native_action_for`. -/
def nativeActionFor : ActionIntent → Except String Action
  | .configuration => .ok .observeConfigState
  | .xmpExpoCheck => .ok (.advisory XMP_EXPO_ADVISORY)
  | .shaderCacheHealth => .ok (.advisory SHADER_CACHE_HEALTH_ADVISORY)
  | .fullscreenOptimizationsCheck => .ok (.advisory FULLSCREEN_OPTIMIZATIONS_ADVISORY)
  | .nvidiaDriverInventory => .ok .observeGpuInventory
  | .powerPolicyGuidance => .ok (.advisory POWER_POLICY_ADVISORY)
  | .hagsCheck => .ok (.advisory HAGS_ADVISORY)
  | .pagefile => .ok .pagefile
  | .resizableBarCheck => .ok (.advisory RESIZABLE_BAR_ADVISORY)
  | .windowsTimerDefaults => .ok (.advisory WINDOWS_TIMER_DEFAULTS_ADVISORY)
  | .mpoHealthCheck => .ok (.advisory MPO_HEALTH_ADVISORY)
  | .gameMode => .ok (.registryBatch
      [{ hive := .currentUser
         key := "SOFTWARE\\Microsoft\\GameBar"
         name := "AllowAutoGameMode"
         value := .dword 1 },
       { hive := .currentUser
         key := "SOFTWARE\\Microsoft\\GameBar"
         name := "AutoGameModeEnabled"
         value := .dword 1 }])
  | .backgroundAppGuidance => .ok (.advisory BACKGROUND_APPS_ADVISORY)
  | .autostartInventory => .ok (.advisory AUTOSTART_INVENTORY_ADVISORY)
  | .windowsUpdateStatus => .ok (.advisory WINDOWS_UPDATE_ADVISORY)
  | .rssBaseline => .ok .networkStack
  | .baselineBenchmark => .ok .baselineBenchmark
  | .gpuDriverCleanPreparation => .ok .gpuDriverCleanPreparation
  | .nvidiaDriverDownloadPreparation => .ok .nvidiaDriverDownloadPreparation
  | .nvidiaProfilePreparation => .ok .nvidiaProfilePreparation
  | .msiPreparation => .ok .msiPreparation
  | .nicAffinityPreparation => .ok .nicAffinityPreparation
  | .fastStartupGuidance => .ok (.advisory FAST_STARTUP_ADVISORY)
  | .memoryTopology => .ok .observeMemoryTopology
  | .tcpDefaultsGuidance => .ok (.advisory TCP_DEFAULTS_ADVISORY)
  | .fullscreenPresentationGuidance => .ok (.advisory FULLSCREEN_PRESENTATION_ADVISORY)
  | .multimediaDefaultsGuidance => .ok (.advisory MULTIMEDIA_DEFAULTS_ADVISORY)
  | .timerRequestGuidance => .ok (.advisory TIMER_REQUEST_ADVISORY)
  | .pointerPreferenceGuidance => .ok (.advisory POINTER_PREFERENCE_ADVISORY)
  | .cs2HighPerformanceGpu => .ok (.cs2Registry .highPerformanceGpu)
  | .gameDvrGuidance => .ok (.advisory GAME_DVR_ADVISORY)
  | .overlayGuidance => .ok (.advisory OVERLAY_ADVISORY)
  | .audioStackGuidance => .ok (.advisory AUDIO_STACK_ADVISORY)
  | .cs2Configuration => .ok .cs2Config
  | .chipsetDriverInventory => .ok .observeChipsetDriver
  | .visualEffectsGuidance => .ok (.advisory VISUAL_EFFECTS_ADVISORY)
  | .windowsServicesGuidance => .ok (.advisory WINDOWS_SERVICES_ADVISORY)
  | .safeModeHandoff => .ok .safeModeHandoff
  | .clearSafeBoot => do
      let command ← CommandVector.new .bcdedit
        ["/deletevalue", "\x7bcurrent\x7d", "safeboot"]
      return .tool command
  | .nvidiaDriverRemoval => .ok .nvidiaDriverRemoval
  | .phaseThreeHandoff => .ok .phaseThreeHandoff
  | .nvidiaDriverInstall => .ok .nvidiaDriverInstall
  | .msiInterrupts => .ok .msiInterrupts
  | .nicInterruptAffinity => .ok .nicInterruptAffinity
  | .nvidiaProfileApply => .ok .nvidiaProfileApply
  | .fpsCapInfo => .ok .fpsCapInfo
  | .cs2LaunchVideoGuidance => .ok .cs2LaunchVideoGuide
  | .vbsHvciGuidance => .ok (.advisory VBS_HVCI_ADVISORY)
  | .amdRadeonGuidance => .ok .amdRadeonGuide
  | .dnsGuidance => .ok (.advisory DNS_ADVISORY)
  | .processPriorityGuidance => .ok (.advisory PROCESS_PRIORITY_ADVISORY)
  | .vramUsageGuidance => .ok .vramUsageGuide
  | .finalChecklistGuidance => .ok .finalChecklistGuide
  | .finalBenchmark => .ok .finalBenchmark

/-! ## Contracts -/

/-- Whether the native state behind an action can be observed. -/
inductive Capability where
  | supported
  | advisory (reason : String)
  deriving DecidableEq, Repr

inductive RequiredInput where
  | validatedConfig
  | gpuBranch
  deriving DecidableEq, Repr

/-- One execution contract attached to a catalog row. -/
structure ActionDescriptor where
  id : StepId
  intent : ActionIntent
  operation : OperationKind
  gpuApplicability : GpuApplicability
  orchestrationRole : OrchestrationRole
  action : Action
  capability : Capability
  requiredInputs : List RequiredInput
  recoveryRequirement : RecoveryRequirement
  evidenceRequirement : EvidenceRequirement
  deriving DecidableEq

/-- `ActionDescriptor::new`. -/
def ActionDescriptor.new (step : Step) (action : Action) : ActionDescriptor where
  id := step.id
  intent := step.intent
  operation := step.operation
  gpuApplicability := step.gpuApplicability
  orchestrationRole := step.orchestrationRole
  action := action
  capability :=
    match action with
    | .advisory reason => .advisory reason
    | _ => .supported
  requiredInputs :=
    match action with
    | .observeConfigState => [.validatedConfig]
    | .pagefile | .cs2Registry _ | .cs2Config | .nvidiaProfilePreparation
    | .nvidiaProfileApply => [.gpuBranch]
    | _ => []
  recoveryRequirement :=
    match action with
    | .nvidiaDriverRemoval | .nvidiaDriverInstall => .manualRecoveryAudit
    | _ => .losslessBackup
  evidenceRequirement :=
    match action with
    | .gpuDriverCleanPreparation | .nvidiaProfilePreparation | .msiPreparation
    | .nicAffinityPreparation => .durableReceipt
    | _ => .none

/-- `descriptor_for`. -/
def descriptorFor (step : Step) : Except String ActionDescriptor :=
  (nativeActionFor step.intent).map (ActionDescriptor.new step)

def Capability.isAdvisory : Capability → Bool
  | .advisory _ => true
  | .supported => false

/-- The step can only be acknowledged: the capability of its descriptor is an
advisory. -/
def hasAdvisoryCapability (step : Step) : Bool :=
  (descriptorFor step).toOption.any fun descriptor =>
    descriptor.capability.isAdvisory

end FrametimeCfg.Windows
