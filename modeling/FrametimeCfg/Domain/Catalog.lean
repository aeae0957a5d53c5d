import FrametimeCfg.Lib.Text
import Mathlib.Tactic.Common
import Std.Data.String.ToNat

/-!
# The step catalog and the profile policy

The suite is a fixed schedule of 54 steps in three phases.  Each step has a
tier and a risk, which the profile policy turns into a decision, an intent,
which the live backend dispatches on, and an orchestration role: most steps
are run by the engine, and four are checkpoints of the reboot transaction.

Steps are identified in the persisted files by the text `P<phase>:<number>`.
-/

namespace FrametimeCfg.Domain

open FrametimeCfg.Lib.Text

/-! ## Step identities -/

/-- The three phases of the workflow. -/
inductive Phase where
  | one
  | two
  | three
  deriving DecidableEq, Repr

/-- The discriminant of a phase. -/
def Phase.number : Phase → UInt8
  | .one => 1
  | .two => 2
  | .three => 3

/-- Stable identity of one catalog action. -/
structure StepId where
  phase : Phase
  number : UInt8
  deriving DecidableEq, Repr

/-- The key of a step in the progress file. -/
def progressKeyOf (phase number : UInt8) : String :=
  "P" ++ toString phase.toNat ++ ":" ++ toString number.toNat

/-- `StepId::progress_key`. -/
def StepId.progressKey (id : StepId) : String :=
  progressKeyOf id.phase.number id.number

/-- The decimal digit of a phase. -/
private def Phase.digit : Phase → Char
  | .one => '1'
  | .two => '2'
  | .three => '3'

private theorem Phase.digit_inj {p q : Phase} (h : p.digit = q.digit) :
    p = q := by
  revert h
  cases p <;> cases q <;> decide

private theorem StepId.progressKey_toList (id : StepId) :
    id.progressKey.toList =
      'P' :: id.phase.digit :: ':' :: id.number.toNat.repr.toList := by
  have hdigit : (toString id.phase.number.toNat).toList = [id.phase.digit] := by
    cases id.phase <;> decide
  rw [StepId.progressKey, progressKeyOf, String.toList_append,
    String.toList_append, String.toList_append, hdigit]
  rfl

/-- Different steps have different keys. -/
theorem progressKey_inj {a b : StepId} :
    a.progressKey = b.progressKey ↔ a = b := by
  refine ⟨fun h => ?_, fun h => by rw [h]⟩
  have hlists := congrArg String.toList h
  rw [StepId.progressKey_toList, StepId.progressKey_toList] at hlists
  injection hlists with _ hlists
  injection hlists with hdigit hlists
  injection hlists with _ hnumber
  obtain ⟨p, m⟩ := a
  obtain ⟨q, n⟩ := b
  have hp : p = q := Phase.digit_inj hdigit
  have hn : m = n :=
    UInt8.toNat_inj.mp (Nat.repr_injective (String.toList_inj.mp hnumber))
  rw [hp, hn]

/-- `str::parse::<u8>`. -/
def parseU8 (value : List Char) : Option UInt8 :=
  match parseDecimalNat value with
  | some n => if n < 256 then some (UInt8.ofNat n) else none
  | none => none

/-- `StepId::from_progress_key`. -/
def StepId.fromProgressKey (value : String) : Option StepId :=
  match value.toList with
  | 'P' :: rest =>
      match splitOnce ':' rest with
      | none => none
      | some (phase, number) =>
          let phase? := match String.ofList phase with
            | "1" => some Phase.one
            | "2" => some Phase.two
            | "3" => some Phase.three
            | _ => none
          match phase?, (parseU8 number).filter (0 < ·) with
          | some phase, some number => some { phase := phase, number := number }
          | _, _ => none
  | _ => none

/-! ## Steps -/

/-- What a step does, as the backends dispatch on it. -/
inductive ActionIntent where
  | configuration
  | xmpExpoCheck
  | shaderCacheHealth
  | fullscreenOptimizationsCheck
  | nvidiaDriverInventory
  | powerPolicyGuidance
  | hagsCheck
  | pagefile
  | resizableBarCheck
  | windowsTimerDefaults
  | mpoHealthCheck
  | gameMode
  | backgroundAppGuidance
  | autostartInventory
  | windowsUpdateStatus
  | rssBaseline
  | baselineBenchmark
  | gpuDriverCleanPreparation
  | nvidiaDriverDownloadPreparation
  | nvidiaProfilePreparation
  | msiPreparation
  | nicAffinityPreparation
  | fastStartupGuidance
  | memoryTopology
  | tcpDefaultsGuidance
  | fullscreenPresentationGuidance
  | multimediaDefaultsGuidance
  | timerRequestGuidance
  | pointerPreferenceGuidance
  | cs2HighPerformanceGpu
  | gameDvrGuidance
  | overlayGuidance
  | audioStackGuidance
  | cs2Configuration
  | chipsetDriverInventory
  | visualEffectsGuidance
  | windowsServicesGuidance
  | safeModeHandoff
  | clearSafeBoot
  | nvidiaDriverRemoval
  | phaseThreeHandoff
  | nvidiaDriverInstall
  | msiInterrupts
  | nicInterruptAffinity
  | nvidiaProfileApply
  | fpsCapInfo
  | cs2LaunchVideoGuidance
  | vbsHvciGuidance
  | amdRadeonGuidance
  | dnsGuidance
  | processPriorityGuidance
  | vramUsageGuidance
  | finalChecklistGuidance
  | finalBenchmark
  deriving DecidableEq, Repr

/-- `ActionIntent::is_mutating`. -/
def ActionIntent.isMutating : ActionIntent → Bool
  | .configuration | .pagefile | .gameMode | .rssBaseline
  | .cs2HighPerformanceGpu | .cs2Configuration | .safeModeHandoff
  | .clearSafeBoot | .nvidiaDriverRemoval | .phaseThreeHandoff
  | .nvidiaDriverInstall | .nvidiaProfileApply => true
  | _ => false

inductive OperationKind where
  | setup
  | inspect
  | registry
  | service
  | bootConfiguration
  | driver
  | network
  | filesystem
  | applicationConfiguration
  deriving DecidableEq, Repr

inductive GpuApplicability where
  | any
  | nvidiaOnly
  | amdOnly
  deriving DecidableEq, Repr

/-- Who carries a step out. -/
inductive OrchestrationRole where
  | engine
  | armSafeModeHandoff
  | clearSafeBoot
  | armPhaseThreeHandoff
  | persistFinalBenchmark
  deriving DecidableEq, Repr

inductive Risk where
  | safe
  | moderate
  | aggressive
  | critical
  deriving DecidableEq, Repr

/-- `Risk::rank`. -/
def Risk.rank : Risk → Nat
  | .safe => 0
  | .moderate => 1
  | .aggressive => 2
  | .critical => 3

inductive Depth where
  | setup
  | check
  | registry
  | service
  | boot
  | driver
  | network
  | filesystem
  | app
  deriving DecidableEq, Repr

/-- One row of the catalog. -/
structure Step where
  id : StepId
  category : String
  title : String
  tier : Nat
  risk : Risk
  depth : Depth
  checkOnly : Bool
  reboot : Bool
  intent : ActionIntent
  operation : OperationKind
  gpuApplicability : GpuApplicability
  orchestrationRole : OrchestrationRole
  deriving DecidableEq, Repr

def operationKind : Depth → OperationKind
  | .setup => .setup
  | .check => .inspect
  | .registry => .registry
  | .service => .service
  | .boot => .bootConfiguration
  | .driver => .driver
  | .network => .network
  | .filesystem => .filesystem
  | .app => .applicationConfiguration

def gpuApplicability (id : StepId) : GpuApplicability :=
  if id ∈ [⟨.one, 5⟩, ⟨.one, 19⟩, ⟨.one, 20⟩, ⟨.three, 1⟩, ⟨.three, 4⟩] then
    .nvidiaOnly
  else if id = ⟨.three, 8⟩ then .amdOnly
  else .any

def PHASE_ONE_BASELINE_BENCHMARK : StepId := ⟨.one, 17⟩
def PHASE_ONE_XMP_EXPO_CHECK : StepId := ⟨.one, 2⟩
def PHASE_ONE_RESIZABLE_BAR_CHECK : StepId := ⟨.one, 9⟩
def PHASE_ONE_SAFE_MODE_HANDOFF : StepId := ⟨.one, 38⟩
def PHASE_TWO_SAFE_BOOT_CLEAR : StepId := ⟨.two, 1⟩
def PHASE_TWO_DRIVER_CLEANUP : StepId := ⟨.two, 2⟩
def PHASE_TWO_PHASE_THREE_HANDOFF : StepId := ⟨.two, 3⟩
def PHASE_THREE_DRIVER_INSTALL : StepId := ⟨.three, 1⟩
def PHASE_THREE_FINAL_BENCHMARK : StepId := ⟨.three, 13⟩

def orchestrationRole (id : StepId) : OrchestrationRole :=
  if id = PHASE_ONE_SAFE_MODE_HANDOFF then .armSafeModeHandoff
  else if id = PHASE_TWO_SAFE_BOOT_CLEAR then .clearSafeBoot
  else if id = PHASE_TWO_PHASE_THREE_HANDOFF then .armPhaseThreeHandoff
  else if id = PHASE_THREE_FINAL_BENCHMARK then .persistFinalBenchmark
  else .engine

/-- The row macro of the catalog. -/
def s (phase : Phase) (number : UInt8) (category title : String) (tier : Nat)
    (risk : Risk) (depth : Depth) (intent : ActionIntent)
    (checkOnly reboot : Bool) : Step where
  id := ⟨phase, number⟩
  category := category
  title := title
  tier := tier
  risk := risk
  depth := depth
  checkOnly := checkOnly
  reboot := reboot
  intent := intent
  operation := operationKind depth
  gpuApplicability := gpuApplicability ⟨phase, number⟩
  orchestrationRole := orchestrationRole ⟨phase, number⟩

/-- `STEPS`. -/
def stepCatalog : List Step :=
  [
    s .one 1 "System" "Configuration" 1
      .safe .setup .configuration false false,
    s .one 2 "Hardware" "XMP/EXPO Check" 1
      .safe .check .xmpExpoCheck true false,
    s .one 3 "GPU" "Shader Cache Health" 1
      .safe .check .shaderCacheHealth true false,
    s .one 4 "Display" "Fullscreen Optimizations Check" 1
      .safe .check .fullscreenOptimizationsCheck true false,
    s .one 5 "GPU" "NVIDIA Driver Version Inventory" 1
      .safe .check .nvidiaDriverInventory true false,
    s .one 6 "System" "Power Policy Guidance" 1
      .safe .check .powerPolicyGuidance true false,
    s .one 7 "GPU" "HAGS Check" 2
      .safe .check .hagsCheck true false,
    s .one 8 "System" "Pagefile" 2
      .moderate .registry .pagefile false true,
    s .one 9 "GPU" "Resizable BAR" 2
      .safe .check .resizableBarCheck true true,
    s .one 10 "System" "Windows Timer Defaults" 3
      .safe .check .windowsTimerDefaults true false,
    s .one 11 "Display" "MPO Health Check" 3
      .safe .check .mpoHealthCheck true false,
    s .one 12 "System" "Game Mode" 1
      .safe .registry .gameMode false false,
    s .one 13 "System" "Background App Guidance" 2
      .safe .check .backgroundAppGuidance true false,
    s .one 14 "System" "Autostart Inventory" 2
      .safe .check .autostartInventory true false,
    s .one 15 "System" "Windows Update Status" 3
      .safe .check .windowsUpdateStatus true false,
    s .one 16 "Network" "RSS Baseline" 1
      .safe .network .rssBaseline false true,
    s .one 17 "Benchmark" "Baseline Benchmark" 1
      .safe .check .baselineBenchmark true false,
    s .one 18 "GPU" "GPU Driver Clean (prep)" 1
      .safe .check .gpuDriverCleanPreparation true false,
    s .one 19 "GPU" "NVIDIA Driver Download" 1
      .safe .check .nvidiaDriverDownloadPreparation true false,
    s .one 20 "GPU" "NVIDIA Profile (prep)" 3
      .safe .check .nvidiaProfilePreparation true false,
    s .one 21 "Hardware" "MSI Interrupts (prep)" 2
      .safe .check .msiPreparation true false,
    s .one 22 "Network" "NIC Interrupt Affinity (prep)" 3
      .safe .check .nicAffinityPreparation true false,
    s .one 23 "System" "Fast Startup Check" 2
      .safe .check .fastStartupGuidance true false,
    s .one 24 "Hardware" "Dual-Channel RAM" 1
      .safe .check .memoryTopology true false,
    s .one 25 "Network" "TCP Defaults Check" 2
      .safe .check .tcpDefaultsGuidance true false,
    s .one 26 "Display" "Fullscreen Presentation Defaults" 2
      .safe .check .fullscreenPresentationGuidance true false,
    s .one 27 "System" "Scheduler Defaults" 2
      .safe .check .multimediaDefaultsGuidance true false,
    s .one 28 "System" "Timer Defaults" 2
      .safe .check .timerRequestGuidance true false,
    s .one 29 "Input" "Pointer Preference Check" 2
      .safe .check .pointerPreferenceGuidance true false,
    s .one 30 "GPU" "CS2 GPU Preference" 2
      .moderate .registry .cs2HighPerformanceGpu false false,
    s .one 31 "System" "Capture Feature Check" 2
      .safe .check .gameDvrGuidance true false,
    s .one 32 "System" "Overlay Conflict Check" 2
      .safe .check .overlayGuidance true false,
    s .one 33 "Audio" "Audio Path Check" 2
      .safe .check .audioStackGuidance true false,
    s .one 34 "CS2" "optimization.cfg (fps_max only)" 2
      .moderate .app .cs2Configuration false false,
    s .one 35 "System" "Chipset Driver Check" 2
      .safe .check .chipsetDriverInventory true false,
    s .one 36 "Display" "Visual Effects + Auto HDR Check" 3
      .safe .check .visualEffectsGuidance true false,
    s .one 37 "System" "Service Status Check" 3
      .safe .check .windowsServicesGuidance true false,
    s .one 38 "System" "Driver Repair: Activate Safe Mode" 3
      .critical .boot .safeModeHandoff false true,
    s .two 1 "Boot" "Disable Safe Mode" 1
      .moderate .boot .clearSafeBoot false true,
    s .two 2 "GPU" "GPU Driver Clean Removal" 1
      .critical .driver .nvidiaDriverRemoval false true,
    s .two 3 "System" "Register Phase 3 for next boot" 1
      .moderate .registry .phaseThreeHandoff false true,
    s .three 1 "GPU" "Install NVIDIA Driver" 1
      .moderate .driver .nvidiaDriverInstall false true,
    s .three 2 "GPU" "MSI Interrupt Guidance" 2
      .safe .check .msiInterrupts true false,
    s .three 3 "Network" "NIC Interrupt-Affinity Guidance" 3
      .safe .check .nicInterruptAffinity true false,
    s .three 4 "GPU" "NVIDIA DRS Profile" 3
      .safe .driver .nvidiaProfileApply false false,
    s .three 5 "CS2" "FPS Cap Info" 1
      .safe .check .fpsCapInfo true false,
    s .three 6 "CS2" "Launch Options + Video Guidance" 2
      .safe .app .cs2LaunchVideoGuidance true false,
    s .three 7 "Security" "VBS / Core Isolation Check" 2
      .safe .check .vbsHvciGuidance true false,
    s .three 8 "GPU" "AMD GPU Settings" 2
      .safe .check .amdRadeonGuidance true false,
    s .three 9 "Network" "DNS Resolver Check" 3
      .safe .check .dnsGuidance true false,
    s .three 10 "CPU" "Process Priority Defaults" 3
      .safe .check .processPriorityGuidance true false,
    s .three 11 "System" "VRAM Usage Review" 2
      .safe .check .vramUsageGuidance true false,
    s .three 12 "System" "Final Checklist" 1
      .safe .check .finalChecklistGuidance true false,
    s .three 13 "Benchmark" "Final Benchmark + FPS Strategy" 1
      .safe .check .finalBenchmark true false
  ]

/-- `step_by_id`. -/
def stepById (id : StepId) : Option Step :=
  stepCatalog.find? fun step => step.id = id

/-- The catalog lists each step once. -/
theorem stepCatalog_nodup : (stepCatalog.map (·.id)).Nodup := by decide

/-- `steps_for_phase_and_role`. -/
def stepsForPhaseAndRole (phase : Phase) (role : OrchestrationRole) : List Step :=
  stepCatalog.filter fun step =>
    step.id.phase = phase && step.orchestrationRole = role

/-! ## The profile policy -/

inductive Profile where
  | safe
  | recommended
  | competitive
  | custom
  | yolo
  deriving DecidableEq, Repr

inductive Decision where
  | auto
  | prompt
  | skip
  deriving DecidableEq, Repr

/-- `Profile::maximum_risk`. -/
def Profile.maximumRisk : Profile → Risk
  | .safe => .safe
  | .recommended => .moderate
  | .competitive | .yolo => .aggressive
  | .custom => .critical

/-- `Profile::decision`.  Tier 1 bypasses the risk ceiling. -/
def Profile.decision (profile : Profile) (tier : Nat) (risk : Risk) : Decision :=
  if tier = 1 then
    match profile with
    | .custom => .prompt
    | _ => .auto
  else if risk.rank > profile.maximumRisk.rank then .skip
  else
    match profile with
    | .safe => if tier = 2 && risk = .safe then .auto else .skip
    | .recommended => if tier = 2 then .prompt else .skip
    | .competitive => .prompt
    | .custom => .prompt
    | .yolo => .auto

/-- Only the custom profile asks about a tier 1 step. -/
theorem Profile.decision_tier_one {profile : Profile} (h : profile ≠ .custom)
    (risk : Risk) : profile.decision 1 risk = .auto := by
  cases profile with
  | custom => exact absurd rfl h
  | safe => rfl
  | recommended => rfl
  | competitive => rfl
  | yolo => rfl

end FrametimeCfg.Domain
