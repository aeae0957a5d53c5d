import FrametimeCfg.Domain.Backup
import FrametimeCfg.Domain.Engine
import FrametimeCfg.Domain.Operations
import FrametimeCfg.Domain.State
import FrametimeCfg.Windows.ActionCatalog
import FrametimeCfg.Windows.Store

/-!
# Observations

What the check-only steps compare: the configuration and the state, the display
adapters, the frame-rate cap and the receipts of HAGS.  Each inspection is a function of
what was read, and each verification repeats the inspection on a later reading.
-/

namespace FrametimeCfg.Windows

open FrametimeCfg.Domain
open FrametimeCfg.Lib.Checks
open FrametimeCfg.Lib.Text

/-! ## Configuration and state -/

/-- `inspect_config_state`. -/
def inspectConfigState (config : Option Config) (state : State) :
    Except String Inspection := do
  let config ← okOr config "validated frametime.toml is unavailable"
  config.validate.mapError fun error => "invalid config: " ++ error.message
  state.validate
  reject (!eqIgnoreAsciiCase state.workDir WINDOWS_WORK_DIR)
    "state workDir must be C:\\FRAMETIME_CFG"
  return .satisfied

/-- `verify_config_state`. -/
def verifyConfigState (config : Option Config) (state : State) : Except String Unit := do
  match ← inspectConfigState config state with
  | .satisfied => return ()
  | .advisory _ => .error "configuration observation is advisory and unverified"
  | _ => .error "configuration/state observation was not satisfied"

/-! ## Display adapters -/

structure HardwareInfo where
  displayAdapters : List String := []
  gpuBranch : Option GpuBranch := none
  deriving DecidableEq

/-- The branch that the names of the display adapters tell. -/
def branchOfAdapters (displayAdapters : List String) : Option GpuBranch :=
  let joined := asciiLower (" ".intercalate displayAdapters)
  let names := fun (pattern : String) => decide (pattern.toList <:+: joined.toList)
  if names "nvidia" then some .nvidia
  else if names "amd" || names "radeon" then some .amd
  else if names "intel" || names "arc" then some .intelArc
  else none

/-- `discover_hardware`, of what `pnputil` printed. -/
def hardwareOfListing (output : String) : HardwareInfo :=
  let displayAdapters := (lines output.toList).filterMap fun line =>
    (stripPrefix "Device Description:".toList line).map fun value =>
      String.ofList (trim value)
  { displayAdapters := displayAdapters, gpuBranch := branchOfAdapters displayAdapters }

/-- The command of `discover_hardware`. -/
def DISPLAY_LISTING : CommandVector where
  command := .pnputil
  arguments := ["/enum-devices", "/class", "Display"]

/-- `inspect_gpu_inventory`. -/
def inspectGpuInventory (hardware : HardwareInfo) : Except String Inspection := do
  reject hardware.displayAdapters.isEmpty "native display-adapter inventory is empty"
  return .satisfied

/-- `verify_gpu_inventory`. -/
def verifyGpuInventory (captured observed : HardwareInfo) : Except String Unit := do
  let _ ← inspectGpuInventory captured
  let _ ← inspectGpuInventory observed
  reject (observed ≠ captured) "display-adapter inventory changed after inspection"

/-! ## The frame-rate cap -/

/-- The capture that the cap was measured with. -/
def fpsCapCapture (state : State) : BenchmarkCapture :=
  match state.finalBenchmark with
  | none => { averageFps := state.avgFps, p1Fps := state.p1Fps.getD F64.zero, runs := 1 }
  | some receipt =>
      { averageFps := receipt.avgFps, p1Fps := receipt.p1Fps, runs := receipt.runs }

/-- `inspect_fps_cap_info`. -/
def inspectFpsCapInfo (config : Option Config) (state : State) : Except String Inspection :=
  if state.fpsCap = 0 && F64.feq state.avgFps F64.zero then .ok .satisfied
  else if !state.avgFps.isFinite || F64.fle state.avgFps F64.zero then .ok .unsupported
  else
    match config with
    | none => .ok .unsupported
    | some config =>
        if config.validate ≠ .ok () then .ok .unsupported
        else if measuredFpsCap config.fpsCap.capStrategy (fpsCapCapture state) =
            some state.fpsCap then .ok .satisfied
        else .ok .unsupported

/-- `verify_fps_cap_info`. -/
def verifyFpsCapInfo (config : Option Config) (state : State) : Except String Unit := do
  match ← inspectFpsCapInfo config state with
  | .satisfied => return ()
  | .unsupported => .error "FPS-cap observation is incomplete or inconsistent"
  | .advisory _ => .error "FPS-cap observation is advisory and unverified"
  | .needsApply | .inapplicable =>
      .error "FPS-cap observation returned an invalid verification state"

/-! ## HAGS receipts -/

inductive VerificationStatus where
  | ok
  | changed
  | missing
  | info
  deriving DecidableEq, Repr

structure VerificationItem where
  status : VerificationStatus
  name : String
  detail : String
  deriving DecidableEq

structure HagsAdapterState where
  identity : String
  supported : Bool
  enabled : Bool
  deriving DecidableEq

/-- The fields of a HAGS entry that its verification reads. -/
structure HagsReceipt where
  adapterIds : List String
  effectiveVerificationPending : Bool
  deriving DecidableEq

/-- The status of a pending receipt, and why. -/
def hagsStatus (adapterIds : List String) :
    Except String (List HagsAdapterState) → VerificationStatus × String
  | .ok states =>
      if states.map HagsAdapterState.identity ≠ adapterIds then
        (.changed,
          "P1:7 display-adapter identities changed; retained receipt cannot be cleared")
      else if states.all HagsAdapterState.enabled then
        (.ok, "D3DKMT reports HWSCH Enabled on every captured nonsoftware adapter; receipt " ++
          "remains durable until an explicit acknowledgement transaction is added")
      else
        (.missing, "HwSchMode requested HAGS, but D3DKMT does not yet report HWSCH Enabled on " ++
          "every adapter; reboot and re-run verification")
  | .error error => (.missing, error)

/-- `hags_pending_verification`. -/
def hagsPendingVerification (states : Except String (List HagsAdapterState))
    (receipt : HagsReceipt) : VerificationItem :=
  if !receipt.effectiveVerificationPending then
    { status := .info
      name := "HAGS effective state"
      detail := "the durable HAGS receipt was already acknowledged" }
  else
    { status := (hagsStatus receipt.adapterIds states).1
      name := "HAGS effective state"
      detail := (hagsStatus receipt.adapterIds states).2 }

/-- `require_hags_effective_before_final_checklist`, of the receipts of the backup file. -/
def requireHagsEffective (states : Except String (List HagsAdapterState))
    (receipts : List HagsReceipt) : Except String Unit :=
  reject (!(receipts.map (hagsPendingVerification states)).all fun item => item.status = .ok)
    ("P3:12 requires the retained P1:7 HAGS receipt to report D3DKMT HWSCH Enabled " ++
      "after reboot")

end FrametimeCfg.Windows
