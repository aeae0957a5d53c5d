import FrametimeCfg.Domain.Backup
import FrametimeCfg.Lib.Checks
import FrametimeCfg.Lib.FileCalls
import FrametimeCfg.Lib.Text
import Mathlib.Data.Finset.Basic

/-!
# The CFG files of the game

The controller writes a closed set of files under the `cfg` directory of one
install: the generated `optimization.cfg`, on request a line in `autoexec.cfg`,
and the selected embedded assets.  The first two keep a sidecar of what they
replace.  Every write is read back.

Paths are lists of components.  The bytes of the embedded assets are data of the
program and enter as `CfgAssets`.
-/

namespace FrametimeCfg.Domain

open FrametimeCfg.Lib.Checks
open FrametimeCfg.Lib.Effect
open FrametimeCfg.Lib.FileCalls
open FrametimeCfg.Lib.Text

/-! ## Generated text -/

def OPTIMIZATION_TEMPLATE : String := "fps_max 400\n"

def AUTOEXEC_LINE : String := "exec optimization.cfg"

/-- `render_optimization_cfg_at`.  The template ends with a line feed. -/
def renderOptimizationCfgAt (timestamp : String) : String :=
  "// frametime.cfg - optimization.cfg\n" ++
  "// Generated: " ++ timestamp ++ "\n" ++
  "// Optional autoexec bootstrap; command order can vary with other configs.\n" ++
  "// Prove the active cfg with a temporary sentinel before relying on it.\n" ++
  "// Keep personal settings in your own autoexec or separate cfg.\n" ++
  "//\n" ++
  "// Optional standalone CFGs (also in game\\csgo\\cfg\\, use from console as needed):\n" ++
  "//   exec net_stable     - buffering None / reset\n" ++
  "//   exec net_highping   - buffering None; high RTT cannot be buffered away\n" ++
  "//   exec net_unstable   - 1 Packet trial for measured jitter/misses\n" ++
  "//   exec net_bad        - 2 Packets only when misses persist at 1\n" ++
  "//   exec debug_hud      - temporary telemetry and network diagnostics\n" ++
  "//   exec debug_hud_off  - restore normal conditional telemetry\n" ++
  "//   exec frame_baseline_400 - restore the configured 400 FPS baseline\n" ++
  "//   exec frame_raw_uncapped - raw-latency branch; run before connecting\n" ++
  "//   exec audio_stable   - restore Natural EQ and automatic audio\n" ++
  "//   exec audio_eq_crisp - optional mid/high emphasis\n" ++
  "//   exec audio_eq_smooth - optional reduced mid/high energy\n" ++
  "//   exec audio_legacy_lr_isolation - legacy hard L/R trial\n" ++
  "//   exec audio_lowlatency_025 - manual larger-buffer compatibility test\n" ++
  "//   exec audio_lowlatency_001 - compatibility alias for current defaults\n\n" ++
  OPTIMIZATION_TEMPLATE

/-- `is_optimization_exec`: the line without its comment. -/
def isOptimizationExec (line : List Char) : Bool :=
  let command := ((splitOnceText ['/', '/'] line).map (·.1)).getD line
  eqIgnoreAsciiCase (String.ofList (trim command)) AUTOEXEC_LINE

private def isLineEnd (c : Char) : Bool := c = '\r' || c = '\n'

/-- The existing text ends with a blank line. -/
def hasBlankFinalLine (existing : List Char) : Bool :=
  ['\n', '\n'].isSuffixOf existing || ['\r', '\n', '\r', '\n'].isSuffixOf existing ||
    ((FrametimeCfg.Lib.Text.splitAt isLineEnd (trimEndMatches isLineEnd existing)).getLast?.any
      fun line => trim line = [])

/-- `ensure_autoexec_line`. -/
def ensureAutoexecLine (existing : String) : String :=
  if (lines existing.toList).any isOptimizationExec then existing
  else if existing = "" then
    "// Optional frametime.cfg bootstrap. Keep personal CVars in this file.\n" ++
    "// Add a temporary sentinel to prove CS2 executed the line; this does not " ++
    "guarantee precedence.\n\n" ++ AUTOEXEC_LINE ++ "\n"
  else
    existing ++ (if ['\n'].isSuffixOf existing.toList then "" else "\n") ++
      (if hasBlankFinalLine existing.toList then "" else "\n") ++ AUTOEXEC_LINE ++ "\n"

/-! ## Assets and targets -/

inductive OptionalCfgAsset where
  | netStable
  | netHighPing
  | netUnstable
  | netBad
  | debugHud
  | debugHudOff
  | audioStable
  | audioLowLatency025
  | audioLowLatency001
  | frameBaseline400
  | frameRawUncapped
  | audioEqCrisp
  | audioEqSmooth
  | audioLegacyLrIsolation
  | competitive2026
  deriving DecidableEq, Repr

/-- The embedded bytes of each asset. -/
abbrev CfgAssets := OptionalCfgAsset → Bytes

/-- `OptionalCfgAsset::ALL`, in the order of the enumeration. -/
def OptionalCfgAsset.all : List OptionalCfgAsset :=
  [.netStable, .netHighPing, .netUnstable, .netBad, .debugHud, .debugHudOff,
    .audioStable, .audioLowLatency025, .audioLowLatency001, .frameBaseline400,
    .frameRawUncapped, .audioEqCrisp, .audioEqSmooth, .audioLegacyLrIsolation,
    .competitive2026]

/-- `OptionalCfgAsset::file_name`. -/
def OptionalCfgAsset.fileName : OptionalCfgAsset → String
  | .netStable => "net_stable.cfg"
  | .netHighPing => "net_highping.cfg"
  | .netUnstable => "net_unstable.cfg"
  | .netBad => "net_bad.cfg"
  | .debugHud => "debug_hud.cfg"
  | .debugHudOff => "debug_hud_off.cfg"
  | .audioStable => "audio_stable.cfg"
  | .audioLowLatency025 => "audio_lowlatency_025.cfg"
  | .audioLowLatency001 => "audio_lowlatency_001.cfg"
  | .frameBaseline400 => "frame_baseline_400.cfg"
  | .frameRawUncapped => "frame_raw_uncapped.cfg"
  | .audioEqCrisp => "audio_eq_crisp.cfg"
  | .audioEqSmooth => "audio_eq_smooth.cfg"
  | .audioLegacyLrIsolation => "audio_legacy_lr_isolation.cfg"
  | .competitive2026 => "competitive_2026.cfg"

/-- A `BTreeSet` of assets is walked in the order of the enumeration. -/
def assetOrder (assets : Finset OptionalCfgAsset) : List OptionalCfgAsset :=
  OptionalCfgAsset.all.filter (· ∈ assets)

/-- `Cs2ConfigTarget::from_optional_asset`. -/
def Cs2ConfigTarget.fromOptionalAsset : OptionalCfgAsset → Cs2ConfigTarget
  | .netStable => .netStable
  | .netHighPing => .netHighPing
  | .netUnstable => .netUnstable
  | .netBad => .netBad
  | .debugHud => .debugHud
  | .debugHudOff => .debugHudOff
  | .audioStable => .audioStable
  | .audioLowLatency025 => .audioLowLatency025
  | .audioLowLatency001 => .audioLowLatency001
  | .frameBaseline400 => .frameBaseline400
  | .frameRawUncapped => .frameRawUncapped
  | .audioEqCrisp => .audioEqCrisp
  | .audioEqSmooth => .audioEqSmooth
  | .audioLegacyLrIsolation => .audioLegacyLrIsolation
  | .competitive2026 => .competitive2026

/-- `Cs2ConfigTarget::optional_asset`. -/
def Cs2ConfigTarget.optionalAsset : Cs2ConfigTarget → Option OptionalCfgAsset
  | .optimization | .autoexec => none
  | .netStable => some .netStable
  | .netHighPing => some .netHighPing
  | .netUnstable => some .netUnstable
  | .netBad => some .netBad
  | .debugHud => some .debugHud
  | .debugHudOff => some .debugHudOff
  | .audioStable => some .audioStable
  | .audioLowLatency025 => some .audioLowLatency025
  | .audioLowLatency001 => some .audioLowLatency001
  | .frameBaseline400 => some .frameBaseline400
  | .frameRawUncapped => some .frameRawUncapped
  | .audioEqCrisp => some .audioEqCrisp
  | .audioEqSmooth => some .audioEqSmooth
  | .audioLegacyLrIsolation => some .audioLegacyLrIsolation
  | .competitive2026 => some .competitive2026

/-- `valid_timestamp`: `yyyy-mm-dd hh:mm`. -/
def validTimestamp (value : String) : Bool :=
  byteLen value = 16 && value.toList.zipIdx.all fun (c, index) =>
    ((index = 4 || index = 7) && c = '-') || (index = 10 && c = ' ') ||
      (index = 13 && c = ':') ||
      (c.isDigit && ¬ (index = 4 || index = 7 || index = 10 || index = 13))

structure Cs2ConfigRequest where
  generatedAt : String
  optionalAssets : Finset OptionalCfgAsset
  bootstrapAutoexec : Bool
  timed : validTimestamp generatedAt = true

/-- `Cs2ConfigTarget::for_request`: the write set in its order. -/
def Cs2ConfigTarget.forRequest (request : Cs2ConfigRequest) : List Cs2ConfigTarget :=
  .optimization :: (if request.bootstrapAutoexec then [.autoexec] else []) ++
    (assetOrder request.optionalAssets).map .fromOptionalAsset

/-- `Cs2ConfigTarget::for_optional_assets`. -/
def Cs2ConfigTarget.forOptionalAssets (assets : Finset OptionalCfgAsset) :
    List Cs2ConfigTarget :=
  (assetOrder assets).map .fromOptionalAsset

/-! ## The install and its paths -/

/-- `std::path::Component`. -/
inductive Component where
  | device (name : String)
  | rootDir
  | curDir
  | parentDir
  | normal (name : String)
  deriving DecidableEq, Repr

abbrev FilePath := List Component

/-- `Path::join` with a relative path of plain names. -/
def joinNames (path : FilePath) (names : List String) : FilePath :=
  path ++ names.map .normal

/-- `Path::parent`. -/
def parentPath (path : FilePath) : Option FilePath :=
  match path.getLast? with
  | some (.normal _) | some .curDir | some .parentDir => some path.dropLast
  | _ => none

structure Cs2Install where
  steamRoot : FilePath
  libraryRoot : FilePath
  installRoot : FilePath
  deriving DecidableEq, Repr

def CS2_DIRECTORY : String := "Counter-Strike Global Offensive"

inductive Cs2ConfigError where
  | invalidBinding
  | emptyOptionalSelection
  | preconditionMismatch (path : FilePath)
  | untrustedPath (path : FilePath)
  | autoexecNotUtf8
  | io (source : ErrorKind)
  | mutation (stage : String) (recovery : Option FilePath) (source : ErrorKind)
  | readbackMismatch (target : FilePath) (recovery : Option FilePath)
  deriving DecidableEq, Repr

/-- The layout that Steam gives the install. -/
def Cs2Install.expectedRoot (install : Cs2Install) : FilePath :=
  joinNames install.libraryRoot ["steamapps", "common", CS2_DIRECTORY]

/-- `validate_install`. -/
def validateInstall (install : Cs2Install) : Except Cs2ConfigError Unit :=
  reject (install.installRoot ≠ install.expectedRoot) .invalidBinding

/-- `assert_existing_path_safe`: plain names below the root. -/
def assertExistingPathSafe (root candidate : FilePath) : Except Cs2ConfigError Unit :=
  match if root.isPrefixOf candidate then some (candidate.drop root.length) else none with
  | none => .error (.untrustedPath candidate)
  | some relative =>
      reject (relative = [] || relative.any fun
        | .normal _ => false
        | _ => true) (.untrustedPath candidate)

/-- `ensure_safe_target`. -/
def ensureSafeTarget (root target : FilePath) : Except Cs2ConfigError Unit :=
  assertExistingPathSafe root target

structure Cs2Paths where
  cfgDirectory : FilePath
  optimizationPath : FilePath
  optimizationBackupPath : FilePath
  autoexecPath : FilePath
  autoexecBackupPath : FilePath

structure CfgAssetDeployment where
  asset : OptionalCfgAsset
  target : FilePath
  bytes : Bytes

/-- `Cs2Paths::deployments_for_assets`. -/
def Cs2Paths.deploymentsForAssets (paths : Cs2Paths) (bytes : CfgAssets)
    (assets : Finset OptionalCfgAsset) : List CfgAssetDeployment :=
  (assetOrder assets).map fun asset =>
    { asset := asset, target := joinNames paths.cfgDirectory [asset.fileName],
      bytes := bytes asset }

/-! ## Reads and writes -/

/-- A program of the controller. -/
abbrev CfgProg := Prog (Files FilePath) Cs2ConfigError

/-- `ensure_cfg_directory`. -/
def ensureCfgDirectory (root path : FilePath) : CfgProg Unit := do
  relabel .io touch
  ofExcept (assertExistingPathSafe root path)

/-- `read_optional`. -/
def readOptional (path : FilePath) : CfgProg (Option Bytes) := do
  match ← attempt (readFile path) with
  | .ok bytes => pure (some bytes)
  | .error .notFound => pure none
  | .error kind => raise (.io kind)

/-- `write_and_verify`. -/
def writeAndVerify (path : FilePath) (expected : Bytes) (stage : String)
    (recovery : Option FilePath) : CfgProg Unit := do
  relabel (.mutation stage recovery) (atomicReplace path expected)
  let actual ← relabel (.mutation "written CFG readback" recovery) (readFile path)
  ofExcept (reject (actual ≠ expected) (.readbackMismatch path recovery))

/-- `verify_bytes`. -/
def verifyBytes (path : FilePath) (expected : Bytes) : CfgProg Unit := do
  let actual ← relabel .io (readFile path)
  ofExcept (reject (actual ≠ expected) (.readbackMismatch path none))

/-- `bytes_as_autoexec`. -/
def bytesAsAutoexec (bytes : Bytes) : Except Cs2ConfigError String :=
  okOr (fromUtf8 bytes) .autoexecNotUtf8

/-- The sidecar of a file that is about to be replaced. -/
inductive SidecarBackup where
  | created (path : FilePath)
  | retained (path : FilePath)
  | notNeeded
  deriving DecidableEq, Repr

/-- A sidecar that exists is kept as it is. -/
def createSidecar (stage : String) (path : FilePath) (original : Bytes) :
    CfgProg SidecarBackup := do
  match ← attempt (createFileNew path original) with
  | .ok () =>
      let readback ← relabel (.mutation (stage ++ " readback") none) (readFile path)
      ofExcept (reject (readback ≠ original) (.readbackMismatch path none))
      pure (.created path)
  | .error .alreadyExists => pure (.retained path)
  | .error kind => raise (.mutation stage none kind)

/-- `create_optimization_backup`. -/
def createOptimizationBackup (path : FilePath) (original : Option Bytes) :
    CfgProg SidecarBackup :=
  match original with
  | none => pure .notNeeded
  | some original => createSidecar "optimization.cfg backup" path original

/-- `backup_path`. -/
def backupPath : SidecarBackup → Option FilePath
  | .created path | .retained path => some path
  | .notNeeded => none

/-- `create_autoexec_backup`. -/
def createAutoexecBackup (path : FilePath) (original : Option Bytes)
    (autoexecUpdated : Bool) : CfgProg SidecarBackup :=
  if ¬ autoexecUpdated then pure .notNeeded
  else
    match original with
    | none => pure .notNeeded
    | some original => createSidecar "autoexec.cfg backup" path original

/-! ## The controller -/

/-- A controller is bound to an install with the expected layout. -/
structure Cs2ConfigController where
  install : Cs2Install
  bound : validateInstall install = .ok ()

/-- What an apply reports. -/
structure Cs2ConfigWriteReport where
  optimizationPath : FilePath
  autoexecPath : Option FilePath
  optimizationBackup : SidecarBackup
  autoexecBackup : SidecarBackup
  autoexecUpdated : Bool
  optionalAssetsWritten : List FilePath
  deriving DecidableEq, Repr

/-- What a preview tells of an apply. -/
structure Cs2ConfigPreview where
  cfgDirectory : FilePath
  optimizationPath : FilePath
  autoexecPath : Option FilePath
  autoexecBackupPath : Option FilePath
  optimizationBytes : Bytes
  autoexecWouldChange : Bool
  optionalAssets : List CfgAssetDeployment

namespace Cs2ConfigController

/-- `Cs2ConfigController::new`. -/
def new (install : Cs2Install) : Except Cs2ConfigError Cs2ConfigController :=
  match h : validateInstall install with
  | .ok () => .ok { install := install, bound := h }
  | .error e => .error e

/-- `Cs2ConfigController::paths`. -/
def paths (controller : Cs2ConfigController) : Except Cs2ConfigError Cs2Paths := do
  validateInstall controller.install
  let root := controller.install.installRoot
  let cfgParent := joinNames root ["game", "csgo"]
  assertExistingPathSafe root cfgParent
  let cfgDirectory := joinNames cfgParent ["cfg"]
  assertExistingPathSafe root cfgDirectory
  return {
    cfgDirectory := cfgDirectory
    optimizationPath := joinNames cfgDirectory ["optimization.cfg"]
    optimizationBackupPath := joinNames cfgDirectory ["optimization.cfg.bak"]
    autoexecPath := joinNames cfgDirectory ["autoexec.cfg"]
    autoexecBackupPath := joinNames cfgDirectory ["autoexec.cfg.bak"] }

/-- The path checks before the first read of `apply`. -/
def applyPathsSafe (paths : Cs2Paths) (request : Cs2ConfigRequest)
    (optional : List CfgAssetDeployment) : Except Cs2ConfigError Unit := do
  ensureSafeTarget paths.cfgDirectory paths.optimizationPath
  ensureSafeTarget paths.cfgDirectory paths.optimizationBackupPath
  let autoexec := if request.bootstrapAutoexec then
    [paths.autoexecPath, paths.autoexecBackupPath] else []
  autoexec.forM (ensureSafeTarget paths.cfgDirectory)
  optional.forM fun deployment => ensureSafeTarget paths.cfgDirectory deployment.target

/-- The autoexec bytes that `apply` replaces. -/
def readAutoexec (paths : Cs2Paths) (request : Cs2ConfigRequest) :
    CfgProg (Option Bytes) :=
  if request.bootstrapAutoexec then readOptional paths.autoexecPath else pure none

/-- The text of the autoexec bytes, where there are any. -/
def autoexecText : Option Bytes → Except Cs2ConfigError (Option String)
  | none => .ok none
  | some bytes => (bytesAsAutoexec bytes).map some

/-- The autoexec bytes that a request wants. -/
def expectedAutoexec (request : Cs2ConfigRequest) (before : Option String) : Option Bytes :=
  if request.bootstrapAutoexec then some (utf8 (ensureAutoexecLine (before.getD ""))) else none

/-- The wanted autoexec bytes are not those that are there. -/
def autoexecChanges (expected : Option Bytes) (before : Option String) : Bool :=
  expected.any fun bytes => before.all fun text => utf8 text ≠ bytes

/-- The write of autoexec, where the bytes change. -/
def writeAutoexec (paths : Cs2Paths) (expected : Option Bytes) (updated : Bool)
    (recovery : Option FilePath) : CfgProg Unit :=
  match expected.filter fun _ => updated with
  | none => pure ()
  | some bytes =>
      writeAndVerify paths.autoexecPath bytes "autoexec.cfg replacement" recovery

/-- The sidecar of autoexec, where the request bootstraps it. -/
def backupAutoexec (paths : Cs2Paths) (request : Cs2ConfigRequest)
    (original : Option Bytes) (updated : Bool) : CfgProg SidecarBackup :=
  if request.bootstrapAutoexec then
    createAutoexecBackup paths.autoexecBackupPath original updated
  else pure .notNeeded

/-- `Cs2ConfigController::apply`. -/
def apply (controller : Cs2ConfigController) (bytes : CfgAssets)
    (request : Cs2ConfigRequest) : CfgProg Cs2ConfigWriteReport := do
  let paths ← ofExcept controller.paths
  ensureCfgDirectory controller.install.installRoot paths.cfgDirectory
  let optional := paths.deploymentsForAssets bytes request.optionalAssets
  ofExcept (applyPathsSafe paths request optional)
  let originalOptimization ← readOptional paths.optimizationPath
  let autoexecOriginal ← readAutoexec paths request
  let autoexecBefore ← ofExcept (autoexecText autoexecOriginal)
  let expected := expectedAutoexec request autoexecBefore
  let updated := autoexecChanges expected autoexecBefore
  let backup ← createOptimizationBackup paths.optimizationBackupPath originalOptimization
  let recovery := backupPath backup
  writeAndVerify paths.optimizationPath (utf8 (renderOptimizationCfgAt request.generatedAt))
    "optimization.cfg replacement" recovery
  let autoexecBackup ← backupAutoexec paths request autoexecOriginal updated
  writeAutoexec paths expected updated recovery
  forEach (fun deployment => writeAndVerify deployment.target deployment.bytes
    "optional CFG replacement" recovery) optional
  return {
    optimizationPath := paths.optimizationPath
    autoexecPath := if request.bootstrapAutoexec then some paths.autoexecPath else none
    optimizationBackup := backup
    autoexecBackup := autoexecBackup
    autoexecUpdated := updated
    optionalAssetsWritten := optional.map (·.target) }

/-- `Cs2ConfigController::preview`.  A missing autoexec counts as an empty one. -/
def preview (controller : Cs2ConfigController) (bytes : CfgAssets)
    (request : Cs2ConfigRequest) : CfgProg Cs2ConfigPreview := do
  let paths ← ofExcept controller.paths
  let optional := paths.deploymentsForAssets bytes request.optionalAssets
  ofExcept (applyPathsSafe paths request optional)
  let autoexecOriginal ← readAutoexec paths request
  let existing ← ofExcept (autoexecText autoexecOriginal)
  return {
    cfgDirectory := paths.cfgDirectory
    optimizationPath := paths.optimizationPath
    autoexecPath := if request.bootstrapAutoexec then some paths.autoexecPath else none
    autoexecBackupPath :=
      if request.bootstrapAutoexec then some paths.autoexecBackupPath else none
    optimizationBytes := utf8 (renderOptimizationCfgAt request.generatedAt)
    autoexecWouldChange := request.bootstrapAutoexec &&
      ensureAutoexecLine (existing.getD "") ≠ existing.getD ""
    optionalAssets := optional }

/-- The autoexec of a request has its line.  A missing one has not. -/
def verifyAutoexec (paths : Cs2Paths) (request : Cs2ConfigRequest) : CfgProg Unit :=
  if request.bootstrapAutoexec then do
    let autoexec ← relabel .io (readFile paths.autoexecPath)
    let text ← ofExcept (bytesAsAutoexec autoexec)
    ofExcept (reject (ensureAutoexecLine text ≠ text)
      (.readbackMismatch paths.autoexecPath none))
  else pure ()

/-- One deployment of `verify`. -/
def verifyDeployment (paths : Cs2Paths) (deployment : CfgAssetDeployment) : CfgProg Unit := do
  ofExcept (ensureSafeTarget paths.cfgDirectory deployment.target)
  verifyBytes deployment.target deployment.bytes

/-- `Cs2ConfigController::verify`. -/
def verify (controller : Cs2ConfigController) (bytes : CfgAssets)
    (request : Cs2ConfigRequest) : CfgProg Unit := do
  let paths ← ofExcept controller.paths
  ofExcept (ensureSafeTarget paths.cfgDirectory paths.optimizationPath)
  let autoexec := if request.bootstrapAutoexec then
    [paths.autoexecPath, paths.autoexecBackupPath] else []
  ofExcept (autoexec.forM (ensureSafeTarget paths.cfgDirectory))
  verifyBytes paths.optimizationPath (utf8 (renderOptimizationCfgAt request.generatedAt))
  verifyAutoexec paths request
  forEach (verifyDeployment paths) (paths.deploymentsForAssets bytes request.optionalAssets)

/-- One deployment of `apply_optional_assets_if_unchanged`. -/
def deployIfUnchanged (paths : Cs2Paths)
    (item : CfgAssetDeployment × Cs2ConfigTarget × Option Bytes) : CfgProg Unit := do
  let (deployment, _, original) := item
  ofExcept (ensureSafeTarget paths.cfgDirectory deployment.target)
  let current ← readOptional deployment.target
  ofExcept (reject (current ≠ original) (.preconditionMismatch deployment.target))
  writeAndVerify deployment.target deployment.bytes "optional CFG replacement" none

/-- `Cs2ConfigController::apply_optional_assets_if_unchanged`. -/
def applyOptionalAssetsIfUnchanged (controller : Cs2ConfigController) (bytes : CfgAssets)
    (assets : Finset OptionalCfgAsset) (snapshots : List (Cs2ConfigTarget × Option Bytes)) :
    CfgProg (List FilePath) := do
  ofExcept (reject (assets = ∅) .emptyOptionalSelection)
  let paths ← ofExcept controller.paths
  ensureCfgDirectory controller.install.installRoot paths.cfgDirectory
  let deployments := paths.deploymentsForAssets bytes assets
  ofExcept (reject (deployments.length ≠ snapshots.length ||
    deployments.map (.fromOptionalAsset ·.asset) ≠ snapshots.map (·.1)) .invalidBinding)
  forEach (deployIfUnchanged paths) (deployments.zip snapshots)
  return deployments.map (·.target)

/-- `Cs2ConfigController::verify_optional_assets`. -/
def verifyOptionalAssets (controller : Cs2ConfigController) (bytes : CfgAssets)
    (assets : Finset OptionalCfgAsset) : CfgProg Unit := do
  ofExcept (reject (assets = ∅) .emptyOptionalSelection)
  let paths ← ofExcept controller.paths
  forEach (fun deployment => do
    ofExcept (ensureSafeTarget paths.cfgDirectory deployment.target)
    verifyBytes deployment.target deployment.bytes) (paths.deploymentsForAssets bytes assets)

/-! ## Restoring -/

/-- The paths of `targets`, each of them checked. -/
def boundTargets (controller : Cs2ConfigController) (targets : List Cs2ConfigTarget) :
    Except Cs2ConfigError (List (Cs2ConfigTarget × FilePath)) := do
  let paths ← controller.paths
  let bound := targets.map fun target =>
    (target, joinNames paths.cfgDirectory [target.fileName])
  bound.forM fun item => ensureSafeTarget paths.cfgDirectory item.2
  return bound

/-- `Cs2ConfigController::backup_targets`. -/
def backupTargets (controller : Cs2ConfigController) (request : Cs2ConfigRequest) :
    Except Cs2ConfigError (List (Cs2ConfigTarget × FilePath)) :=
  controller.boundTargets (Cs2ConfigTarget.forRequest request)

/-- `Cs2ConfigController::backup_optional_targets`. -/
def backupOptionalTargets (controller : Cs2ConfigController)
    (assets : Finset OptionalCfgAsset) :
    Except Cs2ConfigError (List (Cs2ConfigTarget × FilePath)) := do
  reject (assets = ∅) .emptyOptionalSelection
  controller.boundTargets (Cs2ConfigTarget.forOptionalAssets assets)

/-- A file that is missing already counts as deleted. -/
def deleteTarget (path : FilePath) : CfgProg Unit := do
  match ← attempt (removeFile path) with
  | .ok () | .error .notFound => pure ()
  | .error kind => raise (.mutation "CS2 CFG restore deletion" none kind)

/-- The deletion of a target that was absent, and its readback. -/
def removeTarget (path : FilePath) : CfgProg Unit := do
  deleteTarget path
  let readback ← readOptional path
  ofExcept (reject readback.isSome (.readbackMismatch path none))

/-- One target of `restore_targets`. -/
def restoreTarget (item : (Cs2ConfigTarget × FilePath) × Cs2ConfigTarget × Option Bytes) :
    CfgProg Unit := do
  let ((_, path), _, original) := item
  let root ← ofExcept (okOr (parentPath path) (.untrustedPath path))
  ofExcept (ensureSafeTarget root path)
  match original with
  | some bytes => writeAndVerify path bytes "CS2 CFG restore replacement" none
  | none => removeTarget path

/-- `Cs2ConfigController::restore_targets`. -/
def restoreTargets (targets : List (Cs2ConfigTarget × FilePath))
    (snapshots : List (Cs2ConfigTarget × Option Bytes)) : CfgProg Unit := do
  ofExcept (reject (targets.length ≠ snapshots.length ||
    targets.map (·.1) ≠ snapshots.map (·.1)) .invalidBinding)
  forEach restoreTarget (targets.zip snapshots)

/-- `Cs2ConfigController::restore`. -/
def restore (controller : Cs2ConfigController) (request : Cs2ConfigRequest)
    (snapshots : List (Cs2ConfigTarget × Option Bytes)) : CfgProg Unit := do
  let targets ← ofExcept (controller.backupTargets request)
  restoreTargets targets snapshots

/-- `Cs2ConfigController::restore_optional_assets`. -/
def restoreOptionalAssets (controller : Cs2ConfigController)
    (assets : Finset OptionalCfgAsset)
    (snapshots : List (Cs2ConfigTarget × Option Bytes)) : CfgProg Unit := do
  let targets ← ofExcept (controller.backupOptionalTargets assets)
  restoreTargets targets snapshots

end Cs2ConfigController

end FrametimeCfg.Domain
