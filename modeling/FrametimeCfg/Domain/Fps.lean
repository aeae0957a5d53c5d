import FrametimeCfg.Domain.Json
import FrametimeCfg.Lib.Checks
import FrametimeCfg.Lib.Text

/-!
# Frame-rate captures and the cap configuration

A benchmark capture is an average and a first-percentile frame rate over a
number of runs.  The configuration names a latency goal, and the goal and the
capture together decide the frame-rate cap: a cap is offered only where the
measured first percentile sustains it.
-/

namespace FrametimeCfg.Domain

open FrametimeCfg.Lib.Checks
open FrametimeCfg.Lib.Text

/-! ## Captures and strategies -/

structure BenchmarkCapture where
  averageFps : F64
  p1Fps : F64
  runs : UInt32
  deriving DecidableEq

/-- The latency goal behind a cap. -/
inductive FpsCapStrategy where
  /-- Permit tearing; `none` is the uncapped path. -/
  | rawLatency (measuredCap : Option UInt32)
  /-- Stay below the display refresh rate. -/
  | vrr (refreshHz ceilingMarginHz : UInt32)
  deriving DecidableEq

/-- `sustainable_cap`. -/
def sustainableCap (cap : UInt32) (capture : BenchmarkCapture) : Option UInt32 :=
  if 0 < cap && capture.averageFps.isFinite &&
      F64.flt F64.zero capture.averageFps && capture.p1Fps.isFinite &&
      F64.fle (F64.ofNat cap.toNat) capture.p1Fps && 5 ≤ capture.runs then
    some cap
  else none

/-- `u32::checked_sub`. -/
def checkedSub (a b : UInt32) : Option UInt32 := if b ≤ a then some (a - b) else none

/-- `measured_fps_cap`. -/
def measuredFpsCap (strategy : FpsCapStrategy) (capture : BenchmarkCapture) :
    Option UInt32 :=
  match strategy with
  | .rawLatency none => some 0
  | .rawLatency (some cap) => sustainableCap cap capture
  | .vrr refreshHz ceilingMarginHz =>
      ((checkedSub refreshHz ceilingMarginHz).filter (0 < ·)).bind
        (sustainableCap · capture)

/-! ## Configuration -/

inductive FpsCapMode where
  | raw
  | vrr
  deriving DecidableEq, Repr

structure FpsCap where
  strategy : FpsCapMode
  /-- Zero is uncapped for the raw strategy. -/
  measuredCap : UInt32 := 0
  /-- Required only by the refresh-rate strategy. -/
  refreshHz : UInt32 := 0
  /-- What is reserved below the display ceiling. -/
  ceilingMarginHz : UInt32 := 3
  deriving DecidableEq

/-- `FpsCap::strategy`. -/
def FpsCap.capStrategy (c : FpsCap) : FpsCapStrategy :=
  match c.strategy with
  | .raw => .rawLatency (if c.measuredCap = 0 then none else some c.measuredCap)
  | .vrr => .vrr c.refreshHz c.ceilingMarginHz

structure RuntimePaths where
  shaderCache : List String
  nvidiaDxCache : String
  nvidiaGlCache : String
  directxShaderCache : String
  deriving DecidableEq

structure Config where
  fpsCap : FpsCap
  paths : RuntimePaths
  autostartRemove : List String := []
  deriving DecidableEq

def NVIDIA_DX_CACHE_TEMPLATE : String := "%LOCALAPPDATA%\\NVIDIA\\DXCache"
def NVIDIA_GL_CACHE_TEMPLATE : String := "%LOCALAPPDATA%\\NVIDIA\\GLCache"
def DIRECTX_SHADER_CACHE_TEMPLATE : String := "%LOCALAPPDATA%\\D3DSCache"

def CS2_SHADER_CACHE_TEMPLATES : List String :=
  ["%ProgramFiles(x86)%\\Steam\\steamapps\\shadercache\\730",
    "%ProgramFiles%\\Steam\\steamapps\\shadercache\\730",
    "D:\\Steam\\steamapps\\shadercache\\730",
    "E:\\Steam\\steamapps\\shadercache\\730",
    "F:\\Steam\\steamapps\\shadercache\\730"]

/-- The errors of `Config::validate`. -/
inductive ConfigError where
  | fpsMeasuredCap
  | fpsVrr
  | cachePath (path : String)
  | shaderCachePath (path : String)
  deriving DecidableEq

def ConfigError.message : ConfigError → String
  | .fpsMeasuredCap =>
      "fps_cap.measured_cap must be zero (uncapped) or between 30 and 1000"
  | .fpsVrr =>
      "VRR requires fps_cap.refresh_hz between 30 and 1000 and ceiling_margin_hz below refresh_hz"
  | .cachePath path => "cache path " ++ path ++ " is not the compiled value"
  | .shaderCachePath path =>
      "CS2 shader-cache path " ++ path ++
        " is not in the compiled cache-root allowlist"

/-- The loop over the shader-cache paths; `seen` holds the earlier ones. -/
def validateShaderCache (seen : List String) : List String → Except ConfigError Unit
  | [] => .ok ()
  | path :: rest =>
      if path ∉ CS2_SHADER_CACHE_TEMPLATES ∨ asciiLower path ∈ seen then
        .error (.shaderCachePath path)
      else validateShaderCache (asciiLower path :: seen) rest

/-- The loop over the fixed cache paths. -/
def validateCachePaths : List (String × String) → Except ConfigError Unit
  | [] => .ok ()
  | (path, expected) :: rest =>
      if path ≠ expected then .error (.cachePath path)
      else validateCachePaths rest

/-- `Config::validate`. -/
def Config.validate (config : Config) : Except ConfigError Unit := do
  let cap := config.fpsCap
  reject (cap.measuredCap ≠ 0 && !(30 ≤ cap.measuredCap && cap.measuredCap ≤ 1000))
    .fpsMeasuredCap
  reject (cap.strategy = .vrr &&
      (!(30 ≤ cap.refreshHz && cap.refreshHz ≤ 1000) || cap.ceilingMarginHz = 0 ||
        cap.refreshHz ≤ cap.ceilingMarginHz)) .fpsVrr
  reject config.paths.shaderCache.isEmpty
    (.shaderCachePath "at least one CS2 shader-cache template is required")
  validateShaderCache [] config.paths.shaderCache
  validateCachePaths
    [(config.paths.nvidiaDxCache, NVIDIA_DX_CACHE_TEMPLATE),
      (config.paths.nvidiaGlCache, NVIDIA_GL_CACHE_TEMPLATE),
      (config.paths.directxShaderCache, DIRECTX_SHADER_CACHE_TEMPLATE)]

/-- The configuration that the package ships. -/
def shippedConfig : Config where
  fpsCap := { strategy := .raw }
  paths :=
    { shaderCache := CS2_SHADER_CACHE_TEMPLATES
      nvidiaDxCache := NVIDIA_DX_CACHE_TEMPLATE
      nvidiaGlCache := NVIDIA_GL_CACHE_TEMPLATE
      directxShaderCache := DIRECTX_SHADER_CACHE_TEMPLATE }
  autostartRemove :=
    ["OneDrive", "Spotify", "Discord", "Teams", "Skype", "AdobeUpdater",
      "AdobeGCInvoker", "CCleaner", "Dropbox", "GoogleDriveFS",
      "EpicGamesLauncher", "RTSS"]

/-- The shipped configuration is valid. -/
theorem shippedConfig_valid : shippedConfig.validate = .ok () := by decide +kernel

end FrametimeCfg.Domain
