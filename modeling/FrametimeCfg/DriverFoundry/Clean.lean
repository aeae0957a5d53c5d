import FrametimeCfg.DriverFoundry.CleanCatalog
import FrametimeCfg.DriverFoundry.DryRun

/-!
# Cleaning up after a driver

A cleanup loads the catalogs of a vendor and goes through its stages, each of which says
what is to be removed.  There are three ways through: the audio path, the wipe of the caches
alone, and the stages of a graphics driver.  Scopes add to what is removed.

No cleanup is executed as long as the catalogs are not signed, so a run is a dry run or an
error.  It ends with a plan report, which is written to a new file where one is asked for.
The log messages of the stages are left out.
-/

namespace FrametimeCfg.DriverFoundry

open FrametimeCfg.Lib.Checks

/-! ## Options -/

inductive CleanVendor where
  | nvidia
  | amd
  | intel
  | lisuan
  | realtek
  deriving DecidableEq

namespace CleanVendor

def folder : CleanVendor → String
  | nvidia => "NVIDIA"
  | amd => "AMD"
  | intel => "INTEL"
  | lisuan => "LISUAN"
  | realtek => "REALTEK"

def venId : CleanVendor → String
  | nvidia => "VEN_10DE"
  | amd => "VEN_1002"
  | intel => "VEN_8086"
  | lisuan => "VEN_4C54"
  | realtek => "VEN_10EC"

/-- `CleanVendor::as_str`. -/
def name : CleanVendor → String
  | nvidia => "nvidia"
  | amd => "amd"
  | intel => "intel"
  | lisuan => "lisuan"
  | realtek => "realtek"

def isAudio (vendor : CleanVendor) : Bool := vendor = realtek

end CleanVendor

/-- What is removed beside the driver itself. -/
structure RemoveScopes where
  removeGfe : Bool := false
  removeNvBroadcast : Bool := false
  removeAmdKmpfd : Bool := false
  removeIntelIgs : Bool := false
  removeIntelNpu : Bool := false
  removeOneapi : Bool := false
  removeEndurance : Bool := false
  removeVulkan : Bool := false
  removePhysx : Bool := false
  removeAudiobus : Bool := false
  removeMonitors : Bool := false
  removeUnpackNvidia : Bool := false
  removeUnpackAmd : Bool := false
  removeInstallCache : Bool := false
  deriving DecidableEq

/-- The options that a cleanup reads. -/
structure CleanOptions where
  vendor : CleanVendor
  dryRun : Bool := true
  settingsRoot : String
  scopes : RemoveScopes := {}
  cacheOnly : Bool := false
  blockDriverSearch : Bool := false
  noRestorePoint : Bool := false
  noSetupApi : Bool := false
  restart : Bool := false
  shutdown : Bool := false
  planReportPath : Option String := none
  prepareSafeboot : Bool := false
  clearSafeboot : Bool := false
  safebootNetwork : Bool := false
  deriving DecidableEq

/-! ## What belongs to a vendor -/

def vendorDeviceTargets : CleanVendor → List String
  | .nvidia =>
      ["VEN_10DE&CC_03", "VEN_10DE&CC_04", "ROOT\\NVVHCI", "ROOT\\NVMODULETRACKER",
        "USB\\VID_0955"]
  | .amd => ["VEN_1002&CC_03", "VEN_1002&CC_04"]
  | .intel => ["VEN_8086&CC_03", "VEN_8086&CC_04"]
  | .lisuan => ["VEN_4C54&CC_03"]
  | .realtek => ["VEN_10EC"]

def vendorProcessHints : CleanVendor → List String
  | .nvidia => ["nvidia share", "nvcontainer", "nvdisplay.container", "nvidia web helper", "o4app"]
  | .amd => ["radeonsoftware", "amdow", "cnext"]
  | .intel => ["igfxEM", "igfxCUIService"]
  | _ => []

def vendorTaskTokens : CleanVendor → List String
  | .nvidia =>
      ["NvBackend", "NvTmMon", "NvTmRep", "NVIDIA GeForce Experience", "NvNodeLauncher",
        "NvProfileUpdater"]
  | .amd => ["AMDInstallManager", "StartCN"]
  | .intel => ["Intel Graphics Command Center"]
  | _ => ["VendorGpuTask"]

def vendorInstallCaches : CleanVendor → List String
  | .nvidia =>
      ["C:\\ProgramData\\NVIDIA Corporation\\Installer2",
       "C:\\ProgramData\\NVIDIA Corporation\\Downloader",
       "C:\\ProgramData\\NVIDIA",
       "%LOCALAPPDATA%\\NVIDIA Corporation\\NV_Cache",
       "%TEMP%\\NVIDIA"]
  | .amd => ["C:\\ProgramData\\AMD", "C:\\AMD"]
  | .intel => ["C:\\ProgramData\\Intel"]
  | .lisuan => ["C:\\ProgramData\\Lisuan"]
  | .realtek => ["C:\\ProgramData\\Realtek"]

def vendorShaderCaches : CleanVendor → List String
  | .nvidia =>
      ["%LOCALAPPDATA%\\NVIDIA\\DXCache",
       "%LOCALAPPDATA%\\NVIDIA\\GLCache",
       "%LOCALAPPDATA%\\NVIDIA Corporation\\NV_Cache",
       "%LOCALAPPDATA%\\D3DSCache"]
  | .amd => ["%LOCALAPPDATA%\\AMD\\DxCache", "%LOCALAPPDATA%\\D3DSCache"]
  | .intel => ["%LOCALAPPDATA%\\Intel\\ShaderCache", "%LOCALAPPDATA%\\D3DSCache"]
  | _ => ["%LOCALAPPDATA%\\D3DSCache"]

def mmdevicesTokensForVendor : CleanVendor → List String
  | .nvidia => ["ven_10de", "10de", "NVIDIA HD Audio", "nvhda"]
  | .amd => ["ven_1002", "1002", "AMD High Definition Audio"]
  | .intel => ["ven_8086&dev_28", "dev_28", "Intel Display Audio"]
  | .lisuan => ["ven_4c54", "4c54"]
  | .realtek => ["ven_10ec", "VEN_10EC", "10ec", "Realtek", "Realtek High Definition Audio"]

/-! ## Stages -/

/-- A stage that is gone through, with what it asks for. -/
structure Stage where
  name : String
  requests : List Request
  deriving DecidableEq

/-- The requests, where they are enabled. -/
def onlyIf (enabled : Bool) (requests : List Request) : List Request :=
  if enabled then requests else []

/-- A file of the chosen vendor, read leniently. -/
def CleanOptions.tryLoad (opts : CleanOptions) (tree : SettingsTree) (file : String) :
    List String :=
  tryLoadLines tree opts.settingsRoot opts.vendor.folder file

/-- A service and the processes of its name. -/
def stopService (service : String) : List Request :=
  [.stopDeleteService service, .killProcessMatch service]

/-- `clear_safeboot`. -/
def clearSafeboot : List Request := [.plan "SafeMode" "bcdedit_delete_safeboot" "\x7bcurrent\x7d"]

/-- `prepare_safeboot`. -/
def prepareSafeboot (network : Bool) : List Request :=
  [.plan "SafeMode" "bcdedit_safeboot"
     ("\x7bcurrent\x7d safeboot " ++ if network then "network" else "minimal"),
   .planDetail "SafeMode" "schedule_restart" "prepare-safeboot"
     "journal-only: host restart never auto-issued"]

/-- `request_power`. -/
def requestPower (restart shutdown : Bool) : List Request :=
  onlyIf restart
    [.planDetail "Power" "restart" "post-clean" "journal-only: never auto-restarts the host"] ++
  onlyIf shutdown
    [.planDetail "Power" "shutdown" "post-clean" "journal-only: never auto-shuts-down the host"]

/-- The files that every cleanup of a graphics driver reads. -/
structure GpuCatalog where
  services : List String
  driverfiles : List String
  servicesAudio : List String
  classroot : List String
  clsid : List String
  packages : List String
  interfaces : List String
  deriving DecidableEq

/-- `GpuCatalog::load`. -/
def GpuCatalog.load (tree : SettingsTree) (opts : CleanOptions) :
    Except CatalogError GpuCatalog := do
  let services ← loadLines tree opts.settingsRoot opts.vendor.folder "services.cfg"
  let driverfiles ← loadLines tree opts.settingsRoot opts.vendor.folder "driverfiles.cfg"
  pure
    { services, driverfiles
      servicesAudio := opts.tryLoad tree "servicesaudio.cfg"
      classroot := opts.tryLoad tree "classroot.cfg"
      clsid := opts.tryLoad tree "clsidleftover.cfg"
      packages := opts.tryLoad tree "packages.cfg"
      interfaces := opts.tryLoad tree "interface.cfg" }

section Stages

variable (tree : SettingsTree) (opts : CleanOptions) (catalog : GpuCatalog)

/-- `stage_resolve_gpu`. -/
def stageResolveGpu : Stage where
  name := "0_resolve_vendor"
  requests :=
    onlyIf (!opts.noRestorePoint) [.createRestorePoint "Driver Foundry pre-clean"] ++
    onlyIf opts.blockDriverSearch [.setBlockDriverSearch true]

/-- The services of a scope. -/
def overlayServices (enabled : Bool) (file : String) : List Request :=
  onlyIf enabled ((opts.tryLoad tree file).map .stopDeleteService)

/-- `stage_early_services`. -/
def stageEarlyServices : Stage where
  name := "1_2_early_services"
  requests :=
    (vendorProcessHints opts.vendor).map .killProcessMatch ++
    catalog.services.flatMap stopService ++
    overlayServices tree opts (opts.vendor = .nvidia && opts.scopes.removeGfe) "gfeservice.cfg" ++
    overlayServices tree opts (opts.vendor = .nvidia && opts.scopes.removeNvBroadcast)
      "nvbservice.cfg" ++
    overlayServices tree opts (opts.vendor = .intel && opts.scopes.removeIntelIgs)
      "servicesigs.cfg"

/-- `cleanup_registry`. -/
def cleanupRegistry (action : String) (tokens : List String) : List Request :=
  tokens.map (.registryCleanup action)

/-- `remove_packages`. -/
def removePackages (packages : List String) : List Request := packages.map .removeAppxMatch

/-- `cleanup_catalog_registry`. -/
def cleanupCatalogRegistry (action file : String) : List Request :=
  cleanupRegistry action (opts.tryLoad tree file)

/-- `stage_intel_package_scopes`. -/
def stageIntelPackageScopes : List Request :=
  onlyIf opts.scopes.removeIntelIgs
    (cleanupCatalogRegistry tree opts "clsid_igs" "clsidleftoverigs.cfg" ++
      removePackages (opts.tryLoad tree "packagesigs.cfg")) ++
  onlyIf opts.scopes.removeIntelNpu (removePackages (opts.tryLoad tree "packagesnpu.cfg")) ++
  onlyIf opts.scopes.removeOneapi (removePackages (opts.tryLoad tree "packagesoneapi.cfg")) ++
  onlyIf opts.scopes.removeEndurance (removePackages (opts.tryLoad tree "packagesendurance.cfg"))

/-- `remove_vendor_appx`. -/
def removeVendorAppx : List Request :=
  match opts.vendor with
  | .nvidia =>
      .removeAppxMatch "NVIDIAControlPanel" ::
        onlyIf opts.scopes.removeGfe [.removeAppxMatch "NVIDIA"]
  | .amd => [.removeAppxMatch "AMDRadeon", .removeAppxMatch "AdvancedMicroDevicesInc"]
  | .intel =>
      [.removeAppxMatch "IntelGraphicsControlPanel", .removeAppxMatch "IntelGraphicsExperience"]
  | _ => []

/-- `stage_preclean_packages`. -/
def stagePrecleanPackages : Stage where
  name := "3_preclean_com_packages"
  requests :=
    cleanupRegistry "classroot_cleanup" catalog.classroot ++
    cleanupRegistry "clsid_leftover" catalog.clsid ++
    cleanupRegistry "interface_cleanup" catalog.interfaces ++
    removePackages catalog.packages ++
    onlyIf (opts.vendor = .nvidia && opts.scopes.removeGfe)
      (cleanupCatalogRegistry tree opts "classroot_gfe" "classrootgfe.cfg" ++
        cleanupCatalogRegistry tree opts "clsid_gfe" "clsidleftoverGFE.cfg" ++
        cleanupCatalogRegistry tree opts "interface_gfe" "interfaceGFE.cfg") ++
    onlyIf (opts.vendor = .nvidia && opts.scopes.removeNvBroadcast)
      (cleanupCatalogRegistry tree opts "clsid_nvb" "clsidleftoverNVB.cfg") ++
    onlyIf (opts.vendor = .intel) (stageIntelPackageScopes tree opts) ++
    removeVendorAppx opts

/-- What `stage_setupapi` asks for, where it is gone through. -/
def setupapiRequests : List Request :=
  (vendorDeviceTargets opts.vendor).map .uninstallDevice ++
  onlyIf (opts.vendor = .intel && opts.scopes.removeIntelNpu)
    [.uninstallDevice "VEN_8086&CC_0B40", .uninstallDevice "PCI\\VEN_8086&CC_1200"] ++
  onlyIf (opts.vendor = .amd && opts.scopes.removeAmdKmpfd)
    (.uninstallDevice "KMPFD" ::
      (opts.tryLoad tree "driverfilesKMPFD.cfg").map .deleteFileMatch) ++
  catalog.servicesAudio.flatMap (fun service =>
    [.stopDeleteService service, .uninstallDevice service]) ++
  onlyIf opts.scopes.removeAudiobus
    [.uninstallDevice "ROOT\\MEDIA", .uninstallDevice "USB\\VID_0955",
      .plan "Device" "remove_audiobus" "HDAUDIO\\FUNC_01",
      .cleanMmdevices (mmdevicesTokensForVendor opts.vendor)] ++
  onlyIf opts.scopes.removeMonitors [.uninstallDevice "MONITOR\\"]

/-- `stage_setupapi`. -/
def stageSetupapi : List Stage :=
  if opts.noSetupApi then []
  else [{ name := "4_setupapi_devices", requests := setupapiRequests tree opts catalog }]

/-- `deep_file_tokens`. -/
def deepFileTokens : List String :=
  let additions : List (Bool × String) :=
    match opts.vendor with
    | .nvidia =>
        [(opts.scopes.removeGfe, "gfedriverfiles.cfg"),
         (opts.scopes.removeNvBroadcast, "nvbdriverfiles.cfg")]
    | .amd =>
        [(opts.scopes.removeAmdKmpfd, "driverfilesKMPFD.cfg"),
         (opts.scopes.removeAmdKmpfd, "driverfilesKMAFD.cfg")]
    | .intel => [(true, "shareddriverfiles.cfg")]
    | _ => []
  catalog.driverfiles ++
    additions.flatMap fun (enabled, file) => if enabled then opts.tryLoad tree file else []

/-- The cleanup is to wipe the caches of the installer. -/
def RemoveScopes.installCaches (scopes : RemoveScopes) : Bool :=
  scopes.removeGfe || scopes.removeInstallCache

/-- `clean_caches`. -/
def cleanCaches (env : Environment) : List Request :=
  let caches :=
    if opts.scopes.installCaches then vendorInstallCaches opts.vendor
    else vendorShaderCaches opts.vendor
  caches.map fun cache => .wipePath (env.expandPathTokens cache)

/-- `clean_unpack_targets`. -/
def cleanUnpackTargets : List Request :=
  match opts.vendor with
  | .nvidia =>
      onlyIf opts.scopes.removeUnpackNvidia
        [.wipePath "C:\\NVIDIA", .wipePath "C:\\NVIDIA\\DisplayDriver"]
  | .amd =>
      onlyIf opts.scopes.removeUnpackAmd [.wipePath "C:\\AMD", .wipePath "C:\\AMD\\AMD-Software"]
  | _ => []

/-- `clean_optional_runtime_scopes`. -/
def cleanOptionalRuntimeScopes : List Request :=
  onlyIf opts.scopes.removePhysx
    [.deleteFileMatch "PhysX",
      .registryCleanup "physx_leftover" "HKLM\\SOFTWARE\\NVIDIA Corporation\\PhysX"] ++
  onlyIf opts.scopes.removeVulkan
    [.deleteFileMatch "vulkan-1.dll",
      .registryCleanup "vulkan_implicit_layers" "HKLM\\SOFTWARE\\Khronos\\Vulkan"]

/-- `stage_deep_clean`. -/
def stageDeepClean (env : Environment) : Stage where
  name := "5_deep_clean"
  requests :=
    (deepFileTokens tree opts catalog).map .deleteFileMatch ++
    catalog.services.map .stopDeleteService ++
    (vendorTaskTokens opts.vendor).map .deleteScheduledTask ++
    cleanCaches opts env ++
    cleanUnpackTargets opts ++
    cleanOptionalRuntimeScopes opts

/-- `stage_finalize_gpu`. -/
def stageFinalizeGpu : Stage where
  name := "6_driverstore_finalize"
  requests :=
    [.cleanDriverstore opts.vendor.folder opts.vendor.venId,
      .registryCleanup "fix_driverstore_registry" opts.vendor.folder,
      .pnpLockdownOrphans opts.vendor.folder,
      .cleanPciRoot opts.vendor.folder opts.vendor.venId]

/-- The stages of a graphics driver, for a catalog that is loaded. -/
def gpuStages (env : Environment) : List Stage :=
  [stageResolveGpu opts, stageEarlyServices tree opts catalog,
    stagePrecleanPackages tree opts catalog] ++
  stageSetupapi tree opts catalog ++
  [stageDeepClean tree opts catalog env, stageFinalizeGpu opts]

/-- `run_gpu_stages`. -/
def runGpuStages (env : Environment) : Except CatalogError (List Stage) := do
  let catalog ← GpuCatalog.load tree opts
  pure (gpuStages tree opts catalog env)

/-- The wipes of `run_cache_only`. -/
def cacheOnlyRequests (env : Environment) : List Request :=
  (vendorShaderCaches opts.vendor).map (fun cache => .wipePath (env.expandPathTokens cache)) ++
  onlyIf opts.scopes.installCaches
    ((vendorInstallCaches opts.vendor).map fun cache => .wipePath (env.expandPathTokens cache)) ++
  onlyIf (opts.vendor = .nvidia && opts.scopes.removeUnpackNvidia) [.wipePath "C:\\NVIDIA"] ++
  onlyIf (opts.vendor = .amd && opts.scopes.removeUnpackAmd) [.wipePath "C:\\AMD"]

/-- `run_cache_only`. -/
def runCacheOnly (env : Environment) : Except CatalogError (List Stage) := do
  let _ ← loadLines tree opts.settingsRoot opts.vendor.folder "services.cfg"
  pure
    [{ name := "0_resolve_vendor", requests := [] },
      { name := "0b_cache_only", requests := cacheOnlyRequests opts env }]

/-- The stages of an audio driver, for the files that are loaded. -/
def audioStages (services driverfiles : List String) : List Stage :=
  [{ name := "0_resolve_audio", requests := [] },
   { name := "1_audio_services", requests := services.flatMap stopService },
   { name := "2_audio_com_packages"
     requests :=
       cleanupRegistry "classroot_cleanup"
         (tryLoadLines tree opts.settingsRoot "REALTEK" "classroot.cfg") ++
       cleanupRegistry "clsid_leftover"
         (tryLoadLines tree opts.settingsRoot "REALTEK" "clsidleftover.cfg") ++
       removePackages (tryLoadLines tree opts.settingsRoot "REALTEK" "packages.cfg") },
   { name := "3_audio_devices_files"
     requests :=
       [.uninstallDevice "VEN_10EC", .uninstallDevice "HDAUDIO\\FUNC_01&VEN_10EC",
         .cleanMmdevices (mmdevicesTokensForVendor .realtek)] ++
       driverfiles.map .deleteFileMatch },
   { name := "4_audio_finalize"
     requests :=
       [.cleanDriverstore "REALTEK" "VEN_10EC", .pnpLockdownOrphans "REALTEK",
         .cleanPciRoot "REALTEK" "VEN_10EC"] }]

/-- `run_audio_path`. -/
def runAudioPath : Except CatalogError (List Stage) := do
  let services ← loadLines tree opts.settingsRoot "REALTEK" "services.cfg"
  let driverfiles ← loadLines tree opts.settingsRoot "REALTEK" "driverfiles.cfg"
  pure (audioStages tree opts services driverfiles)

/-- The stages that the vendor and the mode lead through. -/
def vendorStages (env : Environment) : Except CatalogError (List Stage) :=
  if opts.vendor.isAudio then runAudioPath tree opts
  else if opts.cacheOnly then runCacheOnly tree opts env
  else runGpuStages tree opts env

/-- The stages before those of the vendor. -/
def safebootStages : List Stage :=
  (if opts.clearSafeboot then [{ name := "safemode_clear", requests := clearSafeboot }]
    else []) ++
  (if opts.prepareSafeboot then
    [{ name := "safemode_prepare", requests := prepareSafeboot opts.safebootNetwork }]
    else [])

/-- The stage after those of the vendor. -/
def powerStages : List Stage :=
  if opts.restart || opts.shutdown then
    [{ name := "power", requests := requestPower opts.restart opts.shutdown }]
  else []

end Stages

/-! ## A run -/

inductive CleanError where
  | liveCatalogAuthenticationRequired
  | catalog (error : CatalogError)
  | io (error : String)
  deriving DecidableEq

structure CleanResult where
  exitCode : Int32
  dryRun : Bool
  stages : List String
  planned : Nat
  executed : Nat
  planReport : String
  journal : ActionJournal
  elevationRelaunched : Bool
  deriving DecidableEq

/-- `format_plan_report`. -/
def formatPlanReport (vendor : CleanVendor) (dryRun : Bool) (stages : List String)
    (journal : ActionJournal) : String :=
  "=== DRIVER FOUNDRY PLAN REPORT ===\n" ++
  "mode=" ++ (if dryRun then "dry-run" else "execute") ++ "\n" ++
  "targets=" ++ vendor.name ++ "\n" ++
  "stages=" ++ " -> ".intercalate stages ++ "\n" ++
  "surface_counts:\n" ++
  String.join (journal.surfaceCounts.map fun (surface, n) =>
    "  " ++ surface ++ "=" ++ toString n ++ "\n") ++
  "planned_total=" ++ toString journal.countPlanned ++
  " executed_total=" ++ toString journal.countExecuted ++ "\n" ++
  "=== END PLAN REPORT ===\n"

/-- What a run that went through these stages gives. -/
def cleanResult (host : Host) (opts : CleanOptions) (stages : List Stage) : CleanResult :=
  let journal := DryRunEnvironment.run host (stages.flatMap Stage.requests) {}
  let live := !opts.dryRun
  let names := stages.map Stage.name ++
    [if journal.failedActions live = 0 then "success" else "failed"]
  { exitCode := journal.exitCode live
    dryRun := opts.dryRun
    stages := names
    planned := journal.countPlanned
    executed := journal.countExecuted
    planReport := formatPlanReport opts.vendor opts.dryRun names journal
    journal
    elevationRelaunched := false }

/-- Write the plan report, where one is asked for. -/
def writePlanReport (host : Host) (opts : CleanOptions) : Except CleanError Unit :=
  match opts.planReportPath.bind host.reportError with
  | some error => .error (.io error)
  | none => .ok ()

/-- `run_clean`. -/
def runClean (host : Host) (tree : SettingsTree) (opts : CleanOptions) :
    Except CleanError CleanResult := do
  reject (!opts.dryRun) .liveCatalogAuthenticationRequired
  let stages ← (vendorStages tree opts host.env).mapError .catalog
  writePlanReport host opts
  pure (cleanResult host opts (safebootStages opts ++ stages ++ powerStages opts))

end FrametimeCfg.DriverFoundry
