import FrametimeCfg.DriverFoundry.ActionJournal
import FrametimeCfg.DriverFoundry.PathTokens

/-!
# A dry run

The stages of a cleanup ask the operating system for what they need.  In a dry run nothing
is asked: every request is planned in the journal, as one entry or several.

The requests of a stage do not depend on what came of the ones before them, so that a stage
is the list of its requests.
-/

namespace FrametimeCfg.DriverFoundry

open FrametimeCfg.Lib.Text

/-! ## Requests -/

/-- What a stage does: a method of `OsEnvironment`, or an entry that it plans itself. -/
inductive Request where
  | stopDeleteService (name : String)
  | killProcessMatch (token : String)
  | deleteFileMatch (token : String)
  | wipePath (path : String)
  | registryCleanup (action token : String)
  | removeAppxMatch (package : String)
  | uninstallDevice (hardwareId : String)
  | deleteScheduledTask (task : String)
  | setBlockDriverSearch (enable : Bool)
  | createRestorePoint (description : String)
  | cleanDriverstore (vendorFolder venId : String)
  | pnpLockdownOrphans (vendorFolder : String)
  | cleanPciRoot (vendorFolder venId : String)
  | cleanMmdevices (tokens : List String)
  | plan (surface action target : String)
  | planDetail (surface action target detail : String)
  deriving DecidableEq

/-- What the journal is asked to plan. -/
structure Planned where
  surface : String
  action : String
  target : String
  detail : String := ""
  deriving DecidableEq

/-- What a run finds outside. -/
structure Host where
  env : Environment
  /-- `Path::exists`. -/
  pathExists : String → Bool
  /-- Why a new plan report at this path cannot be created, written and synced. -/
  reportError : String → Option String

/-! ## The entries of a request -/

/-- `normalize_ven_id`. -/
def normalizeVenId (venId : String) : String :=
  let upper := asciiUpper (String.ofList (trim venId.toList))
  if "VEN_".toList.isPrefixOf upper.toList then upper else "VEN_" ++ upper

/-- `pci_filter_tokens`. -/
def pciFilterTokens (vendorFolder : String) : List String :=
  match asciiUpper vendorFolder with
  | "NVIDIA" => ["nvpciflt", "nvkflt"]
  | "AMD" => ["amdkmpfd", "amdkmafd"]
  | _ => []

/-- The key of the devices that Windows has enumerated. -/
private def ENUM : String := "HKLM\\SYSTEM\\CurrentControlSet\\Enum\\"

/-- `plan_pci_root_entries`. -/
def planPciRootEntries (vendorFolder venId : String) : List Planned :=
  let venId := normalizeVenId venId
  let filters := pciFilterTokens vendorFolder
  [{ surface := "Device", action := "clean_pci_root", target := "PCI\\" ++ venId },
   { surface := "Registry", action := "pci_enum_leftover", target := ENUM ++ "PCI\\" ++ venId }] ++
  ["PCI", "HDAUDIO", "SWD", "ROOT", "DISPLAY"].map (fun bus =>
    { surface := "Registry", action := "enum_bus_scan",
      target := ENUM ++ bus ++ "\\*" ++ venId ++ "*" }) ++
  [{ surface := "Device", action := "pci_root_summary", target := vendorFolder,
     detail := "ven_id=" ++ venId ++ " targets=Enum\\PCI+Get-PnpDevice+pnputil" }] ++
  filters.map (fun filter =>
    { surface := "Service", action := "pci_filter_stop_delete", target := filter }) ++
  (if filters = [] then [] else
    [{ surface := "Registry", action := "StripFilterValues",
       target := ENUM ++ "PCI filters=" ++ ",".intercalate filters ++
         " values=UpperFilters,LowerFilters" }] ++
    (if eqIgnoreAsciiCase vendorFolder "AMD" then
      [{ surface := "Registry", action := "StripFilterValues",
         target := ENUM ++
           "ACPI filters=amdkmpfd,amdkmafd values=UpperFilters,LowerFilters" }]
    else []) ++
    filters.map (fun filter =>
      { surface := "Registry", action := "pci_filter_strip",
        target := ENUM ++ "PCI\\* UpperFilters/LowerFilters:" ++ filter }))

/-- `plan_mmdevices_entries`. -/
def planMmdevicesEntries (tokens : List String) : List Planned :=
  if tokens = [] then []
  else
    let tokenBlob := "|".intercalate tokens
    let base := "HKLM\\SOFTWARE\\Microsoft\\Windows\\CurrentVersion\\MMDevices\\Audio"
    [{ surface := "Registry", action := "clean_mmdevices", target := tokenBlob }] ++
    ["Render", "Capture"].map (fun flow =>
      { surface := "Registry", action := "mmdevices_flow", target := base ++ "\\" ++ flow }) ++
    [{ surface := "Registry", action := "mmdevices_summary", target := "Audio",
       detail := "tokens=" ++ tokenBlob }]

namespace DryRunEnvironment

/-- What `DryRunEnvironment` plans for a request. -/
def planned (host : Host) : Request → List Planned
  | .stopDeleteService name =>
      [{ surface := "Service", action := "stop_delete", target := name }]
  | .killProcessMatch token =>
      [{ surface := "Process", action := "kill_matching", target := token }]
  | .deleteFileMatch token =>
      [{ surface := "File", action := "delete_match", target := token }]
  | .wipePath path =>
      [{ surface := "File", action := "wipe_path", target := path,
         detail := if host.pathExists path then "exists=true" else "exists=false" }]
  | .registryCleanup action token => [{ surface := "Registry", action, target := token }]
  | .removeAppxMatch package =>
      [{ surface := "AppX", action := "remove_package_match", target := package }]
  | .uninstallDevice hardwareId =>
      [{ surface := "Device", action := "uninstall_device", target := hardwareId }]
  | .deleteScheduledTask task =>
      [{ surface := "Task", action := "delete_scheduled_task", target := task }]
  | .setBlockDriverSearch enable =>
      [{ surface := "Policy",
         action := if enable then "block_driver_search" else "allow_driver_search",
         target := "HKLM\\SOFTWARE\\Microsoft\\Windows\\CurrentVersion\\DriverSearching" }]
  | .createRestorePoint description =>
      [{ surface := "Policy", action := "create_restore_point", target := description }]
  | .cleanDriverstore vendorFolder _ =>
      [{ surface := "File", action := "clean_driverstore", target := vendorFolder },
       { surface := "DriverStore", action := "enum_summary", target := vendorFolder,
         detail := "dry-run: host pnputil enumeration disabled" }]
  | .pnpLockdownOrphans vendorFolder =>
      [{ surface := "File", action := "pnp_lockdown_orphans", target := vendorFolder },
       { surface := "Registry", action := "fix_pnp_orphans",
         target := ENUM ++ "*\\" ++ vendorFolder }]
  | .cleanPciRoot vendorFolder venId => planPciRootEntries vendorFolder venId
  | .cleanMmdevices tokens => planMmdevicesEntries tokens
  | .plan surface action target => [{ surface, action, target }]
  | .planDetail surface action target detail => [{ surface, action, target, detail }]

/-- The journal after some requests. -/
def run (host : Host) (requests : List Request) (journal : ActionJournal) : ActionJournal :=
  (requests.flatMap (planned host)).foldl
    (fun journal p => journal.planDetail p.surface p.action p.target p.detail) journal

end DryRunEnvironment

/-! ## The journal of a dry run -/

/-- The entry that is planned. -/
def Planned.entry (p : Planned) : JournalEntry :=
  { surface := p.surface, action := p.action, target := p.target, executed := false,
    detail := p.detail }

/-- **A dry run plans the entries of its requests**, in their order, and does nothing else. -/
theorem DryRunEnvironment.entries_run (host : Host) (requests : List Request)
    (journal : ActionJournal) :
    (run host requests journal).entries =
      journal.entries ++ (requests.flatMap (planned host)).map Planned.entry := by
  unfold run
  generalize requests.flatMap (planned host) = plans
  induction plans generalizing journal with
  | nil => simp
  | cons p plans ih =>
    rw [List.foldl_cons, ih, List.map_cons]
    simp [ActionJournal.planDetail, Planned.entry]

end FrametimeCfg.DriverFoundry
