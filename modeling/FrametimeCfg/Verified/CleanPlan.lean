import FrametimeCfg.DriverFoundry.Clean
import FrametimeCfg.Verified.JournalOutcomes

/-!
# The plan of a cleanup

A cleanup that is not refused plans the entries of the catalogs that it reads.  A catalog
that it reads leniently and that has an entry to reject is one without entries for it, so
that the plan is complete, and such a catalog refused, exactly where none of these is
selected.

More scopes add to the plan, and so do the stages of the driver to the wipe of the caches
alone, except that a cleanup of the caches of the installer is none of the shader caches.

* `runClean_eq_ok` — when a run is not refused, and what it gives then.
* `selected_requested` — a catalog that is read has its entries in the plan.
* `gpuStages_within`, `cacheOnly_within` — the plans that grow.
* `shaderCache_not_wiped` — the ones that do not.
* `cleanPlan` — all of it.
-/

namespace FrametimeCfg.Verified.CleanPlan

open FrametimeCfg.DriverFoundry
open FrametimeCfg.Lib.Checks
open FrametimeCfg.Verified.JournalOutcomes (about)

/-! ## What is asked of a plan -/

/-- The catalogs that only a scope or a vendor selects, each with the condition. -/
def scopeSelection (scopes : RemoveScopes) : CleanVendor → List (Bool × String)
  | .nvidia =>
      [(scopes.removeGfe, "gfeservice.cfg"), (scopes.removeGfe, "classrootgfe.cfg"),
       (scopes.removeGfe, "clsidleftoverGFE.cfg"), (scopes.removeGfe, "interfaceGFE.cfg"),
       (scopes.removeGfe, "gfedriverfiles.cfg"),
       (scopes.removeNvBroadcast, "nvbservice.cfg"),
       (scopes.removeNvBroadcast, "clsidleftoverNVB.cfg"),
       (scopes.removeNvBroadcast, "nvbdriverfiles.cfg")]
  | .amd =>
      [(scopes.removeAmdKmpfd, "driverfilesKMPFD.cfg"),
       (scopes.removeAmdKmpfd, "driverfilesKMAFD.cfg")]
  | .intel =>
      [(true, "shareddriverfiles.cfg"),
       (scopes.removeIntelIgs, "servicesigs.cfg"),
       (scopes.removeIntelIgs, "clsidleftoverigs.cfg"),
       (scopes.removeIntelIgs, "packagesigs.cfg"),
       (scopes.removeIntelNpu, "packagesnpu.cfg"),
       (scopes.removeOneapi, "packagesoneapi.cfg"),
       (scopes.removeEndurance, "packagesendurance.cfg")]
  | _ => []

/-- The catalogs of the mode, each with the condition that selects it: the wipe of the caches
selects none, and the devices of an audio service are left alone without SetupAPI. -/
def selection (opts : CleanOptions) : List (Bool × String) :=
  if opts.vendor.isAudio then
    [(true, "services.cfg"), (true, "driverfiles.cfg"), (true, "classroot.cfg"),
     (true, "clsidleftover.cfg"), (true, "packages.cfg")]
  else if opts.cacheOnly then []
  else
    [(true, "services.cfg"), (true, "driverfiles.cfg"), (true, "classroot.cfg"),
     (true, "clsidleftover.cfg"), (true, "packages.cfg"), (true, "interface.cfg"),
     (!opts.noSetupApi, "servicesaudio.cfg")] ++
    scopeSelection opts.scopes opts.vendor

/-- **The vendor, the mode and the scopes select a catalog.** -/
def Selects (opts : CleanOptions) (file : String) : Prop := (true, file) ∈ selection opts

instance (opts : CleanOptions) (file : String) : Decidable (Selects opts file) :=
  inferInstanceAs (Decidable ((true, file) ∈ selection opts))

section Properties

variable (host : Host) (tree : SettingsTree) (opts : CleanOptions)

/-- A run that is not refused plans every entry of the catalogs that are selected. -/
def CompletePlan : Prop :=
  ∀ result, runClean host tree opts = .ok result → ∀ file entry, Selects opts file →
    tree.Lists opts.vendor.folder file entry →
      ∃ e ∈ result.journal.entries, e.executed = false ∧ e.target = entry

/-- A run is refused where a catalog that is selected has an entry to reject. -/
def RefusesRejected : Prop :=
  ∀ file, Selects opts file → tree.Rejected opts.vendor.folder file →
    ∃ error, runClean host tree opts = .error error

/-- No run executes anything. -/
def NothingExecuted : Prop :=
  ∀ result, runClean host tree opts = .ok result → ∀ e ∈ result.journal.entries,
    e.executed = false

/-- What the one request plans, the other one plans. -/
def Grows (small large : CleanOptions) : Prop :=
  ∀ result result', runClean host tree small = .ok result →
    runClean host tree large = .ok result' → ∀ e ∈ result.journal.entries,
      ∃ e' ∈ result'.journal.entries, about e' = about e

/-- The files without which a run is refused. -/
def required : List String :=
  if !opts.vendor.isAudio && opts.cacheOnly then ["services.cfg"]
  else ["services.cfg", "driverfiles.cfg"]

/-- **A run is refused**: a file it needs is missing or has an entry to reject, or the plan
report that is asked for cannot be written. -/
def Refused : Prop :=
  (∃ file ∈ required opts, ¬ tree.Present opts.vendor.folder file ∨
    tree.Rejected opts.vendor.folder file) ∨
  ∃ path, opts.planReportPath = some path ∧ ∃ error, host.reportError path = some error

/-- The run goes through the stages of a graphics driver. -/
def GpuMode : Prop := opts.vendor.isAudio = false ∧ opts.cacheOnly = false

end Properties

/-- One selection of scopes has what another one has. -/
structure Within (small large : RemoveScopes) : Prop where
  removeGfe : small.removeGfe = true → large.removeGfe = true
  removeNvBroadcast : small.removeNvBroadcast = true → large.removeNvBroadcast = true
  removeAmdKmpfd : small.removeAmdKmpfd = true → large.removeAmdKmpfd = true
  removeIntelIgs : small.removeIntelIgs = true → large.removeIntelIgs = true
  removeIntelNpu : small.removeIntelNpu = true → large.removeIntelNpu = true
  removeOneapi : small.removeOneapi = true → large.removeOneapi = true
  removeEndurance : small.removeEndurance = true → large.removeEndurance = true
  removeVulkan : small.removeVulkan = true → large.removeVulkan = true
  removePhysx : small.removePhysx = true → large.removePhysx = true
  removeAudiobus : small.removeAudiobus = true → large.removeAudiobus = true
  removeMonitors : small.removeMonitors = true → large.removeMonitors = true
  removeUnpackNvidia : small.removeUnpackNvidia = true → large.removeUnpackNvidia = true
  removeUnpackAmd : small.removeUnpackAmd = true → large.removeUnpackAmd = true
  removeInstallCache : small.removeInstallCache = true → large.removeInstallCache = true

/-! ## When a run is refused -/

section Run

variable {host : Host} {tree : SettingsTree} {opts : CleanOptions}

theorem isCatalogName_folder (vendor : CleanVendor) : isCatalogName vendor.folder = true := by
  cases vendor <;> decide +kernel

/-- The catalog of a graphics driver, with every file read leniently. -/
def lenient (tree : SettingsTree) (opts : CleanOptions) : GpuCatalog where
  services := opts.tryLoad tree "services.cfg"
  driverfiles := opts.tryLoad tree "driverfiles.cfg"
  servicesAudio := opts.tryLoad tree "servicesaudio.cfg"
  classroot := opts.tryLoad tree "classroot.cfg"
  clsid := opts.tryLoad tree "clsidleftover.cfg"
  packages := opts.tryLoad tree "packages.cfg"
  interfaces := opts.tryLoad tree "interface.cfg"

/-- The stages that the vendor and the mode lead through, with every file read leniently. -/
def plannedStages (tree : SettingsTree) (opts : CleanOptions) (env : Environment) : List Stage :=
  if opts.vendor.isAudio then
    audioStages tree opts (opts.tryLoad tree "services.cfg") (opts.tryLoad tree "driverfiles.cfg")
  else if opts.cacheOnly then
    [{ name := "0_resolve_vendor", requests := [] },
      { name := "0b_cache_only", requests := cacheOnlyRequests opts env }]
  else gpuStages tree opts (lenient tree opts) env

/-- All stages of a run. -/
def allStages (tree : SettingsTree) (opts : CleanOptions) (env : Environment) : List Stage :=
  safebootStages opts ++ plannedStages tree opts env ++ powerStages opts

/-- A file that is there and has no entry to reject. -/
def Loadable (tree : SettingsTree) (opts : CleanOptions) (file : String) : Prop :=
  tree.Present opts.vendor.folder file ∧ ¬ tree.Rejected opts.vendor.folder file

/-- A strict reading gives what the lenient one gives. -/
theorem loadLines_eq_ok_tryLoad {file : String} (hfile : isCatalogName file = true)
    {entries : List String} :
    loadLines tree opts.settingsRoot opts.vendor.folder file = .ok entries ↔
      Loadable tree opts file ∧ entries = opts.tryLoad tree file := by
  rw [Loadable, ← loadLines_isOk_iff opts.settingsRoot (isCatalogName_folder _) hfile,
    CleanOptions.tryLoad, tryLoadLines]
  cases loadLines tree opts.settingsRoot opts.vendor.folder file with
  | ok loaded => simp [eq_comm]
  | error e => simp

theorem services_name : isCatalogName "services.cfg" = true := by decide +kernel

theorem driverfiles_name : isCatalogName "driverfiles.cfg" = true := by decide +kernel

theorem realtek_of_isAudio (h : opts.vendor.isAudio = true) : opts.vendor = .realtek :=
  of_decide_eq_true h

theorem vendorStages_eq_ok {env : Environment} {stages : List Stage} :
    vendorStages tree opts env = .ok stages ↔
      (∀ file ∈ required opts, Loadable tree opts file) ∧
        stages = plannedStages tree opts env := by
  have hservices {entries : List String} :
      loadLines tree opts.settingsRoot opts.vendor.folder "services.cfg" = .ok entries ↔
        Loadable tree opts "services.cfg" ∧ entries = opts.tryLoad tree "services.cfg" :=
    loadLines_eq_ok_tryLoad services_name
  have hdriverfiles {entries : List String} :
      loadLines tree opts.settingsRoot opts.vendor.folder "driverfiles.cfg" = .ok entries ↔
        Loadable tree opts "driverfiles.cfg" ∧ entries = opts.tryLoad tree "driverfiles.cfg" :=
    loadLines_eq_ok_tryLoad driverfiles_name
  unfold vendorStages plannedStages required
  cases haudio : opts.vendor.isAudio with
  | true =>
    have hfolder : "REALTEK" = opts.vendor.folder := by rw [realtek_of_isAudio haudio]; rfl
    simp only [runAudioPath, hfolder, bind_eq_ok, hservices, hdriverfiles, if_true,
      Bool.not_true, Bool.false_and, Bool.false_eq_true, if_false, List.forall_mem_cons,
      pure, Except.pure, Except.ok.injEq]
    constructor
    · rintro ⟨_, ⟨hservice, rfl⟩, _, ⟨hdriverfile, rfl⟩, rfl⟩
      exact ⟨⟨hservice, hdriverfile, by simp⟩, rfl⟩
    · rintro ⟨⟨hservice, hdriverfile, _⟩, rfl⟩
      exact ⟨_, ⟨hservice, rfl⟩, _, ⟨hdriverfile, rfl⟩, rfl⟩
  | false =>
    cases hcache : opts.cacheOnly with
    | true =>
      simp only [runCacheOnly, bind_eq_ok, hservices, if_true, Bool.not_false, Bool.and_self,
        Bool.false_eq_true, if_false, List.forall_mem_cons, pure, Except.pure, Except.ok.injEq]
      constructor
      · rintro ⟨_, ⟨hservice, rfl⟩, rfl⟩
        exact ⟨⟨hservice, by simp⟩, rfl⟩
      · rintro ⟨⟨hservice, _⟩, rfl⟩
        exact ⟨_, ⟨hservice, rfl⟩, rfl⟩
    | false =>
      simp only [runGpuStages, GpuCatalog.load, bind_eq_ok, hservices, hdriverfiles,
        Bool.not_false, Bool.and_false, Bool.false_eq_true, if_false, List.forall_mem_cons,
        pure, Except.pure, Except.ok.injEq]
      constructor
      · rintro ⟨_, ⟨_, ⟨hservice, rfl⟩, _, ⟨hdriverfile, rfl⟩, rfl⟩, rfl⟩
        exact ⟨⟨hservice, hdriverfile, by simp⟩, rfl⟩
      · rintro ⟨⟨hservice, hdriverfile, _⟩, rfl⟩
        exact ⟨_, ⟨_, ⟨hservice, rfl⟩, _, ⟨hdriverfile, rfl⟩, rfl⟩, rfl⟩

theorem writePlanReport_eq_ok {u : Unit} :
    writePlanReport host opts = .ok u ↔
      ¬ ∃ path, opts.planReportPath = some path ∧ ∃ error, host.reportError path = some error := by
  unfold writePlanReport
  cases hpath : opts.planReportPath with
  | none => simp
  | some path => cases herror : host.reportError path <;> simp [herror]

/-- **A dry run** that is not refused gives the journal of its stages. -/
theorem runClean_eq_ok (hdry : opts.dryRun = true) {result : CleanResult} :
    runClean host tree opts = .ok result ↔
      ¬ Refused host tree opts ∧ result = cleanResult host opts (allStages tree opts host.env) := by
  have hloadable : (∀ file ∈ required opts, Loadable tree opts file) ↔
      ¬ ∃ file ∈ required opts, ¬ tree.Present opts.vendor.folder file ∨
        tree.Rejected opts.vendor.folder file := by
    simp [Loadable, not_or]
  simp only [runClean, hdry, Bool.not_true, reject_false, bind_ok, bind_eq_ok,
    mapError_eq_ok, vendorStages_eq_ok, writePlanReport_eq_ok, hloadable,
    Refused, not_or, pure, Except.pure, Except.ok.injEq, allStages]
  constructor
  · rintro ⟨_, ⟨hfiles, rfl⟩, _, hreport, rfl⟩
    exact ⟨⟨hfiles, hreport⟩, rfl⟩
  · rintro ⟨⟨hfiles, hreport⟩, rfl⟩
    exact ⟨_, ⟨hfiles, rfl⟩, (), hreport, rfl⟩

/-- A run that gives nothing is an error. -/
theorem exists_error_iff (hdry : opts.dryRun = true) :
    (∃ error, runClean host tree opts = .error error) ↔ Refused host tree opts := by
  by_cases hrefused : Refused host tree opts
  · refine iff_of_true ?_ hrefused
    cases hrun : runClean host tree opts with
    | ok result => exact absurd hrefused ((runClean_eq_ok hdry).mp hrun).1
    | error error => exact ⟨error, rfl⟩
  · refine iff_of_false ?_ hrefused
    rintro ⟨error, herror⟩
    rw [(runClean_eq_ok hdry).mpr ⟨hrefused, rfl⟩] at herror
    cases herror

/-- **The entries of a run** are those that its stages plan. -/
theorem mem_entries_iff {stages : List Stage} {e : JournalEntry} :
    e ∈ (cleanResult host opts stages).journal.entries ↔
      ∃ request ∈ stages.flatMap Stage.requests,
        ∃ p ∈ DryRunEnvironment.planned host request, p.entry = e := by
  rw [cleanResult, DryRunEnvironment.entries_run]
  simp only [List.nil_append, List.mem_map, List.mem_flatMap]
  constructor
  · rintro ⟨p, ⟨request, hrequest, hp⟩, rfl⟩
    exact ⟨request, hrequest, p, hp, rfl⟩
  · rintro ⟨request, hrequest, p, hp, rfl⟩
    exact ⟨p, ⟨request, hrequest, hp⟩, rfl⟩

end Run

/-! ## Completeness -/

/-- The request is one for an entry of a catalog. -/
inductive IsFor (entry : String) : Request → Prop
  | service : IsFor entry (.stopDeleteService entry)
  | file : IsFor entry (.deleteFileMatch entry)
  | package : IsFor entry (.removeAppxMatch entry)
  | registry (action : String) : IsFor entry (.registryCleanup action entry)

theorem IsFor.planned {entry : String} {request : Request} (h : IsFor entry request)
    (host : Host) : ∃ p ∈ DryRunEnvironment.planned host request, p.target = entry := by
  cases h <;> exact ⟨_, List.mem_singleton_self _, rfl⟩

/-- A stage asks for an entry. -/
def Requested (stages : List Stage) (entry : String) : Prop :=
  ∃ stage ∈ stages, ∃ request ∈ stage.requests, IsFor entry request

section Complete

variable {tree : SettingsTree} {opts : CleanOptions} {env : Environment} {catalog : GpuCatalog}
  {file entry : String}

theorem requested_early {request : Request}
    (h : request ∈ (stageEarlyServices tree opts catalog).requests) (hfor : IsFor entry request) :
    Requested (gpuStages tree opts catalog env) entry :=
  ⟨_, by simp [gpuStages], request, h, hfor⟩

theorem requested_preclean {request : Request}
    (h : request ∈ (stagePrecleanPackages tree opts catalog).requests)
    (hfor : IsFor entry request) : Requested (gpuStages tree opts catalog env) entry :=
  ⟨stagePrecleanPackages tree opts catalog, by simp [gpuStages], request, h, hfor⟩

theorem requested_deep {request : Request}
    (h : request ∈ (stageDeepClean tree opts catalog env).requests) (hfor : IsFor entry request) :
    Requested (gpuStages tree opts catalog env) entry :=
  ⟨stageDeepClean tree opts catalog env, by simp [gpuStages], request, h, hfor⟩

/-- The files that a scope selects are read, and their entries asked for. -/
theorem requested_scope (hselects : (true, file) ∈ scopeSelection opts.scopes opts.vendor)
    (hentry : entry ∈ opts.tryLoad tree file) :
    Requested (gpuStages tree opts catalog env) entry := by
  cases hvendor : opts.vendor with
  | nvidia =>
    simp only [hvendor, scopeSelection, List.mem_cons, Prod.mk.injEq, List.not_mem_nil,
      or_false] at hselects
    rcases hselects with ⟨hscope, rfl⟩ | ⟨hscope, rfl⟩ | ⟨hscope, rfl⟩ | ⟨hscope, rfl⟩ |
      ⟨hscope, rfl⟩ | ⟨hscope, rfl⟩ | ⟨hscope, rfl⟩ | ⟨hscope, rfl⟩
    · exact requested_early (by simp [stageEarlyServices, overlayServices, onlyIf, hvendor,
        ← hscope, hentry]) .service
    · exact requested_preclean (by simp [stagePrecleanPackages, cleanupCatalogRegistry,
        cleanupRegistry, onlyIf, hvendor, ← hscope, hentry]) (.registry "classroot_gfe")
    · exact requested_preclean (by simp [stagePrecleanPackages, cleanupCatalogRegistry,
        cleanupRegistry, onlyIf, hvendor, ← hscope, hentry]) (.registry "clsid_gfe")
    · exact requested_preclean (by simp [stagePrecleanPackages, cleanupCatalogRegistry,
        cleanupRegistry, onlyIf, hvendor, ← hscope, hentry]) (.registry "interface_gfe")
    · exact requested_deep (by simp [stageDeepClean, deepFileTokens, hvendor, ← hscope,
        hentry]) .file
    · exact requested_early (by simp [stageEarlyServices, overlayServices, onlyIf, hvendor,
        ← hscope, hentry]) .service
    · exact requested_preclean (by simp [stagePrecleanPackages, cleanupCatalogRegistry,
        cleanupRegistry, onlyIf, hvendor, ← hscope, hentry]) (.registry "clsid_nvb")
    · exact requested_deep (by simp [stageDeepClean, deepFileTokens, hvendor, ← hscope,
        hentry]) .file
  | amd =>
    simp only [hvendor, scopeSelection, List.mem_cons, Prod.mk.injEq, List.not_mem_nil,
      or_false] at hselects
    rcases hselects with ⟨hscope, rfl⟩ | ⟨hscope, rfl⟩
    all_goals exact requested_deep (by simp [stageDeepClean, deepFileTokens, hvendor, ← hscope,
      hentry]) .file
  | intel =>
    simp only [hvendor, scopeSelection, List.mem_cons, Prod.mk.injEq, List.not_mem_nil,
      or_false, true_and] at hselects
    rcases hselects with rfl | ⟨hscope, rfl⟩ | ⟨hscope, rfl⟩ | ⟨hscope, rfl⟩ |
      ⟨hscope, rfl⟩ | ⟨hscope, rfl⟩ | ⟨hscope, rfl⟩
    · exact requested_deep (by simp [stageDeepClean, deepFileTokens, hvendor, hentry]) .file
    · exact requested_early (by simp [stageEarlyServices, overlayServices, onlyIf, hvendor,
        ← hscope, hentry]) .service
    · exact requested_preclean (by simp [stagePrecleanPackages, stageIntelPackageScopes,
        cleanupCatalogRegistry, cleanupRegistry, onlyIf, hvendor, ← hscope, hentry])
        (.registry "clsid_igs")
    all_goals exact requested_preclean (by simp [stagePrecleanPackages, stageIntelPackageScopes,
      removePackages, onlyIf, hvendor, ← hscope, hentry]) .package
  | lisuan => simp [hvendor, scopeSelection] at hselects
  | realtek => simp [hvendor, scopeSelection] at hselects

/-- **A catalog that is selected** has its entries asked for. -/
theorem selected_requested (hselects : Selects opts file)
    (hentry : entry ∈ opts.tryLoad tree file) :
    Requested (plannedStages tree opts env) entry := by
  unfold Selects selection at hselects
  unfold plannedStages
  split_ifs at hselects with haudio hcache
  · have hfolder : opts.vendor.folder = "REALTEK" := by rw [realtek_of_isAudio haudio]; rfl
    rw [if_pos haudio]
    simp only [List.mem_cons, Prod.mk.injEq, List.not_mem_nil, or_false, true_and] at hselects
    rcases hselects with rfl | rfl | rfl | rfl | rfl
    · exact ⟨_, .tail _ (.head _), _,
        List.mem_flatMap.mpr ⟨entry, hentry, .head _⟩, .service⟩
    · exact ⟨_, .tail _ (.tail _ (.tail _ (.head _))), _,
        List.mem_append_right _ (List.mem_map_of_mem hentry), .file⟩
    all_goals rw [CleanOptions.tryLoad, hfolder] at hentry
    · exact ⟨_, .tail _ (.tail _ (.head _)), _, List.mem_append_left _ (List.mem_append_left _
        (List.mem_map_of_mem hentry)), .registry "classroot_cleanup"⟩
    · exact ⟨_, .tail _ (.tail _ (.head _)), _, List.mem_append_left _ (List.mem_append_right _
        (List.mem_map_of_mem hentry)), .registry "clsid_leftover"⟩
    · exact ⟨_, .tail _ (.tail _ (.head _)), _, List.mem_append_right _
        (List.mem_map_of_mem hentry), .package⟩
  · exact absurd hselects List.not_mem_nil
  · rw [if_neg haudio, if_neg hcache]
    rcases List.mem_append.mp hselects with hcommon | hscope
    · simp only [List.mem_cons, Prod.mk.injEq, List.not_mem_nil, or_false, true_and] at hcommon
      rcases hcommon with rfl | rfl | rfl | rfl | rfl | rfl | ⟨hsetup, rfl⟩
      · exact requested_deep (by simp [stageDeepClean, lenient, hentry]) .service
      · exact requested_deep (by simp [stageDeepClean, deepFileTokens, lenient, hentry]) .file
      · exact requested_preclean (by simp [stagePrecleanPackages, cleanupRegistry, lenient,
          hentry]) (.registry "classroot_cleanup")
      · exact requested_preclean (by simp [stagePrecleanPackages, cleanupRegistry, lenient,
          hentry]) (.registry "clsid_leftover")
      · exact requested_preclean (by simp [stagePrecleanPackages, removePackages, lenient,
          hentry]) .package
      · exact requested_preclean (by simp [stagePrecleanPackages, cleanupRegistry, lenient,
          hentry]) (.registry "interface_cleanup")
      · have hstage : stageSetupapi tree opts (lenient tree opts) =
            [{ name := "4_setupapi_devices"
               requests := setupapiRequests tree opts (lenient tree opts) }] := by
          rw [stageSetupapi, if_neg (by simpa using hsetup.symm)]
        refine ⟨⟨"4_setupapi_devices", setupapiRequests tree opts (lenient tree opts)⟩,
          by simp [gpuStages, hstage], .stopDeleteService entry, ?_, .service⟩
        simp [setupapiRequests, lenient, hentry]
    · exact requested_scope hscope hentry

/-- The names of the catalogs that only a scope or a vendor selects. -/
private def scopeFiles : CleanVendor → List String
  | .nvidia =>
      ["gfeservice.cfg", "classrootgfe.cfg", "clsidleftoverGFE.cfg", "interfaceGFE.cfg",
        "gfedriverfiles.cfg", "nvbservice.cfg", "clsidleftoverNVB.cfg", "nvbdriverfiles.cfg"]
  | .amd => ["driverfilesKMPFD.cfg", "driverfilesKMAFD.cfg"]
  | .intel =>
      ["shareddriverfiles.cfg", "servicesigs.cfg", "clsidleftoverigs.cfg", "packagesigs.cfg",
        "packagesnpu.cfg", "packagesoneapi.cfg", "packagesendurance.cfg"]
  | _ => []

private theorem map_scopeSelection (scopes : RemoveScopes) (vendor : CleanVendor) :
    (scopeSelection scopes vendor).map Prod.snd = scopeFiles vendor := by
  cases vendor <;> rfl

/-- Every catalog that is selected has a name that it can be read under. -/
theorem isCatalogName_of_selects (h : Selects opts file) : isCatalogName file = true := by
  have hscopes : ∀ name ∈ scopeFiles opts.vendor, isCatalogName name = true := by
    cases opts.vendor <;> exact List.all_eq_true.mp (by decide +kernel)
  have hcommon : ∀ name ∈ ["services.cfg", "driverfiles.cfg", "classroot.cfg",
      "clsidleftover.cfg", "packages.cfg", "interface.cfg", "servicesaudio.cfg"],
      isCatalogName name = true := List.all_eq_true.mp (by decide +kernel)
  have hname : file ∈ (selection opts).map Prod.snd := List.mem_map.mpr ⟨_, h, rfl⟩
  unfold selection at hname
  split_ifs at hname
  · refine hcommon file ?_
    simp only [List.map_cons, List.map_nil] at hname
    exact List.mem_of_mem_take (i := 5) hname
  · exact absurd hname List.not_mem_nil
  · rw [List.map_append, map_scopeSelection] at hname
    rcases List.mem_append.mp hname with hname | hname
    · simp only [List.map_cons, List.map_nil] at hname
      exact hcommon file hname
    · exact hscopes file hname

/-- Where no catalog that is selected has an entry to reject, the plan is complete. -/
theorem completePlan (host : Host) (hdry : opts.dryRun = true)
    (hnone : ∀ file, Selects opts file → ¬ tree.Rejected opts.vendor.folder file) :
    CompletePlan host tree opts := by
  intro result hresult file entry hselects hlists
  obtain ⟨_, rfl⟩ := (runClean_eq_ok hdry).mp hresult
  have hentry : entry ∈ opts.tryLoad tree file :=
    (mem_tryLoadLines (isCatalogName_folder _) (isCatalogName_of_selects hselects)).mpr
      ⟨hlists, hnone file hselects⟩
  obtain ⟨stage, hstage, request, hrequest, hfor⟩ :
      Requested (plannedStages tree opts host.env) entry := selected_requested hselects hentry
  obtain ⟨p, hp, htarget⟩ := hfor.planned host
  have hstages : stage ∈ allStages tree opts host.env :=
    List.mem_append_left _ (List.mem_append_right _ hstage)
  exact ⟨p.entry, mem_entries_iff.mpr ⟨request, List.mem_flatMap.mpr ⟨stage, hstages, hrequest⟩,
    p, hp, rfl⟩, rfl, htarget⟩

/-- **A plan is complete, and a rejected entry refused**, exactly where the run is refused
for what it cannot do without, or there is no such entry. -/
theorem complete_or_refused_iff (host : Host) (hdry : opts.dryRun = true) :
    (CompletePlan host tree opts ∧ RefusesRejected host tree opts) ↔
      Refused host tree opts ∨
        ∀ file, Selects opts file → ¬ tree.Rejected opts.vendor.folder file := by
  have herror : (∃ error, runClean host tree opts = .error error) ↔ Refused host tree opts :=
    exists_error_iff hdry
  by_cases hrefused : Refused host tree opts
  · refine iff_of_true ⟨?_, fun _ _ _ => herror.mpr hrefused⟩ (.inl hrefused)
    intro result hresult
    exact absurd hrefused ((runClean_eq_ok hdry).mp hresult).1
  · constructor
    · rintro ⟨_, hrefuses⟩
      exact .inr fun file hselects hrejected =>
        hrefused (herror.mp (hrefuses file hselects hrejected))
    · rintro (h | hnone)
      · exact absurd h hrefused
      · exact ⟨completePlan host hdry hnone, fun file hselects hrejected =>
          absurd hrejected (hnone file hselects)⟩

theorem nothingExecuted (host : Host) (hdry : opts.dryRun = true) :
    NothingExecuted host tree opts := by
  intro result hresult e he
  obtain ⟨_, rfl⟩ := (runClean_eq_ok hdry).mp hresult
  obtain ⟨_, _, p, _, rfl⟩ := mem_entries_iff.mp he
  rfl

end Complete

/-! ## Growth -/

theorem append_subset_append {α : Type} {a b c d : List α} (h : a ⊆ c) (h' : b ⊆ d) :
    a ++ b ⊆ c ++ d :=
  List.append_subset.mpr
    ⟨List.subset_append_of_subset_left _ h, List.subset_append_of_subset_right _ h'⟩

theorem onlyIf_subset {small large : Bool} {requests requests' : List Request}
    (h : small = true → large = true) (h' : requests ⊆ requests') :
    onlyIf small requests ⊆ onlyIf large requests' := by
  cases small with
  | false => simp [onlyIf]
  | true => rw [h rfl]; exact h'

/-- A scope that a vendor has: more of it is asked for. -/
theorem and_mono {vendor small large : Bool} (h : small = true → large = true) :
    (vendor && small) = true → (vendor && large) = true := by
  cases vendor with
  | false => exact id
  | true => exact h

theorem Within.installCaches {small large : RemoveScopes} (h : Within small large) :
    small.installCaches = true → large.installCaches = true := by
  intro hsmall
  rcases Bool.or_eq_true_iff.mp hsmall with hgfe | hcache
  · exact Bool.or_eq_true_iff.mpr (.inl (h.removeGfe hgfe))
  · exact Bool.or_eq_true_iff.mpr (.inr (h.removeInstallCache hcache))

/-- What one request asks for, the other one asks for. -/
def Asks (small large : List Stage) : Prop :=
  small.flatMap Stage.requests ⊆ large.flatMap Stage.requests

section Growth

variable {host : Host} {tree : SettingsTree} {opts : CleanOptions} {catalog : GpuCatalog}
  {env : Environment} {scopes : RemoveScopes}

/-- More requests make a plan grow. -/
theorem grows_of_asks {small large : CleanOptions} (hsmall : small.dryRun = true)
    (hlarge : large.dryRun = true)
    (h : Asks (allStages tree small host.env) (allStages tree large host.env)) :
    Grows host tree small large := by
  intro result result' hresult hresult' e he
  obtain ⟨_, rfl⟩ := (runClean_eq_ok hsmall).mp hresult
  obtain ⟨_, rfl⟩ := (runClean_eq_ok hlarge).mp hresult'
  obtain ⟨request, hrequest, hp⟩ := mem_entries_iff.mp he
  exact ⟨e, mem_entries_iff.mpr ⟨request, h hrequest, hp⟩, rfl⟩

theorem asks_append {a b c d : List Stage} (h : Asks a c) (h' : Asks b d) :
    Asks (a ++ b) (c ++ d) := by
  unfold Asks
  rw [List.flatMap_append, List.flatMap_append]
  exact append_subset_append h h'

theorem asks_cons {stage stage' : Stage} {stages stages' : List Stage}
    (h : stage.requests ⊆ stage'.requests) (h' : Asks stages stages') :
    Asks (stage :: stages) (stage' :: stages') := by
  unfold Asks
  rw [List.flatMap_cons, List.flatMap_cons]
  exact append_subset_append h h'

theorem asks_refl (stages : List Stage) : Asks stages stages := List.Subset.refl _

section Scopes

variable (h : Within opts.scopes scopes)

include h

theorem earlyServices_within :
    (stageEarlyServices tree opts catalog).requests ⊆
      (stageEarlyServices tree { opts with scopes } catalog).requests :=
  append_subset_append
    (append_subset_append
      (append_subset_append (List.Subset.refl _)
        (onlyIf_subset (and_mono h.removeGfe) (List.Subset.refl _)))
      (onlyIf_subset (and_mono h.removeNvBroadcast) (List.Subset.refl _)))
    (onlyIf_subset (and_mono h.removeIntelIgs) (List.Subset.refl _))

theorem intelPackageScopes_within :
    stageIntelPackageScopes tree opts ⊆ stageIntelPackageScopes tree { opts with scopes } :=
  append_subset_append
    (append_subset_append
      (append_subset_append (onlyIf_subset h.removeIntelIgs (List.Subset.refl _))
        (onlyIf_subset h.removeIntelNpu (List.Subset.refl _)))
      (onlyIf_subset h.removeOneapi (List.Subset.refl _)))
    (onlyIf_subset h.removeEndurance (List.Subset.refl _))

theorem vendorAppx_within : removeVendorAppx opts ⊆ removeVendorAppx { opts with scopes } := by
  unfold removeVendorAppx
  cases opts.vendor with
  | nvidia => exact List.cons_subset_cons _ (onlyIf_subset h.removeGfe (List.Subset.refl _))
  | _ => exact List.Subset.refl _

theorem precleanPackages_within :
    (stagePrecleanPackages tree opts catalog).requests ⊆
      (stagePrecleanPackages tree { opts with scopes } catalog).requests :=
  append_subset_append
    (append_subset_append
      (append_subset_append
        (append_subset_append (List.Subset.refl _)
          (onlyIf_subset (and_mono h.removeGfe) (List.Subset.refl _)))
        (onlyIf_subset (and_mono h.removeNvBroadcast) (List.Subset.refl _)))
      (onlyIf_subset id (intelPackageScopes_within h)))
    (vendorAppx_within h)

theorem setupapi_within :
    setupapiRequests tree opts catalog ⊆ setupapiRequests tree { opts with scopes } catalog :=
  append_subset_append
    (append_subset_append
      (append_subset_append
        (append_subset_append
          (append_subset_append (List.Subset.refl _)
            (onlyIf_subset (and_mono h.removeIntelNpu) (List.Subset.refl _)))
          (onlyIf_subset (and_mono h.removeAmdKmpfd) (List.Subset.refl _)))
        (List.Subset.refl _))
      (onlyIf_subset h.removeAudiobus (List.Subset.refl _)))
    (onlyIf_subset h.removeMonitors (List.Subset.refl _))

theorem asks_setupapi :
    Asks (stageSetupapi tree opts catalog) (stageSetupapi tree { opts with scopes } catalog) := by
  unfold stageSetupapi
  cases opts.noSetupApi with
  | true => exact asks_refl []
  | false => exact asks_cons (setupapi_within h) (asks_refl [])

theorem deepFileTokens_within :
    deepFileTokens tree opts catalog ⊆ deepFileTokens tree { opts with scopes } catalog := by
  have hload : CleanOptions.tryLoad { opts with scopes } tree = opts.tryLoad tree := rfl
  have hfile {small large : Bool} (load : String → List String) (file : String)
      (hscope : small = true → large = true) :
      (if small then load file else []) ⊆ if large then load file else [] := by
    cases small with
    | false => simp
    | true => rw [hscope rfl]; exact List.Subset.refl _
  unfold deepFileTokens
  rw [hload]
  generalize opts.tryLoad tree = load
  refine append_subset_append (List.Subset.refl _) ?_
  cases opts.vendor with
  | nvidia =>
    exact append_subset_append (hfile load _ h.removeGfe)
      (append_subset_append (hfile load _ h.removeNvBroadcast) (List.Subset.refl _))
  | amd =>
    exact append_subset_append (hfile load _ h.removeAmdKmpfd)
      (append_subset_append (hfile load _ h.removeAmdKmpfd) (List.Subset.refl _))
  | _ => exact List.Subset.refl _

theorem unpackTargets_within :
    cleanUnpackTargets opts ⊆ cleanUnpackTargets { opts with scopes } := by
  unfold cleanUnpackTargets
  cases opts.vendor with
  | nvidia => exact onlyIf_subset h.removeUnpackNvidia (List.Subset.refl _)
  | amd => exact onlyIf_subset h.removeUnpackAmd (List.Subset.refl _)
  | _ => exact List.Subset.refl _

theorem deepClean_within (hcaches : cleanCaches opts env ⊆ cleanCaches { opts with scopes } env) :
    (stageDeepClean tree opts catalog env).requests ⊆
      (stageDeepClean tree { opts with scopes } catalog env).requests :=
  append_subset_append
    (append_subset_append
      (append_subset_append
        (append_subset_append
          (append_subset_append (List.map_subset _ (deepFileTokens_within h))
            (List.Subset.refl _))
          (List.Subset.refl _))
        hcaches)
      (unpackTargets_within h))
    (append_subset_append (onlyIf_subset h.removePhysx (List.Subset.refl _))
      (onlyIf_subset h.removeVulkan (List.Subset.refl _)))

/-- **More scopes** make the stages of a graphics driver ask for more, except for caches. -/
theorem gpuStages_within
    (hcaches : cleanCaches opts env ⊆ cleanCaches { opts with scopes } env) :
    Asks (gpuStages tree opts catalog env) (gpuStages tree { opts with scopes } catalog env) :=
  asks_append
    (asks_append
      (asks_cons (List.Subset.refl _)
        (asks_cons (earlyServices_within h)
          (asks_cons (precleanPackages_within h) (asks_refl []))))
      (asks_setupapi h))
    (asks_cons (deepClean_within h hcaches) (asks_refl _))

theorem cacheOnly_within :
    cacheOnlyRequests opts env ⊆ cacheOnlyRequests { opts with scopes } env :=
  append_subset_append
    (append_subset_append
      (append_subset_append (List.Subset.refl _) (onlyIf_subset h.installCaches (List.Subset.refl _)))
      (onlyIf_subset (and_mono h.removeUnpackNvidia) (List.Subset.refl _)))
    (onlyIf_subset (and_mono h.removeUnpackAmd) (List.Subset.refl _))

end Scopes

/-- The wipe of the caches alone asks for less than the stages of the driver, except for
caches. -/
theorem cacheOnly_subset_deepClean (opts : CleanOptions)
    (hinstall : opts.scopes.installCaches = false) :
    cacheOnlyRequests opts env ⊆ (stageDeepClean tree opts catalog env).requests := by
  have hunpack : onlyIf (opts.vendor = .nvidia && opts.scopes.removeUnpackNvidia)
        [Request.wipePath "C:\\NVIDIA"] ++
      onlyIf (opts.vendor = .amd && opts.scopes.removeUnpackAmd) [.wipePath "C:\\AMD"] ⊆
        cleanUnpackTargets opts := by
    unfold cleanUnpackTargets
    cases opts.vendor with
    | nvidia => cases opts.scopes.removeUnpackNvidia <;> simp [onlyIf]
    | amd => cases opts.scopes.removeUnpackAmd <;> simp [onlyIf]
    | _ => simp [onlyIf]
  intro request hrequest
  rw [cacheOnlyRequests, hinstall, onlyIf, if_neg (by decide), List.append_nil,
    List.append_assoc] at hrequest
  have hcaches : cleanCaches opts env = (vendorShaderCaches opts.vendor).map
      (fun cache => .wipePath (env.expandPathTokens cache)) := by
    simp [cleanCaches, hinstall]
  refine List.mem_append_left _ ?_
  rcases List.mem_append.mp hrequest with hcache | hpath
  · exact List.mem_append_left _ (List.mem_append_right _ (hcaches ▸ hcache))
  · exact List.mem_append_right _ (hunpack hpath)

end Growth

/-! ## The cache that all vendors share -/

/-- The cache of the shaders of Direct3D. -/
def SHADER_CACHE : String := "%LOCALAPPDATA%\\D3DSCache"

/-- The paths that a request plans to wipe. -/
def wipes : Request → List String
  | .wipePath path => [path]
  | .plan surface action target | .planDetail surface action target _ =>
      if surface = "File" ∧ action = "wipe_path" then [target] else []
  | _ => []

theorem surface_pciRootEntries {vendorFolder venId : String} :
    ∀ p ∈ planPciRootEntries vendorFolder venId, p.surface ≠ "File" := by
  by_cases hfilters : pciFilterTokens vendorFolder = []
  · simp [planPciRootEntries, hfilters]
  · simp only [planPciRootEntries, if_neg hfilters, List.forall_mem_append, List.forall_mem_map]
    split_ifs <;> simp

theorem surface_mmdevicesEntries {tokens : List String} :
    ∀ p ∈ planMmdevicesEntries tokens, p.surface ≠ "File" := by
  unfold planMmdevicesEntries
  split_ifs <;> simp

/-- **A wipe in the plan** is one that a request asks for. -/
theorem mem_wipes (host : Host) (request : Request) :
    ∀ p ∈ DryRunEnvironment.planned host request, p.surface = "File" →
      p.action = "wipe_path" → p.target ∈ wipes request := by
  cases request with
  | cleanPciRoot vendorFolder venId =>
    exact fun p hp hsurface => absurd hsurface (surface_pciRootEntries p hp)
  | cleanMmdevices tokens =>
    exact fun p hp hsurface => absurd hsurface (surface_mmdevicesEntries p hp)
  | plan surface action target => simp +contextual [DryRunEnvironment.planned, wipes]
  | planDetail surface action target detail =>
    simp +contextual [DryRunEnvironment.planned, wipes]
  | _ => simp [DryRunEnvironment.planned, wipes]

/-- None of the requests wipes a path that ends in this name. -/
def Spares (name : List Char) (requests : List Request) : Prop :=
  ∀ request ∈ requests, ∀ path ∈ wipes request, lastName path.toList ≠ name

section Spares

variable {name : List Char} {tree : SettingsTree} {opts : CleanOptions} {catalog : GpuCatalog}

theorem Spares.append {a b : List Request} (h : Spares name a) (h' : Spares name b) :
    Spares name (a ++ b) :=
  List.forall_mem_append.mpr ⟨h, h'⟩

theorem Spares.onlyIf {enabled : Bool} {requests : List Request} (h : Spares name requests) :
    Spares name (onlyIf enabled requests) := by
  cases enabled with
  | false => simp [Spares, DriverFoundry.onlyIf]
  | true => exact h

theorem spares_of_quiet {requests : List Request} (h : requests.flatMap wipes = []) :
    Spares name requests := by
  intro request hrequest path hpath
  rw [List.flatMap_eq_nil_iff.mp h request hrequest] at hpath
  exact absurd hpath List.not_mem_nil

theorem spares_wipePaths {l : List String} (h : ∀ path ∈ l, lastName path.toList ≠ name) :
    Spares name (l.map .wipePath) := by
  intro request hrequest path hpath
  obtain ⟨wiped, hwiped, rfl⟩ := List.mem_map.mp hrequest
  rw [List.mem_singleton.mp hpath]
  exact h wiped hwiped

/-- Requests of one kind, which wipes nothing. -/
theorem spares_map {α : Type} {kind : α → Request} (h : ∀ x, wipes (kind x) = []) (l : List α) :
    Spares name (l.map kind) :=
  spares_of_quiet (by simp [List.flatMap_map, h])

theorem spares_early : Spares name (stageEarlyServices tree opts catalog).requests := by
  have hoverlay (enabled : Bool) (file : String) :
      Spares name (overlayServices tree opts enabled file) :=
    (spares_map (fun _ => rfl) _).onlyIf
  have hservices : Spares name (catalog.services.flatMap stopService) :=
    spares_of_quiet (by simp [List.flatMap_assoc, stopService, wipes])
  exact ((((spares_map (fun _ => rfl) _).append hservices).append (hoverlay _ _)).append
    (hoverlay _ _)).append (hoverlay _ _)

theorem spares_preclean : Spares name (stagePrecleanPackages tree opts catalog).requests := by
  have hregistry (action : String) (tokens : List String) :
      Spares name (cleanupRegistry action tokens) := spares_map (fun _ => rfl) tokens
  have hpackages (packages : List String) : Spares name (removePackages packages) :=
    spares_map (fun _ => rfl) packages
  have hintel : Spares name (stageIntelPackageScopes tree opts) :=
    (((((hregistry _ _).append (hpackages _)).onlyIf).append (hpackages _).onlyIf).append
      (hpackages _).onlyIf).append (hpackages _).onlyIf
  have happx : Spares name (removeVendorAppx opts) := by
    unfold removeVendorAppx
    cases opts.vendor with
    | nvidia => exact .append (a := [_]) (spares_of_quiet rfl) (spares_of_quiet rfl).onlyIf
    | _ => exact spares_of_quiet rfl
  have hgfe : Spares name
      (cleanupCatalogRegistry tree opts "classroot_gfe" "classrootgfe.cfg" ++
        cleanupCatalogRegistry tree opts "clsid_gfe" "clsidleftoverGFE.cfg" ++
        cleanupCatalogRegistry tree opts "interface_gfe" "interfaceGFE.cfg") :=
    ((hregistry _ _).append (hregistry _ _)).append (hregistry _ _)
  exact (((((((hregistry _ _).append (hregistry _ _)).append (hregistry _ _)).append
    (hpackages _)).append hgfe.onlyIf).append (hregistry _ _).onlyIf).append
    hintel.onlyIf).append happx

theorem spares_setupapi : Spares name (setupapiRequests tree opts catalog) := by
  have haudio : Spares name (catalog.servicesAudio.flatMap fun service =>
      [.stopDeleteService service, .uninstallDevice service]) :=
    spares_of_quiet (by simp [List.flatMap_assoc, wipes])
  have hkmpfd : Spares name (.uninstallDevice "KMPFD" ::
      (opts.tryLoad tree "driverfilesKMPFD.cfg").map .deleteFileMatch) :=
    .append (a := [_]) (spares_of_quiet rfl) (spares_map (fun _ => rfl) _)
  exact (((((spares_map (fun _ => rfl) _).append (spares_of_quiet rfl).onlyIf).append
    hkmpfd.onlyIf).append haudio).append (spares_of_quiet rfl).onlyIf).append
    (spares_of_quiet rfl).onlyIf

theorem spares_safeboot : Spares name ((safebootStages opts).flatMap Stage.requests) := by
  unfold safebootStages
  rw [List.flatMap_append]
  refine .append ?_ ?_ <;> split_ifs <;> exact spares_of_quiet rfl

theorem spares_power : Spares name ((powerStages opts).flatMap Stage.requests) := by
  unfold powerStages
  cases opts.restart <;> cases opts.shutdown <;> exact spares_of_quiet rfl

theorem spares_deepClean {env : Environment}
    (h : Spares name (cleanCaches opts env ++ cleanUnpackTargets opts)) :
    Spares name (stageDeepClean tree opts catalog env).requests := by
  have hparts := List.forall_mem_append.mp h
  exact (((((spares_map (fun _ => rfl) _).append (spares_map (fun _ => rfl) _)).append
    (spares_map (fun _ => rfl) _)).append hparts.1).append hparts.2).append
    ((spares_of_quiet rfl).onlyIf.append (spares_of_quiet rfl).onlyIf)

/-- **The stages of a graphics driver** wipe a path of a name only for its caches and where
its installer unpacked it. -/
theorem spares_allStages (opts : CleanOptions) {env : Environment} (hmode : GpuMode opts)
    (h : Spares name (cleanCaches opts env ++ cleanUnpackTargets opts)) :
    Spares name ((allStages tree opts env).flatMap Stage.requests) := by
  have hresolve : Spares name (stageResolveGpu opts).requests :=
    (spares_of_quiet rfl).onlyIf.append (spares_of_quiet rfl).onlyIf
  have hsetupapi : Spares name ((stageSetupapi tree opts (lenient tree opts)).flatMap
      Stage.requests) := by
    unfold stageSetupapi
    split_ifs
    · exact spares_of_quiet rfl
    · exact spares_setupapi.append (spares_of_quiet rfl)
  have hgpu : Spares name ((gpuStages tree opts (lenient tree opts) env).flatMap
      Stage.requests) := by
    rw [gpuStages, List.flatMap_append, List.flatMap_append]
    exact ((hresolve.append (spares_early.append (spares_preclean.append
      (spares_of_quiet rfl)))).append hsetupapi).append
      ((spares_deepClean h).append (spares_of_quiet rfl))
  rw [allStages, plannedStages, hmode.1, hmode.2, List.flatMap_append, List.flatMap_append]
  exact (spares_safeboot.append hgpu).append spares_power

end Spares

/-- The name of the cache that all vendors share. -/
private theorem lastName_shaderCache (env : Environment) :
    lastName (env.expandPathTokens SHADER_CACHE).toList = "D3DSCache".toList := by
  rw [lastName_expandPathTokens env (by decide) (by decide)]
  decide

/-- No cache of an installer is the one that all vendors share. -/
theorem spares_installCaches {opts : CleanOptions} {env : Environment}
    (h : opts.scopes.installCaches = true) :
    Spares "D3DSCache".toList (cleanCaches opts env ++ cleanUnpackTargets opts) := by
  have htokens : ∀ vendor, ∀ cache ∈ vendorInstallCaches vendor,
      '\\' ∈ cache.toList ∧ '%' ∉ lastName cache.toList ∧
        lastName cache.toList ≠ "D3DSCache".toList := by
    intro vendor
    cases vendor <;> exact List.forall_mem_cons.mpr (by decide)
  refine Spares.append ?_ ?_
  · intro request hrequest path hpath
    rw [cleanCaches, if_pos h, List.mem_map] at hrequest
    obtain ⟨cache, hcache, rfl⟩ := hrequest
    obtain ⟨hsep, htoken, hname⟩ := htokens _ cache hcache
    obtain rfl := List.mem_singleton.mp hpath
    rwa [lastName_expandPathTokens env hsep htoken]
  · unfold cleanUnpackTargets
    cases opts.vendor with
    | nvidia =>
      exact (spares_wipePaths (l := ["C:\\NVIDIA", "C:\\NVIDIA\\DisplayDriver"])
        (List.forall_mem_cons.mpr (by decide))).onlyIf
    | amd =>
      exact (spares_wipePaths (l := ["C:\\AMD", "C:\\AMD\\AMD-Software"])
        (List.forall_mem_cons.mpr (by decide))).onlyIf
    | _ => exact spares_of_quiet rfl

/-! ## When a plan grows -/

section Iff

variable {host : Host} {tree : SettingsTree} {opts : CleanOptions} {scopes : RemoveScopes}

/-- A cache that one run wipes and the other one leaves. -/
theorem not_grows {small large : CleanOptions} (hsmall : small.dryRun = true)
    (hlarge : large.dryRun = true) (hruns : ¬ Refused host tree small)
    (hruns' : ¬ Refused host tree large)
    (hwipe : .wipePath (host.env.expandPathTokens SHADER_CACHE) ∈
      (allStages tree small host.env).flatMap Stage.requests)
    (hspares : Spares "D3DSCache".toList
      ((allStages tree large host.env).flatMap Stage.requests)) :
    ¬ Grows host tree small large := by
  intro hgrows
  obtain ⟨e', he', habout⟩ := hgrows _ _ ((runClean_eq_ok hsmall).mpr ⟨hruns, rfl⟩)
    ((runClean_eq_ok hlarge).mpr ⟨hruns', rfl⟩) _
    (mem_entries_iff.mpr ⟨_, hwipe, _, List.mem_singleton_self _, rfl⟩)
  obtain ⟨request, hrequest, p, hp, rfl⟩ := mem_entries_iff.mp he'
  obtain ⟨hsurface, haction, htarget⟩ : p.surface = "File" ∧ p.action = "wipe_path" ∧
      p.target = host.env.expandPathTokens SHADER_CACHE := by
    simpa [about, Planned.entry] using habout
  refine hspares request hrequest _ (mem_wipes host request p hp hsurface haction) ?_
  rw [htarget, lastName_shaderCache]

/-- A run that is refused plans nothing that another one lacks. -/
theorem grows_of_refused {small large : CleanOptions} (hsmall : small.dryRun = true)
    (hlarge : large.dryRun = true) (h : Refused host tree small ∨ Refused host tree large) :
    Grows host tree small large := by
  intro result result' hresult hresult'
  rcases h with hrefused | hrefused
  · exact absurd hrefused ((runClean_eq_ok hsmall).mp hresult).1
  · exact absurd hrefused ((runClean_eq_ok hlarge).mp hresult').1

/-- The cache is one of the shader caches of every vendor. -/
theorem mem_shaderCaches (vendor : CleanVendor) : SHADER_CACHE ∈ vendorShaderCaches vendor := by
  cases vendor <;> decide

theorem wipes_shaderCache_gpu {env : Environment} (hmode : GpuMode opts)
    (hinstall : opts.scopes.installCaches = false) :
    .wipePath (env.expandPathTokens SHADER_CACHE) ∈
      (allStages tree opts env).flatMap Stage.requests := by
  have hcaches : .wipePath (env.expandPathTokens SHADER_CACHE) ∈ cleanCaches opts env := by
    rw [cleanCaches, hinstall]
    exact List.mem_map.mpr ⟨_, mem_shaderCaches _, rfl⟩
  refine List.mem_flatMap.mpr ⟨stageDeepClean tree opts (lenient tree opts) env, ?_, ?_⟩
  · simp [allStages, plannedStages, hmode.1, hmode.2, gpuStages]
  · simp [stageDeepClean, hcaches]

theorem wipes_shaderCache_cacheOnly {env : Environment} (haudio : opts.vendor.isAudio = false)
    (hcache : opts.cacheOnly = true) :
    .wipePath (env.expandPathTokens SHADER_CACHE) ∈
      (allStages tree opts env).flatMap Stage.requests := by
  have hshader : ∃ cache ∈ vendorShaderCaches opts.vendor,
      env.expandPathTokens cache = env.expandPathTokens SHADER_CACHE :=
    ⟨_, mem_shaderCaches _, rfl⟩
  simp [allStages, plannedStages, haudio, hcache, cacheOnlyRequests, hshader]

/-- **More scopes**: the plan grows, unless the caches of the installer come in. -/
theorem grows_scopes_iff (hdry : opts.dryRun = true) (h : Within opts.scopes scopes) :
    Grows host tree opts { opts with scopes } ↔
      Refused host tree opts ∨ ¬ GpuMode opts ∨
        (scopes.installCaches = true → opts.scopes.installCaches = true) := by
  by_cases hrefused : Refused host tree opts
  · exact iff_of_true (grows_of_refused hdry hdry (.inl hrefused)) (.inl hrefused)
  by_cases hmode : GpuMode opts
  · by_cases hcaches : scopes.installCaches = true → opts.scopes.installCaches = true
    · have hsame : scopes.installCaches = opts.scopes.installCaches :=
        Bool.eq_iff_iff.mpr ⟨hcaches, h.installCaches⟩
      have hwithin : cleanCaches opts host.env ⊆ cleanCaches { opts with scopes } host.env := by
        rw [cleanCaches, cleanCaches, hsame]
        exact List.Subset.refl _
      refine iff_of_true (grows_of_asks hdry hdry ?_) (.inr (.inr hcaches))
      refine asks_append (asks_append (asks_refl _) ?_) (asks_refl _)
      rw [plannedStages, plannedStages, hmode.1, hmode.2]
      exact gpuStages_within h hwithin
    · refine iff_of_false ?_ (by simp [hrefused, hmode, hcaches])
      obtain ⟨hlarge, hsmall⟩ := Classical.not_imp.mp hcaches
      exact not_grows hdry hdry hrefused hrefused
        (wipes_shaderCache_gpu hmode (Bool.eq_false_iff.mpr hsmall))
        (spares_allStages { opts with scopes } hmode (spares_installCaches hlarge))
  · refine iff_of_true (grows_of_asks hdry hdry ?_) (.inr (.inl hmode))
    refine asks_append (asks_append (asks_refl _) ?_) (asks_refl _)
    rw [plannedStages, plannedStages]
    cases haudio : opts.vendor.isAudio with
    | true => exact asks_refl _
    | false =>
      have hcache : opts.cacheOnly = true := by
        by_contra hgpu
        exact hmode ⟨haudio, Bool.eq_false_iff.mpr hgpu⟩
      rw [if_neg Bool.false_ne_true, hcache]
      exact asks_cons (List.Subset.refl _) (asks_cons (cacheOnly_within h) (asks_refl _))

/-- What refuses the wipe of the caches alone refuses the stages of the driver. -/
theorem refused_of_cacheOnly (h : Refused host tree opts) :
    Refused host tree { opts with cacheOnly := false } := by
  rcases h with ⟨file, hfile, hbad⟩ | hreport
  · refine .inl ⟨file, ?_, hbad⟩
    unfold required at hfile ⊢
    split_ifs at hfile with hcache
    · simp [List.mem_singleton.mp hfile]
    · simpa using hfile
  · exact .inr hreport

/-- **The stages of the driver** plan what the wipe of the caches alone does, unless it is to
wipe the caches of the installer too. -/
theorem grows_mode_iff (hdry : opts.dryRun = true) (hcache : opts.cacheOnly = true) :
    Grows host tree opts { opts with cacheOnly := false } ↔
      Refused host tree { opts with cacheOnly := false } ∨ opts.vendor.isAudio = true ∨
        opts.scopes.installCaches = false := by
  by_cases hrefused : Refused host tree { opts with cacheOnly := false }
  · exact iff_of_true (grows_of_refused hdry hdry (.inr hrefused)) (.inl hrefused)
  have hruns : ¬ Refused host tree opts := fun h => hrefused (refused_of_cacheOnly h)
  cases haudio : opts.vendor.isAudio with
  | true =>
    refine iff_of_true (grows_of_asks hdry hdry ?_) (.inr (.inl rfl))
    refine asks_append (asks_append (asks_refl _) ?_) (asks_refl _)
    rw [plannedStages, plannedStages, haudio]
    exact asks_refl _
  | false =>
    cases hinstall : opts.scopes.installCaches with
    | true =>
      refine iff_of_false ?_ (by simp [hrefused])
      exact not_grows hdry hdry hruns hrefused (wipes_shaderCache_cacheOnly haudio hcache)
        (spares_allStages { opts with cacheOnly := false } ⟨haudio, rfl⟩
          (spares_installCaches hinstall))
    | false =>
      refine iff_of_true (grows_of_asks hdry hdry ?_) (.inr (.inr rfl))
      refine asks_append (asks_append (asks_refl _) ?_) (asks_refl _)
      intro request hrequest
      have hwipe : request ∈ cacheOnlyRequests opts host.env := by
        simpa [plannedStages, haudio, hcache] using hrequest
      refine List.mem_flatMap.mpr ⟨stageDeepClean tree { opts with cacheOnly := false }
        (lenient tree opts) host.env, ?_, ?_⟩
      · simp [plannedStages, haudio, gpuStages, lenient, CleanOptions.tryLoad]
      · exact cacheOnly_subset_deepClean { opts with cacheOnly := false } hinstall hwipe

end Iff

/-- **The plan of a cleanup**: for every host, every settings tree and every dry run, it is
complete and rejected entries refuse it exactly where the run is refused anyway or no catalog
that is selected has such an entry; nothing is executed; more scopes make it grow exactly
where they do not exchange the shader caches for those of the installer; and the stages of
the driver plan what the wipe of the caches alone does exactly where that one leaves the
caches of the installer. -/
theorem cleanPlan (host : Host) (tree : SettingsTree) (opts : CleanOptions)
    (hdry : opts.dryRun = true) :
    (CompletePlan host tree opts ∧ RefusesRejected host tree opts ↔
      Refused host tree opts ∨
        ∀ file, Selects opts file → ¬ tree.Rejected opts.vendor.folder file) ∧
    NothingExecuted host tree opts ∧
    (∀ scopes, Within opts.scopes scopes →
      (Grows host tree opts { opts with scopes } ↔
        Refused host tree opts ∨ ¬ GpuMode opts ∨
          (scopes.installCaches = true → opts.scopes.installCaches = true))) ∧
    (opts.cacheOnly = true →
      (Grows host tree opts { opts with cacheOnly := false } ↔
        Refused host tree { opts with cacheOnly := false } ∨ opts.vendor.isAudio = true ∨
          opts.scopes.installCaches = false)) :=
  ⟨complete_or_refused_iff host hdry, nothingExecuted host hdry,
    fun _ hwithin => grows_scopes_iff hdry hwithin, fun hcache => grows_mode_iff hdry hcache⟩

/-! ## A tree of three catalogs -/

/-- A host without variables, on which nothing exists. -/
def bareHost : Host where
  env := { var := fun _ => none, tempDir := "C:\\Temp" }
  pathExists := fun _ => false
  reportError := fun _ => none

/-- The catalogs of one vendor, with some text in that of the packages. -/
def smallTree (packages : String) : SettingsTree := fun vendor file =>
  if vendor = "NVIDIA" then
    if file = "services.cfg" then some "nvlddmkm\n"
    else if file = "driverfiles.cfg" then some "nvapi64.dll\r\n\\opencl64.dll\n"
    else if file = "packages.cfg" then some packages
    else none
  else none

def nvidiaRun : CleanOptions := { vendor := .nvidia, settingsRoot := "settings" }

/-- The entries of such a tree are accepted if those of the packages are. -/
private theorem smallTree_accepted (packages : String)
    (h : ∀ entry ∈ entryLines packages, validateEntry entry = true) (vendor file : String) :
    ¬ (smallTree packages).Rejected vendor file := by
  rintro ⟨entry, ⟨text, htext, hentry⟩, hrejected⟩
  have haccepted : validateEntry entry = true := by
    unfold smallTree at htext
    split_ifs at htext
    · obtain rfl := Option.some.inj htext
      exact List.all_eq_true.mp (by decide +kernel) entry hentry
    · obtain rfl := Option.some.inj htext
      exact List.all_eq_true.mp (by decide +kernel) entry hentry
    · obtain rfl := Option.some.inj htext
      exact h entry hentry
  rw [haccepted] at hrejected
  cases hrejected

/-- The plan of a tree whose entries are all accepted is complete, and grows with a scope. -/
theorem cleanPlan_accepted :
    CompletePlan bareHost (smallTree "NVIDIACorp.NVIDIAControlPanel") nvidiaRun ∧
      Grows bareHost (smallTree "NVIDIACorp.NVIDIAControlPanel") nvidiaRun
        { nvidiaRun with scopes := { removePhysx := true } } := by
  have hplan := cleanPlan bareHost (smallTree "NVIDIACorp.NVIDIAControlPanel") nvidiaRun rfl
  have haccepted := smallTree_accepted "NVIDIACorp.NVIDIAControlPanel"
    (List.all_eq_true.mp (by decide +kernel))
  refine ⟨(hplan.1.mpr (.inr fun file _ => haccepted _ file)).1, ?_⟩
  refine (hplan.2.2.1 { removePhysx := true } ?_).mpr (.inr (.inr ?_))
  · constructor <;> decide
  · decide

/-- **A catalog with an entry to reject** is dropped from the plan of a run that is not
refused, and the caches of the installer take the place of those of the shaders. -/
theorem catalog_dropped :
    (¬ (CompletePlan bareHost (smallTree "NVIDIACorp.NVIDIAControlPanel\nbad;entry") nvidiaRun ∧
      RefusesRejected bareHost (smallTree "NVIDIACorp.NVIDIAControlPanel\nbad;entry")
        nvidiaRun)) ∧
    ¬ Grows bareHost (smallTree "NVIDIACorp.NVIDIAControlPanel") nvidiaRun
      { nvidiaRun with scopes := { removeInstallCache := true } } := by
  constructor
  · rintro ⟨_, hrefuses⟩
    obtain ⟨error, herror⟩ := hrefuses "packages.cfg" (by decide)
      ⟨"bad;entry", ⟨_, rfl, by decide +kernel⟩, by decide +kernel⟩
    have hok : (runClean bareHost
        (smallTree "NVIDIACorp.NVIDIAControlPanel\nbad;entry") nvidiaRun).isOk = true := by
      decide +kernel
    rw [herror] at hok
    cases hok
  · intro hgrows
    have hwithin : Within nvidiaRun.scopes { removeInstallCache := true } := by
      constructor <;> decide
    rcases (grows_scopes_iff (by rfl) hwithin).mp hgrows with hrefused | hmode | hcaches
    · obtain ⟨error, herror⟩ := (exists_error_iff (by rfl)).mpr hrefused
      have hok : (runClean bareHost (smallTree "NVIDIACorp.NVIDIAControlPanel")
          nvidiaRun).isOk = true := by
        decide +kernel
      rw [herror] at hok
      cases hok
    · exact hmode ⟨rfl, rfl⟩
    · exact absurd (hcaches (by decide)) (by decide)

end FrametimeCfg.Verified.CleanPlan
