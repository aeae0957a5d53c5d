import FrametimeCfg.Lib.Splitting
import FrametimeCfg.Verified.Cs2ConfigInverse
import Mathlib.Data.Bool.AllAny

/-!
# Generating the CFG files

The line that is added to an autoexec stands on its own, so the text it was added to is left
alone from then on.  An apply therefore settles: what it writes is what it would write
again, and its sidecars are only created where there is none.

* `runsOptimization_ensureAutoexecLine`, `ensureAutoexecLine_idem` — the text.
* `apply_quiet` — an apply that meets no fault, and what it does to the sidecars.
* `preview_agrees`, `verify_quiet`, `apply_again` — what holds after an apply.
* `runEvents_keeps` — sidecars over applies and edits.
-/

namespace FrametimeCfg.Verified.CfgGeneration

open FrametimeCfg.Domain
open FrametimeCfg.Lib.Checks (reject reject_eq_ok okOr_eq_ok okOr)
open FrametimeCfg.Lib.Effect
open FrametimeCfg.Lib.FileCalls
open FrametimeCfg.Lib.Text
open FrametimeCfg.Verified.Cs2ConfigInverse
open Cs2ConfigController (autoexecText expectedAutoexec autoexecChanges readAutoexec
  writeAutoexec backupAutoexec applyPathsSafe verifyAutoexec verifyDeployment)

/-! ## The line of autoexec -/

/-- **A line that runs the generated file.**  What stands before any comment is the command,
up to blanks and case. -/
def RunsOptimization (line : List Char) : Prop :=
  ∃ command comment, line = command ++ comment ∧ ¬ ['/', '/'] <:+: command ∧
    (comment = [] ∨ ['/', '/'] <+: comment) ∧
    eqIgnoreAsciiCase (String.ofList (trim command)) AUTOEXEC_LINE = true

theorem runsOptimization_of_exec {line : List Char} (h : isOptimizationExec line = true) :
    RunsOptimization line := by
  unfold isOptimizationExec at h
  cases hcut : splitOnceText ['/', '/'] line with
  | none =>
    rw [hcut] at h
    exact ⟨line, [], by simp, splitOnceText_eq_none hcut, .inl rfl, h⟩
  | some cut =>
    obtain ⟨command, comment⟩ := cut
    rw [hcut] at h
    obtain ⟨hline, hfree⟩ := splitOnceText_eq_some (by simp) hcut
    refine ⟨command, ['/', '/'] ++ comment, ?_, hfree, .inr (by simp), h⟩
    rw [hline, List.append_assoc]

private theorem isOptimizationExec_line : isOptimizationExec AUTOEXEC_LINE.toList = true := by
  have hcut : splitOnceText ['/', '/'] AUTOEXEC_LINE.toList = none := by decide +kernel
  have htrim : trim AUTOEXEC_LINE.toList = AUTOEXEC_LINE.toList := by decide +kernel
  unfold isOptimizationExec
  rw [hcut]
  show eqIgnoreAsciiCase (String.ofList (trim AUTOEXEC_LINE.toList)) AUTOEXEC_LINE = true
  rw [htrim, String.ofList_toList]
  simp [eqIgnoreAsciiCase]

/-- The line after a line feed. -/
private theorem exec_of_append {before : List Char} :
    (lines (before ++ ['\n'] ++ AUTOEXEC_LINE.toList ++ "\n".toList)).any
      isOptimizationExec = true := by
  have hfree : ∀ c ∈ AUTOEXEC_LINE.toList, c ≠ '\n' :=
    List.all_iff_forall_prop.mp (by decide +kernel)
  have hend : AUTOEXEC_LINE.toList.getLast? ≠ some '\r' := by decide +kernel
  rw [List.append_assoc, List.append_assoc]
  exact List.any_eq_true.mpr ⟨_, mem_lines hfree hend, isOptimizationExec_line⟩

/-- A text that was extended has the line. -/
theorem exec_ensureAutoexecLine (existing : String) :
    (lines (ensureAutoexecLine existing).toList).any isOptimizationExec = true := by
  unfold ensureAutoexecLine
  by_cases hexec : (lines existing.toList).any isOptimizationExec = true
  · rwa [if_pos hexec]
  · rw [if_neg hexec]
    by_cases hempty : existing = ""
    · have hbreak : "guarantee precedence.\n\n".toList =
          "guarantee precedence.\n".toList ++ ['\n'] := by decide +kernel
      rw [if_pos hempty, String.toList_append, String.toList_append, String.toList_append,
        hbreak, ← List.append_assoc]
      exact exec_of_append
    · rw [if_neg hempty]
      -- whatever is put between, a line feed stands before the line
      have hbreak : ∃ before, existing.toList ++
          (if ['\n'].isSuffixOf existing.toList then "" else "\n").toList ++
          (if hasBlankFinalLine existing.toList then "" else "\n").toList =
            before ++ ['\n'] := by
        by_cases hblank : hasBlankFinalLine existing.toList = true
        · by_cases hend : ['\n'].isSuffixOf existing.toList = true
          · obtain ⟨before, hbefore⟩ := List.isSuffixOf_iff_suffix.mp hend
            exact ⟨before, by rw [if_pos hblank, if_pos hend]; simp [hbefore]⟩
          · exact ⟨existing.toList, by rw [if_pos hblank, if_neg hend]; simp⟩
        · exact ⟨_, by rw [if_neg hblank]; rfl⟩
      obtain ⟨before, hbefore⟩ := hbreak
      rw [String.toList_append, String.toList_append, String.toList_append,
        String.toList_append, hbefore]
      exact exec_of_append

/-- **The text gets the line.** -/
theorem runsOptimization_ensureAutoexecLine (existing : String) :
    ∃ line ∈ lines (ensureAutoexecLine existing).toList, RunsOptimization line := by
  obtain ⟨line, hmem, hexec⟩ := List.any_eq_true.mp (exec_ensureAutoexecLine existing)
  exact ⟨line, hmem, runsOptimization_of_exec hexec⟩

/-- **The text gets it once.** -/
theorem ensureAutoexecLine_idem (existing : String) :
    ensureAutoexecLine (ensureAutoexecLine existing) = ensureAutoexecLine existing :=
  if_pos (exec_ensureAutoexecLine existing)

/-- **Nothing of the text is lost.** -/
theorem prefix_ensureAutoexecLine (existing : String) :
    existing.toList <+: (ensureAutoexecLine existing).toList := by
  unfold ensureAutoexecLine
  split
  · exact List.prefix_rfl
  · split
    · rename_i hempty
      rw [hempty]
      exact List.nil_prefix
    · rw [String.toList_append, String.toList_append, String.toList_append,
        String.toList_append, List.append_assoc, List.append_assoc, List.append_assoc]
      exact List.prefix_append _ _

/-! ## Calls that meet no fault -/

section

variable {s t : Files FilePath} {path : FilePath}

/-- The files with a sidecar of `original`, which is only made where there is none. -/
def backedUp (s : Files FilePath) (path : FilePath) (original : Option Bytes) :
    Files FilePath :=
  match original, s.content path with
  | some bytes, none => s.put path (some bytes)
  | _, _ => s

@[simp] theorem backedUp_faults (original : Option Bytes) :
    (backedUp s path original).faults = s.faults := by
  unfold backedUp
  split <;> rfl

theorem backedUp_ne {original : Option Bytes} {q : FilePath} (h : q ≠ path) :
    (backedUp s path original).content q = s.content q := by
  unfold backedUp
  split
  · exact s.put_ne _ h
  · rfl

/-- A sidecar is kept. -/
theorem backedUp_keeps {original : Option Bytes} {q : FilePath} {bytes : Bytes}
    (h : s.content q = some bytes) : (backedUp s path original).content q = some bytes := by
  by_cases hq : q = path
  · unfold backedUp
    split
    · rename_i hnone
      rw [hq, hnone] at h
      cases h
    · exact h
  · rw [backedUp_ne hq, h]

theorem next_quiet_eq (hs : s.faults = []) : s.next = s := by
  rcases s with ⟨content, faults⟩
  subst hs
  rfl

theorem readOptional_eq (hs : s.faults = []) :
    readOptional path s = (.ok (s.content path), s) := by
  rw [readOptional_quiet path hs, next_quiet_eq hs]

theorem readFile_eq {bytes : Bytes} (hs : s.faults = []) (h : s.content path = some bytes) :
    readFile path s = (.ok bytes, s) := by
  rw [readFile_quiet path hs, next_quiet_eq hs, h]

theorem ensureCfgDirectory_eq (install : Cs2Install) (hs : s.faults = []) :
    ensureCfgDirectory install.installRoot (cfgPaths install).cfgDirectory s =
      (.ok (), s) := by
  have htouch : touch s = (.ok (), s) := by
    unfold touch
    rw [Files.fault_quiet hs, next_quiet_eq hs]
  unfold ensureCfgDirectory
  rw [bind_apply_ok (relabel_eq_ok.mpr htouch)]
  show (assertExistingPathSafe _ _, s) = _
  rw [cfgPaths, cfgDirectory, safe_joinNames _ (by simp)]

theorem createSidecar_eq (stage : String) (original : Bytes) (hs : s.faults = []) :
    ∃ backup, createSidecar stage path original s =
      (.ok backup, backedUp s path (some original)) := by
  cases hcontent : s.content path with
  | some bytes =>
    have hcreate : createFileNew path original s = (.error .alreadyExists, s) := by
      unfold createFileNew store
      rw [Files.fault_quiet hs, hcontent, next_quiet_eq hs]
    refine ⟨.retained path, ?_⟩
    unfold createSidecar backedUp
    rw [bind_apply_ok (attempt_eq_ok.mpr hcreate), hcontent]
    rfl
  | none =>
    have hcreate : createFileNew path original s = (.ok (), s.put path (some original)) := by
      unfold createFileNew store
      rw [Files.fault_quiet hs, hcontent, next_quiet_eq hs]
    have hread : readFile path (s.put path (some original)) =
        (.ok original, s.put path (some original)) :=
      readFile_eq hs (Files.put_self _ _ _)
    refine ⟨.created path, ?_⟩
    unfold createSidecar backedUp
    rw [bind_apply_ok (attempt_eq_ok.mpr hcreate), hcontent]
    simp only []
    rw [bind_apply_ok (relabel_eq_ok.mpr hread)]
    simp [reject]
    rfl

theorem createOptimizationBackup_eq (path : FilePath) (original : Option Bytes)
    (hs : s.faults = []) :
    ∃ backup, createOptimizationBackup path original s =
      (.ok backup, backedUp s path original) := by
  cases original with
  | none => exact ⟨.notNeeded, rfl⟩
  | some bytes => exact createSidecar_eq _ bytes hs

/-- The sidecar of autoexec is only made where autoexec changes. -/
theorem backupAutoexec_eq (cfg : Cs2Paths) (request : Cs2ConfigRequest)
    (original : Option Bytes) (updated : Bool) (hs : s.faults = []) :
    ∃ backup, backupAutoexec cfg request original updated s = (.ok backup,
      backedUp s cfg.autoexecBackupPath
        (if request.bootstrapAutoexec = true ∧ updated = true then original else none)) := by
  unfold backupAutoexec createAutoexecBackup
  by_cases hboot : request.bootstrapAutoexec = true
  · cases updated with
    | false => exact ⟨.notNeeded, by simp [hboot, backedUp]⟩
    | true =>
      cases original with
      | none => exact ⟨.notNeeded, by simp [hboot, backedUp]⟩
      | some bytes => simpa [hboot] using createSidecar_eq _ bytes hs
  · exact ⟨.notNeeded, by simp [hboot, backedUp]⟩

end

/-! ## An apply without faults -/

/-- The bytes of autoexec that a request reads. -/
def autoexecRead (install : Cs2Install) (request : Cs2ConfigRequest) (s : Files FilePath) :
    Option Bytes :=
  if request.bootstrapAutoexec then s.content (targetPath install .autoexec) else none

section

variable {controller : Cs2ConfigController} {install : Cs2Install}
  {request : Cs2ConfigRequest} {bytes : CfgAssets} {s t : Files FilePath}

theorem readAutoexec_eq (hs : s.faults = []) :
    readAutoexec (cfgPaths install) request s = (.ok (autoexecRead install request s), s) := by
  unfold readAutoexec autoexecRead
  by_cases hboot : request.bootstrapAutoexec = true
  · rw [if_pos hboot, if_pos hboot]
    exact readOptional_eq hs
  · rw [if_neg hboot, if_neg hboot]
    rfl

/-- A file of the directory is a safe target. -/
theorem safe_file (install : Cs2Install) (name : String) :
    ensureSafeTarget (cfgDirectory install) (joinNames (cfgDirectory install) [name]) =
      .ok () :=
  safe_joinNames _ (by simp)

theorem safe_targetPath (install : Cs2Install) (target : Cs2ConfigTarget) :
    ensureSafeTarget (cfgDirectory install) (targetPath install target) = .ok () := by
  rw [targetPath_eq]
  exact safe_file install _

/-- The checks of the autoexec paths. -/
theorem safe_autoexec (install : Cs2Install) (request : Cs2ConfigRequest) :
    (if request.bootstrapAutoexec then
      [(cfgPaths install).autoexecPath, (cfgPaths install).autoexecBackupPath] else []).forM
        (ensureSafeTarget (cfgPaths install).cfgDirectory) = .ok () := by
  refine forM_ok fun path hpath => ?_
  split at hpath
  · rcases List.mem_pair.mp hpath with rfl | rfl
    · exact safe_targetPath install .autoexec
    · exact safe_file install _
  · cases hpath

theorem safe_deployment {deployment : CfgAssetDeployment} {assets : Finset OptionalCfgAsset}
    (h : deployment ∈ (cfgPaths install).deploymentsForAssets bytes assets) :
    ensureSafeTarget (cfgPaths install).cfgDirectory deployment.target = .ok () := by
  obtain ⟨asset, _, rfl⟩ := List.mem_map.mp h
  exact safe_file install _

theorem applyPathsSafe_eq (install : Cs2Install) (bytes : CfgAssets)
    (request : Cs2ConfigRequest) :
    applyPathsSafe (cfgPaths install) request
      ((cfgPaths install).deploymentsForAssets bytes request.optionalAssets) = .ok () := by
  have hoptimization : ensureSafeTarget (cfgPaths install).cfgDirectory
      (cfgPaths install).optimizationPath = .ok () := safe_targetPath install .optimization
  have hbackup : ensureSafeTarget (cfgPaths install).cfgDirectory
      (cfgPaths install).optimizationBackupPath = .ok () := safe_file install _
  unfold applyPathsSafe
  rw [hoptimization, hbackup]
  simp only [Lib.Checks.bind_ok]
  rw [safe_autoexec, Lib.Checks.bind_ok]
  exact forM_ok fun deployment h => safe_deployment h

theorem writeAutoexec_returns (cfg : Cs2Paths) (expected : Option Bytes) (updated : Bool)
    (recovery : Option FilePath) : Returns (writeAutoexec cfg expected updated recovery) := by
  unfold writeAutoexec
  split
  · exact fun s hs => ⟨(), s, rfl, hs⟩
  · exact writeAndVerify_returns _ _ _ _

theorem mem_sidecarPaths {p : FilePath} :
    p ∈ sidecarPaths install ↔ p = (cfgPaths install).optimizationBackupPath ∨
      p = (cfgPaths install).autoexecBackupPath := by
  simp [sidecarPaths, cfgPaths, cfgDirectory, joinNames_joinNames]

variable (bytes) in
/-- **An apply that meets no fault** returns where autoexec is text, and keeps each sidecar
that it finds. -/
theorem apply_quiet {before : Option String} (hs : s.faults = [])
    (htext : autoexecText (autoexecRead controller.install request s) = .ok before) :
    ∃ report t, controller.apply bytes request s = (.ok report, t) ∧ t.faults = [] ∧
      ∀ p ∈ sidecarPaths controller.install, ∀ b,
        s.content p = some b → t.content p = some b := by
  set cfg := cfgPaths controller.install
  set updated := autoexecChanges (expectedAutoexec request before) before
  obtain ⟨backup, hbackup⟩ := createOptimizationBackup_eq cfg.optimizationBackupPath
    (s.content cfg.optimizationPath) hs
  set s₁ := backedUp s cfg.optimizationBackupPath (s.content cfg.optimizationPath)
  have hs₁ : s₁.faults = [] := by rw [backedUp_faults, hs]
  obtain ⟨_, s₂, hwrite, hs₂⟩ := writeAndVerify_returns cfg.optimizationPath
    (utf8 (renderOptimizationCfgAt request.generatedAt)) "optimization.cfg replacement"
    (backupPath backup) s₁ hs₁
  obtain ⟨autoexecBackup, hsidecar⟩ := backupAutoexec_eq cfg request
    (autoexecRead controller.install request s) updated hs₂
  set s₃ := backedUp s₂ cfg.autoexecBackupPath
    (if request.bootstrapAutoexec = true ∧ updated = true then
      autoexecRead controller.install request s else none)
  have hs₃ : s₃.faults = [] := by rw [backedUp_faults, hs₂]
  obtain ⟨_, s₄, hline, hs₄⟩ := writeAutoexec_returns cfg (expectedAutoexec request before)
    updated (backupPath backup) s₃ hs₃
  obtain ⟨_, t, hassets, ht⟩ := forEach_returns
    (l := cfg.deploymentsForAssets bytes request.optionalAssets)
    (fun deployment _ => writeAndVerify_returns deployment.target deployment.bytes
      "optional CFG replacement" (backupPath backup)) s₄ hs₄
  have hrun : ∃ report, controller.apply bytes request s = (.ok report, t) := by
    have hpaths : (ofExcept controller.paths : CfgProg Cs2Paths) s = (.ok cfg, s) := by
      rw [paths_eq]
      rfl
    have hsafe : (ofExcept (applyPathsSafe cfg request
        (cfg.deploymentsForAssets bytes request.optionalAssets)) : CfgProg Unit) s =
          (.ok (), s) := by
      rw [applyPathsSafe_eq]
      rfl
    have hbefore : (ofExcept (autoexecText (autoexecRead controller.install request s)) :
        CfgProg (Option String)) s = (.ok before, s) := by
      rw [htext]
      rfl
    unfold Cs2ConfigController.apply
    rw [bind_apply_ok hpaths, bind_apply_ok (ensureCfgDirectory_eq controller.install hs),
      bind_apply_ok hsafe, bind_apply_ok (readOptional_eq hs),
      bind_apply_ok (readAutoexec_eq hs), bind_apply_ok hbefore, bind_apply_ok hbackup,
      bind_apply_ok hwrite, bind_apply_ok hsidecar, bind_apply_ok hline,
      bind_apply_ok hassets]
    exact ⟨_, rfl⟩
  obtain ⟨report, hrun⟩ := hrun
  refine ⟨report, t, hrun, ht, ?_⟩
  · intro p hp b hb
    have hseparate : ∀ target, p ≠ targetPath controller.install target := by
      rintro target rfl
      exact targetPath_not_sidecar controller.install target hp
    have hdeployed : p ∉
        (Cs2ConfigTarget.forOptionalAssets request.optionalAssets).map
          (targetPath controller.install) := by
      intro hmem
      obtain ⟨target, _, heq⟩ := List.mem_map.mp hmem
      exact hseparate target heq.symm
    rw [changes_deployments controller.install bytes _ _ _ _ _ hassets p hdeployed,
      changes_writeAutoexec _ _ _ _ _ _ _ hline p fun h => hseparate .autoexec h.2]
    refine backedUp_keeps ?_
    rw [(writeAndVerify_reaches _ _ _ _).others _ _ _ hwrite p (hseparate .optimization)]
    exact backedUp_keeps hb

/-- An autoexec that is no text stops it before the first write. -/
theorem apply_refused {e : Cs2ConfigError} (hs : s.faults = [])
    (htext : autoexecText (autoexecRead controller.install request s) = .error e) :
    controller.apply bytes request s = (.error e, s) := by
  have hpaths : (ofExcept controller.paths : CfgProg Cs2Paths) s =
      (.ok (cfgPaths controller.install), s) := by
    rw [paths_eq]
    rfl
  have hsafe : (ofExcept (applyPathsSafe (cfgPaths controller.install) request
      ((cfgPaths controller.install).deploymentsForAssets bytes request.optionalAssets)) :
        CfgProg Unit) s = (.ok (), s) := by
    rw [applyPathsSafe_eq]
    rfl
  have hbefore : (ofExcept (autoexecText (autoexecRead controller.install request s)) :
      CfgProg (Option String)) s = (.error e, s) := by
    rw [htext]
    rfl
  unfold Cs2ConfigController.apply
  rw [bind_apply_ok hpaths, bind_apply_ok (ensureCfgDirectory_eq controller.install hs),
    bind_apply_ok hsafe, bind_apply_ok (readOptional_eq hs),
    bind_apply_ok (readAutoexec_eq hs), bind_apply_error hbefore]

/-! ## After an apply -/

/-- What an apply that returned read, and what it reports of it. -/
theorem apply_text {report : Cs2ConfigWriteReport}
    (h : controller.apply bytes request s = (.ok report, t)) :
    ∃ before, autoexecText (autoexecRead controller.install request s) = .ok before ∧
      report.autoexecUpdated = autoexecChanges (expectedAutoexec request before) before := by
  obtain ⟨paths, s₁, hpaths, h⟩ := bind_eq_ok h
  obtain ⟨hok, rfl⟩ := Prod.mk.inj hpaths
  rw [paths_eq] at hok
  obtain rfl := Except.ok.inj hok
  obtain ⟨_, s₂, hdirectory, h⟩ := bind_eq_ok h
  obtain ⟨_, s₃, hsafe, h⟩ := bind_eq_ok h
  obtain ⟨_, rfl⟩ := Prod.mk.inj hsafe
  obtain ⟨original, s₄, hread, h⟩ := bind_eq_ok h
  obtain ⟨autoexecOriginal, s₅, hautoexec, h⟩ := bind_eq_ok h
  obtain ⟨before, s₆, htext, h⟩ := bind_eq_ok h
  obtain ⟨hbefore, rfl⟩ := Prod.mk.inj htext
  obtain ⟨_, s₇, _, h⟩ := bind_eq_ok h
  obtain ⟨_, s₈, _, h⟩ := bind_eq_ok h
  obtain ⟨_, s₉, _, h⟩ := bind_eq_ok h
  obtain ⟨_, s₁₀, _, h⟩ := bind_eq_ok h
  obtain ⟨_, s₁₁, _, hreport⟩ := bind_eq_ok h
  obtain ⟨hreported, _⟩ := Prod.mk.inj hreport
  have hcontent : s₄.content = s.content := by
    rw [changes_readOptional.same hread, (changes_ensureCfgDirectory _ _).same hdirectory]
  have horiginal : autoexecRead controller.install request s = autoexecOriginal := by
    unfold autoexecRead
    unfold readAutoexec at hautoexec
    by_cases hboot : request.bootstrapAutoexec = true
    · rw [if_pos hboot] at hautoexec ⊢
      rw [← hcontent]
      exact readOptional_ok hautoexec
    · rw [if_neg hboot] at hautoexec ⊢
      exact Except.ok.inj (Prod.mk.inj hautoexec).1
  refine ⟨before, by rw [horiginal, hbefore], ?_⟩
  rw [← Except.ok.inj hreported]

/-- The two decisions on autoexec are one. -/
theorem autoexecChanges_eq (request : Cs2ConfigRequest) (before : Option String) :
    autoexecChanges (expectedAutoexec request before) before =
      (request.bootstrapAutoexec &&
        decide (ensureAutoexecLine (before.getD "") ≠ before.getD "")) := by
  unfold autoexecChanges expectedAutoexec
  by_cases hboot : request.bootstrapAutoexec = true
  · rw [if_pos hboot, hboot]
    cases before with
    | none =>
      have hnew : ensureAutoexecLine "" ≠ "" := by
        intro h
        have hline := exec_ensureAutoexecLine ""
        rw [h] at hline
        exact absurd hline (by decide +kernel)
      simp [hnew]
    | some text =>
      have hbytes : utf8 text = utf8 (ensureAutoexecLine text) ↔
          ensureAutoexecLine text = text :=
        ⟨fun h => (utf8_injective h).symm, fun h => by rw [h]⟩
      simp [hbytes]
  · rw [if_neg hboot]
    simp [hboot]

/-- **A preview tells what an apply does to autoexec.** -/
theorem preview_agrees {report : Cs2ConfigWriteReport}
    (h : controller.apply bytes request s = (.ok report, t)) :
    ∃ plan u, controller.preview bytes request (s.armed []) = (.ok plan, u) ∧
      plan.autoexecWouldChange = report.autoexecUpdated := by
  obtain ⟨before, htext, hupdated⟩ := apply_text h
  have hs : (s.armed []).faults = [] := rfl
  have hpaths : (ofExcept controller.paths : CfgProg Cs2Paths) (s.armed []) =
      (.ok (cfgPaths controller.install), s.armed []) := by
    rw [paths_eq]
    rfl
  have hsafe : (ofExcept (applyPathsSafe (cfgPaths controller.install) request
      ((cfgPaths controller.install).deploymentsForAssets bytes request.optionalAssets)) :
        CfgProg Unit) (s.armed []) = (.ok (), s.armed []) := by
    rw [applyPathsSafe_eq]
    rfl
  have hbefore : (ofExcept (autoexecText (autoexecRead controller.install request
      (s.armed []))) : CfgProg (Option String)) (s.armed []) = (.ok before, s.armed []) := by
    rw [← htext]
    rfl
  have hrun : ∃ plan, controller.preview bytes request (s.armed []) = (.ok plan, s.armed []) ∧
      plan.autoexecWouldChange = (request.bootstrapAutoexec &&
        decide (ensureAutoexecLine (before.getD "") ≠ before.getD "")) := by
    unfold Cs2ConfigController.preview
    rw [bind_apply_ok hpaths, bind_apply_ok hsafe, bind_apply_ok (readAutoexec_eq hs),
      bind_apply_ok hbefore]
    exact ⟨_, rfl, rfl⟩
  obtain ⟨plan, hplan, hwould⟩ := hrun
  exact ⟨plan, _, hplan, by rw [hwould, hupdated, autoexecChanges_eq]⟩

theorem verifyBytes_eq {path : FilePath} {expected : Bytes} (hs : s.faults = [])
    (h : s.content path = some expected) : verifyBytes path expected s = (.ok (), s) := by
  unfold verifyBytes
  rw [bind_apply_ok (relabel_eq_ok.mpr (readFile_eq hs h))]
  simp [reject]

/-- A loop whose bodies leave everything as it is. -/
theorem forEach_same {ι : Type} {body : ι → CfgProg Unit} {l : List ι}
    (h : ∀ i ∈ l, body i s = (.ok (), s)) : forEach body l s = (.ok (), s) := by
  induction l with
  | nil => rfl
  | cons i l ih =>
    exact (bind_apply_ok (h i (by simp))).trans (ih fun j hj => h j (by simp [hj]))

/-- **Files that have what a request plans are verified.** -/
theorem verify_quiet (hs : s.faults = []) {before : Option Bytes}
    (hplanned : ∀ target ∈ Cs2ConfigTarget.forRequest request,
      s.content (targetPath controller.install target) =
        some (plannedBytes bytes request before target)) :
    controller.verify bytes request s = (.ok (), s) := by
  have hpaths : (ofExcept controller.paths : CfgProg Cs2Paths) s =
      (.ok (cfgPaths controller.install), s) := by
    rw [paths_eq]
    rfl
  have hsafe : (ofExcept (ensureSafeTarget (cfgPaths controller.install).cfgDirectory
      (cfgPaths controller.install).optimizationPath) : CfgProg Unit) s = (.ok (), s) := by
    show (ensureSafeTarget _ _, s) = _
    rw [show ensureSafeTarget (cfgPaths controller.install).cfgDirectory
      (cfgPaths controller.install).optimizationPath = .ok () from
        safe_targetPath controller.install .optimization]
  have hautoexecPaths : (ofExcept ((if request.bootstrapAutoexec then
      [(cfgPaths controller.install).autoexecPath,
        (cfgPaths controller.install).autoexecBackupPath] else []).forM
          (ensureSafeTarget (cfgPaths controller.install).cfgDirectory)) : CfgProg Unit) s =
        (.ok (), s) := by
    rw [safe_autoexec]
    rfl
  have hoptimization : verifyBytes (cfgPaths controller.install).optimizationPath
      (utf8 (renderOptimizationCfgAt request.generatedAt)) s = (.ok (), s) :=
    verifyBytes_eq hs (hplanned .optimization (by simp [Cs2ConfigTarget.forRequest]))
  have hautoexec : verifyAutoexec (cfgPaths controller.install) request s = (.ok (), s) := by
    unfold verifyAutoexec
    by_cases hboot : request.bootstrapAutoexec = true
    · set text := (before.bind fromUtf8).getD ""
      have hcontent : s.content (cfgPaths controller.install).autoexecPath =
          some (utf8 (ensureAutoexecLine text)) :=
        hplanned .autoexec (by simp [Cs2ConfigTarget.forRequest, hboot])
      have htext : bytesAsAutoexec (utf8 (ensureAutoexecLine text)) =
          .ok (ensureAutoexecLine text) := okOr_eq_ok.mpr (fromUtf8_utf8 _)
      rw [if_pos hboot, bind_apply_ok (relabel_eq_ok.mpr (readFile_eq hs hcontent)), htext]
      show (reject (decide (ensureAutoexecLine (ensureAutoexecLine text) ≠
        ensureAutoexecLine text)) _, s) = _
      rw [ensureAutoexecLine_idem]
      simp [reject]
    · rw [if_neg hboot]
      rfl
  have hassets : forEach (verifyDeployment (cfgPaths controller.install))
      ((cfgPaths controller.install).deploymentsForAssets bytes request.optionalAssets) s =
        (.ok (), s) := by
    refine forEach_same fun deployment hmem => ?_
    have hdeployment := safe_deployment hmem
    rw [deployments_eq] at hmem
    obtain ⟨asset, hasset, rfl⟩ := List.mem_map.mp hmem
    have hcontent := hplanned (.fromOptionalAsset asset)
      (List.mem_append_right _ (List.mem_map_of_mem hasset))
    have hbytes : plannedBytes bytes request before (.fromOptionalAsset asset) =
        bytes asset := by
      cases asset <;> rfl
    rw [hbytes] at hcontent
    unfold verifyDeployment
    rw [hdeployment]
    exact verifyBytes_eq hs hcontent
  unfold Cs2ConfigController.verify
  rw [bind_apply_ok hpaths, bind_apply_ok hsafe, bind_apply_ok hautoexecPaths,
    bind_apply_ok hoptimization, bind_apply_ok hautoexec]
  exact hassets

/-- **A second apply changes nothing**, but for a sidecar that was missing. -/
theorem apply_again {report : Cs2ConfigWriteReport}
    (h : controller.apply bytes request s = (.ok report, t)) :
    ∃ report' u, controller.apply bytes request (t.armed []) = (.ok report', u) ∧
      ∀ p, u.content p = t.content p ∨
        p ∈ sidecarPaths controller.install ∧ t.content p = none := by
  have hplanned := apply_ok h
  set text := ((s.content (targetPath controller.install .autoexec)).bind fromUtf8).getD ""
  have htext : ∃ before,
      autoexecText (autoexecRead controller.install request (t.armed [])) = .ok before := by
    unfold autoexecRead
    by_cases hboot : request.bootstrapAutoexec = true
    · have hcontent : t.content (targetPath controller.install .autoexec) =
          some (utf8 (ensureAutoexecLine text)) :=
        hplanned .autoexec (by simp [Cs2ConfigTarget.forRequest, hboot])
      rw [if_pos hboot, Files.armed_content, hcontent]
      exact ⟨some (ensureAutoexecLine text),
        Lib.Checks.map_eq_ok.mpr ⟨_, okOr_eq_ok.mpr (fromUtf8_utf8 _), rfl⟩⟩
    · exact ⟨none, by rw [if_neg hboot]; rfl⟩
  obtain ⟨before, hbefore⟩ := htext
  obtain ⟨report', u, hrun, _, hsidecars⟩ :=
    apply_quiet bytes (s := t.armed []) rfl hbefore
  refine ⟨report', u, hrun, fun p => ?_⟩
  by_cases htarget : ∃ target ∈ Cs2ConfigTarget.forRequest request,
      p = targetPath controller.install target
  · -- what was planned at first is planned again
    obtain ⟨target, hmem, rfl⟩ := htarget
    have hagain := apply_ok hrun target hmem
    refine .inl ?_
    rw [hagain, hplanned target hmem, Files.armed_content]
    cases target with
    | autoexec =>
      rw [hplanned .autoexec hmem]
      simp only [plannedBytes, Option.bind_some, fromUtf8_utf8, Option.getD_some,
        ensureAutoexecLine_idem]
    | _ => rfl
  · by_cases hsidecar : p ∈ sidecarPaths controller.install
    · cases hcontent : t.content p with
      | none => exact .inr ⟨hsidecar, rfl⟩
      | some b => exact .inl (hsidecars p hsidecar b hcontent)
    · refine .inl (changes_apply bytes request (t.armed []) _ u hrun p ?_)
      rintro (h | h)
      · exact htarget h
      · exact hsidecar h

end

/-! ## Applies and edits -/

/-- What happens to the files. -/
inductive CfgEvent where
  | apply (request : Cs2ConfigRequest)
  | edit (path : FilePath) (content : Option Bytes)

/-- The files after an event.  An apply may be refused. -/
def stepEvent (controller : Cs2ConfigController) (bytes : CfgAssets) (s : Files FilePath) :
    CfgEvent → Files FilePath
  | .apply request => (controller.apply bytes request s).2
  | .edit path content => s.put path content

def runEvents (controller : Cs2ConfigController) (bytes : CfgAssets) (s : Files FilePath)
    (events : List CfgEvent) : Files FilePath :=
  events.foldl (stepEvent controller bytes) s

/-- The event is no edit of the path. -/
def CfgEvent.Spares (p : FilePath) : CfgEvent → Prop
  | .apply _ => True
  | .edit path _ => path ≠ p

section

variable {controller : Cs2ConfigController} {bytes : CfgAssets} {s : Files FilePath}

variable (bytes) in
/-- An event keeps a sidecar that it does not edit. -/
theorem stepEvent_keeps {p : FilePath} (hp : p ∈ sidecarPaths controller.install)
    (hs : s.faults = []) (event : CfgEvent) :
    (stepEvent controller bytes s event).faults = [] ∧
      (event.Spares p → ∀ b, s.content p = some b →
        (stepEvent controller bytes s event).content p = some b) := by
  cases event with
  | apply request =>
    show (controller.apply bytes request s).2.faults = [] ∧ (_ → ∀ b, _ →
      (controller.apply bytes request s).2.content p = some b)
    cases htext : autoexecText (autoexecRead controller.install request s) with
    | error e =>
      rw [apply_refused hs htext]
      exact ⟨hs, fun _ b hb => hb⟩
    | ok before =>
      obtain ⟨report, t, hrun, ht, hkept⟩ := apply_quiet bytes hs htext
      rw [hrun]
      exact ⟨ht, fun _ => hkept p hp⟩
  | edit path content =>
    refine ⟨hs, fun hspared b hb => ?_⟩
    exact (s.put_ne content (Ne.symm hspared)).trans hb

theorem runEvents_quiet (hs : s.faults = []) (events : List CfgEvent) :
    (runEvents controller bytes s events).faults = [] := by
  induction events generalizing s with
  | nil => exact hs
  | cons event events ih =>
    have hmem : (cfgPaths controller.install).optimizationBackupPath ∈
        sidecarPaths controller.install := mem_sidecarPaths.mpr (.inl rfl)
    exact ih (stepEvent_keeps bytes hmem hs event).1

/-- **Sidecars outlast every run**, until they are edited themselves. -/
theorem runEvents_keeps {p : FilePath} (hp : p ∈ sidecarPaths controller.install)
    (hs : s.faults = []) {events : List CfgEvent} (hspared : ∀ event ∈ events, event.Spares p)
    {b : Bytes} (hb : s.content p = some b) :
    (runEvents controller bytes s events).content p = some b := by
  induction events generalizing s with
  | nil => exact hb
  | cons event events ih =>
    obtain ⟨hquiet, hkept⟩ := stepEvent_keeps bytes hp hs event
    exact ih hquiet (fun e he => hspared e (by simp [he]))
      (hkept (hspared event (by simp)) b hb)

end

/-! ## CFG generation -/

/-- **CFG generation keeps what the user wrote, and settles.**  An autoexec keeps its text
and gets the line once.  An apply that returned did to autoexec what a preview told, is
verified, and changes nothing when it is repeated but for a sidecar that was missing; and over
applies and edits a sidecar that exists is not overwritten. -/
theorem cfgGeneration (controller : Cs2ConfigController) (bytes : CfgAssets) :
    (∀ existing : String,
      existing.toList <+: (ensureAutoexecLine existing).toList ∧
      (∃ line ∈ lines (ensureAutoexecLine existing).toList, RunsOptimization line) ∧
      ensureAutoexecLine (ensureAutoexecLine existing) = ensureAutoexecLine existing) ∧
    (∀ (request : Cs2ConfigRequest) (s t : Files FilePath) (report : Cs2ConfigWriteReport),
      controller.apply bytes request s = (.ok report, t) →
        (∃ plan u, controller.preview bytes request (s.armed []) = (.ok plan, u) ∧
          plan.autoexecWouldChange = report.autoexecUpdated) ∧
        (controller.verify bytes request (t.armed [])).1 = .ok () ∧
        ∃ report' u, controller.apply bytes request (t.armed []) = (.ok report', u) ∧
          ∀ p, u.content p = t.content p ∨
            p ∈ sidecarPaths controller.install ∧ t.content p = none) ∧
    (∀ (s : Files FilePath) (earlier later : List CfgEvent) (p : FilePath) (b : Bytes),
      s.faults = [] → p ∈ sidecarPaths controller.install →
      (runEvents controller bytes s earlier).content p = some b →
      (∀ event ∈ later, event.Spares p) →
        (runEvents controller bytes s (earlier ++ later)).content p = some b) := by
  refine ⟨fun existing => ?_, fun request s t report h => ?_, ?_⟩
  · exact ⟨prefix_ensureAutoexecLine existing, runsOptimization_ensureAutoexecLine existing,
      ensureAutoexecLine_idem existing⟩
  · have hplanned := apply_ok h
    refine ⟨preview_agrees h, ?_, apply_again h⟩
    rw [verify_quiet (s := t.armed []) rfl hplanned]
  · intro s earlier later p b hs hp hb hspared
    have hsplit : runEvents controller bytes s (earlier ++ later) =
        runEvents controller bytes (runEvents controller bytes s earlier) later :=
      List.foldl_append
    rw [hsplit]
    exact runEvents_keeps hp (runEvents_quiet hs earlier) hspared hb

/-! ## A sample run -/

private def steamRoot : FilePath := [.device "C:", .rootDir, .normal "Steam"]

private def installedController : Cs2ConfigController where
  install :=
    { steamRoot := steamRoot, libraryRoot := steamRoot,
      installRoot := joinNames steamRoot ["steamapps", "common", CS2_DIRECTORY] }
  bound := by decide +kernel

private theorem bootstrapRequest_timed : validTimestamp "2026-08-23 12:34" = true := by
  decide +kernel

private def bootstrapRequest : Cs2ConfigRequest where
  generatedAt := "2026-08-23 12:34"
  optionalAssets := {.netStable}
  bootstrapAutoexec := true
  timed := bootstrapRequest_timed

/-- An autoexec, and a sidecar of an earlier one. -/
private def userFiles : Files FilePath where
  content path :=
    if path = targetPath installedController.install .autoexec then some (utf8 "bind x y\n")
    else if path = (cfgPaths installedController.install).autoexecBackupPath then some []
    else none

private def userEvents : List CfgEvent :=
  [.apply bootstrapRequest, .edit (targetPath installedController.install .autoexec) none,
    .apply bootstrapRequest]

/-- The autoexec is extended and verified, and the sidecar is still the earlier one after a
further edit and apply. -/
theorem cfgGeneration_userFiles :
    (∃ report t,
      installedController.apply (fun _ => []) bootstrapRequest userFiles = (.ok report, t) ∧
      (installedController.verify (fun _ => []) bootstrapRequest (t.armed [])).1 = .ok ()) ∧
    (runEvents installedController (fun _ => []) userFiles ([] ++ userEvents)).content
      (cfgPaths installedController.install).autoexecBackupPath = some [] := by
  have hall := cfgGeneration installedController fun _ => []
  have hautoexec : userFiles.content (targetPath installedController.install .autoexec) =
      some (utf8 "bind x y\n") := by
    simp only [userFiles, reduceIte]
  have htext : autoexecText
      (autoexecRead installedController.install bootstrapRequest userFiles) =
        .ok (some "bind x y\n") := by
    rw [autoexecRead, if_pos (show bootstrapRequest.bootstrapAutoexec = true from rfl),
      hautoexec]
    exact Lib.Checks.map_eq_ok.mpr ⟨_, okOr_eq_ok.mpr (fromUtf8_utf8 _), rfl⟩
  obtain ⟨report, t, hrun, _⟩ := apply_quiet (fun _ => []) (s := userFiles) rfl htext
  have hapart := (targetPath_ne_sidecars installedController.install .autoexec).2
  have hmem : (cfgPaths installedController.install).autoexecBackupPath ∈
      sidecarPaths installedController.install := mem_sidecarPaths.mpr (.inr rfl)
  have hsidecar : (runEvents installedController (fun _ => []) userFiles []).content
      (cfgPaths installedController.install).autoexecBackupPath = some [] := by
    rw [runEvents, List.foldl_nil]
    simp only [userFiles, if_neg hapart.symm, reduceIte]
  have hspared : ∀ event ∈ userEvents,
      event.Spares (cfgPaths installedController.install).autoexecBackupPath := by
    intro event hevent
    simp only [userEvents, List.mem_cons, List.not_mem_nil, or_false] at hevent
    rcases hevent with rfl | rfl | rfl
    · trivial
    · exact hapart
    · trivial
  exact ⟨⟨report, t, hrun, (hall.2.1 bootstrapRequest userFiles t report hrun).2.1⟩,
    hall.2.2 userFiles [] userEvents _ _ rfl hmem hsidecar hspared⟩

end FrametimeCfg.Verified.CfgGeneration
