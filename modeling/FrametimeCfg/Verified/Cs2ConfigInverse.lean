import FrametimeCfg.Domain.Cs2ConfigBackup

/-!
# Restoring the captured CFG files

A capture that was accepted holds the content of every target.  Restoring writes
these contents back and reads each of them again, so a restore that returns has
brought every target back, wherever an apply stopped before it and whatever
happened to the calls on the way; and no target's write touches another path.

An apply that returned has written and read back what it planned.  Only
`autoexec.cfg` may have been left as it was, where it already had the line.
-/

namespace FrametimeCfg.Verified.Cs2ConfigInverse

open FrametimeCfg.Domain
open FrametimeCfg.Lib.Checks (reject reject_eq_ok okOr_eq_ok okOr)
open FrametimeCfg.Lib.Effect
open FrametimeCfg.Lib.FileCalls
open FrametimeCfg.Lib.Text

/-! ## Paths -/

/-- Where a target of an install lies. -/
def targetPath (install : Cs2Install) (target : Cs2ConfigTarget) : FilePath :=
  joinNames install.installRoot ["game", "csgo", "cfg", target.fileName]

/-- The copies of what `optimization.cfg` and `autoexec.cfg` were. -/
def sidecarPaths (install : Cs2Install) : List FilePath :=
  [joinNames install.installRoot ["game", "csgo", "cfg", "optimization.cfg.bak"],
    joinNames install.installRoot ["game", "csgo", "cfg", "autoexec.cfg.bak"]]

theorem joinNames_joinNames (root : FilePath) (names names' : List String) :
    joinNames (joinNames root names) names' = joinNames root (names ++ names') := by
  simp [joinNames]

theorem joinNames_injective (root : FilePath) {names names' : List String}
    (h : joinNames root names = joinNames root names') : names = names' := by
  have hmap : names.map Component.normal = names'.map Component.normal :=
    List.append_cancel_left h
  exact List.map_injective_iff.mpr (fun a b hab => Component.normal.inj hab) hmap

/-- Plain names below a root are safe. -/
theorem safe_joinNames (root : FilePath) {names : List String} (h : names ≠ []) :
    assertExistingPathSafe root (joinNames root names) = .ok () := by
  have hstart : root.isPrefixOf (joinNames root names) = true := by
    simp [joinNames]
  have hdrop : (joinNames root names).drop root.length = names.map .normal := by
    simp [joinNames]
  unfold assertExistingPathSafe
  rw [hstart, hdrop]
  simp [reject, h]

theorem parentPath_joinNames (root : FilePath) (name : String) :
    parentPath (joinNames root [name]) = some root := by
  simp [parentPath, joinNames]

/-- The directory of the targets. -/
def cfgDirectory (install : Cs2Install) : FilePath :=
  joinNames install.installRoot ["game", "csgo", "cfg"]

theorem targetPath_eq (install : Cs2Install) (target : Cs2ConfigTarget) :
    targetPath install target = joinNames (cfgDirectory install) [target.fileName] := by
  simp [targetPath, cfgDirectory, joinNames_joinNames]

/-- The paths of the files of an install. -/
def cfgPaths (install : Cs2Install) : Cs2Paths where
  cfgDirectory := cfgDirectory install
  optimizationPath := targetPath install .optimization
  optimizationBackupPath := joinNames (cfgDirectory install) ["optimization.cfg.bak"]
  autoexecPath := targetPath install .autoexec
  autoexecBackupPath := joinNames (cfgDirectory install) ["autoexec.cfg.bak"]

theorem paths_eq (controller : Cs2ConfigController) :
    controller.paths = .ok (cfgPaths controller.install) := by
  unfold Cs2ConfigController.paths
  rw [controller.bound]
  simp only [joinNames_joinNames, cfgPaths, targetPath_eq, Lib.Checks.bind_ok]
  rw [safe_joinNames _ (by simp), safe_joinNames _ (by simp)]
  simp only [cfgDirectory, joinNames_joinNames, Lib.Checks.bind_ok]
  rfl

theorem new_install (controller : Cs2ConfigController) :
    Cs2ConfigController.new controller.install = .ok controller := by
  obtain ⟨install, bound⟩ := controller
  unfold Cs2ConfigController.new
  split
  · rfl
  · rename_i e he
    rw [bound] at he
    cases he

theorem forM_ok {α ε : Type} {f : α → Except ε Unit} {l : List α}
    (h : ∀ a ∈ l, f a = .ok ()) : l.forM f = .ok () := by
  induction l with
  | nil => rfl
  | cons a l ih =>
      show (f a >>= fun _ => l.forM f) = .ok ()
      rw [h a (by simp)]
      exact ih fun b hb => h b (by simp [hb])

theorem boundTargets_eq (controller : Cs2ConfigController) (targets : List Cs2ConfigTarget) :
    controller.boundTargets targets = .ok
      (targets.map fun target => (target, targetPath controller.install target)) := by
  unfold Cs2ConfigController.boundTargets
  rw [paths_eq]
  simp only [Lib.Checks.bind_ok, cfgPaths, ← targetPath_eq]
  rw [forM_ok]
  · rfl
  · intro item hitem
    obtain ⟨target, -, rfl⟩ := List.mem_map.mp hitem
    show assertExistingPathSafe _ (targetPath controller.install target) = .ok ()
    rw [targetPath_eq]
    exact safe_joinNames _ (by simp)

/-! ## Different targets have different paths -/

/-- Every target, with the file names of the catalogue. -/
def allTargets : List Cs2ConfigTarget :=
  .optimization :: .autoexec :: OptionalCfgAsset.all.map .fromOptionalAsset

theorem mem_allTargets (target : Cs2ConfigTarget) : target ∈ allTargets := by
  cases target <;> decide

theorem fileNames_nodup : (allTargets.map Cs2ConfigTarget.fileName).Nodup := by
  decide +kernel

theorem targetPath_injective (install : Cs2Install) :
    Function.Injective (targetPath install) := by
  intro target target' h
  have hnames := joinNames_injective _ h
  have hfile : target.fileName = target'.fileName := by simpa using hnames
  exact List.inj_on_of_nodup_map fileNames_nodup (mem_allTargets target)
    (mem_allTargets target') hfile

theorem optionalAsset_fromOptionalAsset (asset : OptionalCfgAsset) :
    (Cs2ConfigTarget.fromOptionalAsset asset).optionalAsset = some asset := by
  cases asset <;> rfl

theorem fileName_fromOptionalAsset (asset : OptionalCfgAsset) :
    (Cs2ConfigTarget.fromOptionalAsset asset).fileName = asset.fileName := by
  cases asset <;> rfl

theorem mem_all (asset : OptionalCfgAsset) : asset ∈ OptionalCfgAsset.all := by
  cases asset <;> decide

theorem mem_assetOrder {assets : Finset OptionalCfgAsset} {asset : OptionalCfgAsset} :
    asset ∈ assetOrder assets ↔ asset ∈ assets := by
  simp [assetOrder, mem_all]

theorem forOptionalAssets_nodup (assets : Finset OptionalCfgAsset) :
    (Cs2ConfigTarget.forOptionalAssets assets).Nodup := by
  have hall : OptionalCfgAsset.all.Nodup := by decide
  refine List.Nodup.map_on ?_ (hall.filter _)
  intro a _ b _ h
  have h' := congrArg Cs2ConfigTarget.optionalAsset h
  simpa only [optionalAsset_fromOptionalAsset, Option.some.injEq] using h'

theorem forRequest_nodup (request : Cs2ConfigRequest) :
    (Cs2ConfigTarget.forRequest request).Nodup := by
  have hnone : ∀ target ∈ Cs2ConfigTarget.forOptionalAssets request.optionalAssets,
      target.optionalAsset ≠ none := by
    intro target htarget
    obtain ⟨asset, -, rfl⟩ := List.mem_map.mp htarget
    simp [optionalAsset_fromOptionalAsset]
  have hassets := forOptionalAssets_nodup request.optionalAssets
  have hoptimization :
      Cs2ConfigTarget.optimization ∉ Cs2ConfigTarget.forOptionalAssets request.optionalAssets :=
    fun h => hnone _ h rfl
  have hautoexec :
      Cs2ConfigTarget.autoexec ∉ Cs2ConfigTarget.forOptionalAssets request.optionalAssets :=
    fun h => hnone _ h rfl
  show (.optimization :: (if request.bootstrapAutoexec then [.autoexec] else []) ++
    Cs2ConfigTarget.forOptionalAssets request.optionalAssets : List Cs2ConfigTarget).Nodup
  cases request.bootstrapAutoexec with
  | false => simp [hoptimization, hassets]
  | true => simp [hoptimization, hautoexec, hassets]

/-! ## Capture -/

section

variable {digests : CfgDigests} {s t : Files FilePath}

theorem changes_captureTarget (target : Cs2ConfigTarget) (path : FilePath) (total : Nat) :
    Changes (fun _ => False)
      (Cs2ConfigTransaction.captureTarget digests target path total) := by
  unfold Cs2ConfigTransaction.captureTarget
  refine (changes_readFile path).attempt.bind fun r => ?_
  match r with
  | .ok bytes => exact (changes_ofExcept _).bind fun _ => changes_pure _
  | .error .notFound => exact changes_pure _
  | .error .alreadyExists => exact changes_raise _
  | .error .permissionDenied => exact changes_raise _
  | .error .other => exact changes_raise _

theorem changes_captureSnapshots (targetPaths : List (Cs2ConfigTarget × FilePath))
    (total : Nat) :
    Changes (fun _ => False)
      (Cs2ConfigTransaction.captureSnapshots digests targetPaths total) := by
  induction targetPaths generalizing total with
  | nil => exact changes_pure _
  | cons item targetPaths ih =>
      exact (changes_captureTarget item.1 item.2 total).bind fun result =>
        (ih result.2).bind fun _ => changes_pure _

/-- A snapshot holds what is stored. -/
theorem captureTarget_ok {target : Cs2ConfigTarget} {path : FilePath} {total : Nat}
    {result : Cs2ConfigSnapshot × Nat}
    (h : Cs2ConfigTransaction.captureTarget digests target path total s = (.ok result, t)) :
    result.1.target = target ∧ result.1.originalBytes = s.content path ∧
      result.1.unknown = ∅ := by
  obtain ⟨r, s₁, hattempt, hrest⟩ := bind_eq_ok h
  have hread := attempt_eq_ok.mp hattempt
  match r with
  | .ok bytes =>
      obtain ⟨total', s₂, -, hresult⟩ := bind_eq_ok hrest
      obtain ⟨hresult, -⟩ := Prod.mk.inj hresult
      rw [← Except.ok.inj hresult]
      exact ⟨rfl, (readFile_ok hread).symm, rfl⟩
  | .error .notFound =>
      obtain ⟨hresult, -⟩ := Prod.mk.inj hrest
      rw [← Except.ok.inj hresult]
      exact ⟨rfl, (readFile_notFound hread).symm, rfl⟩

/-- The loop takes a snapshot of each target and changes nothing. -/
theorem captureSnapshots_ok {targetPaths : List (Cs2ConfigTarget × FilePath)} {total : Nat}
    {snapshots : List Cs2ConfigSnapshot}
    (h : Cs2ConfigTransaction.captureSnapshots digests targetPaths total s =
      (.ok snapshots, t)) :
    snapshots.map (fun snapshot => (snapshot.target, snapshot.originalBytes)) =
        targetPaths.map (fun item => (item.1, s.content item.2)) ∧
      (∀ snapshot ∈ snapshots, snapshot.unknown = ∅) ∧ t.content = s.content := by
  induction targetPaths generalizing s total snapshots with
  | nil =>
      obtain ⟨hsnapshots, rfl⟩ := Prod.mk.inj h
      rw [← Except.ok.inj hsnapshots]
      exact ⟨rfl, by simp, rfl⟩
  | cons item targetPaths ih =>
      obtain ⟨target, path⟩ := item
      obtain ⟨⟨snapshot, total'⟩, s₁, hhead, hrest⟩ := bind_eq_ok h
      obtain ⟨snapshots', s₂, htail, hpure⟩ := bind_eq_ok hrest
      obtain ⟨hsnapshots, rfl⟩ := Prod.mk.inj hpure
      obtain ⟨htarget, hbytes, hunknown⟩ := captureTarget_ok hhead
      obtain ⟨horiginals, hunknowns, hcontent⟩ := ih htail
      have hsame : s₁.content = s.content := by
        funext p
        exact changes_captureTarget target path total s _ s₁ hhead p id
      rw [← Except.ok.inj hsnapshots]
      refine ⟨?_, ?_, hcontent.trans hsame⟩
      · rw [List.map_cons, List.map_cons, horiginals, hsame]
        exact congrArg₂ List.cons (Prod.ext htarget hbytes) rfl
      · intro snapshot' hmem
        rcases List.mem_cons.mp hmem with rfl | hmem
        · exact hunknown
        · exact hunknowns snapshot' hmem

/-- What an accepted record says about its targets. -/
structure Captures (s : Files FilePath) (install : Cs2Install)
    (targets : List Cs2ConfigTarget) (entry : Cs2ConfigTransaction) : Prop where
  originals : entry.originals =
    targets.map fun target => (target, s.content (targetPath install target))
  known : entry.fullyKnown = .ok ()

theorem captureTargets_ok {controller : Cs2ConfigController} {step capturedAt : String}
    {targets : List Cs2ConfigTarget} {entry : Cs2ConfigTransaction}
    (h : Cs2ConfigTransaction.captureTargets digests controller.install step capturedAt
      (targets.map fun target => (target, targetPath controller.install target)) s =
        (.ok entry, t)) :
    Captures s controller.install targets entry ∧ t.content = s.content := by
  obtain ⟨snapshots, s₁, hsnapshots, hpure⟩ := bind_eq_ok h
  obtain ⟨hentry, rfl⟩ := Prod.mk.inj hpure
  obtain ⟨horiginals, hunknowns, hcontent⟩ := captureSnapshots_ok hsnapshots
  rw [List.map_map] at horiginals
  rw [← Except.ok.inj hentry]
  refine ⟨⟨horiginals, ?_⟩, hcontent⟩
  have hempty : (∅ : Lib.OrderedMap.BTreeMap Value).isEmpty = true := rfl
  have hany : (snapshots.any fun snapshot => ¬ snapshot.unknown.isEmpty) = false := by
    rw [List.any_eq_false]
    intro snapshot hmem
    simp [hunknowns snapshot hmem]
  unfold Cs2ConfigTransaction.fullyKnown
  rw [reject_eq_ok]
  simp only [hany]
  simp [installIdentityOf]

end

/-! ## Reads and writes of the controller -/

section

variable {paths : FilePath → Prop} {path : FilePath}

theorem changes_readOptional : Changes paths (readOptional path) := by
  unfold readOptional
  refine (changes_readFile path).attempt.bind fun r => ?_
  match r with
  | .ok bytes => exact changes_pure _
  | .error .notFound => exact changes_pure _
  | .error .alreadyExists => exact changes_raise _
  | .error .permissionDenied => exact changes_raise _
  | .error .other => exact changes_raise _

theorem readOptional_ok {content : Option Bytes} {s t : Files FilePath}
    (h : readOptional path s = (.ok content, t)) : s.content path = content := by
  obtain ⟨r, s₁, hattempt, hrest⟩ := bind_eq_ok h
  have hread := attempt_eq_ok.mp hattempt
  match r with
  | .ok bytes =>
      rw [← Except.ok.inj (Prod.mk.inj hrest).1]
      exact readFile_ok hread
  | .error .notFound =>
      rw [← Except.ok.inj (Prod.mk.inj hrest).1]
      exact readFile_notFound hread

theorem readOptional_quiet (path : FilePath) {s : Files FilePath} (h : s.faults = []) :
    readOptional path s = (.ok (s.content path), s.next) := by
  have hread := readFile_quiet path h
  unfold readOptional
  cases hcontent : s.content path with
  | some bytes =>
      rw [hcontent] at hread
      exact bind_apply_ok (attempt_eq_ok.mpr hread)
  | none =>
      rw [hcontent] at hread
      exact bind_apply_ok (attempt_eq_ok.mpr hread)

/-- A write that is read back stores what it was given. -/
theorem writeAndVerify_reaches (path : FilePath) (expected : Bytes) (stage : String)
    (recovery : Option FilePath) :
    Reaches (writeAndVerify path expected stage recovery) path (some expected) := by
  constructor
  · unfold writeAndVerify
    refine ((changes_store path _).relabel _).bind fun _ => ?_
    exact ((changes_readFile path).relabel _).bind fun _ => changes_ofExcept _
  · intro s _ t h
    obtain ⟨_, s₁, -, hrest⟩ := bind_eq_ok h
    obtain ⟨actual, s₂, hread, hcheck⟩ := bind_eq_ok hrest
    have hactual := readFile_ok (relabel_eq_ok.mp hread)
    have hcontent := (changes_readFile path).same (relabel_eq_ok.mp hread)
    obtain ⟨hsame, rfl⟩ := Prod.mk.inj hcheck
    have hexpected : actual = expected := by simpa using reject_eq_ok.mp hsame
    rw [hcontent, hactual, hexpected]

theorem writeAndVerify_returns (path : FilePath) (expected : Bytes) (stage : String)
    (recovery : Option FilePath) : Returns (writeAndVerify path expected stage recovery) := by
  intro s hs
  have hwrite := atomicReplace_quiet path expected hs
  have hs₁ : (s.next.put path (some expected)).faults = [] := Files.next_quiet hs
  have hread := readFile_quiet path hs₁
  rw [Files.put_self] at hread
  refine ⟨(), (s.next.put path (some expected)).next, ?_, Files.next_quiet hs₁⟩
  unfold writeAndVerify
  rw [bind_apply_ok (relabel_eq_ok.mpr hwrite), bind_apply_ok (relabel_eq_ok.mpr hread)]
  simp [reject]

theorem changes_deleteTarget : Changes (· = path) (Cs2ConfigController.deleteTarget path) := by
  unfold Cs2ConfigController.deleteTarget
  refine (changes_store path _).attempt.bind fun r => ?_
  match r with
  | .ok () => exact changes_pure _
  | .error .notFound => exact changes_pure _
  | .error .alreadyExists => exact changes_raise _
  | .error .permissionDenied => exact changes_raise _
  | .error .other => exact changes_raise _

/-- A deletion that is read back leaves no file. -/
theorem removeTarget_reaches (path : FilePath) :
    Reaches (Cs2ConfigController.removeTarget path) path none := by
  constructor
  · unfold Cs2ConfigController.removeTarget
    exact changes_deleteTarget.bind fun _ =>
      changes_readOptional.bind fun _ => changes_ofExcept _
  · intro s _ t h
    obtain ⟨_, s₁, -, hrest⟩ := bind_eq_ok h
    obtain ⟨readback, s₂, hread, hcheck⟩ := bind_eq_ok hrest
    have hreadback := readOptional_ok hread
    have hcontent := changes_readOptional.same hread
    obtain ⟨habsent, rfl⟩ := Prod.mk.inj hcheck
    have hnone : readback = none := by simpa using reject_eq_ok.mp habsent
    rw [hcontent, hreadback, hnone]

theorem removeTarget_returns (path : FilePath) :
    Returns (Cs2ConfigController.removeTarget path) := by
  intro s hs
  obtain ⟨r, s₁, hremove, hr, hnone, hs₁⟩ := removeFile_quiet path hs
  have hdelete : Cs2ConfigController.deleteTarget path s = (.ok (), s₁) := by
    refine (bind_apply_ok (attempt_eq_ok.mpr hremove)).trans ?_
    rcases hr with rfl | rfl
    · rfl
    · rfl
  have hread := readOptional_quiet path hs₁
  rw [hnone] at hread
  refine ⟨(), s₁.next, ?_, Files.next_quiet hs₁⟩
  unfold Cs2ConfigController.removeTarget
  rw [bind_apply_ok hdelete, bind_apply_ok hread]
  rfl

private theorem writeOrRemove_reaches (path : FilePath) (original : Option Bytes) :
    Reaches (match original with
      | some bytes => writeAndVerify path bytes "CS2 CFG restore replacement" none
      | none => Cs2ConfigController.removeTarget path) path original := by
  cases original with
  | some bytes => exact writeAndVerify_reaches path bytes _ none
  | none => exact removeTarget_reaches path

/-- One target of a restore. -/
theorem restoreTarget_reaches
    (item : (Cs2ConfigTarget × FilePath) × Cs2ConfigTarget × Option Bytes) :
    Reaches (Cs2ConfigController.restoreTarget item) item.1.2 item.2.2 := by
  obtain ⟨⟨target, path⟩, target', original⟩ := item
  have hwrite := writeOrRemove_reaches path original
  constructor
  · unfold Cs2ConfigController.restoreTarget
    exact (changes_ofExcept _).bind fun _ => (changes_ofExcept _).bind fun _ => hwrite.others
  · intro s a t h
    obtain ⟨_, s₁, -, hrest⟩ := bind_eq_ok h
    obtain ⟨_, s₂, -, hlast⟩ := bind_eq_ok hrest
    exact hwrite.reached s₂ a t hlast

private theorem writeOrRemove_returns (install : Cs2Install) (target : Cs2ConfigTarget)
    (original : Option Bytes) : Returns (match original with
      | some bytes =>
          writeAndVerify (targetPath install target) bytes "CS2 CFG restore replacement" none
      | none => Cs2ConfigController.removeTarget (targetPath install target)) := by
  cases original with
  | some bytes => exact writeAndVerify_returns _ bytes _ none
  | none => exact removeTarget_returns _

theorem restoreTarget_returns (install : Cs2Install) (target : Cs2ConfigTarget)
    (original : Cs2ConfigTarget × Option Bytes) :
    Returns (Cs2ConfigController.restoreTarget
      ((target, targetPath install target), original)) := by
  obtain ⟨target', original⟩ := original
  have hparent : parentPath (targetPath install target) = some (cfgDirectory install) := by
    rw [targetPath_eq]
    exact parentPath_joinNames _ _
  have hsafe : ensureSafeTarget (cfgDirectory install) (targetPath install target) = .ok () := by
    rw [targetPath_eq]
    exact safe_joinNames _ (by simp)
  have hwrite := writeOrRemove_returns install target original
  intro s hs
  obtain ⟨_, t, hrun, ht⟩ := hwrite s hs
  refine ⟨(), t, ?_, ht⟩
  unfold Cs2ConfigController.restoreTarget
  show (ofExcept (okOr (parentPath (targetPath install target)) _) >>= fun root => _) s = _
  rw [hparent]
  show (ofExcept (ensureSafeTarget (cfgDirectory install) (targetPath install target)) >>=
    fun _ => _) s = _
  rw [hsafe]
  exact hrun

end

/-! ## Restoring -/

/-- **A restore gives the captured state back.**  From a stopped host it changes
only the targets; a restore that returns has brought each of them back, under
whatever faults; and without faults it returns. -/
structure GivesBack (restore : CfgBackupProg Unit) (install : Cs2Install)
    (targets : List Cs2ConfigTarget) (captured stopped : Files FilePath) : Prop where
  others : ∀ faults r t, restore (stopped.armed faults) = (r, t) →
    ∀ p, (∀ target ∈ targets, p ≠ targetPath install target) →
      t.content p = stopped.content p
  back : ∀ faults t, restore (stopped.armed faults) = (.ok (), t) →
    ∀ target ∈ targets, t.content (targetPath install target) =
      captured.content (targetPath install target)
  returns : ∃ t, restore (stopped.armed []) = (.ok (), t)

section

variable {captured stopped : Files FilePath} {install : Cs2Install}
  {targets : List Cs2ConfigTarget} {entry : Cs2ConfigTransaction}

/-- The targets beside what was captured of them. -/
private def restoreItems (captured : Files FilePath) (install : Cs2Install)
    (targets : List Cs2ConfigTarget) :
    List ((Cs2ConfigTarget × FilePath) × Cs2ConfigTarget × Option Bytes) :=
  targets.map fun target => ((target, targetPath install target),
    target, captured.content (targetPath install target))

theorem restoreTargets_eq (captured : Files FilePath) (install : Cs2Install)
    (targets : List Cs2ConfigTarget) :
    Cs2ConfigController.restoreTargets
        (targets.map fun target => (target, targetPath install target))
        (targets.map fun target => (target, captured.content (targetPath install target))) =
      forEach Cs2ConfigController.restoreTarget (restoreItems captured install targets) := by
  unfold Cs2ConfigController.restoreTargets restoreItems
  rw [List.zip_map', List.map_map, List.map_map]
  have hcheck : (decide ((targets.map fun target =>
      (target, targetPath install target)).length ≠ (targets.map fun target =>
        (target, captured.content (targetPath install target))).length) ||
      decide (targets.map (Prod.fst ∘ fun target => (target, targetPath install target)) ≠
        targets.map (Prod.fst ∘ fun target =>
          (target, captured.content (targetPath install target))))) = false := by
    simp [Function.comp_def]
  rw [hcheck]
  rfl

/-- The targets of a captured record restored by the controller. -/
theorem restoreTargets_givesBack (hnodup : targets.Nodup) :
    GivesBack (relabel .config (Cs2ConfigController.restoreTargets
        (targets.map fun target => (target, targetPath install target))
        (targets.map fun target => (target, captured.content (targetPath install target)))))
      install targets captured stopped := by
  rw [restoreTargets_eq]
  have hpaths : ((restoreItems captured install targets).map (·.1.2)).Nodup := by
    rw [restoreItems, List.map_map]
    exact hnodup.map (targetPath_injective install)
  constructor
  · intro faults r t h p hp
    have hchanges : Changes (fun q => ∃ target ∈ targets, q = targetPath install target)
        (forEach Cs2ConfigController.restoreTarget (restoreItems captured install targets)) := by
      refine Changes.forEach fun item hitem => (restoreTarget_reaches item).others.mono ?_
      rintro q rfl
      obtain ⟨target, htarget, rfl⟩ := List.mem_map.mp hitem
      exact ⟨target, htarget, rfl⟩
    refine (hchanges.relabel _) (stopped.armed faults) r t h p ?_
    rintro ⟨target, htarget, hq⟩
    exact hp target htarget hq
  · intro faults t h target htarget
    have hloop := relabel_eq_ok.mp h
    have hmem : ((target, targetPath install target), target,
        captured.content (targetPath install target)) ∈
          restoreItems captured install targets := List.mem_map_of_mem htarget
    exact forEach_reaches restoreTarget_reaches hpaths hloop _ hmem
  · have hreturns : Returns (forEach Cs2ConfigController.restoreTarget
        (restoreItems captured install targets)) := by
      refine forEach_returns fun item hitem => ?_
      obtain ⟨target, -, rfl⟩ := List.mem_map.mp hitem
      exact restoreTarget_returns install target _
    obtain ⟨_, t, hrun, -⟩ := hreturns (stopped.armed []) rfl
    exact ⟨t, relabel_eq_ok.mpr hrun⟩

end

/-! ## Accepted records -/

section

variable {digests : CfgDigests} {controller : Cs2ConfigController} {s t : Files FilePath}
  {entry : Cs2ConfigTransaction} {capturedAt : String}

private theorem relabel_ofExcept_ok {ε ε' α : Type} {f : ε → ε'} {r : Except ε α} {a : α}
    (h : relabel f (ofExcept r) s = (.ok a, t)) : r = .ok a ∧ t = s := by
  obtain ⟨hr, ht⟩ := Prod.mk.inj (relabel_eq_ok.mp h)
  exact ⟨hr, ht.symm⟩

private theorem bound_controller {controller' : Cs2ConfigController} {s₁ : Files FilePath}
    (h : relabel Cs2ConfigBackupError.config
      (ofExcept (Cs2ConfigController.new controller.install)) s = (.ok controller', s₁)) :
    controller' = controller ∧ s₁ = s := by
  obtain ⟨hnew, hs⟩ := relabel_ofExcept_ok h
  rw [new_install] at hnew
  exact ⟨(Except.ok.inj hnew).symm, hs⟩

theorem capture_ok {request : Cs2ConfigRequest}
    (h : Cs2ConfigTransaction.capture digests controller.install request capturedAt s =
      (.ok entry, t)) :
    Captures s controller.install (Cs2ConfigTarget.forRequest request) entry ∧
      entry.validate digests controller.install request = .ok () ∧
      t.content = s.content := by
  obtain ⟨controller', s₁, hnew, hrest⟩ := bind_eq_ok h
  obtain ⟨rfl, rfl⟩ := bound_controller hnew
  obtain ⟨targetPaths, s₂, hbound, hrest⟩ := bind_eq_ok hrest
  obtain ⟨htargets, rfl⟩ := relabel_ofExcept_ok hbound
  unfold Cs2ConfigController.backupTargets at htargets
  rw [boundTargets_eq] at htargets
  obtain rfl := Except.ok.inj htargets
  obtain ⟨entry', s₃, hcapture, hrest⟩ := bind_eq_ok hrest
  obtain ⟨_, s₄, hcheck, hpure⟩ := bind_eq_ok hrest
  obtain ⟨hvalid, rfl⟩ := Prod.mk.inj hcheck
  obtain ⟨hentry, rfl⟩ := Prod.mk.inj hpure
  obtain rfl := Except.ok.inj hentry
  obtain ⟨hcaptures, hcontent⟩ := captureTargets_ok hcapture
  exact ⟨hcaptures, hvalid, hcontent⟩

/-- The targets of a non-empty selection. -/
theorem backupOptionalTargets_ok {assets : Finset OptionalCfgAsset}
    {targetPaths : List (Cs2ConfigTarget × FilePath)}
    (h : controller.backupOptionalTargets assets = .ok targetPaths) :
    assets ≠ ∅ ∧ targetPaths = (Cs2ConfigTarget.forOptionalAssets assets).map
      fun target => (target, targetPath controller.install target) := by
  obtain ⟨hselected, htargets⟩ := Lib.Checks.check_bind_eq_ok.mp h
  rw [boundTargets_eq] at htargets
  exact ⟨by simpa using reject_eq_ok.mp hselected, (Except.ok.inj htargets).symm⟩

theorem captureOptional_ok {assets : Finset OptionalCfgAsset}
    (h : Cs2ConfigTransaction.captureOptional digests controller.install assets capturedAt s =
      (.ok entry, t)) :
    Captures s controller.install (Cs2ConfigTarget.forOptionalAssets assets) entry ∧
      entry.validateOptional digests controller.install assets = .ok () ∧
      assets ≠ ∅ ∧ t.content = s.content := by
  obtain ⟨controller', s₁, hnew, hrest⟩ := bind_eq_ok h
  obtain ⟨rfl, rfl⟩ := bound_controller hnew
  obtain ⟨targetPaths, s₂, hbound, hrest⟩ := bind_eq_ok hrest
  obtain ⟨htargets, rfl⟩ := relabel_ofExcept_ok hbound
  obtain ⟨hselected, rfl⟩ := backupOptionalTargets_ok htargets
  obtain ⟨entry', s₃, hcapture, hrest⟩ := bind_eq_ok hrest
  obtain ⟨_, s₄, hcheck, hpure⟩ := bind_eq_ok hrest
  obtain ⟨hvalid, rfl⟩ := Prod.mk.inj hcheck
  obtain ⟨hentry, rfl⟩ := Prod.mk.inj hpure
  obtain rfl := Except.ok.inj hentry
  obtain ⟨hcaptures, hcontent⟩ := captureTargets_ok hcapture
  exact ⟨hcaptures, hvalid, hselected, hcontent⟩

/-- A capture only reads, also one that is refused. -/
theorem changes_captureOptional (install : Cs2Install) (assets : Finset OptionalCfgAsset)
    (capturedAt : String) :
    Changes (fun _ => False)
      (Cs2ConfigTransaction.captureOptional digests install assets capturedAt) := by
  unfold Cs2ConfigTransaction.captureOptional Cs2ConfigTransaction.captureTargets
  refine ((changes_ofExcept _).relabel _).bind fun controller' => ?_
  refine ((changes_ofExcept _).relabel _).bind fun targetPaths => ?_
  refine ((changes_captureSnapshots targetPaths 0).bind fun _ => changes_pure _).bind
    fun entry' => ?_
  exact (changes_ofExcept _).bind fun _ => changes_pure _

/-- The assets of a record are those it was captured for. -/
theorem optionalAssets_captured {assets : Finset OptionalCfgAsset}
    (h : Captures s controller.install (Cs2ConfigTarget.forOptionalAssets assets) entry) :
    Cs2ConfigTransaction.optionalAssetsFromSnapshots entry.targets = .ok assets := by
  have hmap := congrArg (List.map Prod.fst) h.originals
  unfold Cs2ConfigTransaction.originals at hmap
  rw [List.map_map, List.map_map] at hmap
  have htargets : entry.targets.map (·.target) = Cs2ConfigTarget.forOptionalAssets assets := by
    simpa [Function.comp_def] using hmap
  have hassets : (Cs2ConfigTarget.forOptionalAssets assets).mapM (fun target =>
      okOr target.optionalAsset (Cs2ConfigBackupError.unexpectedTarget target)) =
        .ok (assetOrder assets) := by
    refine Lib.Checks.mapM_map_eq_ok.mpr fun asset _ => ?_
    rw [optionalAsset_fromOptionalAsset]
    rfl
  rw [← htargets, List.mapM_map] at hassets
  unfold Cs2ConfigTransaction.optionalAssetsFromSnapshots
  show (entry.targets.mapM ((fun target => okOr target.optionalAsset
    (Cs2ConfigBackupError.unexpectedTarget target)) ∘ (·.target)) >>= fun _ => _) = _
  rw [hassets]
  have hset : (assetOrder assets).toFinset = assets := by
    ext asset
    simp [mem_assetOrder]
  exact congrArg Except.ok hset

/-- The restore of an accepted record. -/
theorem restore_givesBack {request : Cs2ConfigRequest} {stopped : Files FilePath}
    (h : Captures s controller.install (Cs2ConfigTarget.forRequest request) entry)
    (hvalid : entry.validate digests controller.install request = .ok ()) :
    GivesBack (entry.restore digests controller.install request) controller.install
      (Cs2ConfigTarget.forRequest request) s stopped := by
  have hrestore : entry.restore digests controller.install request =
      relabel .config (Cs2ConfigController.restoreTargets
        ((Cs2ConfigTarget.forRequest request).map
          fun target => (target, targetPath controller.install target))
        ((Cs2ConfigTarget.forRequest request).map
          fun target => (target, s.content (targetPath controller.install target)))) := by
    unfold Cs2ConfigTransaction.restore Cs2ConfigController.restore
      Cs2ConfigController.backupTargets
    rw [hvalid, h.known, new_install, h.originals]
    funext s'
    show relabel Cs2ConfigBackupError.config (ofExcept (controller.boundTargets _) >>= fun _ => _) s' = _
    rw [boundTargets_eq]
    rfl
  rw [hrestore]
  exact restoreTargets_givesBack (forRequest_nodup request)

theorem restoreOptional_givesBack {assets : Finset OptionalCfgAsset}
    {stopped : Files FilePath}
    (h : Captures s controller.install (Cs2ConfigTarget.forOptionalAssets assets) entry)
    (hvalid : entry.validateOptional digests controller.install assets = .ok ())
    (hselected : assets ≠ ∅) :
    GivesBack (entry.restoreOptional digests controller.install) controller.install
      (Cs2ConfigTarget.forOptionalAssets assets) s stopped := by
  have htargets : controller.backupOptionalTargets assets = .ok
      ((Cs2ConfigTarget.forOptionalAssets assets).map
        fun target => (target, targetPath controller.install target)) := by
    unfold Cs2ConfigController.backupOptionalTargets
    rw [boundTargets_eq]
    simp [reject, hselected]
  have hrestore : entry.restoreOptional digests controller.install =
      relabel .config (Cs2ConfigController.restoreTargets
        ((Cs2ConfigTarget.forOptionalAssets assets).map
          fun target => (target, targetPath controller.install target))
        ((Cs2ConfigTarget.forOptionalAssets assets).map
          fun target => (target, s.content (targetPath controller.install target)))) := by
    unfold Cs2ConfigTransaction.restoreOptional Cs2ConfigController.restoreOptionalAssets
    rw [optionalAssets_captured h, h.known, new_install, h.originals]
    funext s'
    show (ofExcept (entry.validateOptional digests controller.install assets) >>=
      fun _ => _) s' = _
    rw [hvalid]
    show relabel Cs2ConfigBackupError.config (ofExcept (controller.backupOptionalTargets assets) >>=
      fun _ => _) s' = _
    rw [htargets]
    rfl
  rw [hrestore]
  exact restoreTargets_givesBack (forOptionalAssets_nodup assets)

end

/-! ## Applying -/

/-- The bytes a request plans for a target, where autoexec was `before`. -/
def plannedBytes (bytes : CfgAssets) (request : Cs2ConfigRequest) (before : Option Bytes) :
    Cs2ConfigTarget → Bytes
  | .optimization => utf8 (renderOptimizationCfgAt request.generatedAt)
  | .autoexec => utf8 (ensureAutoexecLine ((before.bind fromUtf8).getD ""))
  | target => (target.optionalAsset.map bytes).getD []

/-- The bytes an optional deployment plans for a target. -/
def deployedBytes (bytes : CfgAssets) (target : Cs2ConfigTarget) : Bytes :=
  (target.optionalAsset.map bytes).getD []

theorem targetPath_not_sidecar (install : Cs2Install) (target : Cs2ConfigTarget) :
    targetPath install target ∉ sidecarPaths install := by
  have hfile : target.fileName ≠ "optimization.cfg.bak" ∧
      target.fileName ≠ "autoexec.cfg.bak" := by
    cases target <;> decide
  intro h
  rcases List.mem_pair.mp h with h | h
  · have hnames := joinNames_injective _ h
    exact hfile.1 (by simpa using hnames)
  · have hnames := joinNames_injective _ h
    exact hfile.2 (by simpa using hnames)

section

variable {controller : Cs2ConfigController} {s t : Files FilePath}

theorem changes_ensureCfgDirectory {paths : FilePath → Prop} (root path : FilePath) :
    Changes paths (ensureCfgDirectory root path) := by
  unfold ensureCfgDirectory
  exact (changes_touch.relabel _).bind fun _ => changes_ofExcept _

theorem changes_verifyOptionalAssets {paths : FilePath → Prop} (bytes : CfgAssets)
    (assets : Finset OptionalCfgAsset) :
    Changes paths (controller.verifyOptionalAssets bytes assets) := by
  unfold Cs2ConfigController.verifyOptionalAssets verifyBytes
  refine (changes_ofExcept _).bind fun _ => (changes_ofExcept _).bind fun cfg => ?_
  refine Changes.forEach fun deployment _ => (changes_ofExcept _).bind fun _ => ?_
  exact ((changes_readFile _).relabel _).bind fun _ => changes_ofExcept _

theorem changes_readAutoexec {paths : FilePath → Prop} (cfg : Cs2Paths)
    (request : Cs2ConfigRequest) :
    Changes paths (Cs2ConfigController.readAutoexec cfg request) := by
  unfold Cs2ConfigController.readAutoexec
  split
  · exact changes_readOptional
  · exact changes_pure _

theorem changes_createSidecar (stage : String) (path : FilePath) (original : Bytes) :
    Changes (· = path) (createSidecar stage path original) := by
  unfold createSidecar
  refine (changes_store path _).attempt.bind fun r => ?_
  match r with
  | .ok () =>
      exact ((changes_readFile path).relabel _).bind fun _ =>
        (changes_ofExcept _).bind fun _ => changes_pure _
  | .error .alreadyExists => exact changes_pure _
  | .error .notFound => exact changes_raise _
  | .error .permissionDenied => exact changes_raise _
  | .error .other => exact changes_raise _

theorem changes_createOptimizationBackup (path : FilePath) (original : Option Bytes) :
    Changes (· = path) (createOptimizationBackup path original) := by
  cases original with
  | none => exact changes_pure _
  | some original => exact changes_createSidecar _ path original

theorem changes_backupAutoexec (cfg : Cs2Paths) (request : Cs2ConfigRequest)
    (original : Option Bytes) (updated : Bool) :
    Changes (fun p => request.bootstrapAutoexec = true ∧ p = cfg.autoexecBackupPath)
      (Cs2ConfigController.backupAutoexec cfg request original updated) := by
  unfold Cs2ConfigController.backupAutoexec createAutoexecBackup
  by_cases hboot : request.bootstrapAutoexec = true
  · rw [if_pos hboot]
    split
    · exact changes_pure _
    · cases original with
      | none => exact changes_pure _
      | some original =>
          exact (changes_createSidecar _ _ original).mono fun p hp => ⟨hboot, hp⟩
  · rw [if_neg hboot]
    exact changes_pure _

theorem changes_writeAutoexec (cfg : Cs2Paths) (expected : Option Bytes) (updated : Bool)
    (recovery : Option FilePath) :
    Changes (fun p => expected.isSome = true ∧ p = cfg.autoexecPath)
      (Cs2ConfigController.writeAutoexec cfg expected updated recovery) := by
  unfold Cs2ConfigController.writeAutoexec
  cases expected with
  | none => exact changes_pure _
  | some bytes =>
      cases updated with
      | false => exact changes_pure _
      | true =>
          exact (writeAndVerify_reaches _ bytes _ recovery).others.mono fun p hp => ⟨rfl, hp⟩

/-- The deployments of a selection, with their targets. -/
theorem deployments_eq (install : Cs2Install) (bytes : CfgAssets)
    (assets : Finset OptionalCfgAsset) :
    (cfgPaths install).deploymentsForAssets bytes assets =
      (assetOrder assets).map fun asset =>
        { asset := asset, target := targetPath install (.fromOptionalAsset asset),
          bytes := bytes asset } := by
  unfold Cs2Paths.deploymentsForAssets
  refine List.map_congr_left fun asset _ => ?_
  rw [targetPath_eq, fileName_fromOptionalAsset]
  rfl

theorem deployments_paths (install : Cs2Install) (bytes : CfgAssets)
    (assets : Finset OptionalCfgAsset) :
    ((cfgPaths install).deploymentsForAssets bytes assets).map (·.target) =
      (Cs2ConfigTarget.forOptionalAssets assets).map (targetPath install) := by
  rw [deployments_eq, Cs2ConfigTarget.forOptionalAssets, List.map_map, List.map_map]
  rfl

/-- The path of an asset's target is none of the two fixed ones. -/
theorem fixed_not_deployed (install : Cs2Install) (assets : Finset OptionalCfgAsset)
    {target : Cs2ConfigTarget} (htarget : target.optionalAsset = none) :
    targetPath install target ∉
      (Cs2ConfigTarget.forOptionalAssets assets).map (targetPath install) := by
  intro h
  obtain ⟨target', hmem, heq⟩ := List.mem_map.mp h
  obtain ⟨asset, -, rfl⟩ := List.mem_map.mp hmem
  rw [← targetPath_injective install heq, optionalAsset_fromOptionalAsset] at htarget
  cases htarget

/-- The loop over the deployments. -/
theorem changes_deployments (install : Cs2Install) (bytes : CfgAssets)
    (assets : Finset OptionalCfgAsset) (recovery : Option FilePath) :
    Changes (· ∈ (Cs2ConfigTarget.forOptionalAssets assets).map (targetPath install))
      (forEach (fun deployment : CfgAssetDeployment => writeAndVerify deployment.target
          deployment.bytes "optional CFG replacement" recovery)
        ((cfgPaths install).deploymentsForAssets bytes assets)) := by
  refine Changes.forEach fun deployment hmem => ?_
  refine (writeAndVerify_reaches _ deployment.bytes _ recovery).others.mono ?_
  rintro p rfl
  rw [← deployments_paths install bytes]
  exact List.mem_map_of_mem hmem

/-- An apply changes the targets of its request and the sidecars. -/
theorem changes_apply (bytes : CfgAssets) (request : Cs2ConfigRequest) :
    Changes (fun p => (∃ target ∈ Cs2ConfigTarget.forRequest request,
        p = targetPath controller.install target) ∨ p ∈ sidecarPaths controller.install)
      (controller.apply bytes request) := by
  have hsidecars : sidecarPaths controller.install =
      [(cfgPaths controller.install).optimizationBackupPath,
        (cfgPaths controller.install).autoexecBackupPath] := by
    simp [sidecarPaths, cfgPaths, cfgDirectory, joinNames_joinNames]
  rw [hsidecars]
  unfold Cs2ConfigController.apply
  refine Changes.ofExcept_bind fun paths hpaths => ?_
  rw [paths_eq] at hpaths
  obtain rfl := Except.ok.inj hpaths
  refine (changes_ensureCfgDirectory _ _).bind fun _ => (changes_ofExcept _).bind fun _ => ?_
  refine changes_readOptional.bind fun original => ?_
  refine (changes_readAutoexec _ request).bind fun autoexecOriginal => ?_
  refine Changes.ofExcept_bind fun before _ => ?_
  refine ((changes_createOptimizationBackup _ original).mono ?_).bind fun backup => ?_
  · rintro p rfl
    exact .inr (by simp)
  refine ((writeAndVerify_reaches _ _ _ _).others.mono ?_).bind fun _ => ?_
  · rintro p rfl
    exact .inl ⟨.optimization, by simp [Cs2ConfigTarget.forRequest], rfl⟩
  refine ((changes_backupAutoexec _ request autoexecOriginal _).mono ?_).bind
    fun autoexecBackup => ?_
  · rintro p ⟨-, rfl⟩
    exact .inr (by simp)
  refine ((changes_writeAutoexec _ _ _ _).mono ?_).bind fun _ => ?_
  · rintro p ⟨hexpected, rfl⟩
    have hboot : request.bootstrapAutoexec = true := by
      by_contra hboot
      simp [Cs2ConfigController.expectedAutoexec, hboot] at hexpected
    exact .inl ⟨.autoexec, by simp [Cs2ConfigTarget.forRequest, hboot], rfl⟩
  refine ((changes_deployments controller.install bytes _ _).mono ?_).bind
    fun _ => changes_pure _
  intro p hp
  obtain ⟨target, htarget, rfl⟩ := List.mem_map.mp hp
  exact .inl ⟨target, List.mem_append_right _ htarget, rfl⟩

end

/-! ## What an apply leaves -/

/-- The text that was read from autoexec. -/
theorem autoexecText_ok {original : Option Bytes} {before : Option String}
    (h : Cs2ConfigController.autoexecText original = .ok before) :
    before = original.bind fromUtf8 ∧ original = before.map utf8 := by
  cases original with
  | none =>
      obtain rfl := Except.ok.inj h
      exact ⟨rfl, rfl⟩
  | some bytes =>
      obtain ⟨text, htext, rfl⟩ := Lib.Checks.map_eq_ok.mp h
      have hsome : fromUtf8 bytes = some text := okOr_eq_ok.mp htext
      exact ⟨by simp [hsome], by simp [utf8_fromUtf8 hsome]⟩

section

variable {controller : Cs2ConfigController} {s t : Files FilePath}

/-- The assets after the last loop. -/
theorem deployments_reached {install : Cs2Install} {bytes : CfgAssets}
    {assets : Finset OptionalCfgAsset} {recovery : Option FilePath} {u : Unit}
    (h : forEach (fun deployment : CfgAssetDeployment => writeAndVerify deployment.target
        deployment.bytes "optional CFG replacement" recovery)
      ((cfgPaths install).deploymentsForAssets bytes assets) s = (.ok u, t)) :
    ∀ asset ∈ assets, t.content (targetPath install (.fromOptionalAsset asset)) =
      some (bytes asset) := by
  have hpaths : (((cfgPaths install).deploymentsForAssets bytes assets).map
      (·.target)).Nodup := by
    rw [deployments_paths]
    exact (forOptionalAssets_nodup assets).map (targetPath_injective install)
  intro asset hasset
  have hmem : CfgAssetDeployment.mk asset (targetPath install (.fromOptionalAsset asset))
      (bytes asset) ∈ (cfgPaths install).deploymentsForAssets bytes assets := by
    rw [deployments_eq]
    exact List.mem_map_of_mem (mem_assetOrder.mpr hasset)
  exact forEach_reaches (fun deployment : CfgAssetDeployment =>
    writeAndVerify_reaches deployment.target deployment.bytes "optional CFG replacement"
      recovery) hpaths h _ hmem

/-- Autoexec is written where its bytes change, and has the wanted bytes already
where they do not. -/
theorem writeAutoexec_ok {cfg : Cs2Paths} {expected : Bytes} {before : Option String}
    {recovery : Option FilePath} {u : Unit}
    (hbefore : s.content cfg.autoexecPath = before.map utf8)
    (h : Cs2ConfigController.writeAutoexec cfg (some expected)
      (Cs2ConfigController.autoexecChanges (some expected) before) recovery s = (.ok u, t)) :
    t.content cfg.autoexecPath = some expected := by
  cases hchanges : Cs2ConfigController.autoexecChanges (some expected) before with
  | true =>
      rw [hchanges] at h
      exact (writeAndVerify_reaches _ _ _ _).reached _ _ _ h
  | false =>
      rw [hchanges] at h
      have hskip : t = s := (Prod.mk.inj h).2.symm
      rw [hskip, hbefore]
      cases before with
      | none => simp [Cs2ConfigController.autoexecChanges] at hchanges
      | some text => simpa [Cs2ConfigController.autoexecChanges] using hchanges

theorem targetPath_ne_sidecars (install : Cs2Install) (target : Cs2ConfigTarget) :
    targetPath install target ≠ (cfgPaths install).optimizationBackupPath ∧
      targetPath install target ≠ (cfgPaths install).autoexecBackupPath := by
  have hnot := targetPath_not_sidecar install target
  rw [sidecarPaths, List.mem_pair] at hnot
  push Not at hnot
  simpa [cfgPaths, cfgDirectory, joinNames_joinNames] using hnot

/-- **An apply that returned leaves what it planned.** -/
theorem apply_ok {bytes : CfgAssets} {request : Cs2ConfigRequest}
    {report : Cs2ConfigWriteReport}
    (h : controller.apply bytes request s = (.ok report, t)) :
    ∀ target ∈ Cs2ConfigTarget.forRequest request,
      t.content (targetPath controller.install target) =
        some (plannedBytes bytes request
          (s.content (targetPath controller.install .autoexec)) target) := by
  obtain ⟨paths, s₁, hpaths, h⟩ := bind_eq_ok h
  obtain ⟨hok, rfl⟩ := Prod.mk.inj hpaths
  rw [paths_eq] at hok
  obtain rfl := Except.ok.inj hok
  obtain ⟨_, s₂, hdirectory, h⟩ := bind_eq_ok h
  obtain ⟨_, s₃, hsafe, h⟩ := bind_eq_ok h
  obtain ⟨-, rfl⟩ := Prod.mk.inj hsafe
  obtain ⟨original, s₄, hread, h⟩ := bind_eq_ok h
  obtain ⟨autoexecOriginal, s₅, hautoexec, h⟩ := bind_eq_ok h
  obtain ⟨before, s₆, htext, h⟩ := bind_eq_ok h
  obtain ⟨hbefore, rfl⟩ := Prod.mk.inj htext
  obtain ⟨backup, s₇, hbackup, h⟩ := bind_eq_ok h
  obtain ⟨_, s₈, hwrite, h⟩ := bind_eq_ok h
  obtain ⟨autoexecBackup, s₉, hsidecar, h⟩ := bind_eq_ok h
  obtain ⟨_, s₁₀, hline, h⟩ := bind_eq_ok h
  obtain ⟨_, s₁₁, hassets, hreport⟩ := bind_eq_ok h
  obtain ⟨-, rfl⟩ := Prod.mk.inj hreport
  set install := controller.install with hinstall
  -- the reads change nothing, so that autoexec was read as it was at first
  have hfirst : s₄.content = s.content := by
    rw [changes_readOptional.same hread, (changes_ensureCfgDirectory _ _).same hdirectory]
  have hreads : s₅.content = s.content := by
    rw [(changes_readAutoexec _ request).same hautoexec, hfirst]
  have hlast : ∀ target, target.optionalAsset = none →
      s₁₁.content (targetPath install target) = s₁₀.content (targetPath install target) :=
    fun target htarget => changes_deployments install bytes _ _ _ _ _ hassets _
      (fixed_not_deployed install _ htarget)
  have hseparate : targetPath install .optimization ≠ targetPath install .autoexec :=
    fun heq => by cases targetPath_injective install heq
  intro target htarget
  rcases List.mem_append.mp htarget with hfixed | hasset
  · have hcases : target = .optimization ∨
        request.bootstrapAutoexec = true ∧ target = .autoexec := by
      cases hboot : request.bootstrapAutoexec with
      | false => simpa [hboot] using hfixed
      | true => simpa [hboot] using hfixed
    rcases hcases with rfl | ⟨hboot, rfl⟩
    · -- the writes after it are to other paths
      rw [hlast _ rfl,
        changes_writeAutoexec _ _ _ _ _ _ _ hline _ (fun hp => hseparate hp.2),
        changes_backupAutoexec _ _ _ _ _ _ _ hsidecar _
          (fun hp => (targetPath_ne_sidecars install .optimization).2 hp.2)]
      exact (writeAndVerify_reaches _ _ _ _).reached _ _ _ hwrite
    · obtain ⟨htextOf, hbytes⟩ := autoexecText_ok hbefore
      rw [Cs2ConfigController.readAutoexec, if_pos hboot] at hautoexec
      have horiginal : s.content (targetPath install .autoexec) = autoexecOriginal := by
        rw [← hfirst]
        exact readOptional_ok hautoexec
      have hplanned : Cs2ConfigController.expectedAutoexec request before =
          some (plannedBytes bytes request
            (s.content (targetPath install .autoexec)) .autoexec) := by
        rw [Cs2ConfigController.expectedAutoexec, if_pos hboot, htextOf, horiginal]
        rfl
      rw [hplanned] at hline
      rw [hlast _ rfl]
      refine writeAutoexec_ok ?_ hline
      show s₉.content (targetPath install .autoexec) = before.map utf8
      rw [changes_backupAutoexec _ _ _ _ _ _ _ hsidecar _
          (fun hp => (targetPath_ne_sidecars install .autoexec).2 hp.2),
        (writeAndVerify_reaches _ _ _ _).others _ _ _ hwrite _ (Ne.symm hseparate),
        changes_createOptimizationBackup _ _ _ _ _ hbackup _
          (targetPath_ne_sidecars install .autoexec).1,
        hreads, horiginal, hbytes]
  · obtain ⟨asset, hmem, rfl⟩ := List.mem_map.mp hasset
    rw [deployments_reached hassets asset (mem_assetOrder.mp hmem)]
    cases asset <;> rfl

end

/-! ## The optional deployment -/

section

variable {digests : CfgDigests} {controller : Cs2ConfigController} {s t : Files FilePath}
  {entry : Cs2ConfigTransaction}

theorem deployIfUnchanged_reaches (cfg : Cs2Paths)
    (item : CfgAssetDeployment × Cs2ConfigTarget × Option Bytes) :
    Reaches (Cs2ConfigController.deployIfUnchanged cfg item) item.1.target
      (some item.1.bytes) := by
  obtain ⟨deployment, target, original⟩ := item
  have hwrite : Reaches (writeAndVerify deployment.target deployment.bytes
      "optional CFG replacement" none) deployment.target (some deployment.bytes) :=
    writeAndVerify_reaches _ _ _ _
  constructor
  · unfold Cs2ConfigController.deployIfUnchanged
    exact (changes_ofExcept _).bind fun _ => changes_readOptional.bind fun _ =>
      (changes_ofExcept _).bind fun _ => hwrite.others
  · intro s a t h
    obtain ⟨_, s₁, -, h⟩ := bind_eq_ok h
    obtain ⟨_, s₂, -, h⟩ := bind_eq_ok h
    obtain ⟨_, s₃, -, h⟩ := bind_eq_ok h
    exact hwrite.reached s₃ a t h

/-- The deployments of a selection. -/
theorem mem_deployments {install : Cs2Install} {bytes : CfgAssets}
    {assets : Finset OptionalCfgAsset} {deployment : CfgAssetDeployment} :
    deployment ∈ (cfgPaths install).deploymentsForAssets bytes assets ↔
      ∃ asset ∈ assets, CfgAssetDeployment.mk asset
        (targetPath install (.fromOptionalAsset asset)) (bytes asset) = deployment := by
  rw [deployments_eq, List.mem_map]
  simp only [mem_assetOrder]

/-- Whatever the snapshots are, only targets of the selection are written. -/
theorem changes_applyOptionalAssets (bytes : CfgAssets) (assets : Finset OptionalCfgAsset)
    (snapshots : List (Cs2ConfigTarget × Option Bytes)) :
    Changes (fun p => ∃ target ∈ Cs2ConfigTarget.forOptionalAssets assets,
        p = targetPath controller.install target)
      (controller.applyOptionalAssetsIfUnchanged bytes assets snapshots) := by
  unfold Cs2ConfigController.applyOptionalAssetsIfUnchanged
  refine (changes_ofExcept _).bind fun _ => Changes.ofExcept_bind fun paths hpaths => ?_
  rw [paths_eq] at hpaths
  obtain rfl := Except.ok.inj hpaths
  refine (changes_ensureCfgDirectory _ _).bind fun _ => (changes_ofExcept _).bind fun _ => ?_
  refine (Changes.forEach fun item hitem => ?_).bind fun _ => changes_pure _
  refine (deployIfUnchanged_reaches _ item).others.mono ?_
  rintro p rfl
  have hdeployment : item.1 ∈ _ := (List.of_mem_zip hitem).1
  obtain ⟨asset, hasset, heq⟩ := mem_deployments.mp hdeployment
  rw [← heq]
  exact ⟨.fromOptionalAsset asset, List.mem_map_of_mem (mem_assetOrder.mpr hasset), rfl⟩

theorem applyOptionalAssets_ok {bytes : CfgAssets} {assets : Finset OptionalCfgAsset}
    {snapshots : List (Cs2ConfigTarget × Option Bytes)} {written : List FilePath}
    (h : controller.applyOptionalAssetsIfUnchanged bytes assets snapshots s =
      (.ok written, t)) :
    ∀ asset ∈ assets, t.content (targetPath controller.install (.fromOptionalAsset asset)) =
      some (bytes asset) := by
  obtain ⟨_, s₁, -, h⟩ := bind_eq_ok h
  obtain ⟨paths, s₂, hpaths, h⟩ := bind_eq_ok h
  have hok := (Prod.mk.inj hpaths).1
  rw [paths_eq] at hok
  obtain rfl := Except.ok.inj hok
  obtain ⟨_, s₃, -, h⟩ := bind_eq_ok h
  obtain ⟨_, s₄, hbinding, h⟩ := bind_eq_ok h
  obtain ⟨_, s₅, hloop, hpure⟩ := bind_eq_ok h
  obtain ⟨-, rfl⟩ := Prod.mk.inj hpure
  have hcheck := reject_eq_ok.mp (Prod.mk.inj hbinding).1
  have hlength : ((cfgPaths controller.install).deploymentsForAssets bytes assets).length =
      snapshots.length := by
    simp only [Bool.or_eq_false_iff] at hcheck
    simpa using hcheck.1
  set deployments := (cfgPaths controller.install).deploymentsForAssets bytes assets
    with hdeployments
  have hfirst : (deployments.zip snapshots).map Prod.fst = deployments :=
    List.map_fst_zip hlength.le
  have hpathsNodup : ((deployments.zip snapshots).map (·.1.target)).Nodup := by
    have hmap : (deployments.zip snapshots).map (·.1.target) =
        ((deployments.zip snapshots).map Prod.fst).map (·.target) := by
      rw [List.map_map]
      rfl
    rw [hmap, hfirst, hdeployments, deployments_paths]
    exact (forOptionalAssets_nodup assets).map (targetPath_injective controller.install)
  intro asset hasset
  have hmem : CfgAssetDeployment.mk asset
      (targetPath controller.install (.fromOptionalAsset asset)) (bytes asset) ∈
        (deployments.zip snapshots).map Prod.fst := by
    rw [hfirst]
    exact mem_deployments.mpr ⟨asset, hasset, rfl⟩
  obtain ⟨item, hitem, heq⟩ := List.mem_map.mp hmem
  have hreached := forEach_reaches (deployIfUnchanged_reaches (cfgPaths controller.install))
    hpathsNodup hloop item hitem
  rw [heq] at hreached
  exact hreached

/-- The deployment of an accepted record. -/
theorem changes_applyOptional {captured : Files FilePath} {assets : Finset OptionalCfgAsset}
    (bytes : CfgAssets)
    (h : Captures captured controller.install (Cs2ConfigTarget.forOptionalAssets assets)
      entry) :
    Changes (fun p => ∃ target ∈ Cs2ConfigTarget.forOptionalAssets assets,
        p = targetPath controller.install target)
      (entry.applyOptional digests bytes controller.install) := by
  unfold Cs2ConfigTransaction.applyOptional
  refine Changes.ofExcept_bind fun assets' hassets => ?_
  rw [optionalAssets_captured h] at hassets
  obtain rfl := Except.ok.inj hassets
  refine (changes_ofExcept _).bind fun _ => (changes_ofExcept _).bind fun _ => ?_
  rw [new_install]
  show Changes _ (relabel Cs2ConfigBackupError.config
    (controller.applyOptionalAssetsIfUnchanged bytes assets entry.originals))
  exact (changes_applyOptionalAssets bytes assets entry.originals).relabel _

theorem applyOptional_ok {captured : Files FilePath} {assets : Finset OptionalCfgAsset}
    {bytes : CfgAssets} {written : List FilePath}
    (hcaptures : Captures captured controller.install
      (Cs2ConfigTarget.forOptionalAssets assets) entry)
    (h : entry.applyOptional digests bytes controller.install s = (.ok written, t)) :
    ∀ target ∈ Cs2ConfigTarget.forOptionalAssets assets,
      t.content (targetPath controller.install target) = some (deployedBytes bytes target) := by
  obtain ⟨assets', s₁, hassets, h⟩ := bind_eq_ok h
  have hsame := (Prod.mk.inj hassets).1
  rw [optionalAssets_captured hcaptures] at hsame
  obtain rfl := Except.ok.inj hsame
  obtain ⟨_, s₂, -, h⟩ := bind_eq_ok h
  obtain ⟨_, s₃, -, h⟩ := bind_eq_ok h
  obtain ⟨controller', s₄, hnew, hdeploy⟩ := bind_eq_ok h
  obtain ⟨rfl, -⟩ := bound_controller hnew
  intro target htarget
  obtain ⟨asset, hasset, rfl⟩ := List.mem_map.mp htarget
  rw [applyOptionalAssets_ok (relabel_eq_ok.mp hdeploy) asset (mem_assetOrder.mp hasset)]
  simp [deployedBytes, optionalAsset_fromOptionalAsset]

end

/-! ## The transaction -/

/-- **The CFG transaction is reversible.**  Take a record that a capture accepted,
and let an apply run under any faults, so that it may stop after any of its calls.
Restoring gives back what was captured and changes nothing else.  An apply that
returned has left the planned bytes in every target, and no apply changes a file
beside the targets and the sidecars. -/
theorem cs2ConfigTransaction (digests : CfgDigests) (bytes : CfgAssets)
    (controller : Cs2ConfigController) (capturedAt : String) (s : Files FilePath) :
    (∀ (request : Cs2ConfigRequest) entry s₁,
      Cs2ConfigTransaction.capture digests controller.install request capturedAt s =
          (.ok entry, s₁) →
      ∀ faults r s₂, controller.apply bytes request (s₁.armed faults) = (r, s₂) →
        GivesBack (entry.restore digests controller.install request) controller.install
            (Cs2ConfigTarget.forRequest request) s s₂ ∧
          (∀ report, r = .ok report → ∀ target ∈ Cs2ConfigTarget.forRequest request,
            s₂.content (targetPath controller.install target) =
              some (plannedBytes bytes request
                (s.content (targetPath controller.install .autoexec)) target)) ∧
          (∀ p, (∀ target ∈ Cs2ConfigTarget.forRequest request,
              p ≠ targetPath controller.install target) →
            p ∉ sidecarPaths controller.install → s₂.content p = s.content p)) ∧
    (∀ (assets : Finset OptionalCfgAsset) entry s₁,
      Cs2ConfigTransaction.captureOptional digests controller.install assets capturedAt s =
          (.ok entry, s₁) →
      ∀ faults r s₂, entry.applyOptional digests bytes controller.install
          (s₁.armed faults) = (r, s₂) →
        GivesBack (entry.restoreOptional digests controller.install) controller.install
            (Cs2ConfigTarget.forOptionalAssets assets) s s₂ ∧
          (∀ written, r = .ok written → ∀ target ∈ Cs2ConfigTarget.forOptionalAssets assets,
            s₂.content (targetPath controller.install target) =
              some (deployedBytes bytes target)) ∧
          (∀ p, (∀ target ∈ Cs2ConfigTarget.forOptionalAssets assets,
              p ≠ targetPath controller.install target) → s₂.content p = s.content p)) := by
  constructor
  · intro request entry s₁ hcapture faults r s₂ happly
    obtain ⟨hcaptures, hvalid, hcontent⟩ := capture_ok hcapture
    refine ⟨restore_givesBack hcaptures hvalid, ?_, ?_⟩
    · rintro report rfl
      have hplanned := apply_ok happly
      rwa [Files.armed_content, hcontent] at hplanned
    · intro p hp hsidecar
      rw [← hcontent]
      refine changes_apply bytes request (s₁.armed faults) r s₂ happly p ?_
      rintro (⟨target, htarget, rfl⟩ | hmem)
      · exact hp target htarget rfl
      · exact hsidecar hmem
  · intro assets entry s₁ hcapture faults r s₂ happly
    obtain ⟨hcaptures, hvalid, hselected, hcontent⟩ := captureOptional_ok hcapture
    refine ⟨restoreOptional_givesBack hcaptures hvalid hselected, ?_, ?_⟩
    · rintro written rfl
      exact applyOptional_ok hcaptures happly
    · intro p hp
      rw [← hcontent]
      refine changes_applyOptional bytes hcaptures (s₁.armed faults) r s₂ happly p ?_
      rintro ⟨target, htarget, rfl⟩
      exact hp target htarget rfl

/-! ## One stopped apply -/

private def sampleRoot : FilePath := [.device "C:", .rootDir, .normal "Steam"]

private def sampleInstall : Cs2Install where
  steamRoot := sampleRoot
  libraryRoot := sampleRoot
  installRoot := joinNames sampleRoot ["steamapps", "common", CS2_DIRECTORY]

private def sampleController : Cs2ConfigController where
  install := sampleInstall
  bound := by decide +kernel

/-- The game's settings before the change. -/
private def sampleSettings : Bytes := utf8 "fps_max 300\n"

/-- SHA-256 on the two inputs of the sample. -/
private def sampleDigests : CfgDigests where
  encodedBytes path :=
    if path = sampleRoot then utf8 "C:\\Steam"
    else utf8 "C:\\Steam\\steamapps\\common\\Counter-Strike Global Offensive"
  sha256 bytes :=
    if bytes = sampleSettings then
     [0xda, 0x52, 0x88, 0xbe, 0xc9, 0x00, 0x76, 0xf0, 0xa1, 0x5b, 0x24,
      0x2b, 0xaa, 0xd5, 0xe2, 0x70, 0xe1, 0xfa, 0x41, 0xc3, 0x63, 0x2a,
      0x66, 0xe4, 0xeb, 0x56, 0x21, 0xb5, 0x55, 0x88, 0x7e, 0x47]
    else
     [0xf5, 0xe4, 0x31, 0x14, 0xd6, 0x0a, 0x21, 0x49, 0x51, 0x86, 0x19,
      0x0c, 0xee, 0x26, 0xe2, 0x23, 0xb5, 0x86, 0x5e, 0x8e, 0xee, 0x68,
      0x12, 0x00, 0xd3, 0x92, 0x96, 0x14, 0x16, 0xa6, 0x15, 0x94]

private def sampleRequest : Cs2ConfigRequest where
  generatedAt := "2026-08-23 12:34"
  optionalAssets := {.netStable}
  bootstrapAutoexec := false
  timed := by decide +kernel

/-- Only `optimization.cfg` is there. -/
private def sampleFiles : Files FilePath where
  content path :=
    if path = targetPath sampleInstall .optimization then some sampleSettings else none

/-- The write of the asset, the seventh call, fails half way. -/
private def sampleFaults : List (Option Fault) :=
  List.replicate 6 none ++ [some (.fails .other (by decide) (some [0x66]))]

private def sampleCapture : Except Cs2ConfigBackupError Cs2ConfigTransaction × Files FilePath :=
  Cs2ConfigTransaction.capture sampleDigests sampleInstall sampleRequest
    "2026-08-23 12:34:56" sampleFiles

/-- The bytes of the selected asset. -/
private def sampleAssets : CfgAssets := fun _ =>
  utf8 (
    "// net_stable.cfg - frametime.cfg\n" ++
    "// August 2026 reset for stable delivery: in-game buffering = None.\n" ++
    "// Use after testing either buffered profile.\n" ++
    "//\n" ++
    "// HOW TO USE: exec net_stable\n" ++
    "\n" ++
    "cl_net_buffer_ticks \"0\"\n" ++
    "\n" ++
    "echo \"[frametime.cfg] net_stable - buffering None (cl_net_buffer_ticks 0)\"\n")

private def sampleApply : Except Cs2ConfigError Cs2ConfigWriteReport × Files FilePath :=
  sampleController.apply sampleAssets sampleRequest (sampleCapture.2.armed sampleFaults)

private theorem sampleCapture_ok : sampleCapture.1.isOk = true := by decide +kernel

private theorem sampleApply_error : sampleApply.1.isOk = false := by decide +kernel

/-- The generated settings were written and the asset was torn; both come back. -/
theorem cs2ConfigTransaction_stopped :
    ∃ entry, sampleCapture.1 = .ok entry ∧ sampleApply.1.isOk = false ∧
      GivesBack (entry.restore sampleDigests sampleInstall sampleRequest) sampleInstall
        (Cs2ConfigTarget.forRequest sampleRequest) sampleFiles sampleApply.2 := by
  have hok := sampleCapture_ok
  cases hentry : sampleCapture.1 with
  | error e =>
      rw [hentry] at hok
      cases hok
  | ok entry =>
      refine ⟨entry, rfl, sampleApply_error, ?_⟩
      exact ((cs2ConfigTransaction sampleDigests sampleAssets sampleController
        "2026-08-23 12:34:56" sampleFiles).1 sampleRequest entry sampleCapture.2
        (Prod.ext hentry rfl) sampleFaults sampleApply.1 sampleApply.2 Prod.mk.eta.symm).1

end FrametimeCfg.Verified.Cs2ConfigInverse
