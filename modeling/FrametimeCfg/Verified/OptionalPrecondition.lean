import FrametimeCfg.Verified.Cs2ConfigInverse

/-!
# The precondition of the optional deployment

The deployment is meant to run only while every selected target still has the
content that was captured.  It compares each target right before that target's own
write, so that a target that has changed stops it after the earlier ones were
written.

Whatever happens, only selected targets change, and a deployment that returns has
found every target as captured.  The refusal leaves everything as it was exactly
when the targets before the first changed one already hold the bytes of their
assets.
-/

namespace FrametimeCfg.Verified.OptionalPrecondition

open FrametimeCfg.Domain
open FrametimeCfg.Lib.Checks (reject reject_eq_ok reject_eq_error reject_ne_error)
open FrametimeCfg.Lib.Effect
open FrametimeCfg.Lib.FileCalls
open FrametimeCfg.Verified.Cs2ConfigInverse

/-- A deployment, and what was captured of its target. -/
abbrev DeployItem := CfgAssetDeployment × Cs2ConfigTarget × Option Bytes

/-- The deployments of a selection beside the snapshots. -/
def deployItems (install : Cs2Install) (bytes : CfgAssets) (assets : Finset OptionalCfgAsset)
    (snapshots : List (Cs2ConfigTarget × Option Bytes)) : List DeployItem :=
  ((cfgPaths install).deploymentsForAssets bytes assets).zip snapshots

/-- The target still has its captured content. -/
def unchanged (s : Files FilePath) (item : DeployItem) : Bool :=
  s.content item.1.target = item.2.2

/-- **All or nothing.**  A refused precondition has changed no target; a success has
found every target as captured and left the bytes of its asset; no other file
changes. -/
structure AllOrNothing (controller : Cs2ConfigController) (bytes : CfgAssets)
    (assets : Finset OptionalCfgAsset) (snapshots : List (Cs2ConfigTarget × Option Bytes))
    (s : Files FilePath) : Prop where
  refused : ∀ faults path t,
    controller.applyOptionalAssetsIfUnchanged bytes assets snapshots (s.armed faults) =
        (.error (.preconditionMismatch path), t) →
      ∀ target ∈ Cs2ConfigTarget.forOptionalAssets assets,
        t.content (targetPath controller.install target) =
          s.content (targetPath controller.install target)
  deployed : ∀ faults written t,
    controller.applyOptionalAssetsIfUnchanged bytes assets snapshots (s.armed faults) =
        (.ok written, t) →
      snapshots = (Cs2ConfigTarget.forOptionalAssets assets).map
          (fun target => (target, s.content (targetPath controller.install target))) ∧
        ∀ target ∈ Cs2ConfigTarget.forOptionalAssets assets,
          t.content (targetPath controller.install target) =
            some (deployedBytes bytes target)
  others : ∀ faults r t,
    controller.applyOptionalAssetsIfUnchanged bytes assets snapshots (s.armed faults) =
        (r, t) →
      ∀ p, (∀ target ∈ Cs2ConfigTarget.forOptionalAssets assets,
        p ≠ targetPath controller.install target) → t.content p = s.content p

/-! ## One deployment -/

section

variable {s t : Files FilePath} {item : DeployItem} {cfg : Cs2Paths}

theorem assertExistingPathSafe_ne {root candidate path : FilePath} :
    assertExistingPathSafe root candidate ≠ .error (.preconditionMismatch path) := by
  unfold assertExistingPathSafe
  split
  · simp
  · exact reject_ne_error (by simp)

theorem readOptional_ne {path path' : FilePath} :
    readOptional path s ≠ (.error (.preconditionMismatch path'), t) := by
  intro h
  rcases bind_eq_error h with hattempt | ⟨r, s₁, -, hrest⟩
  · unfold attempt at hattempt
    cases (Prod.mk.inj hattempt).1
  · match r with
    | .ok _ => cases (Prod.mk.inj hrest).1
    | .error .notFound => cases (Prod.mk.inj hrest).1
    | .error .alreadyExists => cases (Prod.mk.inj hrest).1
    | .error .permissionDenied => cases (Prod.mk.inj hrest).1
    | .error .other => cases (Prod.mk.inj hrest).1

theorem relabel_mutation_ne {α : Type} {m : Prog (Files FilePath) ErrorKind α}
    {stage : String} {recovery : Option FilePath} {path : FilePath} :
    relabel (Cs2ConfigError.mutation stage recovery) m s ≠
      (.error (.preconditionMismatch path), t) := by
  intro h
  unfold relabel at h
  rcases hm : m s with ⟨r, s₁⟩
  rw [hm] at h
  cases r with
  | ok a => cases (Prod.mk.inj h).1
  | error kind => cases (Prod.mk.inj h).1

theorem writeAndVerify_ne {path path' : FilePath} {expected : Bytes} {stage : String}
    {recovery : Option FilePath} :
    writeAndVerify path expected stage recovery s ≠
      (.error (.preconditionMismatch path'), t) := by
  intro h
  rcases bind_eq_error h with hwrite | ⟨_, s₁, -, h⟩
  · exact relabel_mutation_ne hwrite
  rcases bind_eq_error h with hread | ⟨actual, s₂, -, hcheck⟩
  · exact relabel_mutation_ne hread
  · obtain ⟨-, heq⟩ := reject_eq_error.mp (Prod.mk.inj hcheck).1
    cases heq

/-- The deployment refuses a target that has changed, before it writes it. -/
theorem deployIfUnchanged_refused {path : FilePath}
    (h : Cs2ConfigController.deployIfUnchanged cfg item s =
      (.error (.preconditionMismatch path), t)) :
    unchanged s item = false ∧ t.content = s.content := by
  obtain ⟨deployment, target, original⟩ := item
  rcases bind_eq_error h with hsafe | ⟨_, s₁, hsafe, h⟩
  · exact absurd (Prod.mk.inj hsafe).1 assertExistingPathSafe_ne
  obtain ⟨-, rfl⟩ := Prod.mk.inj hsafe
  rcases bind_eq_error h with hread | ⟨current, s₂, hread, h⟩
  · exact absurd hread readOptional_ne
  have hcontent := changes_readOptional.same hread
  rcases bind_eq_error h with hcheck | ⟨_, s₃, -, hwrite⟩
  · obtain ⟨hreject, rfl⟩ := Prod.mk.inj hcheck
    obtain ⟨hne, -⟩ := reject_eq_error.mp hreject
    refine ⟨?_, hcontent⟩
    simpa [unchanged, readOptional_ok hread] using hne
  · exact absurd hwrite writeAndVerify_ne

/-- A deployment that ended found its target as captured. -/
theorem deployIfUnchanged_found {u : Unit}
    (h : Cs2ConfigController.deployIfUnchanged cfg item s = (.ok u, t)) :
    unchanged s item = true := by
  obtain ⟨deployment, target, original⟩ := item
  obtain ⟨_, s₁, hsafe, h⟩ := bind_eq_ok h
  obtain ⟨-, rfl⟩ := Prod.mk.inj hsafe
  obtain ⟨current, s₂, hread, h⟩ := bind_eq_ok h
  obtain ⟨_, s₃, hcheck, -⟩ := bind_eq_ok h
  have hsame := reject_eq_ok.mp (Prod.mk.inj hcheck).1
  simpa [unchanged, readOptional_ok hread] using hsame

/-- Without faults a deployment compares, and then writes. -/
theorem deployIfUnchanged_quiet (hs : s.faults = [])
    (hsafe : ensureSafeTarget cfg.cfgDirectory item.1.target = .ok ()) :
    (unchanged s item = true → ∃ t, Cs2ConfigController.deployIfUnchanged cfg item s =
        (.ok (), t) ∧ t.faults = []) ∧
      (unchanged s item = false → Cs2ConfigController.deployIfUnchanged cfg item s =
        (.error (.preconditionMismatch item.1.target), s.next)) := by
  obtain ⟨deployment, target, original⟩ := item
  have hread := readOptional_quiet deployment.target hs
  have hfirst : Cs2ConfigController.deployIfUnchanged cfg (deployment, target, original) s =
      ((do
        ofExcept (reject (s.content deployment.target ≠ original)
          (.preconditionMismatch deployment.target))
        writeAndVerify deployment.target deployment.bytes "optional CFG replacement" none) :
          CfgProg Unit) s.next := by
    unfold Cs2ConfigController.deployIfUnchanged
    show (ofExcept (ensureSafeTarget cfg.cfgDirectory deployment.target) >>= fun _ => _) s = _
    rw [hsafe]
    exact bind_apply_ok hread
  constructor
  · intro hsame
    have hcheck : decide (s.content deployment.target ≠ original) = false := by
      simpa [unchanged] using hsame
    obtain ⟨_, t, hwrite, ht⟩ := writeAndVerify_returns deployment.target deployment.bytes
      "optional CFG replacement" none s.next (Files.next_quiet hs)
    refine ⟨t, hfirst.trans ?_, ht⟩
    rw [hcheck]
    exact hwrite
  · intro hchanged
    have hcheck : decide (s.content deployment.target ≠ original) = true := by
      simpa [unchanged] using hchanged
    refine hfirst.trans ?_
    rw [hcheck]
    rfl

end

/-! ## The loop -/

section

variable {controller : Cs2ConfigController} {bytes : CfgAssets}
  {assets : Finset OptionalCfgAsset} {snapshots : List (Cs2ConfigTarget × Option Bytes)}
  {s t : Files FilePath}

/-- The snapshots are those of the selection, in its order. -/
def Bound (assets : Finset OptionalCfgAsset)
    (snapshots : List (Cs2ConfigTarget × Option Bytes)) : Prop :=
  snapshots.map (·.1) = Cs2ConfigTarget.forOptionalAssets assets

theorem deployments_targets (install : Cs2Install) (bytes : CfgAssets)
    (assets : Finset OptionalCfgAsset) :
    ((cfgPaths install).deploymentsForAssets bytes assets).map
        (Cs2ConfigTarget.fromOptionalAsset ·.asset) =
      Cs2ConfigTarget.forOptionalAssets assets := by
  rw [deployments_eq, List.map_map]
  rfl

theorem deployItems_fst (install : Cs2Install) (hbound : Bound assets snapshots) :
    (deployItems install bytes assets snapshots).map Prod.fst =
      (cfgPaths install).deploymentsForAssets bytes assets := by
  have htargets := congrArg List.length (deployments_targets install bytes assets)
  have hsnapshots := congrArg List.length hbound
  simp only [List.length_map] at htargets hsnapshots
  exact List.map_fst_zip (htargets.trans hsnapshots.symm).le

theorem deployItems_nodup (install : Cs2Install) (hbound : Bound assets snapshots) :
    ((deployItems install bytes assets snapshots).map (·.1.target)).Nodup := by
  have hmap : (deployItems install bytes assets snapshots).map (·.1.target) =
      ((deployItems install bytes assets snapshots).map Prod.fst).map (·.target) := by
    rw [List.map_map]
    rfl
  rw [hmap, deployItems_fst install hbound, deployments_paths]
  exact (forOptionalAssets_nodup assets).map (targetPath_injective install)

/-- The items are the assets of the selection with their snapshots. -/
theorem mem_deployItems {install : Cs2Install} {item : DeployItem}
    (h : item ∈ deployItems install bytes assets snapshots) :
    ∃ asset ∈ assets, item.1 = CfgAssetDeployment.mk asset
      (targetPath install (.fromOptionalAsset asset)) (bytes asset) := by
  obtain ⟨asset, hasset, heq⟩ := mem_deployments.mp (List.of_mem_zip h).1
  exact ⟨asset, hasset, heq.symm⟩

theorem deployItems_safe {install : Cs2Install} {item : DeployItem}
    (h : item ∈ deployItems install bytes assets snapshots) :
    ensureSafeTarget (cfgPaths install).cfgDirectory item.1.target = .ok () := by
  obtain ⟨asset, -, heq⟩ := mem_deployItems h
  rw [heq]
  show assertExistingPathSafe (cfgDirectory install) (targetPath install _) = .ok ()
  rw [targetPath_eq]
  exact safe_joinNames _ (by simp)

/-- A run that refused a target: the earlier items were as captured and have been
written, the refused one was not, and nothing else changed. -/
theorem loop_refused {cfg : Cs2Paths} {items : List DeployItem} {path : FilePath}
    (hnodup : (items.map (·.1.target)).Nodup)
    (h : forEach (Cs2ConfigController.deployIfUnchanged cfg) items s =
      (.error (.preconditionMismatch path), t)) :
    (∃ item ∈ items, unchanged s item = false) ∧
      (∀ item ∈ items.takeWhile (unchanged s),
        t.content item.1.target = some item.1.bytes) ∧
      ∀ p, p ∉ (items.takeWhile (unchanged s)).map (·.1.target) →
        t.content p = s.content p := by
  have hbody := deployIfUnchanged_reaches cfg
  obtain ⟨before, x, after, s₁, rfl, hbefore, hx⟩ := forEach_eq_error h
  obtain ⟨hchanged, hsame⟩ := deployIfUnchanged_refused hx
  rw [List.map_append, List.nodup_append] at hnodup
  obtain ⟨hfirst, -, hdisjoint⟩ := hnodup
  have hframe := changes_forEach hbody before s _ s₁ hbefore
  have hfresh : x.1.target ∉ before.map (·.1.target) :=
    fun hmem => hdisjoint _ hmem _ (by simp) rfl
  have hchanged' : unchanged s x = false := by
    unfold unchanged at hchanged ⊢
    rwa [hframe _ hfresh] at hchanged
  have hfound : ∀ item ∈ before, unchanged s item = true := by
    intro item hitem
    obtain ⟨s', t', hrun, hstart⟩ := forEach_began hbody hfirst hbefore item hitem
    have hunchanged := deployIfUnchanged_found hrun
    unfold unchanged at hunchanged ⊢
    rwa [hstart] at hunchanged
  have htake : (before ++ x :: after).takeWhile (unchanged s) = before := by
    rw [List.takeWhile_append_of_pos hfound, List.takeWhile_cons_of_neg (by simp [hchanged'])]
    exact List.append_nil before
  rw [htake, hsame]
  exact ⟨⟨x, by simp, hchanged'⟩, forEach_reaches hbody hfirst hbefore, hframe⟩

/-- Without faults the loop refuses the first changed target. -/
theorem loop_quiet {cfg : Cs2Paths} {items : List DeployItem} (hs : s.faults = [])
    (hnodup : (items.map (·.1.target)).Nodup)
    (hsafe : ∀ item ∈ items, ensureSafeTarget cfg.cfgDirectory item.1.target = .ok ())
    (hchanged : ∃ item ∈ items, unchanged s item = false) :
    ∃ path t, forEach (Cs2ConfigController.deployIfUnchanged cfg) items s =
      (.error (.preconditionMismatch path), t) := by
  induction items generalizing s with
  | nil => simp at hchanged
  | cons item items ih =>
      rw [List.map_cons, List.nodup_cons] at hnodup
      obtain ⟨hfresh, hrest⟩ := hnodup
      obtain ⟨hsame, hdiffers⟩ := deployIfUnchanged_quiet hs (hsafe item (by simp))
      cases hitem : unchanged s item with
      | false => exact ⟨_, _, bind_apply_error (hdiffers hitem)⟩
      | true =>
          obtain ⟨s₁, hrun, hs₁⟩ := hsame hitem
          obtain ⟨x, hx, hxchanged⟩ := hchanged
          have hxmem : x ∈ items := by
            rcases List.mem_cons.mp hx with rfl | hmem
            · rw [hitem] at hxchanged
              cases hxchanged
            · exact hmem
          have hne : x.1.target ≠ item.1.target := by
            intro heq
            exact hfresh (heq ▸ List.mem_map_of_mem hxmem)
          have hx₁ : unchanged s₁ x = false := by
            unfold unchanged at hxchanged ⊢
            rwa [(deployIfUnchanged_reaches cfg item).others s _ s₁ hrun _ hne]
          obtain ⟨path, t, hloop⟩ := ih hs₁ hrest
            (fun y hy => hsafe y (by simp [hy])) ⟨x, hxmem, hx₁⟩
          exact ⟨path, t, (bind_apply_ok hrun).trans hloop⟩

end

/-! ## The call -/

section

variable {controller : Cs2ConfigController} {bytes : CfgAssets}
  {assets : Finset OptionalCfgAsset} {snapshots : List (Cs2ConfigTarget × Option Bytes)}
  {s t : Files FilePath}

/-- The check of the snapshots against the selection. -/
theorem binding_check (install : Cs2Install) (bytes : CfgAssets) :
    (((cfgPaths install).deploymentsForAssets bytes assets).length ≠ snapshots.length ||
      ((cfgPaths install).deploymentsForAssets bytes assets).map
        (Cs2ConfigTarget.fromOptionalAsset ·.asset) ≠ snapshots.map (·.1)) = false ↔
      Bound assets snapshots := by
  have htargets := deployments_targets install bytes assets
  rw [htargets, Bound, Bool.or_eq_false_iff]
  constructor
  · intro h
    exact (by simpa using h.2 : _ = _).symm
  · intro h
    have hlength := congrArg List.length h
    rw [← htargets, List.length_map, List.length_map] at hlength
    exact ⟨by simp [hlength], by simp [h]⟩

/-- A call that is not refused for its selection is a loop over its items. -/
theorem applyIfUnchanged_eq (hselected : assets ≠ ∅) (hbound : Bound assets snapshots) :
    controller.applyOptionalAssetsIfUnchanged bytes assets snapshots = (do
      ensureCfgDirectory controller.install.installRoot (cfgDirectory controller.install)
      forEach (Cs2ConfigController.deployIfUnchanged (cfgPaths controller.install))
        (deployItems controller.install bytes assets snapshots)
      return ((cfgPaths controller.install).deploymentsForAssets bytes assets).map
        (·.target)) := by
  have hcheck := (binding_check controller.install bytes).mpr hbound
  unfold Cs2ConfigController.applyOptionalAssetsIfUnchanged
  rw [paths_eq, decide_eq_false hselected]
  funext s
  show (ensureCfgDirectory _ _ >>= fun _ => ofExcept (reject _ _) >>= fun _ => _) s = _
  rw [hcheck]
  rfl

theorem ensureCfgDirectory_ne {root path path' : FilePath} :
    ensureCfgDirectory root path s ≠ (.error (.preconditionMismatch path'), t) := by
  intro h
  rcases bind_eq_error h with htouch | ⟨_, s₁, -, hsafe⟩
  · unfold relabel at htouch
    rcases hrun : touch s with ⟨r, s₁⟩
    rw [hrun] at htouch
    cases r with
    | ok a => cases (Prod.mk.inj htouch).1
    | error kind => cases (Prod.mk.inj htouch).1
  · exact absurd (Prod.mk.inj hsafe).1 assertExistingPathSafe_ne

/-- A refused precondition is a refusal of the loop. -/
theorem refused_loop {path : FilePath}
    (h : controller.applyOptionalAssetsIfUnchanged bytes assets snapshots s =
      (.error (.preconditionMismatch path), t)) :
    Bound assets snapshots ∧ ∃ s₁, s₁.content = s.content ∧
      forEach (Cs2ConfigController.deployIfUnchanged (cfgPaths controller.install))
        (deployItems controller.install bytes assets snapshots) s₁ =
          (.error (.preconditionMismatch path), t) := by
  have hselected : assets ≠ ∅ := by
    rintro rfl
    cases (Prod.mk.inj h).1
  have hbound : Bound assets snapshots := by
    rcases bind_eq_error h with hcheck | ⟨_, s₁, -, h⟩
    · obtain ⟨-, heq⟩ := reject_eq_error.mp (Prod.mk.inj hcheck).1
      cases heq
    rw [paths_eq] at h
    rcases bind_eq_error h with hpaths | ⟨paths, s₂, hpaths, h⟩
    · cases (Prod.mk.inj hpaths).1
    obtain rfl := Except.ok.inj (Prod.mk.inj hpaths).1
    rcases bind_eq_error h with hdirectory | ⟨_, s₃, -, h⟩
    · exact absurd hdirectory ensureCfgDirectory_ne
    rcases bind_eq_error h with hcheck | ⟨_, s₄, hcheck, -⟩
    · obtain ⟨-, heq⟩ := reject_eq_error.mp (Prod.mk.inj hcheck).1
      cases heq
    exact (binding_check controller.install bytes).mp
      (reject_eq_ok.mp (Prod.mk.inj hcheck).1)
  rw [applyIfUnchanged_eq hselected hbound] at h
  rcases bind_eq_error h with hdirectory | ⟨_, s₁, hdirectory, h⟩
  · exact absurd hdirectory ensureCfgDirectory_ne
  rcases bind_eq_error h with hloop | ⟨_, s₂, -, hpure⟩
  · exact ⟨hbound, s₁, (changes_ensureCfgDirectory _ _).same hdirectory, hloop⟩
  · cases (Prod.mk.inj hpure).1

/-- A success has found every target as captured. -/
theorem deployed_found {written : List FilePath}
    (h : controller.applyOptionalAssetsIfUnchanged bytes assets snapshots s =
      (.ok written, t)) :
    Bound assets snapshots ∧
      ∀ item ∈ deployItems controller.install bytes assets snapshots,
        unchanged s item = true := by
  obtain ⟨_, s₁, hselected, hrest⟩ := bind_eq_ok h
  have hne : assets ≠ ∅ := by simpa using reject_eq_ok.mp (Prod.mk.inj hselected).1
  obtain ⟨paths, s₂, hpaths, hrest⟩ := bind_eq_ok hrest
  have hok := (Prod.mk.inj hpaths).1
  rw [paths_eq] at hok
  obtain rfl := Except.ok.inj hok
  obtain ⟨_, s₃, -, hrest⟩ := bind_eq_ok hrest
  obtain ⟨_, s₄, hcheck, -⟩ := bind_eq_ok hrest
  have hbound : Bound assets snapshots := (binding_check controller.install bytes).mp
    (reject_eq_ok.mp (Prod.mk.inj hcheck).1)
  rw [applyIfUnchanged_eq hne hbound] at h
  obtain ⟨_, s₅, hdirectory, hrest⟩ := bind_eq_ok h
  obtain ⟨_, s₆, hloop, -⟩ := bind_eq_ok hrest
  refine ⟨hbound, fun item hitem => ?_⟩
  obtain ⟨s', t', hrun, hstart⟩ :=
    forEach_began (deployIfUnchanged_reaches _) (deployItems_nodup _ hbound) hloop item hitem
  have hfound := deployIfUnchanged_found hrun
  unfold unchanged at hfound ⊢
  rwa [hstart, (changes_ensureCfgDirectory _ _).same hdirectory] at hfound

private theorem zip_snapshots (install : Cs2Install) {order : List OptionalCfgAsset}
    (hbound : snapshots.map (·.1) = order.map Cs2ConfigTarget.fromOptionalAsset)
    (hfound : ∀ pair ∈ order.zip snapshots,
      s.content (targetPath install (.fromOptionalAsset pair.1)) = pair.2.2) :
    snapshots = order.map fun asset => (Cs2ConfigTarget.fromOptionalAsset asset,
      s.content (targetPath install (.fromOptionalAsset asset))) := by
  induction order generalizing snapshots with
  | nil => simpa using hbound
  | cons asset order ih =>
      cases snapshots with
      | nil => simp at hbound
      | cons snapshot snapshots =>
          rw [List.map_cons, List.map_cons, List.cons.injEq] at hbound
          have hhead := hfound (asset, snapshot) (by simp)
          have htail := ih hbound.2 fun pair hpair => hfound pair (by simp [hpair])
          rw [List.map_cons, ← htail, hhead, ← hbound.1]

/-- Snapshots that every target matches are the captured contents. -/
theorem snapshots_eq (install : Cs2Install) (hbound : Bound assets snapshots)
    (hfound : ∀ item ∈ deployItems install bytes assets snapshots, unchanged s item = true) :
    snapshots = (Cs2ConfigTarget.forOptionalAssets assets).map
      fun target => (target, s.content (targetPath install target)) := by
  have hzip : deployItems install bytes assets snapshots =
      ((assetOrder assets).zip snapshots).map fun pair =>
        (CfgAssetDeployment.mk pair.1 (targetPath install (.fromOptionalAsset pair.1))
          (bytes pair.1), pair.2) := by
    rw [deployItems, deployments_eq, List.zip_map_left]
    rfl
  rw [Cs2ConfigTarget.forOptionalAssets, List.map_map]
  refine zip_snapshots install hbound fun pair hpair => ?_
  have hitem := hfound _ (hzip ▸ List.mem_map_of_mem hpair)
  simpa [unchanged] using hitem

end

/-! ## When the deployment is all or nothing -/

/-- Before the first target that has changed, every target holds the bytes of its
asset already. -/
def Restrained (install : Cs2Install) (bytes : CfgAssets) (assets : Finset OptionalCfgAsset)
    (snapshots : List (Cs2ConfigTarget × Option Bytes)) (s : Files FilePath) : Prop :=
  (∃ item ∈ deployItems install bytes assets snapshots, unchanged s item = false) →
    ∀ item ∈ (deployItems install bytes assets snapshots).takeWhile (unchanged s),
      s.content item.1.target = some item.1.bytes

/-- **When a refused deployment has changed nothing.**  Snapshots of another
selection are refused before any write; otherwise the targets before the first
changed one must hold the bytes of their assets already. -/
theorem optionalPrecondition (controller : Cs2ConfigController) (bytes : CfgAssets)
    (assets : Finset OptionalCfgAsset) (snapshots : List (Cs2ConfigTarget × Option Bytes))
    (s : Files FilePath) :
    AllOrNothing controller bytes assets snapshots s ↔
      (Bound assets snapshots →
        Restrained controller.install bytes assets snapshots s) := by
  constructor
  · intro hall hbound hchanged item hitem
    have hselected : assets ≠ ∅ := by
      rintro rfl
      obtain ⟨x, hx, -⟩ := hchanged
      obtain ⟨asset, hasset, -⟩ := mem_deployItems hx
      simp at hasset
    -- without faults the call refuses, after it wrote the targets before
    have hquiet : (s.armed []).next.faults = [] := rfl
    have hnodup : ((deployItems controller.install bytes assets snapshots).map
        (·.1.target)).Nodup := deployItems_nodup controller.install hbound
    obtain ⟨path, t, hloop⟩ := loop_quiet (s := (s.armed []).next) hquiet hnodup
      (fun x hx => deployItems_safe hx) hchanged
    have hrun : controller.applyOptionalAssetsIfUnchanged bytes assets snapshots
        (s.armed []) = (.error (.preconditionMismatch path), t) := by
      rw [applyIfUnchanged_eq hselected hbound]
      have hdirectory : ensureCfgDirectory controller.install.installRoot
          (cfgDirectory controller.install) (s.armed []) = (.ok (), (s.armed []).next) := by
        have hsafe : assertExistingPathSafe controller.install.installRoot
            (cfgDirectory controller.install) = .ok () := safe_joinNames _ (by simp)
        unfold ensureCfgDirectory
        rw [hsafe]
        rfl
      rw [bind_apply_ok hdirectory]
      exact bind_apply_error hloop
    have hwritten := (loop_refused hnodup hloop).2.1 item hitem
    have hmem : item ∈ deployItems controller.install bytes assets snapshots :=
      (List.takeWhile_sublist _).subset hitem
    obtain ⟨asset, hasset, heq⟩ := mem_deployItems hmem
    have hsame := hall.refused [] path t hrun (.fromOptionalAsset asset)
      (List.mem_map_of_mem (mem_assetOrder.mpr hasset))
    rw [heq] at hwritten ⊢
    rw [← hsame]
    exact hwritten
  · intro hrestrained
    constructor
    · intro faults path t hrun target htarget
      obtain ⟨hbound, s₁, hcontent, hloop⟩ := refused_loop hrun
      obtain ⟨hchanged, hwritten, hframe⟩ :=
        loop_refused (deployItems_nodup controller.install hbound) hloop
      have hsame : unchanged s₁ = unchanged s := by
        funext item
        unfold unchanged
        rw [hcontent]
        rfl
      rw [hsame] at hchanged hwritten hframe
      by_cases hmem : targetPath controller.install target ∈
          ((deployItems controller.install bytes assets snapshots).takeWhile
            (unchanged s)).map (·.1.target)
      · obtain ⟨item, hitem, heq⟩ := List.mem_map.mp hmem
        rw [← heq, hwritten item hitem]
        exact (hrestrained hbound hchanged item hitem).symm
      · rw [hframe _ hmem, hcontent]
        rfl
    · intro faults written t hrun
      obtain ⟨hbound, hfound⟩ := deployed_found hrun
      refine ⟨snapshots_eq controller.install hbound hfound, ?_⟩
      intro target htarget
      obtain ⟨asset, hasset, rfl⟩ := List.mem_map.mp htarget
      rw [applyOptionalAssets_ok hrun asset (mem_assetOrder.mp hasset)]
      simp [deployedBytes, optionalAsset_fromOptionalAsset]
    · intro faults r t hrun p hp
      refine changes_applyOptionalAssets bytes assets snapshots (s.armed faults) r t hrun p ?_
      rintro ⟨target, htarget, rfl⟩
      exact hp target htarget rfl

/-! ## A refusal after a write -/

private def pairController : Cs2ConfigController where
  install :=
    { steamRoot := [.device "C:", .rootDir, .normal "Steam"]
      libraryRoot := [.device "C:", .rootDir, .normal "Steam"]
      installRoot := joinNames [.device "C:", .rootDir, .normal "Steam"]
        ["steamapps", "common", CS2_DIRECTORY] }
  bound := by decide +kernel

private def pairBytes : CfgAssets := fun asset => Lib.Text.utf8 asset.fileName

/-- Both assets were absent when they were captured. -/
private def pairSnapshots : List (Cs2ConfigTarget × Option Bytes) :=
  [(.netStable, none), (.netHighPing, none)]

/-- The user has created the second file since. -/
private def pairFiles : Files FilePath where
  content path :=
    if path = targetPath pairController.install .netHighPing then some [0x31] else none

private def pairRun : Except Cs2ConfigError (List FilePath) × Files FilePath :=
  pairController.applyOptionalAssetsIfUnchanged pairBytes {.netStable, .netHighPing}
    pairSnapshots (pairFiles.armed [])

private theorem pairRun_refused : pairRun.1 =
    .error (.preconditionMismatch (targetPath pairController.install .netHighPing)) := by
  decide +kernel

private theorem pairRun_wrote :
    pairRun.2.content (targetPath pairController.install .netStable) ≠
      pairFiles.content (targetPath pairController.install .netStable) := by
  decide +kernel

/-- The second of two targets has changed: the deployment refuses it after it has
created the first. -/
theorem optionalPrecondition_pair :
    ¬ AllOrNothing pairController pairBytes {.netStable, .netHighPing} pairSnapshots
      pairFiles := by
  intro hall
  have hrun : pairController.applyOptionalAssetsIfUnchanged pairBytes
      {.netStable, .netHighPing} pairSnapshots (pairFiles.armed []) =
        (.error (.preconditionMismatch (targetPath pairController.install .netHighPing)),
          pairRun.2) := Prod.ext pairRun_refused rfl
  exact pairRun_wrote (hall.refused [] _ _ hrun .netStable (by decide))

end FrametimeCfg.Verified.OptionalPrecondition
