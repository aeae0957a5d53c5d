import FrametimeCfg.Verified.DrsTransaction

/-!
# A restore after an apply gives back the saved profiles

A restore that returned either deleted the profile the transaction made, or
wrote the captured settings over it and unregistered the applications that had
no owner.  Over what the apply left, this is the store that was captured.
-/

namespace FrametimeCfg.Verified.DrsInverse

open FrametimeCfg.Lib.Effect
open FrametimeCfg.Windows
open FrametimeCfg.Verified.DrsTransaction

/-! ## Restoring -/

section

variable {backup : DrsBackup} {name : String} {w w' : DrsStore} {s t : DrsHost}

/-- One captured setting is written back, or deleted. -/
def settleStep (name : String) (w : DrsStore) (original : DrsOriginalSetting) :
    Option DrsStore :=
  match original.value with
  | some value => w.set name original.id value
  | none => w.deleteSetting name original.id

/-- One application that had no owner is unregistered. -/
def unbindStep (name : String) (w : DrsStore) (original : DrsApplicationOriginal) :
    Option DrsStore :=
  if original.profile.isNone then w.unbind name original.application else some w

theorem works_restoreDword (session : Nat) (name : String) (original : DrsOriginalSetting) :
    Works (sessionDrs.restoreDword session name original) fun w _ w' =>
      settleStep name w original = some w' := by
  obtain ⟨id, value⟩ := original
  cases value with
  | none => exact works_change _ _
  | some value => exact works_change _ _

theorem settleStep_eq_some {settings : UInt32 → Option UInt32}
    {original : DrsOriginalSetting} (hw : w.profiles name = some settings)
    (h : settleStep name w original = some w') :
    w' = w.withSetting name settings original.id original.value := by
  obtain ⟨id, value⟩ := original
  cases value with
  | none => exact deleteSetting_eq_some hw h
  | some value => exact set_eq_some hw h

theorem unbindStep_eq_some {original : DrsApplicationOriginal}
    (h : unbindStep name w original = some w') : w'.profiles = w.profiles ∧
      w'.owner = if original.profile = none then
        Function.update w.owner original.application none else w.owner := by
  obtain ⟨application, profile⟩ := original
  cases profile with
  | none =>
      rw [if_pos rfl]
      exact unbind_eq_some h
  | some profile =>
      obtain rfl := Option.some.inj h
      exact ⟨rfl, rfl⟩

/-- **What a restore did** to a profile that existed before the apply. -/
structure Restored (backup : DrsBackup) (w w' : DrsStore) : Prop where
  profile : ∀ settings, w.profiles backup.profile = some settings → ∃ settings',
    w'.profiles = Function.update w.profiles backup.profile (some settings') ∧
    (∀ i, (∀ x ∈ backup.settings, x.id ≠ i) → settings' i = settings i) ∧
    ∀ f : UInt32 → Option UInt32, (∀ x ∈ backup.settings, x.value = f x.id) →
      ∀ x ∈ backup.settings, settings' x.id = f x.id
  unbound : ∀ application, missing backup.applications application →
    w'.owner application = none
  other : ∀ application, ¬ missing backup.applications application →
    w'.owner application = w.owner application

theorem works_restoreOriginals (session : Nat) (backup : DrsBackup) :
    Works (restoreOriginals sessionDrs session backup backup.profile) fun w _ w' =>
      (w.has backup.profile = true → Restored backup w w') := by
  have hunbind : ∀ original : DrsApplicationOriginal, Works
      (if original.profile.isNone then
        sessionDrs.deleteApplication session backup.profile original.application
      else pure ()) fun w _ w' => unbindStep backup.profile w original = some w' := by
    intro original
    obtain ⟨application, profile⟩ := original
    cases profile with
    | none => exact works_change _ _
    | some profile =>
        refine Works.post (reads_pure ()) ?_
        rintro w _ w' ⟨-, rfl⟩
        rfl
  refine (Works.bind (works_forEach
    (fun original => works_restoreDword session backup.profile original) backup.settings)
    fun _ => works_forEach hunbind backup.applications).post ?_
  rintro w _ w' ⟨_, w₁, hsettings, hunbound⟩ hhas
  obtain ⟨settings, hw⟩ := Option.isSome_iff_exists.mp hhas
  obtain ⟨settings', hresettled, hkept, hwritten⟩ :=
    resettled_foldlM DrsOriginalSetting.id (·.value)
      (fun _ _ _ _ hw hstep => settleStep_eq_some hw hstep) hw hsettings
  obtain ⟨hprofiles, hmissing, hother⟩ :=
    owners_foldlM (fun _ _ _ hstep => unbindStep_eq_some hstep) hunbound
  refine ⟨fun settings₀ hsettings₀ => ?_, hmissing, fun application hnot => ?_⟩
  · rw [hw] at hsettings₀
    obtain rfl := Option.some.inj hsettings₀
    exact ⟨settings', by rw [hprofiles, hresettled.profiles], hkept, hwritten⟩
  · rw [hother application hnot, hresettled.owner]

theorem reads_verifyRestored (session : Nat) (backup : DrsBackup) (profile : String) :
    Reads (verifyRestored sessionDrs session backup profile) fun _ _ => True := by
  have hsettings := reads_forEach (P := fun _ _ => True) (fun original =>
    (Reads.bind (reads_readDword session profile original.id) fun actual =>
      reads_refuse (actual ≠ original.value) "verify DRS restore"
        ("setting " ++ hexId original.id ++ " did not return to its captured value")).post
      fun _ _ _ => trivial) backup.settings
  have happlications := reads_forEach (P := fun _ _ => True) (fun original =>
    (Reads.bind (reads_owner session original.application) fun actual =>
      reads_refuse (original.profile.isNone && actual.isSome) "verify DRS restore"
        ("suite-added " ++ original.application ++ " remains registered")).post
      fun _ _ _ => trivial) backup.applications
  exact (Reads.bind hsettings fun _ => happlications).post fun _ _ _ => trivial

/-- **A restore that returned** deleted the profile of the transaction, or wrote
the captured settings back. -/
theorem restore_returned {u : Unit}
    (h : restoreCs2Profile sessionDrs backup s = (.ok u, t)) :
    if backup.profileCreated then t.saved = s.saved.without backup.profile
    else s.saved.has backup.profile = true ∧ Restored backup s.saved t.saved := by
  obtain ⟨_, s₀, hvalid, hsession⟩ := bind_eq_ok h
  obtain rfl := validateBackup_state hvalid
  rcases withSession_cases hsession with ⟨⟨e, herror⟩, -⟩ | ⟨s₁, r₁, s₂, hran⟩
  · cases herror
  obtain rfl := hran.returned u rfl
  obtain ⟨found, s₃, hfind, hrun⟩ := bind_eq_ok hran.ran
  obtain ⟨⟨hfound, hworking₃⟩, hsaved₃⟩ := reads_findByName _ _ _ _ _ hfind
  obtain ⟨profile, s₄, hrequire, hrun⟩ := bind_eq_ok hrun
  obtain ⟨⟨hprofile, hworking₄⟩, hsaved₄⟩ := reads_require _ _ _ _ _ _ hrequire
  have hworking : s₄.working = s₀.saved := by
    rw [hworking₄, hworking₃, hran.working]
  have hhas : s₀.saved.has backup.profile = true ∧ profile = backup.profile := by
    rw [hprofile, hran.working] at hfound
    by_cases hhas : s₀.saved.has backup.profile = true
    · rw [if_pos hhas] at hfound
      exact ⟨hhas, Option.some.inj hfound⟩
    · rw [if_neg hhas] at hfound
      cases hfound
  obtain ⟨hhas, rfl⟩ := hhas
  by_cases hcreated : backup.profileCreated = true
  · rw [if_pos hcreated] at hrun ⊢
    obtain ⟨_, s₅, hdelete, hrun⟩ := bind_eq_ok hrun
    obtain ⟨hdeleted, -⟩ := works_change _ _ _ _ _ hdelete
    obtain ⟨_, s₆, hsave, hrun⟩ := bind_eq_ok hrun
    obtain ⟨_, s₇, hremaining, hrun⟩ := bind_eq_ok hrun
    have hsaved₇ := (reads_findByName _ _ _ _ _ hremaining).2
    have hsaved₂ := (reads_refuse _ _ _ _ _ _ hrun).2
    rw [hran.saved_end, hsaved₂, hsaved₇, (save_returned hsave).1]
    have hdeleted' : s₄.working.delete backup.profile = some s₅.working := hdeleted
    unfold DrsStore.delete at hdeleted'
    rw [hworking, if_pos hhas] at hdeleted'
    exact (Option.some.inj hdeleted').symm
  · rw [if_neg hcreated] at hrun ⊢
    obtain ⟨_, s₅, horiginals, hrun⟩ := bind_eq_ok hrun
    obtain ⟨hresettled, -⟩ := works_restoreOriginals _ _ _ _ _ horiginals
    obtain ⟨_, s₆, hsave, hrun⟩ := bind_eq_ok hrun
    obtain ⟨_, s₇, hload, hrun⟩ := bind_eq_ok hrun
    have hsaved₂ := (reads_verifyRestored _ _ _ _ _ _ hrun).2
    rw [hworking] at hresettled
    rw [hran.saved_end, hsaved₂, load_returned hload, (save_returned hsave).1]
    exact ⟨hhas, hresettled hhas⟩

end

/-! ## The inverse -/

section

variable {w w₁ w₂ : DrsStore} {target : Option String}

theorem missing_captureOf (w : DrsStore) (target : Option String) (application : String) :
    missing (captureOf w target).applications application ↔
      application ∈ CS2_APPLICATIONS ∧ w.owner application = none := by
  constructor
  · rintro ⟨original, hmem, hnone, rfl⟩
    obtain ⟨application, happlication, rfl⟩ := List.mem_map.mp hmem
    exact ⟨happlication, hnone⟩
  · intro ⟨happlication, hnone⟩
    exact ⟨_, List.mem_map.mpr ⟨application, happlication, rfl⟩, hnone, rfl⟩

/-- The apply writes the settings of the record, and no others. -/
theorem captureOf_ids (w : DrsStore) (target : Option String) (i : UInt32) :
    (∀ x ∈ (captureOf w target).settings, x.id ≠ i) ↔ ∀ x ∈ CS2_SETTINGS, x.id ≠ i := by
  unfold captureOf
  rw [List.forall_mem_map]

/-- Deleting the profile that the apply made. -/
theorem without_applied (h : Targeted w none) (happlied : Applied (captureOf w none) w w₁) :
    w₁.without (captureOf w none).profile = w := by
  have hname : (captureOf w none).profile = CS2_PROFILE_NAME := rfl
  have hfree : w.profiles CS2_PROFILE_NAME = none :=
    Option.isNone_iff_eq_none.mp (Option.isSome_eq_false_iff.mp h.has)
  rw [DrsStore.ext_iff, hname]
  constructor
  · obtain ⟨settings, hprofiles, -⟩ := happlied.profile
    show Function.update w₁.profiles CS2_PROFILE_NAME none = w.profiles
    rw [hprofiles, hname, Function.update_idem, ← hfree, Function.update_eq_self]
  · funext application
    show (if w₁.owner application = some CS2_PROFILE_NAME then none
      else w₁.owner application) = w.owner application
    by_cases hmissing : missing (captureOf w none).applications application
    · rw [happlied.bound application hmissing, hname, if_pos rfl]
      exact ((missing_captureOf w none application).mp hmissing).2.symm
    · rw [happlied.other application hmissing]
      have hother : w.owner application ≠ some CS2_PROFILE_NAME := by
        intro howner
        have hhas := w.owned application CS2_PROFILE_NAME howner
        rw [hfree] at hhas
        cases hhas
      rw [if_neg hother]

/-- Writing the captured settings back over the policy. -/
theorem restored_applied {name : String} (h : Targeted w (some name))
    (happlied : Applied (captureOf w (some name)) w w₁)
    (hrestored : Restored (captureOf w (some name)) w₁ w₂) : w₂ = w := by
  have hname : (captureOf w (some name)).profile = name := rfl
  obtain ⟨base, hbase⟩ := Option.isSome_iff_exists.mp h.has
  have hbase' : w.profiles name = some base := hbase
  obtain ⟨policy, hprofiles, hkept⟩ := happlied.profile
  rw [hname] at hprofiles hkept
  have hpolicy : w₁.profiles name = some policy := by
    rw [hprofiles, Function.update_self]
  obtain ⟨settings, hprofiles', hkept', hwritten⟩ := hrestored.profile policy hpolicy
  rw [hname] at hprofiles'
  have hvalues : ∀ x ∈ (captureOf w (some name)).settings,
      x.value = settingOf w name x.id := by
    intro x hx
    obtain ⟨setting, -, rfl⟩ := List.mem_map.mp hx
    rfl
  have hsettings : settings = base := by
    funext i
    by_cases hid : ∀ x ∈ (captureOf w (some name)).settings, x.id ≠ i
    · rw [hkept' i hid, hkept i ((captureOf_ids w _ i).mp hid), baseOf, hbase']
      rfl
    · push Not at hid
      obtain ⟨x, hx, rfl⟩ := hid
      rw [hwritten (settingOf w name) hvalues x hx, settingOf, hbase']
      rfl
  rw [DrsStore.ext_iff]
  constructor
  · rw [hprofiles', hprofiles, Function.update_idem, hsettings, ← hbase',
      Function.update_eq_self]
  · funext application
    by_cases hmissing : missing (captureOf w (some name)).applications application
    · rw [hrestored.unbound application hmissing]
      exact ((missing_captureOf w _ application).mp hmissing).2.symm
    · rw [hrestored.other application hmissing, happlied.other application hmissing]

/-- **The round trip**: capture, apply, restore. -/
theorem restore_apply_capture {s s₁ s₂ s₃ : DrsHost} {backup : DrsBackup}
    {report : DrsApplyReport} (hcapture : captureCs2Backup sessionDrs s = (.ok backup, s₁))
    (happly : applyCs2Profile sessionDrs backup s₁ = (.ok report, s₂))
    (hrestore : restoreCs2Profile sessionDrs backup s₂ = (.ok (), s₃)) :
    s₃.saved = s.saved := by
  obtain ⟨⟨target, rfl, htarget⟩, hsaved⟩ := capture_returned hcapture
  have happlied := apply_returned happly
  rw [hsaved] at happlied
  have hrestored := restore_returned hrestore
  cases target with
  | none =>
      have hdeleted : s₃.saved = s₂.saved.without (captureOf s.saved none).profile :=
        hrestored
      rw [hdeleted, without_applied htarget happlied]
  | some name =>
      have hback : s₂.saved.has name = true ∧
          Restored (captureOf s.saved (some name)) s₂.saved s₃.saved := hrestored
      exact restored_applied htarget happlied hback.2

end

/-! ## The transaction -/

section

variable {s t : DrsHost} {backup : DrsBackup}

theorem saved_frame (w : DrsStore) : Frame fun s => s.saved = w :=
  ⟨fun h hsame => hsame.saved.trans h, fun _ h => h⟩

/-- What a capture keeps, whatever it is about but the working copy. -/
theorem keeps_capture {I : DrsHost → Prop} (hI : Frame I) (session : Nat) :
    Keeps I (do
      let profile ← findExistingProfile sessionDrs session
      let (name, applications, settings) ← captureTarget sessionDrs session profile
      return ({
        profile := name
        profileCreated := profile.isNone
        settings := settings
        applications := applications } : DrsBackup)) :=
  (keeps_findExistingProfile hI session).bind fun profile =>
    (keeps_captureTarget hI session profile).bind fun _ => keeps_pure _

theorem capture_saved {r : Except DrsError DrsBackup}
    (h : captureCs2Backup sessionDrs s = (r, t)) : t.saved = s.saved := by
  rcases withSession_cases h with ⟨-, huntouched⟩ | ⟨s₁, r₁, s₂, hran⟩
  · exact huntouched.saved
  · have hkept : s₂.saved = s.saved :=
      (keeps_capture (saved_frame s.saved) s.created).run hran.saved hran.ran
    rw [hran.saved_end, hkept]

theorem capture_ended {r : Except DrsError DrsBackup}
    (h : captureCs2Backup sessionDrs s = (r, t)) : Ended s t :=
  (withSession_keeps (fun session s₀ => keeps_capture (within_frame s₀) session) h).1

theorem apply_keeps {r : Except DrsError DrsApplyReport}
    (h : applyCs2Profile sessionDrs backup s = (r, t)) :
    Ended s t ∧ (t.saves = s.saves → t.saved = s.saved) := by
  rcases bind_cases h with ⟨e, hvalid, -⟩ | ⟨_, s₀, hvalid, hsession⟩
  · obtain rfl := validateBackup_state hvalid
    exact ⟨.inl ⟨rfl, rfl⟩, fun _ => rfl⟩
  · obtain rfl := validateBackup_state hvalid
    refine withSession_keeps (fun session s₀ => ?_) hsession
    have hframe := within_frame s₀
    refine (keeps_applyPolicy hframe session backup).bind fun profile => ?_
    refine (keeps_save session).bind fun _ => (keeps_load hframe session).bind fun _ => ?_
    exact (keeps_verifySettings hframe session profile CS2_SETTINGS).bind fun _ =>
      keeps_pure _

theorem restore_keeps {r : Except DrsError Unit}
    (h : restoreCs2Profile sessionDrs backup s = (r, t)) :
    Ended s t ∧ (t.saves = s.saves → t.saved = s.saved) := by
  rcases bind_cases h with ⟨e, hvalid, -⟩ | ⟨_, s₀, hvalid, hsession⟩
  · obtain rfl := validateBackup_state hvalid
    exact ⟨.inl ⟨rfl, rfl⟩, fun _ => rfl⟩
  · obtain rfl := validateBackup_state hvalid
    refine withSession_keeps (fun session s₀ => ?_) hsession
    refine (keeps_query (within_frame s₀) _ _).bind fun found =>
      (keeps_require _ _ found).bind fun profile => ?_
    by_cases hcreated : backup.profileCreated = true
    · rw [if_pos hcreated]
      exact keeps_restoreCreated session backup profile
    · rw [if_neg hcreated]
      exact keeps_restoreExisting session backup profile

/-- The store differs in what the transaction is about to change: whether the
target profile exists, a setting of the policy, or an application's owner. -/
def Differs (name : String) (captured live : DrsStore) : Prop :=
  live.has name ≠ captured.has name ∨
    (∃ setting ∈ CS2_SETTINGS,
      settingOf live name setting.id ≠ settingOf captured name setting.id) ∨
    ∃ application ∈ CS2_APPLICATIONS, live.owner application ≠ captured.owner application

/-- What was found unchanged does not differ. -/
theorem unchanged_not_differs {w live : DrsStore} {target : Option String}
    (htarget : Targeted w target) (h : Unchanged (captureOf w target) live) :
    ¬ Differs (captureOf w target).profile w live := by
  have hexisted : live.has (captureOf w target).profile =
      w.has (captureOf w target).profile := by
    rw [h.existed]
    refine Eq.trans ?_ htarget.has.symm
    show (!target.isNone) = target.isSome
    cases target <;> rfl
  rintro (hhas | ⟨setting, hsetting, hdiffers⟩ | ⟨application, happlication, hdiffers⟩)
  · exact hhas hexisted
  · apply hdiffers
    cases target with
    | none =>
        have hfree : w.has (captureOf w none).profile = false := htarget.has
        rw [hfree] at hexisted
        have hnone : ∀ v : DrsStore, v.has (captureOf w none).profile = false →
            settingOf v (captureOf w none).profile setting.id = none := by
          intro v hv
          have hprofile : v.profiles (captureOf w none).profile = none := by
            simpa [DrsStore.has] using hv
          rw [settingOf, hprofile]
          rfl
        rw [hnone live hexisted, hnone w hfree]
    | some name =>
        have hhas : live.has (captureOf w (some name)).profile = true :=
          hexisted.trans htarget.has
        exact h.settings hhas _ (List.mem_map.mpr ⟨setting, hsetting, rfl⟩)
  · exact hdiffers (h.owners _ (List.mem_map.mpr ⟨application, happlication, rfl⟩))

/-- A store that differs from the captured one is refused, and nothing is saved. -/
theorem apply_differs {s' s₁ t : DrsHost} {r : Except DrsError DrsApplyReport}
    (hcapture : captureCs2Backup sessionDrs s = (.ok backup, s₁))
    (hdiffers : Differs backup.profile s.saved s'.saved)
    (h : applyCs2Profile sessionDrs backup s' = (r, t)) :
    (∃ e, r = .error e) ∧ t.saved = s'.saved := by
  obtain ⟨⟨target, rfl, htarget⟩, -⟩ := capture_returned hcapture
  have hnot : ¬ (t.saves ≠ s'.saves ∨ ∃ report, r = .ok report) := fun hend =>
    unchanged_not_differs htarget (unchanged_of_apply h hend) hdiffers
  constructor
  · cases r with
    | ok report => exact absurd (.inr ⟨report, rfl⟩) hnot
    | error e => exact ⟨e, rfl⟩
  · have hsaves : t.saves = s'.saves := by
      by_contra hsaves
      exact hnot (.inl hsaves)
    exact (apply_keeps h).2 hsaves

/-- **The transaction.**  For every saved store and every choice of the calls
that fail: capturing, applying and restoring gives back the store; an error
before a save leaves it alone; a store that differs from the captured one is
refused; and a session that was created is destroyed once. -/
theorem drsTransaction :
    (∀ s s₁ s₂ s₃ : DrsHost, ∀ backup report,
      captureCs2Backup sessionDrs s = (.ok backup, s₁) →
      applyCs2Profile sessionDrs backup s₁ = (.ok report, s₂) →
      restoreCs2Profile sessionDrs backup s₂ = (.ok (), s₃) → s₃.saved = s.saved) ∧
    (∀ s t : DrsHost, ∀ e, (captureCs2Backup sessionDrs s = (.error e, t) →
        t.saved = s.saved) ∧
      (∀ backup, applyCs2Profile sessionDrs backup s = (.error e, t) →
        t.saves = s.saves → t.saved = s.saved) ∧
      (∀ backup, restoreCs2Profile sessionDrs backup s = (.error e, t) →
        t.saves = s.saves → t.saved = s.saved)) ∧
    (∀ s s₁ s' : DrsHost, ∀ backup, captureCs2Backup sessionDrs s = (.ok backup, s₁) →
      Differs backup.profile s.saved s'.saved →
      ∃ e t, applyCs2Profile sessionDrs backup s' = (.error e, t) ∧ t.saved = s'.saved) ∧
    (∀ s : DrsHost, Ended s (captureCs2Backup sessionDrs s).2 ∧
      (∀ backup, Ended s (applyCs2Profile sessionDrs backup s).2) ∧
      ∀ backup, Ended s (restoreCs2Profile sessionDrs backup s).2) := by
  refine ⟨?_, ?_, ?_, ?_⟩
  · intro s s₁ s₂ s₃ backup report hcapture happly hrestore
    exact restore_apply_capture hcapture happly hrestore
  · intro s t e
    exact ⟨capture_saved, fun _ h => (apply_keeps h).2, fun _ h => (restore_keeps h).2⟩
  · intro s s₁ s' backup hcapture hdiffers
    rcases h : applyCs2Profile sessionDrs backup s' with ⟨r, t⟩
    obtain ⟨⟨e, rfl⟩, hsaved⟩ := apply_differs hcapture hdiffers h
    exact ⟨e, t, rfl, hsaved⟩
  · intro s
    exact ⟨capture_ended rfl, fun _ => (apply_keeps rfl).1, fun _ => (restore_keeps rfl).1⟩

/-- A store with one profile, that `cs2.exe` is registered with. -/
def oneProfile : DrsStore where
  profiles := Function.update (fun _ => none) "Counter-Strike 2"
    (some (Function.update DrsStore.emptyProfile 276757595 (some 1)))
  owner := Function.update (fun _ => none) "cs2.exe" (some "Counter-Strike 2")
  owned application name h := by
    by_cases happlication : application = "cs2.exe"
    · rw [happlication, Function.update_self] at h
      rw [← Option.some.inj h, Function.update_self]
      rfl
    · rw [Function.update_of_ne happlication] at h
      cases h

/-- The record of that store. -/
def oneBackup : DrsBackup where
  profile := "Counter-Strike 2"
  profileCreated := false
  settings := [⟨276757595, some 1⟩, ⟨270426537, none⟩, ⟨282245910, none⟩,
    ⟨6600001, none⟩, ⟨11306135, none⟩]
  applications := [⟨"cs2.exe", some "Counter-Strike 2"⟩, ⟨"csgos2.exe", none⟩]

/-- A host on which no call fails. -/
def oneHost : DrsHost := { saved := oneProfile }

/-- The transaction on one profile: it is reversed, and refused on an empty store. -/
theorem drsTransaction_one :
    (restoreCs2Profile sessionDrs oneBackup (applyCs2Profile sessionDrs oneBackup
      (captureCs2Backup sessionDrs oneHost).2).2).2.saved = oneProfile ∧
    ∃ e t, applyCs2Profile sessionDrs oneBackup { saved := DrsStore.empty } = (.error e, t) ∧
      t.saved = DrsStore.empty := by
  have hcapture : (captureCs2Backup sessionDrs oneHost).1 = .ok oneBackup := by decide +kernel
  have happly : (applyCs2Profile sessionDrs oneBackup
      (captureCs2Backup sessionDrs oneHost).2).1 = .ok ⟨oneBackup, 5⟩ := by decide +kernel
  have hrestore : (restoreCs2Profile sessionDrs oneBackup (applyCs2Profile sessionDrs
      oneBackup (captureCs2Backup sessionDrs oneHost).2).2).1 = .ok () := by decide +kernel
  have hdiffers : Differs "Counter-Strike 2" oneProfile DrsStore.empty := .inl (by decide)
  constructor
  · exact drsTransaction.1 oneHost _ _ _ oneBackup _ (Prod.ext hcapture rfl)
      (Prod.ext happly rfl) (Prod.ext hrestore rfl)
  · exact drsTransaction.2.2.1 oneHost _ { saved := DrsStore.empty } oneBackup
      (Prod.ext hcapture rfl) hdiffers

end

end FrametimeCfg.Verified.DrsInverse
