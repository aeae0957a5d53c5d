import FrametimeCfg.Lib.Effect
import Mathlib.Logic.Function.Basic

/-!
# The NVIDIA profile transaction

The CS2 profile of the driver settings (DRS) is changed in a session: the
settings are loaded, changed and saved.  The transaction captures every setting
and every application registration it is about to change, applies the policy
only to the profile it captured, and restores exactly what it captured, or
deletes the profile it made.

The adapter is the `NvapiDrs` trait.  Every call may fail.
-/

namespace FrametimeCfg.Windows

open FrametimeCfg.Lib.Effect

/-! ## The policy and the recovery record -/

def CS2_PROFILE_NAME : String := "Counter-strike 2"
def CS2_PROFILE_ALIASES : List String := [CS2_PROFILE_NAME, "Counter-Strike 2"]
def GLOBAL_PROFILE_NAME : String := "_GLOBAL_DRIVER_PROFILE"
def CS2_APPLICATIONS : List String := ["cs2.exe", "csgos2.exe"]

structure DrsTargetSetting where
  id : UInt32
  value : UInt32
  deriving DecidableEq

def CS2_SETTINGS : List DrsTargetSetting :=
  [⟨276757595, 0⟩, ⟨270426537, 1⟩, ⟨282245910, 0⟩, ⟨6600001, 1⟩, ⟨11306135, 10240⟩]

/-- An original DWORD value; `none` is a setting that did not exist. -/
structure DrsOriginalSetting where
  id : UInt32
  value : Option UInt32
  deriving DecidableEq

/-- The original owner of an application registration. -/
structure DrsApplicationOriginal where
  application : String
  profile : Option String
  deriving DecidableEq

structure DrsBackup where
  profile : String
  profileCreated : Bool
  settings : List DrsOriginalSetting
  applications : List DrsApplicationOriginal
  deriving DecidableEq

structure DrsApplyReport where
  backup : DrsBackup
  verifiedSettings : Nat
  deriving DecidableEq

structure DrsError where
  operation : String
  reason : String
  deriving DecidableEq

/-- `{:#010x}`. -/
def hexId (id : UInt32) : String :=
  let digits := String.ofList (Nat.toDigits 16 id.toNat)
  "0x" ++ "".pushn '0' (8 - digits.length) ++ digits

/-! ## The adapter -/

/-- The `NvapiDrs` trait. -/
structure NvapiDrs (σ Session Profile : Type) where
  initializeApi : Prog σ DrsError Unit
  createSession : Prog σ DrsError Session
  destroySession : Session → Prog σ DrsError Unit
  loadSettings : Session → Prog σ DrsError Unit
  saveSettings : Session → Prog σ DrsError Unit
  findProfileByName : Session → String → Prog σ DrsError (Option Profile)
  profileName : Session → Profile → Prog σ DrsError String
  findApplicationProfile : Session → String → Prog σ DrsError (Option Profile)
  createProfile : Session → String → Prog σ DrsError Profile
  bindApplication : Session → Profile → String → Prog σ DrsError Unit
  deleteApplication : Session → Profile → String → Prog σ DrsError Unit
  deleteProfile : Session → Profile → Prog σ DrsError Unit
  readDword : Session → Profile → UInt32 → Prog σ DrsError (Option UInt32)
  setDword : Session → Profile → UInt32 → UInt32 → Prog σ DrsError Unit
  restoreDword : Session → Profile → DrsOriginalSetting → Prog σ DrsError Unit

section

variable {σ Session Profile α : Type} [DecidableEq Profile]
  (api : NvapiDrs σ Session Profile)

/-- `with_session`: the session is destroyed whatever the operation did. -/
def withSession (operation : Session → Prog σ DrsError α) : Prog σ DrsError α := do
  api.initializeApi
  let session ← api.createSession
  let result ← attempt (do
    api.loadSettings session
    operation session)
  let destroyed ← attempt (api.destroySession session)
  match result, destroyed with
  | .ok value, .ok () => pure value
  | .error error, _ => raise error
  | .ok _, .error error => raise error

/-- Stop with a `DrsError` where the condition holds. -/
def refuse (condition : Bool) (operation reason : String) : Prog σ DrsError Unit :=
  if condition then raise ⟨operation, reason⟩ else pure ()

/-- The name of a profile that may be there. -/
def nameOf (session : Session) : Option Profile → Prog σ DrsError (Option String)
  | none => pure none
  | some profile => do
      let name ← api.profileName session profile
      return some name

/-- The profile that was found, or the one that is looked for next. -/
def orElse (next : Prog σ DrsError (Option Profile)) :
    Option Profile → Prog σ DrsError (Option Profile)
  | some profile => pure (some profile)
  | none => next

/-- The first profile with one of the names. -/
def findFirstByName (session : Session) : List String → Prog σ DrsError (Option Profile)
  | [] => pure none
  | name :: names => do
      let found ← api.findProfileByName session name
      orElse (findFirstByName session names) found

/-- The owner of the first application, unless it is the global profile. -/
def dedicatedOwner (session : Session) :
    Option Profile → Prog σ DrsError (Option Profile)
  | none => pure none
  | some profile => do
      let name ← api.profileName session profile
      return if name = GLOBAL_PROFILE_NAME then none else some profile

/-- `find_existing_profile`. -/
def findExistingProfile (session : Session) : Prog σ DrsError (Option Profile) := do
  let owner ← api.findApplicationProfile session CS2_APPLICATIONS[0]
  let found ← dedicatedOwner api session owner
  orElse (findFirstByName api session CS2_PROFILE_ALIASES) found

/-- The registration belongs to another profile. -/
def ownedElsewhere (target : Option Profile) : Option Profile → Bool
  | none => false
  | some owner => target ≠ some owner

/-- `capture_application_originals`. -/
def captureApplicationOriginals (session : Session) (target : Option Profile) :
    Prog σ DrsError (List DrsApplicationOriginal) := do
  forEach (fun application => do
    let owner ← api.findApplicationProfile session application
    refuse (ownedElsewhere target owner) "validate CS2 application binding"
      (application ++ " belongs to a different DRS profile")) CS2_APPLICATIONS
  mapEach (fun application => do
    let owner ← api.findApplicationProfile session application
    let profile ← nameOf api session owner
    return { application := application, profile := profile }) CS2_APPLICATIONS

/-- `capture_originals`. -/
def captureOriginals (session : Session) (profile : Profile) :
    Prog σ DrsError (List DrsOriginalSetting) :=
  mapEach (fun setting => do
    let value ← api.readDword session profile setting.id
    return { id := setting.id, value := value }) CS2_SETTINGS

/-- The settings of a profile that does not exist. -/
def absentSettings : List DrsOriginalSetting :=
  CS2_SETTINGS.map fun setting => { id := setting.id, value := none }

/-- The name and the settings of the target. -/
def captureTarget (session : Session) :
    Option Profile → Prog σ DrsError (String × List DrsApplicationOriginal ×
      List DrsOriginalSetting)
  | none => do
      let applications ← captureApplicationOriginals api session none
      return (CS2_PROFILE_NAME, applications, absentSettings)
  | some profile => do
      let name ← api.profileName session profile
      let applications ← captureApplicationOriginals api session (some profile)
      let settings ← captureOriginals api session profile
      return (name, applications, settings)

/-- `capture_cs2_backup`. -/
def captureCs2Backup : Prog σ DrsError DrsBackup :=
  withSession api fun session => do
    let profile ← findExistingProfile api session
    let (name, applications, settings) ← captureTarget api session profile
    return {
      profile := name
      profileCreated := profile.isNone
      settings := settings
      applications := applications }

/-- The checks of `validate_backup`. -/
def validateBackup (backup : DrsBackup) : Prog σ DrsError Unit := do
  refuse (backup.profile.isEmpty ||
      backup.settings.map DrsOriginalSetting.id ≠ CS2_SETTINGS.map DrsTargetSetting.id ||
      backup.applications.map DrsApplicationOriginal.application ≠ CS2_APPLICATIONS)
    "validate DRS backup" "backup is incomplete"
  refuse (backup.profileCreated && backup.applications.any (·.profile.isSome))
    "validate DRS backup" "new-profile backup has a preexisting application binding"
  refuse (!backup.profileCreated && backup.applications.any fun original =>
      original.profile.any (· ≠ backup.profile))
    "validate DRS backup" "application binding does not belong to the captured profile"

/-- The captured settings are the live ones, where the profile exists. -/
def validateSettingsUnchanged (session : Session) (settings : List DrsOriginalSetting) :
    Option Profile → Prog σ DrsError Unit
  | none => pure ()
  | some profile =>
      forEach (fun original => do
        let value ← api.readDword session profile original.id
        refuse (value ≠ original.value) "apply DRS"
          ("setting " ++ hexId original.id ++ " changed after backup")) settings

/-- `validate_current_originals`. -/
def validateCurrentOriginals (session : Session) (backup : DrsBackup) :
    Prog σ DrsError Unit := do
  let profile ← api.findProfileByName session backup.profile
  refuse (backup.profileCreated ≠ profile.isNone) "apply DRS"
    "profile state changed after the durable backup was captured"
  forEach (fun original => do
    let owner ← api.findApplicationProfile session original.application
    let actual ← nameOf api session owner
    refuse (actual ≠ original.profile) "apply DRS"
      (original.application ++ " binding changed after backup")) backup.applications
  validateSettingsUnchanged api session backup.settings profile

/-- A value that has to be there. -/
def require (operation reason : String) : Option α → Prog σ DrsError α
  | some a => pure a
  | none => raise ⟨operation, reason⟩

/-- Register an application that had no owner. -/
def bindMissing (session : Session) (profile : Profile) (original : DrsApplicationOriginal) :
    Prog σ DrsError Unit :=
  if original.profile.isNone then api.bindApplication session profile original.application
  else pure ()

/-- `ensure_missing_applications`. -/
def ensureMissingApplications (session : Session) (profile : Profile)
    (originals : List DrsApplicationOriginal) : Prog σ DrsError Unit :=
  forEach (fun original => do
    bindMissing api session profile original
    let owner ← api.findApplicationProfile session original.application
    refuse (owner ≠ some profile) "verify CS2 application binding"
      (original.application ++ " is not bound to the target DRS profile")) originals

/-- `verify_settings`. -/
def verifySettings (session : Session) (profile : Profile)
    (settings : List DrsTargetSetting) : Prog σ DrsError Unit :=
  forEach (fun setting => do
    let value ← api.readDword session profile setting.id
    refuse (value ≠ some setting.value) "verify DRS settings"
      ("setting " ++ hexId setting.id ++ " differs from the saved CS2 policy")) settings

/-- The profile that the policy goes to. -/
def applyTarget (session : Session) (backup : DrsBackup) : Prog σ DrsError Profile :=
  if backup.profileCreated then api.createProfile session backup.profile
  else do
    let profile ← api.findProfileByName session backup.profile
    require "apply DRS" "captured profile no longer exists" profile

/-- The writes of `apply_cs2_profile`, before they are saved. -/
def applyPolicy (session : Session) (backup : DrsBackup) : Prog σ DrsError Profile := do
  validateCurrentOriginals api session backup
  let profile ← applyTarget api session backup
  ensureMissingApplications api session profile backup.applications
  forEach (fun setting => api.setDword session profile setting.id setting.value) CS2_SETTINGS
  return profile

/-- `apply_cs2_profile`. -/
def applyCs2Profile (backup : DrsBackup) : Prog σ DrsError DrsApplyReport := do
  validateBackup backup
  withSession api fun session => do
    let profile ← applyPolicy api session backup
    api.saveSettings session
    api.loadSettings session
    verifySettings api session profile CS2_SETTINGS
    return { backup := backup, verifiedSettings := CS2_SETTINGS.length }

/-- The restore of a profile that the transaction made. -/
def restoreCreated (session : Session) (backup : DrsBackup) (profile : Profile) :
    Prog σ DrsError Unit := do
  api.deleteProfile session profile
  api.saveSettings session
  let remaining ← api.findProfileByName session backup.profile
  refuse remaining.isSome "verify DRS restore"
    "profile created by this transaction still exists after deletion"

/-- The writes of the restore of a profile that existed. -/
def restoreOriginals (session : Session) (backup : DrsBackup) (profile : Profile) :
    Prog σ DrsError Unit := do
  forEach (fun original => api.restoreDword session profile original) backup.settings
  forEach (fun original =>
    if original.profile.isNone then
      api.deleteApplication session profile original.application
    else pure ()) backup.applications

/-- The read-back of a restore. -/
def verifyRestored (session : Session) (backup : DrsBackup) (profile : Profile) :
    Prog σ DrsError Unit := do
  forEach (fun original => do
    let actual ← api.readDword session profile original.id
    refuse (actual ≠ original.value) "verify DRS restore"
      ("setting " ++ hexId original.id ++ " did not return to its captured value"))
    backup.settings
  forEach (fun original => do
    let actual ← api.findApplicationProfile session original.application
    refuse (original.profile.isNone && actual.isSome) "verify DRS restore"
      ("suite-added " ++ original.application ++ " remains registered")) backup.applications

/-- The restore of a profile that existed. -/
def restoreExisting (session : Session) (backup : DrsBackup) (profile : Profile) :
    Prog σ DrsError Unit := do
  restoreOriginals api session backup profile
  api.saveSettings session
  api.loadSettings session
  verifyRestored api session backup profile

/-- `restore_cs2_profile`. -/
def restoreCs2Profile (backup : DrsBackup) : Prog σ DrsError Unit := do
  validateBackup backup
  withSession api fun session => do
    let found ← api.findProfileByName session backup.profile
    let profile ← require "restore DRS" "captured profile no longer exists" found
    if backup.profileCreated then restoreCreated api session backup profile
    else restoreExisting api session backup profile

/-- `verify_cs2_profile`. -/
def verifyCs2Profile (backup : DrsBackup) : Prog σ DrsError Unit := do
  validateBackup backup
  withSession api fun session => do
    let found ← api.findProfileByName session backup.profile
    let profile ← require "verify DRS" "target profile is missing" found
    verifySettings api session profile CS2_SETTINGS
    forEach (fun original => do
      let owner ← api.findApplicationProfile session original.application
      refuse (owner ≠ some profile) "verify DRS application binding"
        (original.application ++ " is not bound to the target profile")) backup.applications

end

end FrametimeCfg.Windows
