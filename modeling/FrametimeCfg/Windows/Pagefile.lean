import FrametimeCfg.Domain.Backup
import FrametimeCfg.Domain.State
import FrametimeCfg.Lib.Checks
import FrametimeCfg.Lib.Effect

/-!
# The page file transaction

P1:8 replaces the size of the page file of the system drive.  It captures the
whole page file configuration, switches the automatic management off, updates
or creates the setting of the target and verifies the result.  A failure on
the way is compensated at once, and the captured entry restores the
configuration later.

The native side is a `PagefileStore`: every call names the instance it means
by its identity *and* by the sizes it is expected to have.
-/

namespace FrametimeCfg.Windows

open FrametimeCfg.Domain
open FrametimeCfg.Lib.Checks
open FrametimeCfg.Lib.Effect
open FrametimeCfg.Lib.OrderedMap
open FrametimeCfg.Lib.Text

/-! ## Inventories -/

structure PagefileSetting where
  path : String
  initialSize : UInt32
  maximumSize : UInt32
  objectPath : String
  relativePath : String
  deriving DecidableEq

structure PagefileInventory where
  automaticManaged : Bool
  computerObjectPath : String
  computerRelativePath : String
  systemDrive : String
  physicalRamMb : UInt64
  freeSpaceMb : UInt64
  settings : List PagefileSetting
  deriving DecidableEq

structure PagefileBinding where
  step : String
  targetPath : String
  initialSize : UInt32
  maximumSize : UInt32
  before : PagefileInventory
  target : Option PagefileSetting
  deriving DecidableEq

structure CreatedPagefileToken where
  objectPath : String
  relativePath : String
  path : String
  initialSize : UInt32
  maximumSize : UInt32
  deriving DecidableEq

/-- The token of a setting. -/
def PagefileSetting.token (s : PagefileSetting) : CreatedPagefileToken where
  objectPath := s.objectPath
  relativePath := s.relativePath
  path := s.path
  initialSize := s.initialSize
  maximumSize := s.maximumSize

/-- The setting a token describes. -/
def CreatedPagefileToken.setting (t : CreatedPagefileToken) : PagefileSetting where
  path := t.path
  initialSize := t.initialSize
  maximumSize := t.maximumSize
  objectPath := t.objectPath
  relativePath := t.relativePath

/-- The setting is the one of the given path. -/
def PagefileSetting.isAt (s : PagefileSetting) (path : String) : Bool :=
  eqIgnoreAsciiCase s.path path

/-- A text with a NUL or a line break. -/
def hasUnsafeCharacter (value : String) : Bool :=
  value.toList.any fun c => c = '\x00' || c = '\r' || c = '\n'

/-- `validate_pagefile_identity`. -/
def validatePagefileIdentity (s : PagefileSetting) : Except String Unit := do
  reject (s.path.isEmpty || s.objectPath.isEmpty || s.relativePath.isEmpty ||
      [s.path, s.objectPath, s.relativePath].any hasUnsafeCharacter)
    "CIM pagefile instance has an unsafe or incomplete identity"
  reject (s.maximumSize < s.initialSize) "CIM pagefile instance has invalid size ordering"

/-- The loop of `validate_inventory`: every setting is well formed, and none
repeats an identity of the settings before it. -/
def validateSettings (seen : List PagefileSetting) :
    List PagefileSetting → Except String Unit
  | [] => .ok ()
  | s :: rest => do
      validatePagefileIdentity s
      reject (seen.any fun other =>
          eqIgnoreAsciiCase other.objectPath s.objectPath ||
          eqIgnoreAsciiCase other.relativePath s.relativePath || other.isAt s.path)
        "CIM pagefile inventory contains duplicate identities"
      validateSettings (s :: seen) rest

/-- `validate_inventory`. -/
def validateInventory (inventory : PagefileInventory) : Except String Unit := do
  reject (inventory.computerObjectPath.isEmpty || inventory.computerRelativePath.isEmpty ||
      inventory.systemDrive.isEmpty)
    "CIM computer-system identity or SystemDrive is missing"
  validateSettings [] inventory.settings

/-! ## Capture -/

/-- A letter and a colon. -/
def isDriveDesignator (drive : String) : Bool :=
  match drive.toList with
  | [letter, colon] => letter.isAlpha && colon = ':'
  | _ => false

/-- `pagefile_target`. -/
def pagefileTarget (systemDrive : String) : Except String String := do
  reject (!isDriveDesignator systemDrive) "SystemDrive is not an exact local drive designator"
  return asciiUpper systemDrive ++ "\\pagefile.sys"

/-- `u32::try_from`. -/
def toU32 (n : UInt64) : Option UInt32 :=
  if n.toNat < 2 ^ 32 then some (UInt32.ofNat n.toNat) else none

/-- `pagefile_size_mb`. -/
def pagefileSizeMb (state : State) : Except String UInt32 :=
  if state.pagefileMb ≠ 0 then
    okOr (toU32 state.pagefileMb) "configured pagefile size does not fit Win32 uint32"
  else .error ("system-managed pagefiles are the baseline; a fixed pagefile experiment " ++
    "requires an explicit pagefile_mb override")

/-- `capture_pagefile_binding`. -/
def capturePagefileBinding (step : String) (state : State)
    (inventory : PagefileInventory) : Except String PagefileBinding := do
  validateInventory inventory
  let targetPath ← pagefileTarget inventory.systemDrive
  let initialSize ← pagefileSizeMb state
  reject (MAX_PAGEFILE_MB < initialSize.toUInt64 || inventory.freeSpaceMb < initialSize.toUInt64)
    "pagefile target size exceeds validated free space or safe bounds"
  let target := inventory.settings.filter (·.isAt targetPath)
  reject (1 < target.length) "CIM inventory contains duplicate target pagefile instances"
  return {
    step := step
    targetPath := targetPath
    initialSize := initialSize
    maximumSize := initialSize
    before := inventory
    target := target.head? }

/-- `pagefile_setting_backup`. -/
def PagefileSetting.backup (s : PagefileSetting) : PagefileTransactionSetting where
  path := s.path
  initialSize := s.initialSize.toUInt64
  maximumSize := s.maximumSize.toUInt64
  objectPath := some s.objectPath
  relativePath := some s.relativePath

/-- The transaction of `pagefile_backup_entry`. -/
def PagefileBinding.transaction (b : PagefileBinding) : PagefileTransaction where
  automaticManaged := b.before.automaticManaged
  targetPath := b.targetPath
  targetExisted := b.target.isSome
  settings := b.before.settings.map PagefileSetting.backup
  computerObjectPath := some b.before.computerObjectPath
  computerRelativePath := some b.before.computerRelativePath
  mutationIntent := some (if b.target.isSome then "update_pending" else "create_pending")

/-- `pagefile_backup_entry`. -/
def pagefileBackupEntry (now : String) (b : PagefileBinding) : BackupEntry :=
  .pagefileTransaction b.step now b.transaction

/-! ## The store -/

/-- The `PagefileStore` trait. -/
structure PagefileStore (σ : Type) where
  inventory : Prog σ String PagefileInventory
  setAutomatic : (objectPath relativePath : String) → (expected : Option Bool) →
    (value : Bool) → Prog σ String Unit
  update : PagefileSetting → (initial maximum : UInt32) → Prog σ String Unit
  create : (path : String) → (initial maximum : UInt32) → Prog σ String CreatedPagefileToken
  delete : CreatedPagefileToken → Prog σ String Unit

section Mutation

variable {σ : Type} (store : PagefileStore σ)

/-- `check_foreign_preservation`: the settings other than the target are the
captured ones. -/
def checkForeignPreservation (binding : PagefileBinding) (after : PagefileInventory) :
    Except String Unit := do
  validateInventory after
  reject (binding.before.settings.any fun original =>
      !(binding.target.any fun target => target.objectPath = original.objectPath) &&
        after.settings.find? (·.objectPath = original.objectPath) ≠ some original)
    "a non-target pagefile setting changed or disappeared"

/-- `begin_pagefile_mutation`. -/
def beginPagefileMutation (binding : PagefileBinding) :
    Prog σ String (Option CreatedPagefileToken) := do
  store.setAutomatic binding.before.computerObjectPath binding.before.computerRelativePath
    (some binding.before.automaticManaged) false
  let disabled ← store.inventory
  ofExcept (reject disabled.automaticManaged "AutomaticManagedPagefile did not read back false")
  ofExcept (checkForeignPreservation binding disabled)
  match binding.target with
  | some target => do
      store.update target binding.initialSize binding.maximumSize
      return none
  | none => do
      let created ← store.create binding.targetPath binding.initialSize binding.maximumSize
      return some created

/-- The created setting was read back under another identity. -/
def createdElsewhere (target : PagefileSetting) (created : Option CreatedPagefileToken) :
    Bool :=
  created.any fun token =>
    target.objectPath ≠ token.objectPath || target.relativePath ≠ token.relativePath

/-- `verify_pagefile_mutation`. -/
def verifyPagefileMutation (binding : PagefileBinding)
    (created : Option CreatedPagefileToken) : Prog σ String Unit := do
  let after ← store.inventory
  ofExcept (reject after.automaticManaged
    "AutomaticManagedPagefile changed during pagefile transaction")
  ofExcept (checkForeignPreservation binding after)
  let target ← ofExcept (okOr (after.settings.find? (·.isAt binding.targetPath))
    "target pagefile setting is absent after mutation")
  ofExcept (reject (target.initialSize ≠ binding.initialSize ||
      target.maximumSize ≠ binding.maximumSize)
    "target pagefile sizes did not read back exactly")
  ofExcept (reject (createdElsewhere target created)
    "created pagefile identity did not read back exactly")

/-- The first half of `compensate_pagefile_mutation`: take the target back. -/
def undoTarget (binding : PagefileBinding) (created : Option CreatedPagefileToken) :
    Prog σ String Unit :=
  match created, binding.target with
  | some created, _ =>
      relabel ("delete exact created pagefile: " ++ ·) (store.delete created)
  | none, some target =>
      relabel ("restore target pagefile: " ++ ·)
        (store.update target target.initialSize target.maximumSize)
  | none, none => pure ()

/-- The failure of an outcome. -/
def failureOf : Except String Unit → List String
  | .ok () => []
  | .error message => [message]

/-- `compensate_pagefile_mutation`. -/
def compensatePagefileMutation (binding : PagefileBinding)
    (created : Option CreatedPagefileToken) : Prog σ String Unit := do
  let target ← attempt (undoTarget store binding created)
  let automatic ← attempt (relabel ("restore AutomaticManagedPagefile last: " ++ ·)
    (store.setAutomatic binding.before.computerObjectPath
      binding.before.computerRelativePath none binding.before.automaticManaged))
  match failureOf target ++ failureOf automatic with
  | [] => pure ()
  | failures => raise ("; ".intercalate failures)

end Mutation

/-! ## Restoring -/

/-- `created_pagefile_token`. -/
def createdPagefileToken (t : PagefileTransaction) :
    Except String (Option CreatedPagefileToken) :=
  match t.createdObjectPath, t.createdRelativePath with
  | none, none =>
      if t.mutationIntent = some "update_pending" && t.targetExisted then .ok none
      else .error
        "P1:8 backup has no exact deletion authority; manual recovery is required"
  | some objectPath, some relativePath =>
      if t.mutationIntent = some "created" && !t.targetExisted && !objectPath.isEmpty &&
          !relativePath.isEmpty then do
        let initial ← okOr t.createdInitialSize
          "P1:8 created token lacks its expected initial size"
        let initial ← okOr (toU32 initial) "P1:8 created initial size exceeds uint32"
        let maximum ← okOr t.createdMaximumSize
          "P1:8 created token lacks its expected maximum size"
        let maximum ← okOr (toU32 maximum) "P1:8 created maximum size exceeds uint32"
        reject (maximum < initial) "P1:8 created token has invalid expected sizes"
        return some {
          objectPath := objectPath
          relativePath := relativePath
          path := t.targetPath
          initialSize := initial
          maximumSize := maximum }
      else .error
        "P1:8 backup has no exact deletion authority; manual recovery is required"
  | _, _ => .error
      "P1:8 backup has no exact deletion authority; manual recovery is required"

/-- The setting of a captured transaction. -/
def PagefileTransactionSetting.restored (s : PagefileTransactionSetting) :
    Except String PagefileSetting := do
  let initialSize ← okOr (toU32 s.initialSize) "P1:8 initial size exceeds uint32"
  let maximumSize ← okOr (toU32 s.maximumSize) "P1:8 maximum size exceeds uint32"
  let objectPath ← okOr s.objectPath "P1:8 setting lacks exact object token"
  let relativePath ← okOr s.relativePath "P1:8 setting lacks exact relative token"
  let item : PagefileSetting := {
    path := s.path
    initialSize := initialSize
    maximumSize := maximumSize
    objectPath := objectPath
    relativePath := relativePath }
  validatePagefileIdentity item
  return item

/-- `value.get(0..2)`: the characters of the first two bytes. -/
def firstTwoBytes (value : String) : Option String :=
  match value.toList with
  | a :: b :: _ =>
      if a.utf8Size = 1 && b.utf8Size = 1 then some (String.ofList [a, b])
      else if a.utf8Size = 2 then some (String.ofList [a])
      else none
  | [a] => if a.utf8Size = 2 then some (String.ofList [a]) else none
  | [] => none

/-- What `parse_pagefile_restore_backup` returns. -/
structure PagefileRestore where
  before : PagefileInventory
  created : Option CreatedPagefileToken
  targetPath : String
  targetExisted : Bool

/-- A computer-system identity that is missing or empty. -/
def missingIdentity (identity : Option String) : Bool :=
  !(identity.any fun text => !text.isEmpty)

/-- `parse_pagefile_restore_backup`. -/
def parsePagefileRestoreBackup : BackupEntry → Except String PagefileRestore
  | .pagefileTransaction step _ t => do
      reject (step ≠ "P1:8" || !t.unknown.isEmpty || missingIdentity t.computerObjectPath ||
          missingIdentity t.computerRelativePath)
        "P1:8 backup has incomplete or untrusted transaction provenance"
      let created ← createdPagefileToken t
      let systemDrive ← okOr (firstTwoBytes t.targetPath) "P1:8 target path is malformed"
      let settings ← t.settings.mapM PagefileTransactionSetting.restored
      return {
        before := {
          automaticManaged := t.automaticManaged
          computerObjectPath := t.computerObjectPath.getD ""
          computerRelativePath := t.computerRelativePath.getD ""
          systemDrive := systemDrive
          physicalRamMb := 1
          freeSpaceMb := UInt64.ofNat (2 ^ 64 - 1)
          settings := settings }
        created := created
        targetPath := t.targetPath
        targetExisted := t.targetExisted }
  | _ => .error "pagefile transaction restore received the wrong entry type"

section Restore

variable {σ : Type} (store : PagefileStore σ)

/-- The created setting is there, once, with the sizes it was created with. -/
def checkCreatedToken (live : PagefileInventory) (targetPath : String)
    (created : CreatedPagefileToken) : Except String Unit := do
  let setting ← okOr (sole (live.settings.filter fun setting =>
      setting.objectPath = created.objectPath &&
        setting.relativePath = created.relativePath && setting.isAt targetPath))
    "P1:8 created token is absent or ambiguous; refusing deletion"
  reject (setting.initialSize ≠ created.initialSize ||
      setting.maximumSize ≠ created.maximumSize)
    "P1:8 created token sizes changed; refusing deletion"

/-- Delete the created setting, where one was created. -/
def deleteCreated (live : PagefileInventory) (targetPath : String) :
    Option CreatedPagefileToken → Prog σ String Unit
  | none => pure ()
  | some created => do
      ofExcept (checkCreatedToken live targetPath created)
      store.delete created

/-- Put the sizes of the target back, where it existed. -/
def restoreTarget (r : PagefileRestore) : Prog σ String Unit := do
  if r.targetExisted then
    let target ← ofExcept (okOr (r.before.settings.find? (·.isAt r.targetPath))
      "P1:8 target token is absent from the complete original inventory")
    store.update target target.initialSize target.maximumSize
  else pure ()

/-- `restore_pagefile_settings`. -/
def restorePagefileSettings (r : PagefileRestore) : Prog σ String Unit := do
  ofExcept (validateInventory r.before)
  let live ← store.inventory
  ofExcept (validateInventory live)
  ofExcept (reject (live.computerObjectPath ≠ r.before.computerObjectPath ||
      live.computerRelativePath ≠ r.before.computerRelativePath)
    "P1:8 computer-system token no longer matches; manual recovery is required")
  deleteCreated store live r.targetPath r.created
  restoreTarget store r

/-- A captured setting that the live inventory does not hold. -/
def notRestored (restored : PagefileInventory) (setting : PagefileSetting) : Bool :=
  restored.settings.find? (·.objectPath = setting.objectPath) ≠ some setting

/-- The text for a setting that was not restored. -/
def notRestoredMessage (r : PagefileRestore) (setting : PagefileSetting) : String :=
  if setting.isAt r.targetPath && r.targetExisted then
    "P1:8 target setting did not restore exactly"
  else "P1:8 foreign pagefile setting changed during restore"

/-- The created setting is still there. -/
def createdRemains (restored : PagefileInventory) (created : Option CreatedPagefileToken) :
    Bool :=
  created.any fun token => restored.settings.any fun setting =>
    setting.objectPath = token.objectPath || setting.relativePath = token.relativePath

/-- `verify_pagefile_restoration`. -/
def verifyPagefileRestoration (r : PagefileRestore) : Prog σ String Unit := do
  let restored ← store.inventory
  match r.before.settings.find? (notRestored restored) with
  | some setting => raise (notRestoredMessage r setting)
  | none => do
      ofExcept (reject (createdRemains restored r.created)
        "P1:8 exact created setting remains after deletion")
      store.setAutomatic r.before.computerObjectPath r.before.computerRelativePath none
        r.before.automaticManaged
      let final ← store.inventory
      ofExcept (reject (final.automaticManaged ≠ r.before.automaticManaged)
        "P1:8 AutomaticManagedPagefile restore did not read back exactly")

/-- `restore_pagefile_transaction`. -/
def restorePagefileTransaction (entry : BackupEntry) : Prog σ String Unit := do
  let r ← ofExcept (parsePagefileRestoreBackup entry)
  restorePagefileSettings store r
  verifyPagefileRestoration store r

end Restore

end FrametimeCfg.Windows
