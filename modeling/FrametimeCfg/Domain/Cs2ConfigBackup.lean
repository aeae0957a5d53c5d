import FrametimeCfg.Domain.Cs2Config
import FrametimeCfg.Lib.Wide

/-!
# The backup transaction of the CFG files

Before the controller writes, the content of every target is captured in one
record.  Restoring checks the record against a fresh binding of the install and
hands the captured contents to the controller.  A record names its targets
without paths, and a digest guards the bytes of each.

SHA-256 and the operating system's encoding of a path enter as `CfgDigests`.
The entry is the record itself; the case of another kind of entry does not arise.
-/

namespace FrametimeCfg.Domain

open FrametimeCfg.Lib.Checks
open FrametimeCfg.Lib.Effect
open FrametimeCfg.Lib.FileCalls
open FrametimeCfg.Lib.OrderedMap
open FrametimeCfg.Lib.Text
open FrametimeCfg.Lib.Wide

def CS2_CONFIG_TRANSACTION_STEP : String := "P1:34"
def CS2_OPTIONAL_CONFIG_TRANSACTION_STEP : String := "CS2:CFG"
def CS2_CONFIG_MAX_FILE_BYTES : Nat := 1024 * 1024
def CS2_CONFIG_MAX_TOTAL_BYTES : Nat := 8 * 1024 * 1024
def CS2_APP_ID : String := "730"

structure Cs2InstallIdentity where
  steamAppId : String
  installFingerprint : String
  unknown : BTreeMap Value := ∅

/-- One exact original state. -/
structure Cs2ConfigSnapshot where
  target : Cs2ConfigTarget
  existed : Bool
  originalBytes : Option Bytes
  originalSha256 : Option String
  unknown : BTreeMap Value := ∅

/-- `BackupEntry::Cs2ConfigTransaction`. -/
structure Cs2ConfigTransaction where
  step : String
  timestamp : String
  installIdentity : Cs2InstallIdentity
  targets : List Cs2ConfigSnapshot
  unknown : BTreeMap Value := ∅

inductive Cs2ConfigBackupError where
  | config (source : Cs2ConfigError)
  | read (target : Cs2ConfigTarget) (source : ErrorKind)
  | fileTooLarge (target : Cs2ConfigTarget) (actual limit : Nat)
  | totalTooLarge (actual limit : Nat)
  | wrongStep (expected actual : String)
  | duplicateTarget (target : Cs2ConfigTarget)
  | missingTarget (target : Cs2ConfigTarget)
  | unexpectedTarget (target : Cs2ConfigTarget)
  | targetOrderMismatch
  | absentTargetHasBytes (target : Cs2ConfigTarget)
  | existingTargetMissingBytes (target : Cs2ConfigTarget)
  | missingDigest (target : Cs2ConfigTarget)
  | digestMismatch (target : Cs2ConfigTarget)
  | installMismatch
  | unknownFields
  deriving DecidableEq, Repr

/-- The digest and the path encoding. -/
structure CfgDigests where
  sha256 : Bytes → Bytes
  encodedBytes : FilePath → Bytes

/-- A program of the backup transaction. -/
abbrev CfgBackupProg := Prog (Files FilePath) Cs2ConfigBackupError

/-! ## Digests -/

private def hexDigit (n : UInt8) : Char :=
  "0123456789abcdef".toList.getD n.toNat '0'

/-- `hex_digest`. -/
def hexDigest (bytes : Bytes) : String :=
  String.ofList (bytes.flatMap fun (byte : UInt8) =>
    [hexDigit (byte >>> 4), hexDigit (byte &&& 0x0f)])

/-- `sha256_hex`. -/
def sha256Hex (digests : CfgDigests) (bytes : Bytes) : String := hexDigest (digests.sha256 bytes)

/-- `install_identity`: the three roots, each after its length. -/
def installIdentityOf (digests : CfgDigests) (install : Cs2Install) : Cs2InstallIdentity :=
  let rooted (path : FilePath) :=
    let bytes := digests.encodedBytes path
    leBytes 8 bytes.length ++ bytes
  { steamAppId := CS2_APP_ID
    installFingerprint := sha256Hex digests
      (utf8 "frametime-cfg/cs2-install/v1" ++ [0] ++ rooted install.steamRoot ++
        rooted install.libraryRoot ++ rooted install.installRoot) }

/-! ## Validation -/

/-- The size limits; the outcome is the total with this file. -/
def withinLimits (target : Cs2ConfigTarget) (bytes : Bytes) (total : Nat) :
    Except Cs2ConfigBackupError Nat := do
  reject (CS2_CONFIG_MAX_FILE_BYTES < bytes.length)
    (.fileTooLarge target bytes.length CS2_CONFIG_MAX_FILE_BYTES)
  -- `saturating_add`
  let total := min (total + bytes.length) (2 ^ 64 - 1)
  reject (CS2_CONFIG_MAX_TOTAL_BYTES < total)
    (.totalTooLarge total CS2_CONFIG_MAX_TOTAL_BYTES)
  return total

/-- `validate_snapshot_bytes`; the outcome is the total so far. -/
def validateSnapshotBytes (digests : CfgDigests) (snapshot : Cs2ConfigSnapshot)
    (total : Nat) : Except Cs2ConfigBackupError Nat :=
  if ¬ snapshot.existed then
    match snapshot.originalBytes, snapshot.originalSha256 with
    | none, none => .ok total
    | _, _ => .error (.absentTargetHasBytes snapshot.target)
  else
    match snapshot.originalBytes with
    | none => .error (.existingTargetMissingBytes snapshot.target)
    | some bytes => do
        let total ← withinLimits snapshot.target bytes total
        let digest ← okOr snapshot.originalSha256 (.missingDigest snapshot.target)
        reject (digest ≠ sha256Hex digests bytes) (.digestMismatch snapshot.target)
        return total

/-- The snapshots from one on, after those of `seen`. -/
def validateSnapshots (digests : CfgDigests) (expected : List Cs2ConfigTarget) :
    List Cs2ConfigSnapshot → List Cs2ConfigTarget → Nat → Except Cs2ConfigBackupError Unit
  | [], _, _ => .ok ()
  | snapshot :: snapshots, seen, total => do
      reject (snapshot.target ∈ seen) (.duplicateTarget snapshot.target)
      reject (snapshot.target ∉ expected) (.unexpectedTarget snapshot.target)
      let total ← validateSnapshotBytes digests snapshot total
      validateSnapshots digests expected snapshots (snapshot.target :: seen) total

/-- `validate_snapshot_targets`. -/
def validateSnapshotTargets (digests : CfgDigests) (snapshots : List Cs2ConfigSnapshot)
    (expected : List Cs2ConfigTarget) : Except Cs2ConfigBackupError Unit := do
  validateSnapshots digests expected snapshots [] 0
  let seen := snapshots.map (·.target)
  expected.forM fun target => reject (target ∉ seen) (.missingTarget target)
  reject (seen ≠ expected) .targetOrderMismatch

namespace Cs2ConfigTransaction

/-- What both validators ask for. -/
def validateFor (digests : CfgDigests) (entry : Cs2ConfigTransaction) (step : String)
    (install : Cs2Install) (expected : List Cs2ConfigTarget) :
    Except Cs2ConfigBackupError Unit := do
  reject (entry.step ≠ step) (.wrongStep step entry.step)
  let controller ← (Cs2ConfigController.new install).mapError .config
  let identity := installIdentityOf digests controller.install
  reject (entry.installIdentity.steamAppId ≠ identity.steamAppId ||
    entry.installIdentity.installFingerprint ≠ identity.installFingerprint) .installMismatch
  validateSnapshotTargets digests entry.targets expected

/-- `validate_cs2_config_transaction`. -/
def validate (digests : CfgDigests) (entry : Cs2ConfigTransaction) (install : Cs2Install)
    (request : Cs2ConfigRequest) : Except Cs2ConfigBackupError Unit :=
  entry.validateFor digests CS2_CONFIG_TRANSACTION_STEP install (Cs2ConfigTarget.forRequest request)

/-- `validate_optional_cs2_config_transaction`. -/
def validateOptional (digests : CfgDigests) (entry : Cs2ConfigTransaction)
    (install : Cs2Install) (assets : Finset OptionalCfgAsset) :
    Except Cs2ConfigBackupError Unit :=
  entry.validateFor digests CS2_OPTIONAL_CONFIG_TRANSACTION_STEP install
    (Cs2ConfigTarget.forOptionalAssets assets)

/-! ## Capture -/

/-- The content of one target, and the total so far. -/
def captureTarget (digests : CfgDigests) (target : Cs2ConfigTarget) (path : FilePath)
    (total : Nat) : CfgBackupProg (Cs2ConfigSnapshot × Nat) := do
  match ← attempt (readFile path) with
  | .ok bytes =>
      let total ← ofExcept (withinLimits target bytes total)
      pure ({ target := target, existed := true, originalBytes := some bytes,
              originalSha256 := some (sha256Hex digests bytes) }, total)
  | .error .notFound =>
      pure ({ target := target, existed := false, originalBytes := none,
              originalSha256 := none }, total)
  | .error kind => raise (.read target kind)

/-- The loop of `capture_targets`. -/
def captureSnapshots (digests : CfgDigests) :
    List (Cs2ConfigTarget × FilePath) → Nat → CfgBackupProg (List Cs2ConfigSnapshot)
  | [], _ => pure []
  | (target, path) :: rest, total => do
      let (snapshot, total) ← captureTarget digests target path total
      let snapshots ← captureSnapshots digests rest total
      return snapshot :: snapshots

/-- `capture_targets`. -/
def captureTargets (digests : CfgDigests) (install : Cs2Install) (step capturedAt : String)
    (targetPaths : List (Cs2ConfigTarget × FilePath)) :
    CfgBackupProg Cs2ConfigTransaction := do
  let targets ← captureSnapshots digests targetPaths 0
  return { step := step, timestamp := capturedAt,
           installIdentity := installIdentityOf digests install, targets := targets }

/-- `capture_cs2_config_transaction`. -/
def capture (digests : CfgDigests) (install : Cs2Install) (request : Cs2ConfigRequest)
    (capturedAt : String) : CfgBackupProg Cs2ConfigTransaction := do
  let controller ← relabel .config (ofExcept (Cs2ConfigController.new install))
  let targetPaths ← relabel .config (ofExcept (controller.backupTargets request))
  let entry ← captureTargets digests controller.install CS2_CONFIG_TRANSACTION_STEP
    capturedAt targetPaths
  ofExcept (entry.validate digests install request)
  return entry

/-- `capture_optional_cs2_config_transaction`. -/
def captureOptional (digests : CfgDigests) (install : Cs2Install)
    (assets : Finset OptionalCfgAsset) (capturedAt : String) :
    CfgBackupProg Cs2ConfigTransaction := do
  let controller ← relabel .config (ofExcept (Cs2ConfigController.new install))
  let targetPaths ← relabel .config (ofExcept (controller.backupOptionalTargets assets))
  let entry ← captureTargets digests controller.install CS2_OPTIONAL_CONFIG_TRANSACTION_STEP
    capturedAt targetPaths
  ofExcept (entry.validateOptional digests install assets)
  return entry

/-! ## Restoring, and the optional deployment -/

/-- `optional_assets_from_snapshots`. -/
def optionalAssetsFromSnapshots (targets : List Cs2ConfigSnapshot) :
    Except Cs2ConfigBackupError (Finset OptionalCfgAsset) := do
  let assets ← targets.mapM fun snapshot =>
    okOr snapshot.target.optionalAsset (.unexpectedTarget snapshot.target)
  return assets.toFinset

/-- A record with fields of a later version is left alone. -/
def fullyKnown (entry : Cs2ConfigTransaction) : Except Cs2ConfigBackupError Unit :=
  reject (¬ entry.unknown.isEmpty || ¬ entry.installIdentity.unknown.isEmpty ||
    entry.targets.any fun snapshot => ¬ snapshot.unknown.isEmpty) .unknownFields

/-- The targets with their original bytes. -/
def originals (entry : Cs2ConfigTransaction) : List (Cs2ConfigTarget × Option Bytes) :=
  entry.targets.map fun snapshot => (snapshot.target, snapshot.originalBytes)

/-- `restore_cs2_config_transaction`. -/
def restore (digests : CfgDigests) (entry : Cs2ConfigTransaction) (install : Cs2Install)
    (request : Cs2ConfigRequest) : CfgBackupProg Unit := do
  ofExcept (entry.validate digests install request)
  ofExcept entry.fullyKnown
  let controller ← relabel .config (ofExcept (Cs2ConfigController.new install))
  relabel .config (controller.restore request entry.originals)

/-- `restore_optional_cs2_config_transaction`. -/
def restoreOptional (digests : CfgDigests) (entry : Cs2ConfigTransaction)
    (install : Cs2Install) : CfgBackupProg Unit := do
  let assets ← ofExcept (optionalAssetsFromSnapshots entry.targets)
  ofExcept (entry.validateOptional digests install assets)
  ofExcept entry.fullyKnown
  let controller ← relabel .config (ofExcept (Cs2ConfigController.new install))
  relabel .config (controller.restoreOptionalAssets assets entry.originals)

/-- `apply_optional_cs2_config_transaction`. -/
def applyOptional (digests : CfgDigests) (bytes : CfgAssets) (entry : Cs2ConfigTransaction)
    (install : Cs2Install) : CfgBackupProg (List FilePath) := do
  let assets ← ofExcept (optionalAssetsFromSnapshots entry.targets)
  ofExcept (entry.validateOptional digests install assets)
  ofExcept entry.fullyKnown
  let controller ← relabel .config (ofExcept (Cs2ConfigController.new install))
  relabel .config
    (controller.applyOptionalAssetsIfUnchanged bytes assets entry.originals)

end Cs2ConfigTransaction

end FrametimeCfg.Domain
