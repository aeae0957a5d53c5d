import FrametimeCfg.Domain.BackupRecords
import FrametimeCfg.Lib.Checks

/-!
# Interrupt policies

Four registry values below the key of a PCI device say how its interrupts are
delivered.  Each belongs to one step, has one type and stands under one of two
subkeys of the device; a backup of such a value is valid only when all of these
agree.
-/

namespace FrametimeCfg.Domain

open FrametimeCfg.Lib.Checks
open FrametimeCfg.Lib.Text

/-- `InterruptPolicyKind::expected_step`. -/
def InterruptPolicyKind.expectedStep : InterruptPolicyKind → String
  | .msiSupported | .messageNumberLimit => "P3:2"
  | .devicePolicy | .assignmentSetOverride => "P3:3"

/-- `InterruptPolicyKind::registry_suffix`. -/
def InterruptPolicyKind.registrySuffix : InterruptPolicyKind → String
  | .msiSupported | .messageNumberLimit =>
      "Device Parameters\\Interrupt Management\\MessageSignaledInterruptProperties"
  | .devicePolicy | .assignmentSetOverride =>
      "Device Parameters\\Interrupt Management\\Affinity Policy"

inductive InterruptPolicyBackupError where
  | unknownFields
  | stepMismatch
  | invalidDevice (error : String)
  | existenceMismatch
  | valueTypeMismatch
  | invalidTimestamp
  deriving DecidableEq

/-- The text of a backup error. -/
def InterruptPolicyBackupError.message : InterruptPolicyBackupError → String
  | .unknownFields => "interrupt-policy backup contains unrecognized fields"
  | .stepMismatch => "interrupt-policy backup step and policy do not match"
  | .invalidDevice error =>
      "interrupt-policy backup has invalid device evidence: " ++ error
  | .existenceMismatch => "interrupt-policy backup existence and value do not agree"
  | .valueTypeMismatch =>
      "interrupt-policy backup value type does not match its policy"
  | .invalidTimestamp => "interrupt-policy backup timestamp is invalid"

/-- A policy stores values of this type. -/
def InterruptPolicyKind.accepts : InterruptPolicyKind → InterruptPolicyValue → Bool
  | .assignmentSetOverride, .binary _ => true
  | .msiSupported, .dword _ | .messageNumberLimit, .dword _ | .devicePolicy, .dword _ => true
  | _, _ => false

/-- `InterruptPolicyBackup::validate`. -/
def InterruptPolicyBackup.validate (backup : InterruptPolicyBackup) :
    Except InterruptPolicyBackupError Unit := do
  reject (¬ backup.unknown.isEmpty) .unknownFields
  reject (backup.step ≠ backup.policy.expectedStep) .stepMismatch
  reject (backup.timestamp.toList.all isWhitespace || 64 < byteLen backup.timestamp ||
    backup.timestamp.toList.any isControl) .invalidTimestamp
  backup.device.validate.mapError fun error => .invalidDevice error.message
  reject (backup.existed ≠ backup.originalValue.isSome) .existenceMismatch
  reject (backup.originalValue.any fun value => ¬ backup.policy.accepts value)
    .valueTypeMismatch

/-- The key of a policy of a device. -/
def interruptPolicyKey (device : PciDeviceBinding) (suffix : String) : String :=
  "SYSTEM\\CurrentControlSet\\Enum\\" ++ device.instanceId ++ "\\" ++ suffix

/-- `InterruptPolicyBackup::registry_key`. -/
def InterruptPolicyBackup.registryKey (backup : InterruptPolicyBackup) : String :=
  interruptPolicyKey backup.device backup.policy.registrySuffix

/-- The entry of the backup file. -/
def InterruptPolicyBackup.entry (backup : InterruptPolicyBackup) : BackupEntry :=
  .interruptPolicy backup.step backup.timestamp backup.device backup.policy

end FrametimeCfg.Domain
