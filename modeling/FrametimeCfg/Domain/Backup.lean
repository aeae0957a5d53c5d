import FrametimeCfg.Domain.Evidence

/-!
# The backup file

Before a step changes the host it captures what it is about to change as
`BackupEntry` records.  `BackupFile.pushFirstValue` keeps only the first record
of an identity within a step: `dedupeIdentity` renders the identity as a text,
and an entry whose text is already present is dropped.  Restoring walks the
entries backwards.

The variants carry what the modelled functions read of them.  Of some
transaction kinds that other modules restore (DNS, DRS, interrupt policy,
network stack, CFG) that is the step and the identity.
-/

namespace FrametimeCfg.Domain

open FrametimeCfg.Lib.OrderedMap
open FrametimeCfg.Lib.Text

inductive InterruptPolicyKind where
  | msiSupported
  | messageNumberLimit
  | devicePolicy
  | assignmentSetOverride
  deriving DecidableEq, Repr

/-- `InterruptPolicyKind::value_name`. -/
def InterruptPolicyKind.valueName : InterruptPolicyKind → String
  | .msiSupported => "MSISupported"
  | .messageNumberLimit => "MessageNumberLimit"
  | .devicePolicy => "DevicePolicy"
  | .assignmentSetOverride => "AssignmentSetOverride"

/-- The closed set of CFG files. -/
inductive Cs2ConfigTarget where
  | optimization
  | autoexec
  | netStable
  | netHighPing
  | netUnstable
  | netBad
  | debugHud
  | debugHudOff
  | audioStable
  | audioLowLatency025
  | audioLowLatency001
  | frameBaseline400
  | frameRawUncapped
  | audioEqCrisp
  | audioEqSmooth
  | audioLegacyLrIsolation
  | competitive2026
  deriving DecidableEq, Repr

/-- `Cs2ConfigTarget::file_name`. -/
def Cs2ConfigTarget.fileName : Cs2ConfigTarget → String
  | .optimization => "optimization.cfg"
  | .autoexec => "autoexec.cfg"
  | .netStable => "net_stable.cfg"
  | .netHighPing => "net_highping.cfg"
  | .netUnstable => "net_unstable.cfg"
  | .netBad => "net_bad.cfg"
  | .debugHud => "debug_hud.cfg"
  | .debugHudOff => "debug_hud_off.cfg"
  | .audioStable => "audio_stable.cfg"
  | .audioLowLatency025 => "audio_lowlatency_025.cfg"
  | .audioLowLatency001 => "audio_lowlatency_001.cfg"
  | .frameBaseline400 => "frame_baseline_400.cfg"
  | .frameRawUncapped => "frame_raw_uncapped.cfg"
  | .audioEqCrisp => "audio_eq_crisp.cfg"
  | .audioEqSmooth => "audio_eq_smooth.cfg"
  | .audioLegacyLrIsolation => "audio_legacy_lr_isolation.cfg"
  | .competitive2026 => "competitive_2026.cfg"

/-- One original setting of a page file transaction. -/
structure PagefileTransactionSetting where
  path : String
  initialSize : UInt64
  maximumSize : UInt64
  objectPath : Option String := none
  relativePath : Option String := none
  unknown : BTreeMap Value := ∅
  deriving DecidableEq

/-- The original page file configuration, and what the mutation created. -/
structure PagefileTransaction where
  automaticManaged : Bool
  targetPath : String
  targetExisted : Bool
  settings : List PagefileTransactionSetting
  computerObjectPath : Option String := none
  computerRelativePath : Option String := none
  createdObjectPath : Option String := none
  createdRelativePath : Option String := none
  createdInitialSize : Option UInt64 := none
  createdMaximumSize : Option UInt64 := none
  mutationIntent : Option String := none
  unknown : BTreeMap Value := ∅
  deriving DecidableEq

/-- A captured original value. -/
inductive BackupEntry where
  | registry (step timestamp path name : String) (originalValue : Value)
      (originalType : Option String) (existed : Bool) (unknown : BTreeMap Value)
  | hags (step timestamp : String)
  | service (step timestamp name originalStartType : String)
      (delayedAutoStart : Bool) (originalStatus : String)
      (unknown : BTreeMap Value)
  | powerplan (step timestamp originalGuid : String)
  | bootconfig (step timestamp key : String) (originalValue : Value)
      (existed : Bool) (unknown : BTreeMap Value)
  | scheduledtask (step timestamp taskName taskPath : String)
      (existed wasEnabled : Bool) (scriptPath : Option String)
      (unknown : BTreeMap Value)
  | nicAdapter (step timestamp adapterName interfaceDescription
      propertyName : String) (originalValue : Value) (propertyType : String)
      (unknown : BTreeMap Value)
  | qosUro (step timestamp : String)
  | defender (step timestamp : String)
  | pagefile (step timestamp : String)
  | pagefileTransaction (step timestamp : String)
      (transaction : PagefileTransaction)
  | dns (step timestamp adapterName : String) (adapterGuid : Option String)
  | interruptPolicy (step timestamp : String) (device : PciDeviceBinding)
      (policy : InterruptPolicyKind)
  | networkStackTransaction (step timestamp : String)
      (adapter : NetworkAdapterBinding)
  | drs (step timestamp : String)
  | cs2ConfigTransaction (step timestamp installFingerprint : String)
      (targets : List Cs2ConfigTarget)
  | unknown (value : Value)
  deriving DecidableEq

/-- `BackupEntry::step`. -/
def BackupEntry.step : BackupEntry → Option String
  | .registry step .. | .hags step .. | .service step .. | .powerplan step ..
  | .bootconfig step .. | .scheduledtask step .. | .nicAdapter step ..
  | .qosUro step .. | .defender step .. | .pagefile step ..
  | .pagefileTransaction step .. | .dns step .. | .interruptPolicy step ..
  | .networkStackTransaction step .. | .drs step ..
  | .cs2ConfigTransaction step .. => some step
  | .unknown _ => none

/-- The identity text of an entry after its step. -/
def BackupEntry.identityText : BackupEntry → Option String
  | .registry _ _ path name .. =>
      some (":registry:" ++ asciiLower path ++ ":" ++ asciiLower name)
  | .hags .. => some ":hags"
  | .service _ _ name .. => some (":service:" ++ asciiLower name)
  | .powerplan _ _ originalGuid => some (":powerplan:" ++ asciiLower originalGuid)
  | .bootconfig _ _ key .. => some (":bootconfig:" ++ asciiLower key)
  | .scheduledtask _ _ taskName taskPath .. =>
      some (":scheduledtask:" ++ asciiLower taskPath ++ asciiLower taskName)
  | .nicAdapter _ _ adapterName _ propertyName .. =>
      some (":nic_adapter:" ++ asciiLower adapterName ++ ":" ++
        asciiLower propertyName)
  | .dns _ _ adapterName adapterGuid =>
      some (":dns:" ++ asciiLower (adapterGuid.getD adapterName))
  | .interruptPolicy _ _ device policy =>
      some (":interrupt:" ++ asciiLower device.instanceId ++ ":" ++
        asciiLower policy.valueName)
  | .networkStackTransaction _ _ adapter =>
      some (":network_stack:" ++ asciiLower adapter.adapterName)
  | .pagefileTransaction .. => some ":pagefile_transaction"
  | .cs2ConfigTransaction _ _ installFingerprint targets =>
      some (":cs2_config_transaction:" ++ asciiLower installFingerprint ++ ":" ++
        ",".intercalate (targets.map Cs2ConfigTarget.fileName))
  | .qosUro .. | .defender .. | .pagefile .. | .drs .. | .unknown _ => none

/-- `dedupe_identity`: the lower-case step, then the identity. -/
def dedupeIdentity (entry : BackupEntry) : Option String :=
  match entry.step, entry.identityText with
  | some step, some text => some (asciiLower step ++ text)
  | _, _ => none

/-- The content of `backup.json`. -/
structure BackupFile where
  entries : List BackupEntry
  created : String
  unknown : BTreeMap Value := ∅
  deriving DecidableEq

/-- `BackupFile::push_first_value`. -/
def BackupFile.pushFirstValue (file : BackupFile) (entry : BackupEntry) :
    BackupFile :=
  let identity := dedupeIdentity entry
  if identity = none ∨
      ¬ file.entries.any (fun existing => dedupeIdentity existing = identity) then
    { file with entries := file.entries ++ [entry] }
  else file

/-- `BackupFile::restore_order`. -/
def BackupFile.restoreOrder (file : BackupFile) : List BackupEntry :=
  file.entries.reverse

end FrametimeCfg.Domain
