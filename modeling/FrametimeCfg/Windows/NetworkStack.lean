import FrametimeCfg.Domain.NetworkStack
import FrametimeCfg.Lib.Effect

/-!
# The network-stack transaction

Step P1:16 sets receive side scaling on the one active wired adapter.  Every access
to the adapter observes its identity afresh, and a property that the driver does not
have is left out: it is neither set nor restored.

The host is a parameter: what its calls answer and how they change its state `σ`.
-/

namespace FrametimeCfg.Windows

open FrametimeCfg.Domain
open FrametimeCfg.Lib.Checks
open FrametimeCfg.Lib.Effect
open FrametimeCfg.Lib.Text

/-- `SETTINGS`. -/
def networkStackSettings : List NetworkStackSetting := [.rssEnabled]

inductive NetworkStackError where
  | wrongCaptureStep
  | host (text : String)
  | invalidAdapter (error : BindingError)
  | noActiveAdapter
  | multipleActiveAdapters
  | adapterChanged
  | adapterAmbiguous
  | unsupportedType (setting : NetworkStackSetting)
  | invalid (error : NetworkStackBackupError)
  | applyReadback (setting : NetworkStackSetting)
  | repeatedSetting
  | missingNla
  | nlaReadback
  | restoreReadback (setting : NetworkStackSetting)
  | policyReadback (policy : NetworkStackPolicy)
  deriving DecidableEq

/-- The trait `NetworkStackHost`. -/
structure NetworkStackHost (σ : Type) where
  discoverActiveWired : Prog σ String (List NetworkAdapterBinding)
  readSetting : NetworkAdapterBinding → NetworkStackSetting →
    Prog σ String (Option NetworkStackValue)
  writeSetting : NetworkAdapterBinding → NetworkStackSetting → NetworkStackValue →
    Prog σ String Unit
  readNla : Prog σ String NetworkStackNlaBackup
  restoreNla : NetworkStackNlaBackup → Prog σ String Unit
  readPolicy : NetworkStackPolicy → Prog σ String (Option NetworkStackPolicySnapshot)
  deletePolicy : NetworkStackPolicy → Prog σ String Unit
  restorePolicy : NetworkStackPolicy → NetworkStackPolicySnapshot → Prog σ String Unit

abbrev NetworkStackProg (σ : Type) := Prog σ NetworkStackError

/-! ## The adapter -/

/-- `PciDeviceBinding::same_pnp_device`. -/
def samePnpDevice (device other : PciDeviceBinding) : Bool :=
  eqIgnoreAsciiCase device.instanceId other.instanceId &&
    eqIgnoreAsciiCase device.containerId other.containerId &&
    eqIgnoreAsciiCase device.classGuid other.classGuid &&
    device.vendorId = other.vendorId && device.deviceId = other.deviceId &&
    device.subsystemVendorId = other.subsystemVendorId &&
    device.subsystemDeviceId = other.subsystemDeviceId &&
    device.revisionId = other.revisionId

/-- The candidate is the captured adapter. -/
def matchesAdapter (captured candidate : NetworkAdapterBinding) : Bool :=
  candidate.validate = .ok () &&
    eqIgnoreAsciiCase candidate.adapterName captured.adapterName &&
    eqIgnoreAsciiCase candidate.interfaceGuid captured.interfaceGuid &&
    candidate.interfaceLuid = captured.interfaceLuid &&
    candidate.interfaceIndex = captured.interfaceIndex &&
    candidate.physicalAddress = captured.physicalAddress &&
    samePnpDevice candidate.device captured.device

/-- `exact_adapter`. -/
def exactAdapter (captured : NetworkAdapterBinding) (observed : List NetworkAdapterBinding) :
    Except NetworkStackError NetworkAdapterBinding := do
  captured.validate.mapError .invalidAdapter
  match observed.filter (matchesAdapter captured) with
  | [adapter] => .ok adapter
  | [] => .error .adapterChanged
  | _ => .error .adapterAmbiguous

/-- `select_adapter`. -/
def selectAdapter :
    List NetworkAdapterBinding → Except NetworkStackError NetworkAdapterBinding
  | [adapter] => do
      adapter.validate.mapError .invalidAdapter
      return adapter
  | [] => .error .noActiveAdapter
  | _ => .error .multipleActiveAdapters

/-- `desired`; the outcome `none` is `Inapplicable`. -/
def desired (setting : NetworkStackSetting) : Option NetworkStackValue :=
  if setting = .rssEnabled then some (.dword 1) else none

/-- `accepted_type`. -/
def acceptedType (setting : NetworkStackSetting) : NetworkStackValue → Bool
  | .dword _ => setting = .rssEnabled
  | .string _ | .multiString _ | .binary _ => false

/-! ## The transaction -/

section

variable {σ : Type} (host : NetworkStackHost σ)

/-- One setting of the capture. -/
def captureSetting (adapter : NetworkAdapterBinding) (setting : NetworkStackSetting) :
    NetworkStackProg σ NetworkStackSettingBackup := do
  let originalValue ← relabel .host (host.readSetting adapter setting)
  ofExcept (reject (originalValue.any fun value => ¬ acceptedType setting value)
    (.unsupportedType setting))
  return { setting := setting, existed := originalValue.isSome,
           originalValue := originalValue, nla := none }

/-- `capture_network_stack` at the time `now`. -/
def captureNetworkStack (now step : String) :
    NetworkStackProg σ (NetworkAdapterBinding × NetworkStackTransaction) := do
  ofExcept (reject (step ≠ NETWORK_STACK_TRANSACTION_STEP) .wrongCaptureStep)
  let observed ← relabel .host host.discoverActiveWired
  let adapter ← ofExcept (selectAdapter observed)
  let settings ← mapEach (captureSetting host adapter) networkStackSettings
  let transaction : NetworkStackTransaction :=
    { step := step, timestamp := now, adapter := adapter, settings := settings, policies := [] }
  ofExcept (transaction.validate.mapError .invalid)
  return (adapter, transaction)

/-- `reobserve`. -/
def reobserve (captured : NetworkAdapterBinding) :
    NetworkStackProg σ NetworkAdapterBinding := do
  let observed ← relabel .host host.discoverActiveWired
  ofExcept (exactAdapter captured observed)

/-- Write a value and read it back. -/
def applyValue (captured adapter : NetworkAdapterBinding) (setting : NetworkStackSetting)
    (value : NetworkStackValue) (mismatch : NetworkStackError) : NetworkStackProg σ Unit := do
  relabel .host (host.writeSetting adapter setting value)
  let adapter ← reobserve host captured
  let readback ← relabel .host (host.readSetting adapter setting)
  ofExcept (reject (readback ≠ some value) mismatch)

/-- One setting of the apply. -/
def applySetting (captured : NetworkAdapterBinding) (setting : NetworkStackSetting) :
    NetworkStackProg σ Unit :=
  match desired setting with
  | none => pure ()
  | some value => do
      let adapter ← reobserve host captured
      match ← relabel .host (host.readSetting adapter setting) with
      | none => pure ()
      | some _ => applyValue host captured adapter setting value (.applyReadback setting)

/-- `apply_network_stack`. -/
def applyNetworkStack (captured : NetworkAdapterBinding) : NetworkStackProg σ Unit :=
  forEach (applySetting host captured) networkStackSettings

/-- One setting of the verification. -/
def verifySetting (captured : NetworkAdapterBinding) (setting : NetworkStackSetting) :
    NetworkStackProg σ Unit :=
  match desired setting with
  | none => pure ()
  | some value => do
      let adapter ← reobserve host captured
      let actual ← relabel .host (host.readSetting adapter setting)
      ofExcept (reject (actual.isSome && actual ≠ some value) (.applyReadback setting))

/-- `verify_network_stack`. -/
def verifyNetworkStack (captured : NetworkAdapterBinding) : NetworkStackProg σ Unit :=
  forEach (verifySetting host captured) networkStackSettings

/-- The QoS value of the restore. -/
def restoreNlaItem (item : NetworkStackSettingBackup) : NetworkStackProg σ Unit := do
  let nla ← ofExcept (okOr item.nla .missingNla)
  relabel .host (host.restoreNla nla)
  let readback ← relabel .host host.readNla
  ofExcept (reject (readback ≠ nla) .nlaReadback)

/-- One setting of the restore; an absent property is not synthesized. -/
def restoreSetting (captured : NetworkAdapterBinding) (item : NetworkStackSettingBackup) :
    NetworkStackProg σ Unit := do
  let adapter ← reobserve host captured
  if item.setting = .qosNlaBypass then restoreNlaItem host item
  else
    match item.originalValue with
    | none => pure ()
    | some value =>
        applyValue host captured adapter item.setting value (.restoreReadback item.setting)

/-- The settings of the restore, after those of `seen`. -/
def restoreSettings (captured : NetworkAdapterBinding) :
    List NetworkStackSettingBackup → List NetworkStackSetting → NetworkStackProg σ Unit
  | [], _ => pure ()
  | item :: rest, seen => do
      ofExcept (reject (item.setting ∈ seen) .repeatedSetting)
      restoreSetting host captured item
      restoreSettings captured rest (item.setting :: seen)

/-- One policy of the restore. -/
def restorePolicyItem (item : NetworkStackPolicyBackup) : NetworkStackProg σ Unit := do
  match item.originalPolicy with
  | some snapshot => relabel .host (host.restorePolicy item.policy snapshot)
  | none => relabel .host (host.deletePolicy item.policy)
  let restored ← relabel .host (host.readPolicy item.policy)
  ofExcept (reject (restored ≠ item.originalPolicy) (.policyReadback item.policy))

/-- `restore_network_stack` of a network-stack entry. -/
def restoreNetworkStack (transaction : NetworkStackTransaction) : NetworkStackProg σ Unit := do
  ofExcept (transaction.validate.mapError .invalid)
  restoreSettings host transaction.adapter transaction.settings []
  forEach (restorePolicyItem host) transaction.policies

end

end FrametimeCfg.Windows
