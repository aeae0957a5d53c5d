import FrametimeCfg.Domain.InterruptPolicy
import FrametimeCfg.Lib.Distinct
import FrametimeCfg.Lib.Wide
import FrametimeCfg.Windows.NetworkStack

/-!
# Interrupt policies of live devices

P3:2 requests message-signalled interrupts of the present display, network and
media devices, and P3:3 binds the interrupts of the one active wired network
adapter to the last logical processor.  Both work on bindings that are resolved
from what the host enumerates: a device is a PnP instance, observations of the
same instance must agree, and before a change and after it the captured devices
are observed again.

The host is a parameter: what its enumerations and its registry answer in a state
`σ`, and how a write changes that state.
-/

namespace FrametimeCfg.Windows

open FrametimeCfg.Domain
open FrametimeCfg.Lib.Checks
open FrametimeCfg.Lib.Distinct
open FrametimeCfg.Lib.Effect
open FrametimeCfg.Lib.OrderedMap
open FrametimeCfg.Lib.Text
open FrametimeCfg.Lib.Wide

/-! ## Devices -/

inductive PciDeviceClass where
  | display
  | network
  | media
  deriving DecidableEq, Repr

/-- `PciDeviceClass::class_guid`. -/
def PciDeviceClass.classGuid : PciDeviceClass → String
  | .display => "\x7b4d36e968-e325-11ce-bfc1-08002be10318\x7d"
  | .network => "\x7b4d36e972-e325-11ce-bfc1-08002be10318\x7d"
  | .media => "\x7b4d36e96c-e325-11ce-bfc1-08002be10318\x7d"

/-- `PciDeviceClass::from_class_guid`. -/
def PciDeviceClass.fromClassGuid (value : String) : Option PciDeviceClass :=
  [PciDeviceClass.display, .network, .media].find? fun deviceClass =>
    eqIgnoreAsciiCase value deviceClass.classGuid

theorem PciDeviceClass.fromClassGuid_eq_some {value : String} {deviceClass : PciDeviceClass}
    (h : PciDeviceClass.fromClassGuid value = some deviceClass) :
    eqIgnoreAsciiCase value deviceClass.classGuid = true := by
  unfold PciDeviceClass.fromClassGuid at h
  exact List.find?_some (p := fun c => eqIgnoreAsciiCase value (PciDeviceClass.classGuid c)) h

structure PciDeviceObservation where
  binding : PciDeviceBinding
  present : Bool
  statusOk : Bool
  deriving DecidableEq

structure NetworkAdapterObservation where
  binding : NetworkAdapterBinding
  isUp : Bool
  isPhysical : Bool
  isWired : Bool
  deriving DecidableEq

/-- The value of an interrupt policy. -/
abbrev InterruptRegistryValue : Type := InterruptPolicyValue

inductive DeviceBindingError where
  | invalidPciBinding (error : String)
  | invalidNetworkBinding (error : String)
  | ambiguousPciIdentity (identity : String)
  | ambiguousNetworkIdentity (identity : String)
  | noEligibleNetworkAdapter
  | multipleEligibleNetworkAdapters
  | networkAdapterDoesNotMatchPciIdentity
  | unsupportedProcessorTopology
  | registryReadbackMismatch (key name : String)
  | registryAccess (error : String)
  deriving DecidableEq

/-- The text of a binding error. -/
def DeviceBindingError.message : DeviceBindingError → String
  | .invalidPciBinding error => "invalid PCI binding: " ++ error
  | .invalidNetworkBinding error => "invalid network binding: " ++ error
  | .ambiguousPciIdentity identity => "ambiguous PCI identity: " ++ identity
  | .ambiguousNetworkIdentity identity => "ambiguous network identity: " ++ identity
  | .noEligibleNetworkAdapter => "no active physical wired adapter"
  | .multipleEligibleNetworkAdapters => "multiple active physical wired adapters"
  | .networkAdapterDoesNotMatchPciIdentity =>
      "network adapter does not match an exact PCI PnP identity"
  | .unsupportedProcessorTopology =>
      "interrupt affinity requires one processor group with 1 through 64 logical processors"
  | .registryReadbackMismatch key name =>
      "registry readback did not match " ++ key ++ "\\" ++ name
  | .registryAccess error => "interrupt registry access: " ++ error

/-- A device with the class it was found under. -/
abbrev KnownDevice : Type := PciDeviceClass × PciDeviceBinding

/-- The PnP instance of a device. -/
def deviceIdentity (device : PciDeviceBinding) : String := asciiUpper device.instanceId

/-- One observation of `resolve_present_status_ok_pci`. -/
def resolveObservation (devices : BTreeMap KnownDevice) (observation : PciDeviceObservation) :
    Except DeviceBindingError (BTreeMap KnownDevice) :=
  if !observation.present || !observation.statusOk then .ok devices
  else do
    observation.binding.validate.mapError fun error => .invalidPciBinding error.message
    match PciDeviceClass.fromClassGuid observation.binding.classGuid with
    | none => .ok devices
    | some deviceClass =>
        insertDistinct .ambiguousPciIdentity devices (deviceIdentity observation.binding)
          (deviceClass, observation.binding)

/-- `resolve_present_status_ok_pci`. -/
def resolvePresentStatusOkPci (observations : List PciDeviceObservation) :
    Except DeviceBindingError (List KnownDevice) := do
  let devices ← observations.foldlM resolveObservation ∅
  return values devices

/-- One observation of `resolve_active_physical_wired_adapter`. -/
def resolveAdapter (candidates : BTreeMap NetworkAdapterBinding)
    (observation : NetworkAdapterObservation) :
    Except DeviceBindingError (BTreeMap NetworkAdapterBinding) :=
  if !(observation.isUp && observation.isPhysical && observation.isWired) then .ok candidates
  else do
    observation.binding.validate.mapError fun error => .invalidNetworkBinding error.message
    insertDistinct .ambiguousNetworkIdentity candidates
      (asciiUpper observation.binding.interfaceGuid) observation.binding

/-- `resolve_active_physical_wired_adapter`. -/
def resolveActivePhysicalWiredAdapter (observations : List NetworkAdapterObservation) :
    Except DeviceBindingError NetworkAdapterBinding := do
  let candidates ← observations.foldlM resolveAdapter ∅
  match values candidates with
  | [] => .error .noEligibleNetworkAdapter
  | [adapter] => .ok adapter
  | _ => .error .multipleEligibleNetworkAdapters

/-! ## Changes -/

def INTERRUPT_PARAMETERS_SUFFIX : String :=
  "Device Parameters\\Interrupt Management\\MessageSignaledInterruptProperties"
def AFFINITY_POLICY_SUFFIX : String :=
  "Device Parameters\\Interrupt Management\\Affinity Policy"
def MSI_SUPPORTED : String := "MSISupported"
def MESSAGE_NUMBER_LIMIT : String := "MessageNumberLimit"
def DEVICE_POLICY : String := "DevicePolicy"
def ASSIGNMENT_SET_OVERRIDE : String := "AssignmentSetOverride"

structure InterruptRegistryChange where
  key : String
  name : String
  value : InterruptRegistryValue
  deriving DecidableEq

structure MsiDeviceBatch where
  device : PciDeviceBinding
  deviceClass : PciDeviceClass
  changes : List InterruptRegistryChange
  deriving DecidableEq

/-- `interrupt_parameters_key`. -/
def interruptParametersKey (device : PciDeviceBinding) : String :=
  interruptPolicyKey device INTERRUPT_PARAMETERS_SUFFIX

/-- `affinity_policy_key`. -/
def affinityPolicyKey (device : PciDeviceBinding) : String :=
  interruptPolicyKey device AFFINITY_POLICY_SUFFIX

/-- The changes of a batch; only a display device is limited in its messages. -/
def msiChanges (deviceClass : PciDeviceClass) (device : PciDeviceBinding) :
    List InterruptRegistryChange :=
  let key := interruptParametersKey device
  { key := key, name := MSI_SUPPORTED, value := .dword 1 } ::
    if deviceClass = .display then
      [{ key := key, name := MESSAGE_NUMBER_LIMIT, value := .dword 16 }]
    else []

/-- `MsiDeviceBatch::build`. -/
def MsiDeviceBatch.build (deviceClass : PciDeviceClass) (device : PciDeviceBinding) :
    Except DeviceBindingError MsiDeviceBatch := do
  device.validate.mapError fun error => .invalidPciBinding error.message
  reject (¬ eqIgnoreAsciiCase device.classGuid deviceClass.classGuid)
    (.invalidPciBinding "device class GUID does not match its requested MSI class")
  return { device := device, deviceClass := deviceClass,
           changes := msiChanges deviceClass device }

/-- One device of `build_msi_device_batches`. -/
def buildBatch (batches : BTreeMap MsiDeviceBatch) (known : KnownDevice) :
    Except DeviceBindingError (BTreeMap MsiDeviceBatch) := do
  let batch ← MsiDeviceBatch.build known.1 known.2
  insertDistinct .ambiguousPciIdentity batches (deviceIdentity known.2) batch

/-- `build_msi_device_batches`. -/
def buildMsiDeviceBatches (devices : List KnownDevice) :
    Except DeviceBindingError (List MsiDeviceBatch) := do
  let batches ← devices.foldlM buildBatch ∅
  return values batches

structure ProcessorGroup where
  groupNumber : UInt16
  activeLogicalProcessors : UInt8
  deriving DecidableEq

structure ProcessorTopology where
  groups : List ProcessorGroup
  deriving DecidableEq

/-- `ProcessorTopology::final_logical_processor`. -/
def ProcessorTopology.finalLogicalProcessor (topology : ProcessorTopology) :
    Except DeviceBindingError UInt8 :=
  match topology.groups with
  | [group] =>
      if group.groupNumber ≠ 0 ||
          !(1 ≤ group.activeLogicalProcessors && group.activeLogicalProcessors ≤ 64) then
        .error .unsupportedProcessorTopology
      else .ok (group.activeLogicalProcessors - 1)
  | _ => .error .unsupportedProcessorTopology

/-- `ProcessorTopology::assignment_set_override`: one bit, in eight bytes. -/
def ProcessorTopology.assignmentSetOverride (topology : ProcessorTopology) :
    Except DeviceBindingError (List UInt8) := do
  let processor ← topology.finalLogicalProcessor
  return leBytes 8 (2 ^ processor.toNat)

structure NicAffinityBinding where
  adapter : NetworkAdapterBinding
  device : PciDeviceBinding
  finalLogicalProcessor : UInt8
  assignmentSetOverride : List UInt8
  changes : List InterruptRegistryChange
  deriving DecidableEq

/-- `same_pci_pnp_identity`. -/
def samePciPnpIdentity (left right : PciDeviceBinding) : Bool := samePnpDevice left right

/-- `NicAffinityBinding::resolve`. -/
def NicAffinityBinding.resolve (adapter : NetworkAdapterBinding)
    (knownPciDevices : List KnownDevice) (topology : ProcessorTopology) :
    Except DeviceBindingError NicAffinityBinding := do
  adapter.validate.mapError fun error => .invalidNetworkBinding error.message
  let known ← okOr (knownPciDevices.find? fun known =>
      known.1 = .network && samePciPnpIdentity known.2 adapter.device)
    .networkAdapterDoesNotMatchPciIdentity
  let processor ← topology.finalLogicalProcessor
  let override ← topology.assignmentSetOverride
  let key := affinityPolicyKey known.2
  return {
    adapter := adapter
    device := known.2
    finalLogicalProcessor := processor
    assignmentSetOverride := override
    changes :=
      [{ key := key, name := DEVICE_POLICY, value := .dword 4 },
        { key := key, name := ASSIGNMENT_SET_OVERRIDE, value := .binary override }] }

/-- The changes of the binding as a batch of its device. -/
def NicAffinityBinding.batch (binding : NicAffinityBinding) : MsiDeviceBatch where
  device := binding.device
  deviceClass := .network
  changes := binding.changes

/-- The policy of a value name. -/
def policyOfName (name : String) : Option InterruptPolicyKind :=
  [InterruptPolicyKind.msiSupported, .messageNumberLimit, .devicePolicy,
    .assignmentSetOverride].find? fun policy => policy.valueName = name

/-- `policy_for_change`. -/
def policyForChange (device : PciDeviceBinding) (change : InterruptRegistryChange) :
    Except DeviceBindingError InterruptPolicyKind := do
  let policy ← okOr (policyOfName change.name)
    (.registryAccess "interrupt value name is not allowlisted")
  reject (change.key ≠ interruptPolicyKey device policy.registrySuffix ||
      ¬ policy.accepts change.value)
    (.registryAccess "interrupt registry change is not bound to its device and policy")
  return policy

/-! ## Observing again -/

/-- `reobserve_device`. -/
def reobserveDevice (expected : PciDeviceBinding) (observed : List KnownDevice) :
    Except DeviceBindingError PciDeviceBinding :=
  match observed.filter fun known => samePnpDevice expected known.2 with
  | [known] => .ok known.2
  | [] => .error (.invalidPciBinding
      ("device " ++ expected.instanceId ++ " is no longer present"))
  | _ => .error (.ambiguousPciIdentity expected.instanceId)

/-- One batch of `reobserve_msi_batches`. -/
def reobserveBatch (observed : List KnownDevice) (batch : MsiDeviceBatch) :
    Except DeviceBindingError Unit := do
  let current ← reobserveDevice batch.device observed
  reject (¬ eqIgnoreAsciiCase current.classGuid batch.deviceClass.classGuid)
    (.invalidPciBinding "reobserved interrupt device changed class")

/-- `reobserve_msi_batches`. -/
def reobserveMsiBatches (observed : List KnownDevice) (batches : List MsiDeviceBatch) :
    Except DeviceBindingError Unit :=
  batches.forM (reobserveBatch observed)

/-- `same_nic_affinity_subject`. -/
def sameNicAffinitySubject (left right : NicAffinityBinding) : Bool :=
  samePnpDevice left.device right.device &&
    eqIgnoreAsciiCase left.adapter.adapterName right.adapter.adapterName &&
    eqIgnoreAsciiCase left.adapter.interfaceGuid right.adapter.interfaceGuid &&
    left.adapter.interfaceLuid = right.adapter.interfaceLuid &&
    left.adapter.interfaceIndex = right.adapter.interfaceIndex &&
    left.adapter.physicalAddress = right.adapter.physicalAddress &&
    left.finalLogicalProcessor = right.finalLogicalProcessor &&
    left.assignmentSetOverride = right.assignmentSetOverride

/-! ## The host -/

/-- The enumerators and `InterruptRegistryStore`. -/
structure InterruptHost (σ : Type) where
  enumeratePciDevices : σ → Except DeviceBindingError (List PciDeviceObservation)
  enumerateNetworkAdapters : σ → Except DeviceBindingError (List NetworkAdapterObservation)
  processorTopology : σ → Except DeviceBindingError ProcessorTopology
  readInterruptValue :
    σ → String → String → Except DeviceBindingError (Option InterruptRegistryValue)
  writeInterruptValue : String → String → InterruptRegistryValue →
    Prog σ DeviceBindingError Unit
  deleteInterruptValue : String → String → Prog σ DeviceBindingError Unit

/-- An outcome whose error is reported as its text. -/
def bindingText {α : Type} (r : Except DeviceBindingError α) : Except String α :=
  r.mapError DeviceBindingError.message

section

variable {σ : Type} (host : InterruptHost σ)

/-! ## Discovery -/

/-- `enumerate_present_status_ok_pci`. -/
def enumeratePresentStatusOkPci (s : σ) : Except DeviceBindingError (List KnownDevice) := do
  let observations ← host.enumeratePciDevices s
  resolvePresentStatusOkPci observations

/-- `discover_native_msi_batches`. -/
def discoverNativeMsiBatches (s : σ) : Except String (List MsiDeviceBatch) := do
  let devices ← bindingText (enumeratePresentStatusOkPci host s)
  reject devices.isEmpty "P1:21 found no present, status-OK display/network/media PCI devices"
  bindingText (buildMsiDeviceBatches devices)

/-- `discover_nic_affinity_binding`. -/
def discoverNicAffinityBinding (s : σ) : Except DeviceBindingError NicAffinityBinding := do
  let devices ← enumeratePresentStatusOkPci host s
  let observations ← host.enumerateNetworkAdapters s
  let adapter ← resolveActivePhysicalWiredAdapter observations
  let topology ← host.processorTopology s
  NicAffinityBinding.resolve adapter devices topology

/-- `discover_native_nic_affinity`. -/
def discoverNativeNicAffinity (s : σ) : Except String NicAffinityBinding :=
  bindingText (discoverNicAffinityBinding host s)

/-! ## Reading values -/

/-- One change of `validate_interrupt_readback`. -/
def validateChangeReadback (s : σ) (change : InterruptRegistryChange) :
    Except DeviceBindingError Unit := do
  let observed ← host.readInterruptValue s change.key change.name
  reject (observed ≠ some change.value) (.registryReadbackMismatch change.key change.name)

/-- `validate_interrupt_readback`. -/
def validateInterruptReadback (s : σ) (changes : List InterruptRegistryChange) :
    Except DeviceBindingError Unit :=
  changes.forM (validateChangeReadback host s)

/-- The loop of `interrupt_changes_satisfied`: every change is read, also after
one that is not satisfied. -/
def changesSatisfied (s : σ) (device : PciDeviceBinding) (satisfied : Bool) :
    List InterruptRegistryChange → Except DeviceBindingError Bool
  | [] => .ok satisfied
  | change :: rest => do
      let _ ← policyForChange device change
      let observed ← host.readInterruptValue s change.key change.name
      changesSatisfied s device (satisfied && observed = some change.value) rest

/-- `interrupt_changes_satisfied`. -/
def interruptChangesSatisfied (s : σ) (device : PciDeviceBinding)
    (changes : List InterruptRegistryChange) : Except DeviceBindingError Bool :=
  changesSatisfied host s device true changes

/-- The loop of `native_interrupt_batches_satisfied`. -/
def batchesSatisfied (s : σ) (satisfied : Bool) : List MsiDeviceBatch → Except String Bool
  | [] => .ok satisfied
  | batch :: rest => do
      let answer ← bindingText (interruptChangesSatisfied host s batch.device batch.changes)
      batchesSatisfied s (satisfied && answer) rest

/-- `native_interrupt_batches_satisfied`. -/
def nativeInterruptBatchesSatisfied (s : σ) (batches : List MsiDeviceBatch) :
    Except String Bool :=
  batchesSatisfied host s true batches

/-! ## Capture -/

/-- One value of `capture_interrupt_backups`. -/
def captureInterruptBackup (s : σ) (step timestamp : String) (device : PciDeviceBinding)
    (change : InterruptRegistryChange) : Except DeviceBindingError InterruptPolicyBackup := do
  let policy ← policyForChange device change
  reject (policy.expectedStep ≠ step)
    (.registryAccess "MSI batch was captured for the wrong workflow step")
  let originalValue ← host.readInterruptValue s change.key change.name
  let backup : InterruptPolicyBackup :=
    { step := step, timestamp := timestamp, device := device, policy := policy,
      existed := originalValue.isSome, originalValue := originalValue }
  backup.validate.mapError fun error => .registryAccess error.message
  return backup

/-- `capture_interrupt_backups`. -/
def captureInterruptBackups (s : σ) (step : String) (batches : List MsiDeviceBatch)
    (timestamp : String) : Except DeviceBindingError (List InterruptPolicyBackup) := do
  let backups ← batches.mapM fun batch =>
    batch.changes.mapM (captureInterruptBackup host s step timestamp batch.device)
  return backups.flatten

/-- `capture_native_msi_backups`. -/
def captureNativeMsiBackups (s : σ) (batches : List MsiDeviceBatch) (timestamp : String) :
    Except String (List InterruptPolicyBackup) :=
  bindingText (captureInterruptBackups host s "P3:2" batches timestamp)

/-- `capture_native_nic_backups`. -/
def captureNativeNicBackups (s : σ) (binding : NicAffinityBinding) (timestamp : String) :
    Except String (List InterruptPolicyBackup) :=
  bindingText (captureInterruptBackups host s "P3:3" [binding.batch] timestamp)

/-! ## Applying -/

/-- One change of `apply_interrupt_changes`. -/
def applyInterruptChange (device : PciDeviceBinding) (change : InterruptRegistryChange) :
    Prog σ DeviceBindingError Unit := do
  let _ ← ofExcept (policyForChange device change)
  host.writeInterruptValue change.key change.name change.value

/-- `apply_interrupt_changes`. -/
def applyInterruptChanges (device : PciDeviceBinding)
    (changes : List InterruptRegistryChange) : Prog σ DeviceBindingError Unit :=
  forEach (applyInterruptChange host device) changes

/-- `apply_msi_batches`. -/
def applyMsiBatches (batches : List MsiDeviceBatch) (observed : List KnownDevice) :
    Prog σ DeviceBindingError Unit := do
  ofExcept (reobserveMsiBatches observed batches)
  forEach (fun batch => applyInterruptChanges host batch.device batch.changes) batches

/-- `apply_native_msi_batches`. -/
def applyNativeMsiBatches (batches : List MsiDeviceBatch) : Prog σ String Unit :=
  relabel DeviceBindingError.message (do
    let observed ← consult (enumeratePresentStatusOkPci host)
    applyMsiBatches host batches observed)

/-- `apply_native_nic_affinity`. -/
def applyNativeNicAffinity (binding : NicAffinityBinding) : Prog σ String Unit := do
  let current ← consult (discoverNativeNicAffinity host)
  ofExcept (reject (¬ sameNicAffinitySubject binding current)
    "P3:3 NIC or processor-topology evidence changed before apply")
  relabel DeviceBindingError.message (applyInterruptChanges host binding.device binding.changes)

/-! ## Verification -/

/-- `verify_msi_batches`. -/
def verifyMsiBatches (s : σ) (batches : List MsiDeviceBatch) (observed : List KnownDevice) :
    Except DeviceBindingError Unit := do
  reobserveMsiBatches observed batches
  batches.forM fun batch => validateInterruptReadback host s batch.changes

/-- `verify_native_msi_batches`. -/
def verifyNativeMsiBatches (s : σ) (batches : List MsiDeviceBatch) : Except String Unit :=
  bindingText (do
    let observed ← enumeratePresentStatusOkPci host s
    verifyMsiBatches host s batches observed)

/-- `verify_native_nic_affinity`. -/
def verifyNativeNicAffinity (s : σ) (binding : NicAffinityBinding) : Except String Unit := do
  let current ← discoverNativeNicAffinity host s
  reject (¬ sameNicAffinitySubject binding current)
    "P3:3 NIC or processor-topology evidence changed before verification"
  bindingText (validateInterruptReadback host s binding.changes)

/-! ## Restoring -/

/-- The last steps of `restore_interrupt_backup`. -/
def restoreInterruptValue (key name : String) (original : Option InterruptRegistryValue) :
    Prog σ DeviceBindingError Unit := do
  match original with
  | some value => host.writeInterruptValue key name value
  | none => host.deleteInterruptValue key name
  let observed ← consult fun s => host.readInterruptValue s key name
  ofExcept (reject (observed ≠ original) (.registryReadbackMismatch key name))

/-- `restore_interrupt_backup`. -/
def restoreInterruptBackup (observed : List KnownDevice) (backup : InterruptPolicyBackup) :
    Prog σ DeviceBindingError Unit := do
  ofExcept (backup.validate.mapError fun error => .registryAccess error.message)
  let _ ← ofExcept (reobserveDevice backup.device observed)
  restoreInterruptValue host backup.registryKey backup.policy.valueName backup.originalValue

/-- `restore_native_interrupt_policy`. -/
def restoreNativeInterruptPolicy (backup : InterruptPolicyBackup) : Prog σ String Unit :=
  relabel DeviceBindingError.message (do
    let observed ← consult (enumeratePresentStatusOkPci host)
    restoreInterruptBackup host observed backup)

end

end FrametimeCfg.Windows
