import FrametimeCfg.Domain.Backup
import FrametimeCfg.Domain.Cs2ConfigBackup
import FrametimeCfg.Domain.NetworkStack
import FrametimeCfg.Domain.Serde

/-!
# The records of the backup file

The entries of `backup.json` with all the fields that the file holds of them, and their
codecs.  A record of another `type`, or one that does not decode, is kept as the value
it is.

`BackupRecord.entry` is what capturing and restoring read of a record.
-/

namespace FrametimeCfg.Domain

open FrametimeCfg.Lib.OrderedMap
open FrametimeCfg.Domain.Serde

/-! ## Bindings -/

def PciDeviceBinding.record : Record PciDeviceBinding :=
  .of
    (.field (.required "schemaVersion" .u8) <|
      .field (.required "instanceId" .string) <|
      .field (.required "containerId" .string) <|
      .field (.required "classGuid" .string) <|
      .field (.required "vendorId" .u16) <|
      .field (.required "deviceId" .u16) <|
      .field (.required "subsystemVendorId" .u16) <|
      .field (.required "subsystemDeviceId" .u16) <|
      .field (.required "revisionId" .u8) <|
      .field (.required "driverProvider" .string) <|
      .field (.required "driverVersion" .string) <|
      .field (.required "publishedInf" .string) <|
      .field (.required "observedAtUtc" .string) .done)
    (fun (schemaVersion, instanceId, containerId, classGuid, vendorId, deviceId,
        subsystemVendorId, subsystemDeviceId, revisionId, driverProvider, driverVersion,
        publishedInf, observedAtUtc, _) unknown =>
      { schemaVersion, instanceId, containerId, classGuid, vendorId, deviceId,
        subsystemVendorId, subsystemDeviceId, revisionId, driverProvider, driverVersion,
        publishedInf, observedAtUtc, unknown })
    (fun r => ((r.schemaVersion, r.instanceId, r.containerId, r.classGuid, r.vendorId,
      r.deviceId, r.subsystemVendorId, r.subsystemDeviceId, r.revisionId,
      r.driverProvider, r.driverVersion, r.publishedInf, r.observedAtUtc, ()), r.unknown))
    (fun _ _ => rfl) (by decide)

def NetworkAdapterBinding.record : Record NetworkAdapterBinding :=
  .of
    (.field (.required "schemaVersion" .u8) <|
      .field (.required "adapterName" .string) <|
      .field (.required "interfaceGuid" .string) <|
      .field (.required "interfaceLuid" .u64) <|
      .field (.required "interfaceIndex" .u32) <|
      .field (.required "friendlyName" .string) <|
      .field (.required "interfaceDescription" .string) <|
      .field (.defaulted "physicalAddress" .u8) <|
      .field (.required "device" PciDeviceBinding.record.codec) <|
      .field (.required "observedAtUtc" .string) .done)
    (fun (schemaVersion, adapterName, interfaceGuid, interfaceLuid, interfaceIndex,
        friendlyName, interfaceDescription, physicalAddress, device, observedAtUtc, _)
        unknown =>
      { schemaVersion, adapterName, interfaceGuid, interfaceLuid, interfaceIndex,
        friendlyName, interfaceDescription, physicalAddress, device, observedAtUtc,
        unknown })
    (fun r => ((r.schemaVersion, r.adapterName, r.interfaceGuid, r.interfaceLuid,
      r.interfaceIndex, r.friendlyName, r.interfaceDescription, r.physicalAddress,
      r.device, r.observedAtUtc, ()), r.unknown))
    (fun _ _ => rfl) (by decide)

/-! ## Interrupt policies -/

inductive InterruptPolicyValue where
  | dword (value : UInt32)
  | binary (value : List UInt8)
  deriving DecidableEq, Repr

/-- The name of the variant in the file. -/
def InterruptPolicyValue.kind : InterruptPolicyValue → String
  | .dword _ => "dword"
  | .binary _ => "binary"

def InterruptPolicyValue.content : InterruptPolicyValue → Value
  | .dword value => Codec.u32.write value
  | .binary value => Codec.u8.vec.write value

def InterruptPolicyValue.codec : Codec InterruptPolicyValue :=
  .adjacent "kind" "value" (by decide) InterruptPolicyValue.kind
    InterruptPolicyValue.content
    [.of "dword" .u32 .dword (fun _ => ⟨rfl, rfl⟩),
      .of "binary" (.vec .u8) .binary (fun _ => ⟨rfl, rfl⟩)]

/-- The name of the policy in the file. -/
def InterruptPolicyKind.variantName : InterruptPolicyKind → String
  | .msiSupported => "msiSupported"
  | .messageNumberLimit => "messageNumberLimit"
  | .devicePolicy => "devicePolicy"
  | .assignmentSetOverride => "assignmentSetOverride"

def InterruptPolicyKind.codec : Codec InterruptPolicyKind :=
  .unit isUnit [.msiSupported, .messageNumberLimit, .devicePolicy, .assignmentSetOverride]
    InterruptPolicyKind.variantName

structure InterruptPolicyBackup where
  step : String
  timestamp : String
  device : PciDeviceBinding
  policy : InterruptPolicyKind
  existed : Bool
  originalValue : Option InterruptPolicyValue
  unknown : BTreeMap Value := ∅

def InterruptPolicyBackup.record : Record InterruptPolicyBackup :=
  .of
    (.field (.required "step" .string) <|
      .field (.required "timestamp" .string) <|
      .field (.required "device" PciDeviceBinding.record.codec) <|
      .field (.required "policy" InterruptPolicyKind.codec) <|
      .field (.required "existed" .bool) <|
      .field (.skipNone "originalValue" InterruptPolicyValue.codec) .done)
    (fun (step, timestamp, device, policy, existed, originalValue, _) unknown =>
      { step, timestamp, device, policy, existed, originalValue, unknown })
    (fun r => ((r.step, r.timestamp, r.device, r.policy, r.existed, r.originalValue, ()),
      r.unknown))
    (fun _ _ => rfl) (by decide)

/-! ## The network stack -/

def NetworkStackSetting.variantName : NetworkStackSetting → String
  | .eee => "eee"
  | .flowControl => "flowControl"
  | .interruptModeration => "interruptModeration"
  | .receiveBuffers => "receiveBuffers"
  | .transmitBuffers => "transmitBuffers"
  | .greenEthernet => "greenEthernet"
  | .powerSavingMode => "powerSavingMode"
  | .rssEnabled => "rssEnabled"
  | .rssBaseProcessor => "rssBaseProcessor"
  | .rssMaxProcessor => "rssMaxProcessor"
  | .rssMaxProcessors => "rssMaxProcessors"
  | .uroEnabled => "uroEnabled"
  | .qosNlaBypass => "qosNlaBypass"

def NetworkStackSetting.codec : Codec NetworkStackSetting :=
  .unit isUnit [.eee, .flowControl, .interruptModeration, .receiveBuffers,
    .transmitBuffers, .greenEthernet, .powerSavingMode, .rssEnabled, .rssBaseProcessor,
    .rssMaxProcessor, .rssMaxProcessors, .uroEnabled, .qosNlaBypass]
    NetworkStackSetting.variantName

def NetworkStackValue.kind : NetworkStackValue → String
  | .dword _ => "dword"
  | .string _ => "string"
  | .multiString _ => "multiString"
  | .binary _ => "binary"

def NetworkStackValue.content : NetworkStackValue → Value
  | .dword value => Codec.u32.write value
  | .string value => Codec.string.write value
  | .multiString value => Codec.string.vec.write value
  | .binary value => Codec.u8.vec.write value

def NetworkStackValue.codec : Codec NetworkStackValue :=
  .adjacent "type" "value" (by decide) NetworkStackValue.kind NetworkStackValue.content
    [.of "dword" .u32 .dword (fun _ => ⟨rfl, rfl⟩),
      .of "string" .string .string (fun _ => ⟨rfl, rfl⟩),
      .of "multiString" (.vec .string) .multiString (fun _ => ⟨rfl, rfl⟩),
      .of "binary" (.vec .u8) .binary (fun _ => ⟨rfl, rfl⟩)]

def NetworkStackRawRegistryValue.codec : Codec NetworkStackRawRegistryValue :=
  .closed
    (.field (.required "valueType" .u32) <|
      .field (.required "bytes" (.vec .u8)) .done)
    (fun (valueType, bytes, _) =>
      { valueType, bytes })
    (fun r => (r.valueType, r.bytes, ()))
    (fun _ => rfl) (by decide)

def NetworkStackNlaBackup.codec : Codec NetworkStackNlaBackup :=
  .closed
    (.field (.required "keyExisted" .bool) <|
      .field (.required "valueExisted" .bool) <|
      .field (.skipNone "originalValue" NetworkStackRawRegistryValue.codec) .done)
    (fun (keyExisted, valueExisted, originalValue, _) =>
      { keyExisted, valueExisted, originalValue })
    (fun r => (r.keyExisted, r.valueExisted, r.originalValue, ()))
    (fun _ => rfl) (by decide)

def NetworkStackSettingBackup.record : Record NetworkStackSettingBackup :=
  .of
    (.field (.required "setting" NetworkStackSetting.codec) <|
      .field (.required "existed" .bool) <|
      .field (.skipNone "originalValue" NetworkStackValue.codec) <|
      .field (.skipNone "nla" NetworkStackNlaBackup.codec) .done)
    (fun (setting, existed, originalValue, nla, _) unknown =>
      { setting, existed, originalValue, nla, unknown })
    (fun r => ((r.setting, r.existed, r.originalValue, r.nla, ()), r.unknown))
    (fun _ _ => rfl) (by decide)

def NetworkStackPolicy.variantName : NetworkStackPolicy → String
  | .cs2UdpPorts => "cs2UdpPorts"
  | .cs2App => "cs2App"

def NetworkStackPolicy.codec : Codec NetworkStackPolicy :=
  .unit isUnit [.cs2UdpPorts, .cs2App] NetworkStackPolicy.variantName

def NetworkStackPolicySnapshot.codec : Codec NetworkStackPolicySnapshot :=
  .closed
    (.field (.required "networkProfile" .u32) <|
      .field (.required "precedence" .u32) <|
      .field (.required "templateMatchCondition" .u32) <|
      .field (.required "userMatchCondition" .string) <|
      .field (.required "ipProtocol" .u32) <|
      .field (.required "ipPortMatchCondition" .u16) <|
      .field (.required "sourcePrefixMatchCondition" .string) <|
      .field (.required "sourcePortStart" .u16) <|
      .field (.required "sourcePortEnd" .u16) <|
      .field (.required "destinationPrefixMatchCondition" .string) <|
      .field (.required "destinationPortStart" .u16) <|
      .field (.required "destinationPortEnd" .u16) <|
      .field (.required "appPathMatchCondition" .string) <|
      .field (.required "uriMatchCondition" .string) <|
      .field (.required "uriRecursiveMatchCondition" .bool) <|
      .field (.required "netDirectPortMatchCondition" .u16) <|
      .field (.required "priorityValue8021Action" .i8) <|
      .field (.required "dscpAction" .i8) <|
      .field (.required "minBandwidthWeightAction" .u8) <|
      .field (.required "throttleRateAction" .u64) .done)
    (fun (networkProfile, precedence, templateMatchCondition, userMatchCondition,
        ipProtocol, ipPortMatchCondition, sourcePrefixMatchCondition, sourcePortStart,
        sourcePortEnd, destinationPrefixMatchCondition, destinationPortStart,
        destinationPortEnd, appPathMatchCondition, uriMatchCondition,
        uriRecursiveMatchCondition, netDirectPortMatchCondition, priorityValue8021Action,
        dscpAction, minBandwidthWeightAction, throttleRateAction, _) =>
      { networkProfile, precedence, templateMatchCondition, userMatchCondition,
        ipProtocol, ipPortMatchCondition, sourcePrefixMatchCondition, sourcePortStart,
        sourcePortEnd, destinationPrefixMatchCondition, destinationPortStart,
        destinationPortEnd, appPathMatchCondition, uriMatchCondition,
        uriRecursiveMatchCondition, netDirectPortMatchCondition, priorityValue8021Action,
        dscpAction, minBandwidthWeightAction, throttleRateAction })
    (fun r => (r.networkProfile, r.precedence, r.templateMatchCondition,
      r.userMatchCondition, r.ipProtocol, r.ipPortMatchCondition,
      r.sourcePrefixMatchCondition, r.sourcePortStart, r.sourcePortEnd,
      r.destinationPrefixMatchCondition, r.destinationPortStart, r.destinationPortEnd,
      r.appPathMatchCondition, r.uriMatchCondition, r.uriRecursiveMatchCondition,
      r.netDirectPortMatchCondition, r.priorityValue8021Action, r.dscpAction,
      r.minBandwidthWeightAction, r.throttleRateAction, ()))
    (fun _ => rfl) (by decide)

def NetworkStackPolicyBackup.record : Record NetworkStackPolicyBackup :=
  .of
    (.field (.required "policy" NetworkStackPolicy.codec) <|
      .field (.required "existed" .bool) <|
      .field (.skipNone "originalPolicy" NetworkStackPolicySnapshot.codec) .done)
    (fun (policy, existed, originalPolicy, _) unknown =>
      { policy, existed, originalPolicy, unknown })
    (fun r => ((r.policy, r.existed, r.originalPolicy, ()), r.unknown))
    (fun _ _ => rfl) (by decide)

def NetworkStackTransaction.record : Record NetworkStackTransaction :=
  .of
    (.field (.required "step" .string) <|
      .field (.required "timestamp" .string) <|
      .field (.required "adapter" NetworkAdapterBinding.record.codec) <|
      .field (.required "settings" (.vec NetworkStackSettingBackup.record.codec)) <|
      .field (.required "policies" (.vec NetworkStackPolicyBackup.record.codec)) .done)
    (fun (step, timestamp, adapter, settings, policies, _) unknown =>
      { step, timestamp, adapter, settings, policies, unknown })
    (fun r => ((r.step, r.timestamp, r.adapter, r.settings, r.policies, ()), r.unknown))
    (fun _ _ => rfl) (by decide)

/-! ## The other records -/

structure RegistryRecord where
  step : String
  timestamp : String
  path : String
  name : String
  originalValue : Value
  originalType : Option String
  existed : Bool
  unknown : BTreeMap Value := ∅

def RegistryRecord.record : Record RegistryRecord :=
  .of
    (.field (.required "step" .string) <|
      .field (.required "timestamp" .string) <|
      .field (.required "path" .string) <|
      .field (.required "name" .string) <|
      .field (.required "originalValue" .value) <|
      .field (.optional "originalType" .string) <|
      .field (.required "existed" .bool) .done)
    (fun (step, timestamp, path, name, originalValue, originalType, existed, _) unknown =>
      { step, timestamp, path, name, originalValue, originalType, existed, unknown })
    (fun r => ((r.step, r.timestamp, r.path, r.name, r.originalValue, r.originalType,
      r.existed, ()), r.unknown))
    (fun _ _ => rfl) (by decide)

structure HagsRecord where
  step : String
  timestamp : String
  originalValue : Option UInt32
  targetValue : UInt32
  adapterIds : List String
  effectiveVerificationPending : Bool
  unknown : BTreeMap Value := ∅

def HagsRecord.record : Record HagsRecord :=
  .of
    (.field (.required "step" .string) <|
      .field (.required "timestamp" .string) <|
      .field (.optional "originalValue" .u32) <|
      .field (.required "targetValue" .u32) <|
      .field (.required "adapterIds" (.vec .string)) <|
      .field (.required "effectiveVerificationPending" .bool) .done)
    (fun (step, timestamp, originalValue, targetValue, adapterIds,
        effectiveVerificationPending, _) unknown =>
      { step, timestamp, originalValue, targetValue, adapterIds,
        effectiveVerificationPending, unknown })
    (fun r => ((r.step, r.timestamp, r.originalValue, r.targetValue, r.adapterIds,
      r.effectiveVerificationPending, ()), r.unknown))
    (fun _ _ => rfl) (by decide)

structure ServiceRecord where
  step : String
  timestamp : String
  name : String
  originalStartType : String
  delayedAutoStart : Bool
  originalStatus : String
  unknown : BTreeMap Value := ∅

def ServiceRecord.record : Record ServiceRecord :=
  .of
    (.field (.required "step" .string) <|
      .field (.required "timestamp" .string) <|
      .field (.required "name" .string) <|
      .field (.required "originalStartType" .string) <|
      .field (.required "delayedAutoStart" .bool) <|
      .field (.required "originalStatus" .string) .done)
    (fun (step, timestamp, name, originalStartType, delayedAutoStart, originalStatus, _)
        unknown =>
      { step, timestamp, name, originalStartType, delayedAutoStart, originalStatus,
        unknown })
    (fun r => ((r.step, r.timestamp, r.name, r.originalStartType, r.delayedAutoStart,
      r.originalStatus, ()), r.unknown))
    (fun _ _ => rfl) (by decide)

structure PowerplanRecord where
  step : String
  timestamp : String
  originalGuid : String
  originalName : Option String
  suiteOwnedGuids : List String
  unknown : BTreeMap Value := ∅

def PowerplanRecord.record : Record PowerplanRecord :=
  .of
    (.field (.required "step" .string) <|
      .field (.required "timestamp" .string) <|
      .field (.required "originalGuid" .string) <|
      .field (.optional "originalName" .string) <|
      .field (.defaulted "suiteOwnedGuids" .string) .done)
    (fun (step, timestamp, originalGuid, originalName, suiteOwnedGuids, _) unknown =>
      { step, timestamp, originalGuid, originalName, suiteOwnedGuids, unknown })
    (fun r => ((r.step, r.timestamp, r.originalGuid, r.originalName, r.suiteOwnedGuids,
      ()), r.unknown))
    (fun _ _ => rfl) (by decide)

structure BootconfigRecord where
  step : String
  timestamp : String
  key : String
  originalValue : Value
  existed : Bool
  unknown : BTreeMap Value := ∅

def BootconfigRecord.record : Record BootconfigRecord :=
  .of
    (.field (.required "step" .string) <|
      .field (.required "timestamp" .string) <|
      .field (.required "key" .string) <|
      .field (.required "originalValue" .value) <|
      .field (.required "existed" .bool) .done)
    (fun (step, timestamp, key, originalValue, existed, _) unknown =>
      { step, timestamp, key, originalValue, existed, unknown })
    (fun r => ((r.step, r.timestamp, r.key, r.originalValue, r.existed, ()), r.unknown))
    (fun _ _ => rfl) (by decide)

structure ScheduledtaskRecord where
  step : String
  timestamp : String
  taskName : String
  taskPath : String
  existed : Bool
  wasEnabled : Bool
  scriptPath : Option String
  unknown : BTreeMap Value := ∅

def ScheduledtaskRecord.record : Record ScheduledtaskRecord :=
  .of
    (.field (.required "step" .string) <|
      .field (.required "timestamp" .string) <|
      .field (.required "taskName" .string) <|
      .field (.required "taskPath" .string) <|
      .field (.required "existed" .bool) <|
      .field (.required "wasEnabled" .bool) <|
      .field (.optional "scriptPath" .string) .done)
    (fun (step, timestamp, taskName, taskPath, existed, wasEnabled, scriptPath, _) unknown
        =>
      { step, timestamp, taskName, taskPath, existed, wasEnabled, scriptPath, unknown })
    (fun r => ((r.step, r.timestamp, r.taskName, r.taskPath, r.existed, r.wasEnabled,
      r.scriptPath, ()), r.unknown))
    (fun _ _ => rfl) (by decide)

structure NicAdapterRecord where
  step : String
  timestamp : String
  adapterName : String
  interfaceDescription : String
  propertyName : String
  originalValue : Value
  propertyType : String
  unknown : BTreeMap Value := ∅

def NicAdapterRecord.record : Record NicAdapterRecord :=
  .of
    (.field (.required "step" .string) <|
      .field (.required "timestamp" .string) <|
      .field (.required "adapterName" .string) <|
      .field (.required "interfaceDescription" .string) <|
      .field (.required "propertyName" .string) <|
      .field (.required "originalValue" .value) <|
      .field (.required "propertyType" .string) .done)
    (fun (step, timestamp, adapterName, interfaceDescription, propertyName, originalValue,
        propertyType, _) unknown =>
      { step, timestamp, adapterName, interfaceDescription, propertyName, originalValue,
        propertyType, unknown })
    (fun r => ((r.step, r.timestamp, r.adapterName, r.interfaceDescription,
      r.propertyName, r.originalValue, r.propertyType, ()), r.unknown))
    (fun _ _ => rfl) (by decide)

structure QosUroRecord where
  step : String
  timestamp : String
  policies : List String
  uroState : Value
  unknown : BTreeMap Value := ∅

def QosUroRecord.record : Record QosUroRecord :=
  .of
    (.field (.required "step" .string) <|
      .field (.required "timestamp" .string) <|
      .field (.required "policies" (.vec .string)) <|
      .field (.required "uroState" .value) .done)
    (fun (step, timestamp, policies, uroState, _) unknown =>
      { step, timestamp, policies, uroState, unknown })
    (fun r => ((r.step, r.timestamp, r.policies, r.uroState, ()), r.unknown))
    (fun _ _ => rfl) (by decide)

structure DefenderRecord where
  step : String
  timestamp : String
  exclusionPaths : List String
  exclusionProcesses : List String
  unknown : BTreeMap Value := ∅

def DefenderRecord.record : Record DefenderRecord :=
  .of
    (.field (.required "step" .string) <|
      .field (.required "timestamp" .string) <|
      .field (.defaulted "exclusionPaths" .string) <|
      .field (.defaulted "exclusionProcesses" .string) .done)
    (fun (step, timestamp, exclusionPaths, exclusionProcesses, _) unknown =>
      { step, timestamp, exclusionPaths, exclusionProcesses, unknown })
    (fun r => ((r.step, r.timestamp, r.exclusionPaths, r.exclusionProcesses, ()),
      r.unknown))
    (fun _ _ => rfl) (by decide)

structure PagefileRecord where
  step : String
  timestamp : String
  automaticManaged : Bool
  pagefilePath : String
  initialSize : UInt64
  maximumSize : UInt64
  unknown : BTreeMap Value := ∅

def PagefileRecord.record : Record PagefileRecord :=
  .of
    (.field (.required "step" .string) <|
      .field (.required "timestamp" .string) <|
      .field (.required "automaticManaged" .bool) <|
      .field (.required "pagefilePath" .string) <|
      .field (.required "initialSize" .u64) <|
      .field (.required "maximumSize" .u64) .done)
    (fun (step, timestamp, automaticManaged, pagefilePath, initialSize, maximumSize, _)
        unknown =>
      { step, timestamp, automaticManaged, pagefilePath, initialSize, maximumSize, unknown
        })
    (fun r => ((r.step, r.timestamp, r.automaticManaged, r.pagefilePath, r.initialSize,
      r.maximumSize, ()), r.unknown))
    (fun _ _ => rfl) (by decide)

def PagefileTransactionSetting.record : Record PagefileTransactionSetting :=
  .of
    (.field (.required "path" .string) <|
      .field (.required "initialSize" .u64) <|
      .field (.required "maximumSize" .u64) <|
      .field (.skipNone "objectPath" .string) <|
      .field (.skipNone "relativePath" .string) .done)
    (fun (path, initialSize, maximumSize, objectPath, relativePath, _) unknown =>
      { path, initialSize, maximumSize, objectPath, relativePath, unknown })
    (fun r => ((r.path, r.initialSize, r.maximumSize, r.objectPath, r.relativePath, ()),
      r.unknown))
    (fun _ _ => rfl) (by decide)

structure PagefileTransactionRecord where
  step : String
  timestamp : String
  transaction : PagefileTransaction

def PagefileTransactionRecord.record : Record PagefileTransactionRecord :=
  .of
    (.field (.required "step" .string) <|
      .field (.required "timestamp" .string) <|
      .field (.required "automaticManaged" .bool) <|
      .field (.required "targetPath" .string) <|
      .field (.required "targetExisted" .bool) <|
      .field (.required "settings" (.vec PagefileTransactionSetting.record.codec)) <|
      .field (.skipNone "computerObjectPath" .string) <|
      .field (.skipNone "computerRelativePath" .string) <|
      .field (.skipNone "createdObjectPath" .string) <|
      .field (.skipNone "createdRelativePath" .string) <|
      .field (.skipNone "createdInitialSize" .u64) <|
      .field (.skipNone "createdMaximumSize" .u64) <|
      .field (.skipNone "mutationIntent" .string) .done)
    (fun (step, timestamp, automaticManaged, targetPath, targetExisted, settings,
        computerObjectPath, computerRelativePath, createdObjectPath, createdRelativePath,
        createdInitialSize, createdMaximumSize, mutationIntent, _) unknown =>
      { step, timestamp
        transaction := ⟨automaticManaged, targetPath, targetExisted, settings,
          computerObjectPath, computerRelativePath, createdObjectPath,
          createdRelativePath, createdInitialSize, createdMaximumSize, mutationIntent,
          unknown⟩ })
    (fun r => ((r.step, r.timestamp, r.transaction.automaticManaged,
      r.transaction.targetPath, r.transaction.targetExisted, r.transaction.settings,
      r.transaction.computerObjectPath, r.transaction.computerRelativePath,
      r.transaction.createdObjectPath, r.transaction.createdRelativePath,
      r.transaction.createdInitialSize, r.transaction.createdMaximumSize,
      r.transaction.mutationIntent, ()), r.transaction.unknown))
    (fun _ _ => rfl) (by decide)

structure DnsRecord where
  step : String
  timestamp : String
  adapterName : String
  interfaceIndex : UInt32
  adapterGuid : Option String
  interfaceGuid : Option String
  interfaceLuid : Option UInt64
  physicalAddress : List UInt8
  originalDnsServers : List String
  unknown : BTreeMap Value := ∅

def DnsRecord.record : Record DnsRecord :=
  .of
    (.field (.required "step" .string) <|
      .field (.required "timestamp" .string) <|
      .field (.required "adapterName" .string) <|
      .field (.required "interfaceIndex" .u32) <|
      .field (.skipNone "adapterGuid" .string) <|
      .field (.skipNone "interfaceGuid" .string) <|
      .field (.skipNone "interfaceLuid" .u64) <|
      .field (.skipEmpty "physicalAddress" .u8) <|
      .field (.defaulted "originalDnsServers" .string) .done)
    (fun (step, timestamp, adapterName, interfaceIndex, adapterGuid, interfaceGuid,
        interfaceLuid, physicalAddress, originalDnsServers, _) unknown =>
      { step, timestamp, adapterName, interfaceIndex, adapterGuid, interfaceGuid,
        interfaceLuid, physicalAddress, originalDnsServers, unknown })
    (fun r => ((r.step, r.timestamp, r.adapterName, r.interfaceIndex, r.adapterGuid,
      r.interfaceGuid, r.interfaceLuid, r.physicalAddress, r.originalDnsServers, ()),
      r.unknown))
    (fun _ _ => rfl) (by decide)

structure DrsSetting where
  id : Value
  previousValue : Value
  existed : Bool
  unknown : BTreeMap Value := ∅

def DrsSetting.record : Record DrsSetting :=
  .of
    (.field (.required "id" .value) <|
      .field (.required "previousValue" .value) <|
      .field (.required "existed" .bool) .done)
    (fun (id, previousValue, existed, _) unknown =>
      { id, previousValue, existed, unknown })
    (fun r => ((r.id, r.previousValue, r.existed, ()), r.unknown))
    (fun _ _ => rfl) (by decide)

/-- An application registration; without an original profile the suite added it. -/
structure DrsApplicationBinding where
  application : String
  originalProfile : Option String
  unknown : BTreeMap Value := ∅

def DrsApplicationBinding.record : Record DrsApplicationBinding :=
  .of
    (.field (.required "application" .string) <|
      .field (.skipNone "originalProfile" .string) .done)
    (fun (application, originalProfile, _) unknown =>
      { application, originalProfile, unknown })
    (fun r => ((r.application, r.originalProfile, ()), r.unknown))
    (fun _ _ => rfl) (by decide)

structure DrsRecord where
  step : String
  timestamp : String
  profile : String
  profileCreated : Bool
  settings : List DrsSetting
  applicationBindings : List DrsApplicationBinding
  unknown : BTreeMap Value := ∅

def DrsRecord.record : Record DrsRecord :=
  .of
    (.field (.required "step" .string) <|
      .field (.required "timestamp" .string) <|
      .field (.required "profile" .string) <|
      .field (.required "profileCreated" .bool) <|
      .field (.required "settings" (.vec DrsSetting.record.codec)) <|
      .field (.defaulted "applicationBindings" DrsApplicationBinding.record.codec) .done)
    (fun (step, timestamp, profile, profileCreated, settings, applicationBindings, _)
        unknown =>
      { step, timestamp, profile, profileCreated, settings, applicationBindings, unknown
        })
    (fun r => ((r.step, r.timestamp, r.profile, r.profileCreated, r.settings,
      r.applicationBindings, ()), r.unknown))
    (fun _ _ => rfl) (by decide)

/-- The name of the target in the file. -/
def Cs2ConfigTarget.variantName : Cs2ConfigTarget → String
  | .optimization => "optimization"
  | .autoexec => "autoexec"
  | .netStable => "net_stable"
  | .netHighPing => "net_high_ping"
  | .netUnstable => "net_unstable"
  | .netBad => "net_bad"
  | .debugHud => "debug_hud"
  | .debugHudOff => "debug_hud_off"
  | .audioStable => "audio_stable"
  | .audioLowLatency025 => "audio_low_latency025"
  | .audioLowLatency001 => "audio_low_latency001"
  | .frameBaseline400 => "frame_baseline400"
  | .frameRawUncapped => "frame_raw_uncapped"
  | .audioEqCrisp => "audio_eq_crisp"
  | .audioEqSmooth => "audio_eq_smooth"
  | .audioLegacyLrIsolation => "audio_legacy_lr_isolation"
  | .competitive2026 => "competitive2026"

def Cs2ConfigTarget.codec : Codec Cs2ConfigTarget :=
  .unit isUnitOrEmpty [.optimization, .autoexec, .netStable, .netHighPing, .netUnstable,
    .netBad, .debugHud, .debugHudOff, .audioStable, .audioLowLatency025,
    .audioLowLatency001, .frameBaseline400, .frameRawUncapped, .audioEqCrisp,
    .audioEqSmooth, .audioLegacyLrIsolation, .competitive2026] Cs2ConfigTarget.variantName

def Cs2InstallIdentity.record : Record Cs2InstallIdentity :=
  .of
    (.field (.required "steamAppId" .string) <|
      .field (.required "installFingerprint" .string) .done)
    (fun (steamAppId, installFingerprint, _) unknown =>
      { steamAppId, installFingerprint, unknown })
    (fun r => ((r.steamAppId, r.installFingerprint, ()), r.unknown))
    (fun _ _ => rfl) (by decide)

def Cs2ConfigSnapshot.record : Record Cs2ConfigSnapshot :=
  .of
    (.field (.required "target" Cs2ConfigTarget.codec) <|
      .field (.required "existed" .bool) <|
      .field (.skipNone "originalBytes" (.vec .u8)) <|
      .field (.skipNone "originalSha256" .string) .done)
    (fun (target, existed, originalBytes, originalSha256, _) unknown =>
      { target, existed, originalBytes, originalSha256, unknown })
    (fun r => ((r.target, r.existed, r.originalBytes, r.originalSha256, ()), r.unknown))
    (fun _ _ => rfl) (by decide)

def Cs2ConfigTransaction.record : Record Cs2ConfigTransaction :=
  .of
    (.field (.required "step" .string) <|
      .field (.required "timestamp" .string) <|
      .field (.required "installIdentity" Cs2InstallIdentity.record.codec) <|
      .field (.required "targets" (.vec Cs2ConfigSnapshot.record.codec)) .done)
    (fun (step, timestamp, installIdentity, targets, _) unknown =>
      { step, timestamp, installIdentity, targets, unknown })
    (fun r => ((r.step, r.timestamp, r.installIdentity, r.targets, ()), r.unknown))
    (fun _ _ => rfl) (by decide)

/-! ## Entries -/

/-- A record of a known type. -/
inductive KnownRecord where
  | registry (record : RegistryRecord)
  | hags (record : HagsRecord)
  | service (record : ServiceRecord)
  | powerplan (record : PowerplanRecord)
  | bootconfig (record : BootconfigRecord)
  | scheduledtask (record : ScheduledtaskRecord)
  | nicAdapter (record : NicAdapterRecord)
  | qosUro (record : QosUroRecord)
  | defender (record : DefenderRecord)
  | pagefile (record : PagefileRecord)
  | pagefileTransaction (record : PagefileTransactionRecord)
  | dns (record : DnsRecord)
  | interruptPolicy (record : InterruptPolicyBackup)
  | networkStackTransaction (record : NetworkStackTransaction)
  | drs (record : DrsRecord)
  | cs2ConfigTransaction (record : Cs2ConfigTransaction)

def KnownRecord.written : KnownRecord → Written
  | .registry r =>
      ⟨"registry", RegistryRecord.record.named r, RegistryRecord.record.rest r⟩
  | .hags r => ⟨"hags", HagsRecord.record.named r, HagsRecord.record.rest r⟩
  | .service r => ⟨"service", ServiceRecord.record.named r, ServiceRecord.record.rest r⟩
  | .powerplan r =>
      ⟨"powerplan", PowerplanRecord.record.named r, PowerplanRecord.record.rest r⟩
  | .bootconfig r =>
      ⟨"bootconfig", BootconfigRecord.record.named r, BootconfigRecord.record.rest r⟩
  | .scheduledtask r =>
      ⟨"scheduledtask", ScheduledtaskRecord.record.named r,
        ScheduledtaskRecord.record.rest r⟩
  | .nicAdapter r =>
      ⟨"nic_adapter", NicAdapterRecord.record.named r, NicAdapterRecord.record.rest r⟩
  | .qosUro r => ⟨"qos_uro", QosUroRecord.record.named r, QosUroRecord.record.rest r⟩
  | .defender r =>
      ⟨"defender", DefenderRecord.record.named r, DefenderRecord.record.rest r⟩
  | .pagefile r =>
      ⟨"pagefile", PagefileRecord.record.named r, PagefileRecord.record.rest r⟩
  | .pagefileTransaction r =>
      ⟨"pagefile_transaction", PagefileTransactionRecord.record.named r,
        PagefileTransactionRecord.record.rest r⟩
  | .dns r => ⟨"dns", DnsRecord.record.named r, DnsRecord.record.rest r⟩
  | .interruptPolicy r =>
      ⟨"interrupt_policy", InterruptPolicyBackup.record.named r,
        InterruptPolicyBackup.record.rest r⟩
  | .networkStackTransaction r =>
      ⟨"network_stack_transaction", NetworkStackTransaction.record.named r,
        NetworkStackTransaction.record.rest r⟩
  | .drs r => ⟨"drs", DrsRecord.record.named r, DrsRecord.record.rest r⟩
  | .cs2ConfigTransaction r =>
      ⟨"cs2_config_transaction", Cs2ConfigTransaction.record.named r,
        Cs2ConfigTransaction.record.rest r⟩

/-- The variants in the order of their declaration. -/
def KnownRecord.variants : List (Variant KnownRecord KnownRecord.written) :=
  [.of "registry" RegistryRecord.record .registry (fun _ => rfl),
    .of "hags" HagsRecord.record .hags (fun _ => rfl),
    .of "service" ServiceRecord.record .service (fun _ => rfl),
    .of "powerplan" PowerplanRecord.record .powerplan (fun _ => rfl),
    .of "bootconfig" BootconfigRecord.record .bootconfig (fun _ => rfl),
    .of "scheduledtask" ScheduledtaskRecord.record .scheduledtask (fun _ => rfl),
    .of "nic_adapter" NicAdapterRecord.record .nicAdapter (fun _ => rfl),
    .of "qos_uro" QosUroRecord.record .qosUro (fun _ => rfl),
    .of "defender" DefenderRecord.record .defender (fun _ => rfl),
    .of "pagefile" PagefileRecord.record .pagefile (fun _ => rfl),
    .of "pagefile_transaction" PagefileTransactionRecord.record .pagefileTransaction
      (fun _ => rfl),
    .of "dns" DnsRecord.record .dns (fun _ => rfl),
    .of "interrupt_policy" InterruptPolicyBackup.record .interruptPolicy (fun _ => rfl),
    .of "network_stack_transaction" NetworkStackTransaction.record .networkStackTransaction
      (fun _ => rfl),
    .of "drs" DrsRecord.record .drs (fun _ => rfl),
    .of "cs2_config_transaction" Cs2ConfigTransaction.record .cs2ConfigTransaction
      (fun _ => rfl)]

def KnownRecord.codec : Codec KnownRecord :=
  .internal "type" KnownRecord.variants (by decide)

/-- `BackupEntry`, with all its fields. -/
inductive BackupRecord where
  | known (record : KnownRecord)
  | unknown (value : Value)

def BackupRecord.write : BackupRecord → Value
  | .known record => KnownRecord.codec.write record
  | .unknown value => value

def BackupRecord.codec : Codec BackupRecord :=
  KnownRecord.codec.orUnknown .known .unknown BackupRecord.write (fun _ => rfl)
    (fun _ => rfl)

/-- `BackupFile`, with all the fields of its entries. -/
structure BackupDocument where
  entries : List BackupRecord
  created : String
  unknown : BTreeMap Value := ∅

def BackupDocument.record : Record BackupDocument :=
  .of
    (.field (.defaulted "entries" BackupRecord.codec) <|
      .field (.required "created" .string) .done)
    (fun (entries, created, _) unknown =>
      { entries, created, unknown })
    (fun r => ((r.entries, r.created, ()), r.unknown))
    (fun _ _ => rfl) (by decide)

/-! ## What is read of a record -/

/-- The entry that capturing and restoring read. -/
def KnownRecord.entry : KnownRecord → BackupEntry
  | .registry r =>
      .registry r.step r.timestamp r.path r.name r.originalValue r.originalType r.existed
        r.unknown
  | .hags r => .hags r.step r.timestamp
  | .service r =>
      .service r.step r.timestamp r.name r.originalStartType r.delayedAutoStart
        r.originalStatus r.unknown
  | .powerplan r => .powerplan r.step r.timestamp r.originalGuid
  | .bootconfig r =>
      .bootconfig r.step r.timestamp r.key r.originalValue r.existed r.unknown
  | .scheduledtask r =>
      .scheduledtask r.step r.timestamp r.taskName r.taskPath r.existed r.wasEnabled
        r.scriptPath r.unknown
  | .nicAdapter r =>
      .nicAdapter r.step r.timestamp r.adapterName r.interfaceDescription r.propertyName
        r.originalValue r.propertyType r.unknown
  | .qosUro r => .qosUro r.step r.timestamp
  | .defender r => .defender r.step r.timestamp
  | .pagefile r => .pagefile r.step r.timestamp
  | .pagefileTransaction r => .pagefileTransaction r.step r.timestamp r.transaction
  | .dns r => .dns r.step r.timestamp r.adapterName r.adapterGuid
  | .interruptPolicy r => .interruptPolicy r.step r.timestamp r.device r.policy
  | .networkStackTransaction r => .networkStackTransaction r.step r.timestamp r.adapter
  | .drs r => .drs r.step r.timestamp
  | .cs2ConfigTransaction r =>
      .cs2ConfigTransaction r.step r.timestamp r.installIdentity.installFingerprint
        (r.targets.map (·.target))

def BackupRecord.entry : BackupRecord → BackupEntry
  | .known record => record.entry
  | .unknown value => .unknown value

/-- `BackupEntry::step`. -/
def BackupRecord.step (record : BackupRecord) : Option String := record.entry.step

/-- `BackupFile::restore_order`. -/
def BackupDocument.restoreOrder (document : BackupDocument) : List BackupRecord :=
  document.entries.reverse

end FrametimeCfg.Domain
