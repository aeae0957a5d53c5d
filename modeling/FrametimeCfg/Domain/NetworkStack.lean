import FrametimeCfg.Domain.Evidence
import FrametimeCfg.Lib.Checks
import Mathlib.Data.List.Sort

/-!
# The backup of the network stack

A transaction of step P1:16 is bound to one network adapter.  It holds the original
values of driver settings, the registry state of the QoS value that makes Windows
ignore network location awareness, and the two QoS policies of the suite.  What was
absent is recorded as absent.

`validate` asks for the complete inventory of settings and policies.
-/

namespace FrametimeCfg.Domain

open FrametimeCfg.Lib.Checks
open FrametimeCfg.Lib.OrderedMap
open FrametimeCfg.Lib.Text

def NETWORK_STACK_TRANSACTION_STEP : String := "P1:16"

/-- The order of the constructors is the order of the settings. -/
inductive NetworkStackSetting where
  | eee
  | flowControl
  | interruptModeration
  | receiveBuffers
  | transmitBuffers
  | greenEthernet
  | powerSavingMode
  | rssEnabled
  | rssBaseProcessor
  | rssMaxProcessor
  | rssMaxProcessors
  | uroEnabled
  | qosNlaBypass
  deriving DecidableEq, Repr

/-- `NetworkStackSetting::P1_16_INVENTORY`. -/
def NetworkStackSetting.P1_16_INVENTORY : List NetworkStackSetting :=
  [.eee, .flowControl, .rssEnabled, .uroEnabled, .qosNlaBypass]

inductive NetworkStackValue where
  | dword (value : UInt32)
  | string (value : String)
  | multiString (value : List String)
  | binary (value : List UInt8)
  deriving DecidableEq, Repr

structure NetworkStackRawRegistryValue where
  valueType : UInt32
  bytes : List UInt8
  deriving DecidableEq, Repr

/-- The key and the value are absent independently of each other. -/
structure NetworkStackNlaBackup where
  keyExisted : Bool
  valueExisted : Bool
  originalValue : Option NetworkStackRawRegistryValue
  deriving DecidableEq, Repr

structure NetworkStackSettingBackup where
  setting : NetworkStackSetting
  existed : Bool
  originalValue : Option NetworkStackValue
  nla : Option NetworkStackNlaBackup
  unknown : BTreeMap Value := ∅
  deriving DecidableEq

inductive NetworkStackPolicy where
  | cs2UdpPorts
  | cs2App
  deriving DecidableEq, Repr

/-- `NetworkStackPolicy::P1_16_INVENTORY`. -/
def NetworkStackPolicy.P1_16_INVENTORY : List NetworkStackPolicy :=
  [.cs2UdpPorts, .cs2App]

/-- The writable fields of a QoS policy. -/
structure NetworkStackPolicySnapshot where
  networkProfile : UInt32
  precedence : UInt32
  templateMatchCondition : UInt32
  userMatchCondition : String
  ipProtocol : UInt32
  ipPortMatchCondition : UInt16
  sourcePrefixMatchCondition : String
  sourcePortStart : UInt16
  sourcePortEnd : UInt16
  destinationPrefixMatchCondition : String
  destinationPortStart : UInt16
  destinationPortEnd : UInt16
  appPathMatchCondition : String
  uriMatchCondition : String
  uriRecursiveMatchCondition : Bool
  netDirectPortMatchCondition : UInt16
  priorityValue8021Action : Int8
  dscpAction : Int8
  minBandwidthWeightAction : UInt8
  throttleRateAction : UInt64
  deriving DecidableEq

structure NetworkStackPolicyBackup where
  policy : NetworkStackPolicy
  existed : Bool
  originalPolicy : Option NetworkStackPolicySnapshot
  unknown : BTreeMap Value := ∅
  deriving DecidableEq

structure NetworkStackTransaction where
  step : String
  timestamp : String
  adapter : NetworkAdapterBinding
  settings : List NetworkStackSettingBackup
  policies : List NetworkStackPolicyBackup
  unknown : BTreeMap Value := ∅
  deriving DecidableEq

inductive NetworkStackBackupError where
  | unknownFields
  | wrongStep
  | invalidAdapter (error : BindingError)
  | invalidTimestamp
  | duplicateIdentity
  | existenceMismatch
  | valueTypeMismatch
  | invalidNlaValue
  | invalidPolicySnapshot
  | incompleteInventory
  deriving DecidableEq

/-- The text of the error. -/
def NetworkStackBackupError.message : NetworkStackBackupError → String
  | .unknownFields => "network-stack backup contains unrecognized fields"
  | .wrongStep => "network-stack backup is not P1:16"
  | .invalidAdapter error =>
      "network-stack backup has invalid adapter evidence: " ++ error.message
  | .invalidTimestamp => "network-stack backup timestamp is invalid"
  | .duplicateIdentity => "network-stack backup repeats a setting or policy"
  | .existenceMismatch => "network-stack backup has inconsistent existence state"
  | .valueTypeMismatch =>
      "network-stack backup has a value incompatible with its fixed setting"
  | .invalidNlaValue => "network-stack backup has invalid bounded NLA registry data"
  | .invalidPolicySnapshot =>
      "network-stack backup has an invalid typed QoS policy snapshot"
  | .incompleteInventory =>
      "network-stack backup does not contain the complete P1:16 inventory"

/-! ## Validation -/

/-- `NetworkStackPolicySnapshot::validate`. -/
def NetworkStackPolicySnapshot.validate (snapshot : NetworkStackPolicySnapshot) :
    Except NetworkStackBackupError Unit :=
  let texts := [snapshot.userMatchCondition, snapshot.sourcePrefixMatchCondition,
    snapshot.destinationPrefixMatchCondition, snapshot.appPathMatchCondition,
    snapshot.uriMatchCondition]
  reject (255 < snapshot.precedence || snapshot.templateMatchCondition ≠ 0 ||
      3 < snapshot.ipProtocol ||
      ¬ (-1 ≤ snapshot.priorityValue8021Action && snapshot.priorityValue8021Action ≤ 7) ||
      ¬ (-1 ≤ snapshot.dscpAction && snapshot.dscpAction ≤ 63) ||
      100 < snapshot.minBandwidthWeightAction ||
      texts.any fun value => 1024 < byteLen value || value.toList.any isControl)
    .invalidPolicySnapshot

/-- Two neighbours of the list are equal. -/
def repeatsNeighbour {α : Type} [DecidableEq α] (l : List α) : Bool :=
  (l.zip l.tail).any fun pair => pair.1 = pair.2

/-- The registry state of the QoS value. -/
def NetworkStackSettingBackup.validateNla (item : NetworkStackSettingBackup) :
    Except NetworkStackBackupError Unit := do
  let nla ← okOr item.nla .valueTypeMismatch
  reject (item.originalValue.isSome || item.existed ≠ nla.valueExisted) .existenceMismatch
  reject (nla.valueExisted ≠ nla.originalValue.isSome) .existenceMismatch
  reject (¬ nla.keyExisted && nla.valueExisted) .existenceMismatch
  reject (nla.originalValue.any fun value => 64 < value.bytes.length) .invalidNlaValue

/-- Only interrupt moderation is a string. -/
def NetworkStackSettingBackup.validateValue (item : NetworkStackSettingBackup) :
    Except NetworkStackBackupError Unit := do
  reject item.nla.isSome .valueTypeMismatch
  match item.originalValue with
  | none => .ok ()
  | some (.string _) => reject (item.setting ≠ .interruptModeration) .valueTypeMismatch
  | some _ => reject (item.setting = .interruptModeration) .valueTypeMismatch

def NetworkStackSettingBackup.validate (item : NetworkStackSettingBackup) :
    Except NetworkStackBackupError Unit := do
  reject (¬ item.unknown.isEmpty) .unknownFields
  reject (item.existed ≠ item.originalValue.isSome && item.setting ≠ .qosNlaBypass)
    .existenceMismatch
  if item.setting = .qosNlaBypass then item.validateNla else item.validateValue

def NetworkStackPolicyBackup.validate (item : NetworkStackPolicyBackup) :
    Except NetworkStackBackupError Unit := do
  reject (¬ item.unknown.isEmpty) .unknownFields
  reject (item.existed ≠ item.originalPolicy.isSome) .existenceMismatch
  match item.originalPolicy with
  | none => .ok ()
  | some policy => policy.validate

/-- `NetworkStackTransaction::validate`. -/
def NetworkStackTransaction.validate (transaction : NetworkStackTransaction) :
    Except NetworkStackBackupError Unit := do
  reject (transaction.step ≠ NETWORK_STACK_TRANSACTION_STEP) .wrongStep
  reject (transaction.timestamp.toList.all isWhitespace ||
    64 < byteLen transaction.timestamp || transaction.timestamp.toList.any isControl)
    .invalidTimestamp
  reject (¬ transaction.unknown.isEmpty) .unknownFields
  transaction.adapter.validate.mapError .invalidAdapter
  let settings := (transaction.settings.map (·.setting)).insertionSort
    (fun a b => a.ctorIdx ≤ b.ctorIdx)
  reject (repeatsNeighbour settings) .duplicateIdentity
  let policies := (transaction.policies.map (·.policy)).insertionSort
    (fun a b => a.ctorIdx ≤ b.ctorIdx)
  reject (repeatsNeighbour policies) .duplicateIdentity
  reject (settings ≠ NetworkStackSetting.P1_16_INVENTORY ||
    policies ≠ NetworkStackPolicy.P1_16_INVENTORY) .incompleteInventory
  transaction.settings.forM (·.validate)
  transaction.policies.forM (·.validate)

end FrametimeCfg.Domain
