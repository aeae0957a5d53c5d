import FrametimeCfg.Domain.Handoff

/-!
# Device bindings and observation receipts

A preparation step of Phase 1 observes a subject (a GPU, a set of devices, a
network adapter) and leaves a durable receipt.  A receipt is accepted for a
step only when it names that step, its subject validates, it has no field the
schema does not know, and its identifier is the digest of its contents.

The digest (SHA-256 over the serialized identity) is code outside the
repository, so `canonicalReceiptId` takes it as a parameter.
-/

namespace FrametimeCfg.Domain

open FrametimeCfg.Lib.OrderedMap
open FrametimeCfg.Lib.Text

/-! ## Bindings -/

def NATIVE_BINDING_SCHEMA_VERSION : UInt8 := 1

inductive BindingError where
  | invalidGuid (field : String)
  | invalidPciIdentity (field : String)
  | invalidPublishedName (field : String)
  | invalidText (field : String)
  | deviceIdentityMismatch
  | adapterGuidMismatch
  | incompleteAdapterIdentity
  | unsupportedSchema
  | invalidReceiptId
  deriving DecidableEq

/-- The text of a binding error. -/
def BindingError.message : BindingError → String
  | .invalidGuid field => field ++ " is not a canonical braced GUID"
  | .invalidPciIdentity field => field ++ " is not a canonical PCI instance identity"
  | .invalidPublishedName field => field ++ " is not a canonical driver INF leaf"
  | .invalidText field => field ++ " contains invalid or missing text"
  | .deviceIdentityMismatch =>
      "device numeric identity disagrees with its PCI instance id"
  | .adapterGuidMismatch =>
      "network adapter permanent name and interface GUID disagree"
  | .incompleteAdapterIdentity =>
      "network adapter has no usable interface or physical identity"
  | .unsupportedSchema => "binding schema version is unsupported"
  | .invalidReceiptId => "binding receipt digest is invalid"

/-- Exact evidence for one PCI device. -/
structure PciDeviceBinding where
  schemaVersion : UInt8
  instanceId : String
  containerId : String
  classGuid : String
  vendorId : UInt16
  deviceId : UInt16
  subsystemVendorId : UInt16
  subsystemDeviceId : UInt16
  revisionId : UInt8
  driverProvider : String
  driverVersion : String
  publishedInf : String
  observedAtUtc : String
  unknown : BTreeMap Value := ∅
  deriving DecidableEq

/-- Evidence for one active physical network adapter. -/
structure NetworkAdapterBinding where
  schemaVersion : UInt8
  adapterName : String
  interfaceGuid : String
  interfaceLuid : UInt64
  interfaceIndex : UInt32
  friendlyName : String
  interfaceDescription : String
  physicalAddress : List UInt8
  device : PciDeviceBinding
  observedAtUtc : String
  unknown : BTreeMap Value := ∅
  deriving DecidableEq

/-- Succeed exactly when the check holds. -/
def check {ε : Type} (b : Bool) (error : ε) : Except ε Unit :=
  if b then .ok () else .error error

/-- Text that is not blank, at most 512 bytes, without control characters. -/
def isPlainText (value : String) : Bool :=
  !value.toList.all isWhitespace && byteLen value ≤ 512 &&
    !value.toList.any isControl

def isBracedGuid (value : String) : Bool :=
  let chars := value.toList
  byteLen value = 38 && chars.length = 38 && chars.head? = some '{' &&
    chars.getLast? = some '}' &&
    ([9, 14, 19, 24].all fun i => chars[i]? = some '-') &&
    ((chars.drop 1).take 36).zipIdx.all fun (c, i) =>
      i ∈ [8, 13, 18, 23] || isHexDigit c

def isInfLeaf (value : String) : Bool :=
  byteLen value ≤ 128 && value.toList.reverse.take 4 = ['f', 'n', 'i', '.'] &&
    4 < byteLen value &&
    value.toList.all fun c =>
      ('a' ≤ c && c ≤ 'z') || c.isDigit || c = '.' || c = '_' || c = '-'

/-- `parse_hex` of a fixed width. -/
def parseHex (value : List Char) (width bound : Nat) : Option Nat :=
  if value.length = width then
    match parseHexNat value with
    | some n => if n < bound then some n else none
    | none => none
  else none

/-- The identity fields read from a PCI instance path so far. -/
structure PciFields where
  vendor : Option Nat := none
  device : Option Nat := none
  subsystem : Option Nat := none
  revision : Option Nat := none

/-- One part of the path; a later part of the same kind replaces an earlier
one. -/
def PciFields.read (fields : PciFields) (part : List Char) : PciFields :=
  match stripPrefix "VEN_".toList part with
  | some value => { fields with vendor := parseHex value 4 (2 ^ 16) }
  | none =>
  match stripPrefix "DEV_".toList part with
  | some value => { fields with device := parseHex value 4 (2 ^ 16) }
  | none =>
  match stripPrefix "SUBSYS_".toList part with
  | some value => { fields with subsystem := parseHex value 8 (2 ^ 32) }
  | none =>
  match stripPrefix "REV_".toList part with
  | some value => { fields with revision := parseHex value 2 (2 ^ 8) }
  | none => fields

/-- `parse_pci_instance`: vendor, device, the two halves of the subsystem, and
the revision. -/
def parsePciInstance (value : String) :
    Except BindingError (Nat × Nat × Nat × Nat × Nat) :=
  if byteLen value > 512 || value.toList.any isControl then
    .error (.invalidPciIdentity "instanceId")
  else
    match splitAt (fun c => c = '\\' || c = '&') (asciiUpper value).toList with
    | first :: parts =>
        if first ≠ "PCI".toList then .error (.invalidPciIdentity "instanceId")
        else
          let fields := parts.foldl PciFields.read {}
          match fields.subsystem, fields.vendor, fields.device, fields.revision with
          | some subsystem, some vendor, some device, some revision =>
              .ok (vendor, device, subsystem % 2 ^ 16, subsystem / 2 ^ 16, revision)
          | _, _, _, _ => .error (.invalidPciIdentity "instanceId")
    | [] => .error (.invalidPciIdentity "instanceId")

/-- `PciDeviceBinding::validate`. -/
def PciDeviceBinding.validate (b : PciDeviceBinding) : Except BindingError Unit := do
  check (b.schemaVersion = NATIVE_BINDING_SCHEMA_VERSION) .unsupportedSchema
  check (isBracedGuid b.containerId) (.invalidGuid "containerId")
  check (isBracedGuid b.classGuid) (.invalidGuid "classGuid")
  check (isPlainText b.driverProvider) (.invalidText "driverProvider")
  check (isPlainText b.driverVersion) (.invalidText "driverVersion")
  check (isPlainText b.observedAtUtc) (.invalidText "observedAtUtc")
  check (isInfLeaf b.publishedInf) (.invalidPublishedName "publishedInf")
  let parsed ← parsePciInstance b.instanceId
  check (parsed = (b.vendorId.toNat, b.deviceId.toNat, b.subsystemVendorId.toNat,
    b.subsystemDeviceId.toNat, b.revisionId.toNat)) .deviceIdentityMismatch

/-- `NetworkAdapterBinding::validate`. -/
def NetworkAdapterBinding.validate (b : NetworkAdapterBinding) :
    Except BindingError Unit := do
  check (b.schemaVersion = NATIVE_BINDING_SCHEMA_VERSION) .unsupportedSchema
  check (isBracedGuid b.adapterName) (.invalidGuid "adapterName")
  check (isBracedGuid b.interfaceGuid) (.invalidGuid "interfaceGuid")
  check (eqIgnoreAsciiCase b.adapterName b.interfaceGuid) .adapterGuidMismatch
  check (!(b.interfaceLuid = 0 || b.interfaceIndex = 0 ||
      !(6 ≤ b.physicalAddress.length && b.physicalAddress.length ≤ 32) ||
      b.physicalAddress.all (· = 0))) .incompleteAdapterIdentity
  check (isPlainText b.friendlyName) (.invalidText "friendlyName")
  check (isPlainText b.interfaceDescription) (.invalidText "interfaceDescription")
  check (isPlainText b.observedAtUtc) (.invalidText "observedAtUtc")
  b.device.validate

/-! ## Receipts -/

def EVIDENCE_SCHEMA_VERSION : UInt8 := 1

inductive EvidenceRequirement where
  | none
  | durableReceipt
  deriving DecidableEq, Repr

inductive EvidenceError where
  | unsupportedSchema
  | stepMismatch
  | receiptMismatch
  | unknownFields
  | invalidField (field : String)
  | invalidSubjectSet
  | invalidBinding (message : String)
  deriving DecidableEq

/-- The text of an evidence error. -/
def EvidenceError.message : EvidenceError → String
  | .unsupportedSchema => "evidence schema version is unsupported"
  | .stepMismatch => "evidence step is not the exact subject binding"
  | .receiptMismatch => "evidence receipt id does not match its canonical subject"
  | .unknownFields => "evidence contains unknown fields and cannot authorize work"
  | .invalidField field => "evidence contains an empty or invalid field: " ++ field
  | .invalidSubjectSet =>
      "evidence subject set is empty, duplicated, or noncanonical"
  | .invalidBinding message => "nested Windows identity is invalid: " ++ message

/-- A lower-case SHA-256 digest. -/
structure BindingReceiptId where
  text : String
  wellFormed : (byteLen text = 64 && text.toList.all isLowerHexDigit) = true
  deriving DecidableEq

inductive ObservationSubject where
  | driverCleanupPreparation (targetGpu : PciDeviceBinding)
      (installedPackages : List PciDeviceBinding)
  | nvidiaDrsPreparation (targetGpu : PciDeviceBinding)
      (driverVersion nvapiModuleSha256 nvapiInterfaceVersion profileName
        applicationName : String)
  | msiDeviceSet (devices : List PciDeviceBinding)
  | nicAffinityProposal (adapter : NetworkAdapterBinding)
      (processorGroup logicalProcessorCount targetProcessor : UInt16)
      (assignmentMask : UInt64)
  deriving DecidableEq

structure ObservationReceipt where
  schemaVersion : UInt8
  receiptId : BindingReceiptId
  step : String
  capturedAtUtc : String
  transactionId : Option TransactionId
  runtimeGeneration : Option String
  subject : ObservationSubject
  unknown : BTreeMap Value := ∅
  deriving DecidableEq

/-- What the receipt identifier is the digest of. -/
structure ReceiptIdentity where
  schemaVersion : UInt8
  step : String
  capturedAtUtc : String
  transactionId : Option TransactionId
  runtimeGeneration : Option String
  subject : ObservationSubject

/-- `BindingReceiptId::digest_serializable` at receipt identities. -/
abbrev Digest : Type := ReceiptIdentity → Except BindingError BindingReceiptId

def validateDevice (device : PciDeviceBinding) : Except EvidenceError Unit :=
  match device.validate with
  | .error error => .error (.invalidBinding error.message)
  | .ok () =>
      check (device.schemaVersion = NATIVE_BINDING_SCHEMA_VERSION &&
        device.unknown.isEmpty) .unknownFields

/-- `validate_device_set` after its first device: identities strictly
increase, so they are distinct. -/
def validateDevicesAfter (previous : Option String) :
    List PciDeviceBinding → Except EvidenceError Unit
  | [] => .ok ()
  | device :: rest => do
      validateDevice device
      let identity := asciiUpper device.instanceId
      check (!previous.any (fun known => identity ≤ known)) .invalidSubjectSet
      validateDevicesAfter (some identity) rest

def validateDeviceSet (devices : List PciDeviceBinding) :
    Except EvidenceError Unit := do
  check (!devices.isEmpty) .invalidSubjectSet
  validateDevicesAfter none devices

def requireSha256 (value field : String) : Except EvidenceError Unit :=
  check (byteLen value = 64 && value.toList.all isLowerHexDigit) (.invalidField field)

namespace ObservationSubject

/-- `ObservationSubject::expected_step`. -/
def expectedStep : ObservationSubject → String
  | .driverCleanupPreparation .. => "P1:18"
  | .nvidiaDrsPreparation .. => "P1:20"
  | .msiDeviceSet .. => "P1:21"
  | .nicAffinityProposal .. => "P1:22"

/-- `ObservationSubject::validate`. -/
def validate : ObservationSubject → Except EvidenceError Unit
  | .driverCleanupPreparation targetGpu installedPackages => do
      validateDevice targetGpu
      validateDeviceSet installedPackages
      check (!installedPackages.any fun package =>
          package.vendorId ≠ targetGpu.vendorId ||
          package.deviceId ≠ targetGpu.deviceId ||
          package.subsystemVendorId ≠ targetGpu.subsystemVendorId ||
          package.subsystemDeviceId ≠ targetGpu.subsystemDeviceId)
        .invalidSubjectSet
  | .nvidiaDrsPreparation targetGpu driverVersion nvapiModuleSha256
      nvapiInterfaceVersion profileName applicationName => do
      validateDevice targetGpu
      check (targetGpu.vendorId = 0x10de) (.invalidField "targetGpu.vendorId")
      check (isPlainText driverVersion) (.invalidField "driverVersion")
      requireSha256 nvapiModuleSha256 "nvapiModuleSha256"
      check (isPlainText nvapiInterfaceVersion) (.invalidField "nvapiInterfaceVersion")
      check ((profileName = "Counter-Strike 2" || profileName = "Counter-strike 2") &&
        applicationName = "cs2.exe") (.invalidField "drsProfileIdentity")
  | .msiDeviceSet devices => validateDeviceSet devices
  | .nicAffinityProposal adapter processorGroup logicalProcessorCount
      targetProcessor assignmentMask =>
      match adapter.validate with
      | .error error => .error (.invalidBinding error.message)
      | .ok () =>
          check (!(logicalProcessorCount = 0 || 64 < logicalProcessorCount ||
              processorGroup ≠ 0 || logicalProcessorCount ≤ targetProcessor ||
              assignmentMask.toNat ≠
                if targetProcessor.toNat < 64 then 2 ^ targetProcessor.toNat else 0))
            (.invalidField "processorTopology")

end ObservationSubject

namespace ObservationReceipt

/-- `ObservationReceipt::canonical_receipt_id`. -/
def canonicalReceiptId (digest : Digest) (r : ObservationReceipt) :
    Except EvidenceError BindingReceiptId :=
  match digest {
    schemaVersion := r.schemaVersion
    step := r.step
    capturedAtUtc := r.capturedAtUtc
    transactionId := r.transactionId
    runtimeGeneration := r.runtimeGeneration
    subject := r.subject } with
  | .ok id => .ok id
  | .error _ => .error .receiptMismatch

/-- `ObservationReceipt::validate_for`. -/
def validateFor (digest : Digest) (r : ObservationReceipt) (expectedStep : String) :
    Except EvidenceError Unit := do
  check (r.schemaVersion = EVIDENCE_SCHEMA_VERSION) .unsupportedSchema
  check r.unknown.isEmpty .unknownFields
  check (r.step = expectedStep && r.step = r.subject.expectedStep) .stepMismatch
  check (isPlainText r.capturedAtUtc) (.invalidField "capturedAtUtc")
  check (r.runtimeGeneration.all validGenerationId) (.invalidField "runtimeGeneration")
  r.subject.validate
  let id ← r.canonicalReceiptId digest
  check (id = r.receiptId) .receiptMismatch

end ObservationReceipt

end FrametimeCfg.Domain
