import FrametimeCfg.Domain.BackupRecords

/-!
# The document of an observation receipt

A receipt is read from an entry of the evidence file.  It keeps the fields that its
schema does not name, and so do the device and adapter bindings in its subject.  The
subject is an enum with its tag among the fields: an object, whose other keys are
dropped, or a sequence that begins with the tag.

`receiptOnlyKnown` says of a document that every object in it has only the fields that
the schema of its type names.
-/

namespace FrametimeCfg.Domain

open FrametimeCfg.Lib.OrderedMap
open FrametimeCfg.Domain.Serde

/-! ## Objects without other fields -/

/-- The object has no other key. -/
def onlyKeys (keys : List String) (raw : List (String × Value)) : Bool :=
  raw.all fun entry => keys.contains entry.1

def deviceOnlyKnown : Value → Bool
  | .object raw => onlyKeys PciDeviceBinding.record.keys raw
  | _ => true

def devicesOnlyKnown : Value → Bool
  | .array items => items.all deviceOnlyKnown
  | _ => true

def adapterOnlyKnown : Value → Bool
  | .object raw =>
      onlyKeys NetworkAdapterBinding.record.keys raw &&
        (asMap raw)["device"]?.all deviceOnlyKnown
  | _ => true

/-! ## Subjects -/

/-- A variant of the subject: its tag, its fields, how they are read from an object and
from a sequence, and which of them have objects in them. -/
structure SubjectShape where
  tag : String
  keys : List String
  read : BTreeMap Value → Option ObservationSubject
  readSeq : List Value → Option ObservationSubject
  nested : List (String × (Value → Bool))

/-- The variant with the given fields. -/
def SubjectShape.of {β : Type} (tag : String) (fields : Fields β)
    (make : β → ObservationSubject) (nested : List (String × (Value → Bool))) :
    SubjectShape where
  tag := tag
  keys := fields.keys
  read := fun m => (fields.read m).map make
  readSeq := fun items => match fields.readSeq items with
    | some (b, []) => some (make b)
    | _ => none
  nested := nested

def driverCleanupFields : Fields (PciDeviceBinding × List PciDeviceBinding × Unit) :=
  .field (.required "target_gpu" PciDeviceBinding.record.codec) <|
    .field (.required "installed_packages" PciDeviceBinding.record.codec.vec) .done

def nvidiaDrsFields :
    Fields (PciDeviceBinding × String × String × String × String × String × Unit) :=
  .field (.required "target_gpu" PciDeviceBinding.record.codec) <|
    .field (.required "driver_version" .string) <|
    .field (.required "nvapi_module_sha256" .string) <|
    .field (.required "nvapi_interface_version" .string) <|
    .field (.required "profile_name" .string) <|
    .field (.required "application_name" .string) .done

def msiDeviceFields : Fields (List PciDeviceBinding × Unit) :=
  .field (.required "devices" PciDeviceBinding.record.codec.vec) .done

def nicAffinityFields :
    Fields (NetworkAdapterBinding × UInt16 × UInt16 × UInt16 × UInt64 × Unit) :=
  .field (.required "adapter" NetworkAdapterBinding.record.codec) <|
    .field (.required "processor_group" .u16) <|
    .field (.required "logical_processor_count" .u16) <|
    .field (.required "target_processor" .u16) <|
    .field (.required "assignment_mask" .u64) .done

/-- The variants in the order of their declaration.  The names of the variants are in
camel case, those of the fields are not changed. -/
def subjectShapes : List SubjectShape :=
  [.of "driverCleanupPreparation" driverCleanupFields
      (fun (targetGpu, installedPackages, _) =>
        .driverCleanupPreparation targetGpu installedPackages)
      [("target_gpu", deviceOnlyKnown), ("installed_packages", devicesOnlyKnown)],
    .of "nvidiaDrsPreparation" nvidiaDrsFields
      (fun (targetGpu, driverVersion, nvapiModuleSha256, nvapiInterfaceVersion, profileName,
          applicationName, _) =>
        .nvidiaDrsPreparation targetGpu driverVersion nvapiModuleSha256 nvapiInterfaceVersion
          profileName applicationName)
      [("target_gpu", deviceOnlyKnown)],
    .of "msiDeviceSet" msiDeviceFields (fun (devices, _) => .msiDeviceSet devices)
      [("devices", devicesOnlyKnown)],
    .of "nicAffinityProposal" nicAffinityFields
      (fun (adapter, processorGroup, logicalProcessorCount, targetProcessor,
          assignmentMask, _) =>
        .nicAffinityProposal adapter processorGroup logicalProcessorCount targetProcessor
          assignmentMask)
      [("adapter", adapterOnlyKnown)]]

/-- The variant that a tag selects: by name, or from the buffer by index. -/
def pickShape : Value → Option SubjectShape
  | .string s => subjectShapes.find? fun shape => shape.tag = s
  | .number (.unsigned n) => subjectShapes[n.toNat]?
  | _ => none

/-- `ObservationSubject`, read. -/
def ObservationSubject.read : Value → Option ObservationSubject
  | .object raw =>
      if once ["kind"] raw then
        ((asMap raw)["kind"]?.bind pickShape).bind fun shape =>
          if once shape.keys raw then shape.read ((asMap raw).erase "kind") else none
      else none
  | .array (tag :: items) => (pickShape tag).bind fun shape => shape.readSeq items
  | _ => none

/-- The variant of a subject and the entries that its fields are read from. -/
def subjectEntries : Value → Option (SubjectShape × BTreeMap Value)
  | .object raw => ((asMap raw)["kind"]?.bind pickShape).map fun shape =>
      (shape, (asMap raw).erase "kind")
  | .array (tag :: items) => (pickShape tag).map fun shape =>
      (shape, asMap (shape.keys.zip items))
  | _ => none

/-- The subject has no other key than its tag and its fields. -/
def subjectClosed (shape : SubjectShape) : Value → Bool
  | .object raw => onlyKeys ("kind" :: shape.keys) raw
  | _ => true

def subjectOnlyKnown (v : Value) : Bool :=
  (subjectEntries v).all fun (shape, m) =>
    subjectClosed shape v && shape.nested.all fun (key, known) => m[key]?.all known

/-! ## Receipts -/

def RECEIPT_KEYS : List String :=
  ["schemaVersion", "receiptId", "step", "capturedAtUtc", "transactionId",
    "runtimeGeneration", "subject"]

/-- `BindingReceiptId::parse`. -/
def BindingReceiptId.parse (text : String) : Option BindingReceiptId :=
  if h : (Lib.Text.byteLen text = 64 && text.toList.all Lib.Text.isLowerHexDigit) = true then
    some ⟨text, h⟩
  else none

/-- `ObservationReceipt`, read. -/
def ObservationReceipt.read : Value → Option ObservationReceipt
  | .object raw => do
      guard (once RECEIPT_KEYS raw)
      let fields := asMap raw
      let schemaVersion ← fields["schemaVersion"]?.bind Codec.u8.read
      let receiptId ← (fields["receiptId"]?.bind Codec.string.read).bind BindingReceiptId.parse
      let step ← fields["step"]?.bind Codec.string.read
      let capturedAtUtc ← fields["capturedAtUtc"]?.bind Codec.string.read
      let transactionId ← (Field.skipNone "transactionId" .string).read fields["transactionId"]?
      let transactionId ← transactionId.mapM fun text => (TransactionId.parse text).toOption
      let runtimeGeneration ←
        (Field.skipNone "runtimeGeneration" .string).read fields["runtimeGeneration"]?
      let subject ← fields["subject"]?.bind ObservationSubject.read
      return {
        schemaVersion := schemaVersion
        receiptId := receiptId
        step := step
        capturedAtUtc := capturedAtUtc
        transactionId := transactionId
        runtimeGeneration := runtimeGeneration
        subject := subject
        unknown := BTreeMap.without fields RECEIPT_KEYS }
  | _ => none

/-- **Every object of a receipt has only known fields**: the receipt, its subject, the
device bindings, the adapter binding and its device. -/
def receiptOnlyKnown : Value → Bool
  | .object raw => onlyKeys RECEIPT_KEYS raw && (asMap raw)["subject"]?.all subjectOnlyKnown
  | _ => true

end FrametimeCfg.Domain
