import FrametimeCfg.Windows.LiveHost

/-!
# What the live backend observes

The readings that inspection, capture and verification share: the hardware, the chipset
drivers, the memory, the receipts of the preparation steps, the driver transaction and
the trusted CS2 install.  They are functions of the host state, except where NVAPI opens a
session.
-/

namespace FrametimeCfg.Windows.LiveBackend

open FrametimeCfg.Domain
open FrametimeCfg.Lib.Buffer
open FrametimeCfg.Lib.Checks
open FrametimeCfg.Lib.Effect
open FrametimeCfg.Lib.FileCalls
open FrametimeCfg.Lib.OrderedMap
open FrametimeCfg.Lib.Text
open FrametimeCfg.Lib.Wide

section

variable {σ Session Profile : Type} (n : Native σ Session Profile)

/-! ## Hardware -/

/-- `discover_hardware`. -/
def discoverHardware (s : σ) : Except String HardwareInfo := do
  let output ← n.query DISPLAY_LISTING s
  return hardwareOfListing output

/-- The value that names the vendor of the processor. -/
def VENDOR_IDENTIFIER : RegistryChange where
  hive := .localMachine
  key := "HARDWARE\\DESCRIPTION\\System\\CentralProcessor\\0"
  name := "VendorIdentifier"
  value := .dword 0

/-- `detected_chipset_vendor`. -/
def detectedChipsetVendor (s : σ) : Except String ChipsetVendor := do
  let value ← n.registryReadExact VENDOR_IDENTIFIER s
  if value = some (.string "AuthenticAMD") then return .amd
  else if value = some (.string "GenuineIntel") then return .intel
  else .error "P1:35 CPU vendor is unknown or malformed"

/-- `capture_chipset_inventory`. -/
def captureChipsetInventory (s : σ) : Except String (Option ChipsetInventory) := do
  let vendor ← detectedChipsetVendor n s
  let records ← n.enumerateChipsetDriverRecords s
  chipsetInventoryFromRaw vendor records

/-- `verify_chipset_inventory`. -/
def verifyChipsetInventory (s : σ) (captured : Option ChipsetInventory) :
    Except String Unit := do
  let observed ← captureChipsetInventory n s
  reject (captured ≠ observed)
    "P1:35 installed chipset-driver records changed after inspection"

/-- The error of a parser of bytes, which never reads outside them. -/
def stopText : Stop String → String
  | .error message => message
  | .outOfBounds => "index out of bounds"

/-- `capture_memory_topology`. -/
def captureMemoryTopology (s : σ) : Except String (Option Smbios.MemoryTopology) := do
  let raw ← n.readRawSmbios s
  (Smbios.parseMemoryTopology raw).mapError stopText

/-- `verify_memory_topology`. -/
def verifyMemoryTopology (s : σ) (captured : Option Smbios.MemoryTopology) :
    Except String Unit := do
  let observed ← captureMemoryTopology n s
  reject (captured ≠ observed)
    "P1:24 SMBIOS memory-topology evidence changed after inspection"

/-- `require_hags_effective_before_final_checklist`. -/
def requireHagsEffectiveBeforeFinalChecklist (s : σ) : Except String Unit := do
  let receipts ← n.hagsReceipts s
  requireHagsEffective (n.compatibleAdapterStates s) receipts

/-! ## The work directory -/

/-- `read_state_for_baseline`. -/
def readStateForBaseline (s : σ) : Except String State := do
  match ← (n.readState s).mapError ("read baseline state: " ++ ·) with
  | none => return {}
  | some state => checkState state

/-- `baseline_benchmark_is_persisted`. -/
def baselineBenchmarkIsPersisted (s : σ) : Bool :=
  match readStateForBaseline n s, n.readProgress s, n.readHistory s with
  | .ok state, .ok progress, .ok history =>
      (validatePersistedBaselineBenchmark state (progress.getD {}) (history.getD [])).toOption
        |>.isSome
  | _, _, _ => false

/-- `load_evidence_file`. -/
def loadEvidenceFile (s : σ) : Except String EvidenceFile := do
  let stored ← (n.readEvidence s).mapError ("read prerequisite evidence: " ++ ·)
  return stored.getD { created := n.timestamp s }

/-- `load_observation_receipt`. -/
def loadObservationReceipt (step : String) (s : σ) :
    Except String (Option ObservationReceipt) := do
  let file ← loadEvidenceFile n s
  reject (!file.unknown.isEmpty) "evidence document has unrecognized root fields"
  (file.observationFor n.digest step).mapError fun error =>
    "validate prerequisite evidence: " ++ error.message

/-- `load_driver_transaction_at`. -/
def loadDriverTransactionAt (s : σ) : Except String (Option DriverTransaction) := do
  n.acquireWorkDir s
  match ← (n.readDriverTransaction s).mapError ("read driver transaction: " ++ ·) with
  | none => return none
  | some transaction => do
      transaction.validate n.digests (n.timestamp s) DURABLE_FRESHNESS
      return some transaction

/-! ## Preparations -/

/-- `sorted_msi_devices`. -/
def sortedMsiDevices (batches : List MsiDeviceBatch) : List PciDeviceBinding :=
  let devices := (batches.map MsiDeviceBatch.device).mergeSort fun left right =>
    asciiUpper left.instanceId ≤ asciiUpper right.instanceId
  devices.destutter fun left right => ¬ eqIgnoreAsciiCase left.instanceId right.instanceId

/-- The two lists pair devices that agree. -/
def sameDevices (same : PciDeviceBinding → PciDeviceBinding → Bool)
    (left right : List PciDeviceBinding) : Bool :=
  left.length = right.length && (left.zip right).all fun (left, right) => same left right

/-- `same_device_observation_set`. -/
def sameDeviceObservationSet : List PciDeviceBinding → List PciDeviceBinding → Bool :=
  sameDevices fun left right =>
    samePnpDevice left right && left.driverProvider = right.driverProvider &&
      left.driverVersion = right.driverVersion && left.publishedInf = right.publishedInf

/-- `same_stable_device_set`. -/
def sameStableDeviceSet : List PciDeviceBinding → List PciDeviceBinding → Bool :=
  sameDevices samePnpDevice

/-- `same_driver_cleanup_binding`. -/
def sameDriverCleanupBinding (expected current : PciDeviceBinding) : Bool :=
  samePnpDevice expected current && expected.driverProvider = current.driverProvider &&
    expected.driverVersion = current.driverVersion &&
    eqIgnoreAsciiCase expected.publishedInf current.publishedInf

/-- `same_driver_cleanup_preparation`. -/
def sameDriverCleanupPreparation (target : PciDeviceBinding)
    (packages : List PciDeviceBinding) (currentTarget : PciDeviceBinding)
    (currentPackages : List PciDeviceBinding) : Bool :=
  sameDriverCleanupBinding target currentTarget &&
    sameDevices sameDriverCleanupBinding packages currentPackages

/-- The proposal of a network adapter that a receipt keeps. -/
def nicProposal (binding : NicAffinityBinding) : ObservationSubject :=
  .nicAffinityProposal binding.adapter 0 (binding.finalLogicalProcessor.toUInt16 + 1)
    binding.finalLogicalProcessor.toUInt16
    (UInt64.ofNat (leValue binding.assignmentSetOverride))

/-- The adapter of a proposal is the current one, and its processors are. -/
def sameNicProposal (adapter : NetworkAdapterBinding)
    (processorGroup logicalProcessorCount targetProcessor : UInt16) (assignmentMask : UInt64)
    (current : NicAffinityBinding) : Bool :=
  processorGroup = 0 &&
    logicalProcessorCount = current.finalLogicalProcessor.toUInt16 + 1 &&
    targetProcessor = current.finalLogicalProcessor.toUInt16 &&
    assignmentMask = UInt64.ofNat (leValue current.assignmentSetOverride) &&
    samePnpDevice adapter.device current.adapter.device &&
    eqIgnoreAsciiCase adapter.adapterName current.adapter.adapterName &&
    eqIgnoreAsciiCase adapter.interfaceGuid current.adapter.interfaceGuid &&
    adapter.interfaceLuid = current.adapter.interfaceLuid &&
    adapter.interfaceIndex = current.adapter.interfaceIndex &&
    adapter.physicalAddress = current.adapter.physicalAddress

/-- `ObservationReceipt::new`, without a transaction or a generation. -/
def newReceipt (digest : Digest) (capturedAtUtc : String) (subject : ObservationSubject) :
    Except EvidenceError ObservationReceipt := do
  let identity : ReceiptIdentity :=
    { schemaVersion := EVIDENCE_SCHEMA_VERSION, step := subject.expectedStep,
      capturedAtUtc := capturedAtUtc, transactionId := none, runtimeGeneration := none,
      subject := subject }
  let receiptId ← (digest identity).mapError fun _ => EvidenceError.receiptMismatch
  let receipt : ObservationReceipt :=
    { schemaVersion := EVIDENCE_SCHEMA_VERSION, receiptId := receiptId,
      step := subject.expectedStep, capturedAtUtc := capturedAtUtc, transactionId := none,
      runtimeGeneration := none, subject := subject }
  receipt.validateFor digest receipt.step
  return receipt

/-- A receipt of the current time, or the error of its capture. -/
def receiptOf (key : String) (subject : ObservationSubject) (s : σ) :
    Except String ObservationReceipt :=
  (newReceipt n.digest (n.timestamp s) subject).mapError fun error =>
    "capture " ++ key ++ " prerequisite evidence: " ++ error.message

/-- `nvidia_display_binding`. -/
def nvidiaDisplayBinding (s : σ) : Except String PciDeviceBinding := do
  let devices ← (enumeratePresentStatusOkPci n.interrupts s).mapError fun error =>
    "enumerate NVIDIA display adapters: " ++ error.message
  match devices.filter fun known => known.1 = .display && known.2.vendorId = 0x10de with
  | [known] => return known.2
  | [] => .error "P1:20 requires one present NVIDIA display adapter"
  | _ => .error "P1:20 refuses an ambiguous NVIDIA display-adapter set"

/-- `DrsError`, displayed. -/
def drsText (error : DrsError) : String := error.operation ++ ": " ++ error.reason

/-- `NativeNvapiDrs::load`, and an operation on it. -/
def withNvapi {α : Type} (m : Prog σ DrsError α) : Prog σ String α :=
  relabel drsText (do
    n.loadNvapi
    m)

inductive DrsPreparation where
  | existingProfile (profile : String)
  | dedicatedProfileWillBeCreated
  deriving DecidableEq

/-- `prepare_cs2_profile`. -/
def prepareCs2Profile : Prog σ DrsError DrsPreparation :=
  withSession n.drs fun session => do
    match ← findExistingProfile n.drs session with
    | some profile => do
        let name ← n.drs.profileName session profile
        return .existingProfile name
    | none => return .dedicatedProfileWillBeCreated

/-- The profile that a receipt of P1:20 names. -/
def DrsPreparation.profileName : DrsPreparation → String
  | .existingProfile profile => profile
  | .dedicatedProfileWillBeCreated => "Counter-Strike 2"

/-- `capture_nvidia_drs_preparation_receipt`. -/
def captureNvidiaDrsPreparationReceipt : Prog σ String ObservationReceipt := do
  let targetGpu ← consult (nvidiaDisplayBinding n)
  let preparation ← withNvapi n (prepareCs2Profile n)
  let moduleSha256 ← gets n.nvapiModuleSha256
  consult (receiptOf n "P1:20" (.nvidiaDrsPreparation targetGpu targetGpu.driverVersion
    moduleSha256 n.nvapiInterfaceVersion preparation.profileName "cs2.exe"))

/-- The receipt that a later step requires, with its validation. -/
def storedReceipt (step : String) (s : σ) : Except String ObservationReceipt := do
  let loaded ← loadObservationReceipt n step s
  let receipt ← okOr loaded (step ++ " durable prerequisite evidence is missing")
  (receipt.validateFor n.digest step).mapError fun error =>
    "validate " ++ step ++ " prerequisite evidence: " ++ error.message
  return receipt

/-- `require_stored_preparation`. -/
def requireStoredPreparation (step : String) : Prog σ String Unit := do
  let receipt ← consult (storedReceipt n step)
  match step, receipt.subject with
  | "P1:20", .nvidiaDrsPreparation .. => do
      let current ← captureNvidiaDrsPreparationReceipt n
      ofExcept (reject (current.subject ≠ receipt.subject)
        "P1:20 durable NVIDIA DRS evidence changed before P3:4")
  | "P1:21", .msiDeviceSet devices => do
      let batches ← consult (discoverNativeMsiBatches n.interrupts)
      ofExcept (reject (!sameStableDeviceSet devices (sortedMsiDevices batches))
        "P1:21 durable PCI device identities changed before P3:2")
  | "P1:22", .nicAffinityProposal adapter processorGroup logicalProcessorCount
      targetProcessor assignmentMask => do
      let current ← consult (discoverNativeNicAffinity n.interrupts)
      ofExcept (reject (!sameNicProposal adapter processorGroup logicalProcessorCount
          targetProcessor assignmentMask current)
        "P1:22 durable NIC or processor-topology evidence changed before P3:3")
  | _, _ => raise (step ++ " durable prerequisite evidence has the wrong typed subject")

/-! ## CS2 -/

/-- `discover_cs2_install_from_hkcu`. -/
def discoverCs2InstallFromHkcu (s : σ) : Except String (Option Domain.Cs2Install) := do
  let value ← n.registryRead steamPathChange s
  match steamPathOf value with
  | none => return none
  | some steamPath =>
      (n.discoverCs2Install steamPath s).mapError fun error =>
        "validate CS2 install from HKCU SteamPath: " ++ error

def NO_CS2_INSTALL : String := "no trusted CS2 install exists under HKCU SteamPath"

/-- The executable of an install. -/
def executablePath (install : Domain.Cs2Install) : FilePath :=
  joinNames install.installRoot ["game", "bin", "win64", "cs2.exe"]

/-- `discover_cs2_registry_binding`. -/
def discoverCs2RegistryBinding (s : σ) : Except String Cs2RegistryBinding := do
  let found ← discoverCs2InstallFromHkcu n s
  let install ← okOr found NO_CS2_INSTALL
  let canonical ← (n.canonicalize (executablePath install) s).mapError fun error =>
    "canonicalize trusted CS2 executable: " ++ error
  return { steamRoot := install.steamRoot, cs2Executable := canonical }

/-- `is_confirmed_hybrid_vendor_set`. -/
def isConfirmedHybridVendorSet (vendors : List UInt16) : Bool :=
  vendors.contains 0x8086 && vendors.any fun vendor => vendor = 0x1002 || vendor = 0x10de

/-- `has_supported_hybrid_gpu_topology`. -/
def hasSupportedHybridGpuTopology (s : σ) : Except String Bool := do
  let devices ← (enumeratePresentStatusOkPci n.interrupts s).mapError fun error =>
    "discover display adapters for hybrid GPU preference: " ++ error.message
  return isConfirmedHybridVendorSet
    ((devices.filter fun known => known.1 = .display).map fun known => known.2.vendorId)

/-- `require_hybrid_gpu_for_preference`. -/
def requireHybridGpuForPreference (action : Cs2RegistryAction) (s : σ) :
    Except String Unit :=
  match action with
  | .highPerformanceGpu => do
      let hybrid ← hasSupportedHybridGpuTopology n s
      reject (!hybrid) ("CS2 high-performance GPU preference requires a confirmed " ++
        "Intel-plus-discrete hybrid topology")

/-- `cs2_registry_changes`. -/
def cs2RegistryChanges (binding : Cs2RegistryBinding) : Cs2RegistryAction → RegistryChange
  | .highPerformanceGpu =>
      { hive := .currentUser
        key := DIRECTX_GPU_PREFERENCES_KEY
        name := binding.cs2Executable
        value := .string "GpuPreference=2;" }

/-- `reobserve_cs2_registry_binding`. -/
def reobserveCs2RegistryBinding (binding : Cs2RegistryBinding) (s : σ) :
    Except String Unit := do
  let current ← discoverCs2RegistryBinding n s
  reject (current ≠ binding) "CS2 registry binding changed after capture; refusing mutation"

/-- `LEGACY_CS2_CONFIG_ASSETS`. -/
def LEGACY_CS2_CONFIG_ASSETS : List OptionalCfgAsset :=
  [.netStable, .netHighPing, .netUnstable, .netBad, .debugHud, .debugHudOff, .audioStable,
    .audioLowLatency025, .audioLowLatency001]

/-- `fixed_cs2_config_request`.  The error stands for its panic, where the local time is
not written with a year of four digits. -/
def fixedCs2ConfigRequest (now : String) : Except String Cs2ConfigRequest :=
  if h : validTimestamp (String.ofList (now.toList.take 16)) = true then
    .ok { generatedAt := String.ofList (now.toList.take 16),
          optionalAssets := LEGACY_CS2_CONFIG_ASSETS.toFinset,
          bootstrapAutoexec := false, timed := h }
  else .error "Windows timestamp has the domain request shape"

/-- `discover_trusted_cs2_config_install`. -/
def discoverTrustedCs2ConfigInstall (s : σ) : Except String (Option Domain.Cs2Install) := do
  match ← discoverCs2InstallFromHkcu n s with
  | none => return none
  | some install => do
      let _ ← (Cs2ConfigController.new install).mapError fun error =>
        "validate CS2 config install binding: " ++ n.describeCfg error
      return some install

/-- `discover_cs2_config_binding`. -/
def discoverCs2ConfigBinding (s : σ) : Except String (Option Cs2ConfigBinding) := do
  match ← discoverTrustedCs2ConfigInstall n s with
  | none => return none
  | some install => do
      let request ← fixedCs2ConfigRequest (n.timestamp s)
      return some { install := install, request := request }

/-- `reobserve_cs2_config_binding`. -/
def reobserveCs2ConfigBinding (binding : Cs2ConfigBinding) (s : σ) : Except String Unit := do
  let found ← discoverCs2ConfigBinding n s
  let current ← okOr found
    "CS2 config install disappeared after capture; refusing mutation"
  reject (current.install ≠ binding.install)
    "CS2 config install binding changed after capture; refusing mutation"

/-- `NativeCs2ConfigFs::new`. -/
def bindCs2ConfigFs (install : Domain.Cs2Install) (s : σ) : Except String (Files FilePath) :=
  (n.newCs2ConfigFs install s).mapError ("bind trusted P1:34 CS2 CFG filesystem: " ++ ·)

/-- `Cs2ConfigController::new`. -/
def newCs2ConfigController (stage : String) (install : Domain.Cs2Install) :
    Except String Cs2ConfigController :=
  (Cs2ConfigController.new install).mapError fun error =>
    stage ++ " P1:34 CS2 config controller: " ++ n.describeCfg error

/-- `verify_cs2_config`. -/
def verifyCs2Config (binding : Cs2ConfigBinding) (s : σ) : Except String Unit := do
  reobserveCs2ConfigBinding n binding s
  let controller ← newCs2ConfigController n "revalidate" binding.install
  let files ← bindCs2ConfigFs n binding.install s
  (controller.verify n.cfgAssets binding.request files).1.mapError fun error =>
    "verify P1:34 CS2 config transaction: " ++ n.describeCfg error

/-- `verify_cs2_registry`. -/
def verifyCs2Registry (binding : Cs2RegistryBinding) (action : Cs2RegistryAction) (s : σ) :
    Except String Unit := do
  requireHybridGpuForPreference n action s
  reobserveCs2RegistryBinding n binding s
  let change := cs2RegistryChanges binding action
  let value ← n.registryRead change s
  reject (value ≠ some change.value)
    "CS2 registry value readback did not match the exact requested value"

end

end FrametimeCfg.Windows.LiveBackend
