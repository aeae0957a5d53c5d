import FrametimeCfg.Domain.AuditFile
import FrametimeCfg.Domain.Benchmark
import FrametimeCfg.Domain.Cs2ConfigBackup
import FrametimeCfg.Domain.EvidenceFile
import FrametimeCfg.Windows.Chipset
import FrametimeCfg.Windows.DriverTransaction
import FrametimeCfg.Windows.Drs
import FrametimeCfg.Windows.Interrupts
import FrametimeCfg.Windows.Observations
import FrametimeCfg.Windows.Pagefile
import FrametimeCfg.Windows.RegistryRestore
import FrametimeCfg.Windows.Smbios

/-!
# The host of the live backend

`Native` lists what the live backend asks of Windows and of its work directory.  An
observation is a function of the host state `σ`, which it leaves as it is; a change is a
program over that state.  Both may fail.

`Live` is the backend itself: the bindings it keeps between the calls of the engine, and
the two files of the work directory that its transactions turn on, the lock and the audit
document.  The lock is a marker that is created anew and is not reentrant.  The backend
holds it as `transactionLock`; `reentered` remembers that it was asked for while it was
held, which no function of the program reads.
-/

namespace FrametimeCfg.Windows

open FrametimeCfg.Domain
open FrametimeCfg.Lib.Checks
open FrametimeCfg.Lib.Effect
open FrametimeCfg.Lib.FileCalls
open FrametimeCfg.Lib.OrderedMap
open FrametimeCfg.Lib.Text

/-! ## The native side -/

/-- What the signed installer leaves: its artifact, the packages and the signature. -/
structure Reinspection where
  artifact : InstalledArtifactObservation
  packages : List PublishedDriverPackage
  authenticode : AuthenticodeEvidence

/-- What the live backend calls outside its own modules. -/
structure Native (σ Session Profile : Type) where
  digest : Digest
  digests : DriverDigests
  cfgDigests : CfgDigests
  cfgAssets : CfgAssets
  /-- The local time, as `timestamp` renders it. -/
  timestamp : σ → String
  requireElevation : σ → Except String Unit
  /-- A tool that only prints. -/
  query : CommandVector → σ → Except String String
  execute : CommandVector → Prog σ String String
  registryRead : RegistryChange → σ → Except String (Option RegValue)
  registryReadExact : RegistryChange → σ → Except String (Option RegValue)
  registryWrite : RegistryChange → Prog σ String Unit
  interrupts : InterruptHost σ
  networkStack : NetworkStackHost σ
  describeNetworkStack : NetworkStackError → String
  connectPagefile : Prog σ String Unit
  pagefile : PagefileStore σ
  loadNvapi : Prog σ DrsError Unit
  nvapiModuleSha256 : σ → String
  nvapiInterfaceVersion : String
  drs : NvapiDrs σ Session Profile
  enumerateChipsetDriverRecords : σ → Except String (List RawChipsetDriverRecord)
  readRawSmbios : σ → Except String (List UInt8)
  compatibleAdapterStates : σ → Except String (List HagsAdapterState)
  /-- The target and its packages, as SetupAPI shows them. -/
  inspectDriverCleanupPreparation :
    σ → Except String (PciDeviceBinding × List PciDeviceBinding)
  discoverCs2Install : String → σ → Except String (Option Domain.Cs2Install)
  canonicalize : FilePath → σ → Except String String
  /-- The files below the trusted install, and their state after a change. -/
  newCs2ConfigFs : Domain.Cs2Install → σ → Except String (Files FilePath)
  putCs2ConfigFs : Files FilePath → σ → σ
  describeCfg : Cs2ConfigError → String
  describeCfgBackup : Cs2ConfigBackupError → String
  readState : σ → Except String (Option State)
  readProgress : σ → Except String (Option Progress)
  readHistory : σ → Except String (Option (List BenchmarkRecord))
  hagsReceipts : σ → Except String (List HagsReceipt)
  readEvidence : σ → Except String (Option EvidenceFile)
  writeEvidence : EvidenceFile → Prog σ String Unit
  acquireWorkDir : σ → Except String Unit
  readDriverTransaction : σ → Except String (Option DriverTransaction)
  writeDriverTransaction : DriverTransaction → Prog σ String Unit
  driver : DriverAdapters σ
  /-- The artifact is acquired, and its installer runs. -/
  installAndReinspect : SignedArtifactDescriptor → ArtifactAcquisitionAuthorization → String →
    Prog σ String Reinspection
  readBackup : σ → Except String (Option BackupFile)
  /-- The suite GUIDs of a repeated P1:6 record are added to the record of the file. -/
  mergeSuiteOwned : BackupFile → BackupEntry → Except String BackupFile
  writeBackup : BackupFile → Prog σ String Unit
  writeProgress : Progress → Prog σ String Unit
  /-- The audit document can be read. -/
  openAudit : σ → Except String Unit
  /-- The atomic write of the audit document. -/
  writeAudit : Value → Prog σ String Unit
  /-- The creation of the lock file where there is none. -/
  createLock : Prog σ String Unit

/-! ## The backend -/

/-- Who gave the authority to mutate. -/
inductive MutationAuthority where
  | package
  | runtime
  deriving DecidableEq, Repr

structure Cs2RegistryBinding where
  steamRoot : FilePath
  cs2Executable : String
  deriving DecidableEq

structure Cs2ConfigBinding where
  install : Domain.Cs2Install
  request : Cs2ConfigRequest

/-- `LiveBackend`, with the host and the lock and audit files of its work
directory. -/
structure Live (σ : Type) where
  host : σ
  /-- The lock file exists. -/
  lockFile : Bool := false
  /-- The audit document, if there is one. -/
  auditFile : Option Value := none
  authority : MutationAuthority
  capturedSteps : List String := []
  capturedMsiBatches : BTreeMap (List MsiDeviceBatch) := ∅
  capturedNicAffinityBindings : BTreeMap NicAffinityBinding := ∅
  observedMsiPreparation : Option (List MsiDeviceBatch) := none
  observedNicAffinityPreparation : Option NicAffinityBinding := none
  capturedPagefileBindings : BTreeMap PagefileBinding := ∅
  createdPagefileTokens : BTreeMap CreatedPagefileToken := ∅
  capturedCs2Bindings : BTreeMap Cs2RegistryBinding := ∅
  capturedCs2ConfigBindings : BTreeMap Cs2ConfigBinding := ∅
  capturedDrsBackups : BTreeMap DrsBackup := ∅
  capturedNetworkStackBindings : BTreeMap NetworkAdapterBinding := ∅
  chipsetInventory : Option (Option ChipsetInventory) := none
  memoryTopology : Option (Option Smbios.MemoryTopology) := none
  /-- The backend holds the lock. -/
  transactionLock : Bool := false
  state : State
  config : Config
  hardware : HardwareInfo
  /-- The lock was asked for while the backend held it. -/
  reentered : Bool := false

/-- A call of the backend. -/
abbrev LiveM (σ α : Type) : Type := Prog (Live σ) String α

section

variable {σ Session Profile α : Type}

/-- A question to the host. -/
def ask (f : σ → Except String α) : LiveM σ α := consult fun s => f s.host

/-- A call that may change the host. -/
def onHost (m : Prog σ String α) : LiveM σ α := fun s =>
  match m s.host with
  | (r, host) => (r, { s with host := host })

/-- Stop with an error after a change of the backend, as `inspect_err` does. -/
def onError (change : Live σ → Live σ) (m : LiveM σ α) : LiveM σ α := fun s =>
  match m s with
  | (.ok a, t) => (.ok a, t)
  | (.error e, t) => (.error e, change t)

/-! ## The lock -/

/-- The lock of the backend is dropped: the file goes with it. -/
def Live.releaseLock (s : Live σ) : Live σ :=
  if s.transactionLock then { s with transactionLock := false, lockFile := false } else s

/-- `WorkLock::acquire`: the file is created, and an existing one is an error. -/
def acquireWorkLock (n : Native σ Session Profile) : LiveM σ Unit := do
  update fun s => { s with reentered := s.reentered || s.transactionLock }
  let taken ← gets Live.lockFile
  if taken then raise "live transaction lock unavailable: The file exists."
  else do
    onHost n.createLock
    update fun s => { s with lockFile := true }

/-- A body under a lock of its own, which is dropped whatever the body did. -/
def withWorkLock (n : Native σ Session Profile) (body : LiveM σ α) : LiveM σ α := do
  acquireWorkLock n
  let result ← attempt body
  update fun s => { s with lockFile := false }
  ofExcept result

/-- The lock is acquired for the transaction. -/
def acquireTransactionLock (n : Native σ Session Profile) : LiveM σ Unit := do
  acquireWorkLock n
  update fun s => { s with transactionLock := true }

/-! ## Transactions -/

/-- `clear_transaction_state`. -/
def Live.clearTransactionState (s : Live σ) : Live σ :=
  { s.releaseLock with
    capturedSteps := []
    capturedMsiBatches := ∅
    capturedNicAffinityBindings := ∅
    createdPagefileTokens := ∅
    capturedCs2Bindings := ∅
    capturedCs2ConfigBindings := ∅
    capturedDrsBackups := ∅
    capturedNetworkStackBindings := ∅ }

/-- `abandon_transaction`. -/
def Live.abandonTransaction (key : String) (s : Live σ) : Live σ :=
  { s.releaseLock with
    capturedSteps := s.capturedSteps.filter (· ≠ key)
    capturedMsiBatches := s.capturedMsiBatches.erase key
    capturedNicAffinityBindings := s.capturedNicAffinityBindings.erase key
    createdPagefileTokens := s.createdPagefileTokens.erase key
    capturedCs2Bindings := s.capturedCs2Bindings.erase key
    capturedCs2ConfigBindings := s.capturedCs2ConfigBindings.erase key
    capturedDrsBackups := s.capturedDrsBackups.erase key
    capturedNetworkStackBindings := s.capturedNetworkStackBindings.erase key }

/-- `runtime_authority`. -/
def runtimeAuthority : LiveM σ Unit := do
  let authority ← gets Live.authority
  ofExcept (reject (authority ≠ .runtime)
    "resumed driver mutation requires a verified selected runtime authority")

/-- `configured_gpu_branch`: the selected branch, else that of the hardware. -/
def Live.configuredGpuBranch (s : Live σ) : Option GpuBranch :=
  ((s.state.gpuInput.bind fun value => parseU8 value.toList).bind fun value =>
    (GpuBranch.tryFrom value).toOption).or s.hardware.gpuBranch

end

/-! ## A plain host -/

/-- A device of the plain host. -/
def plainDevice (deviceClass : PciDeviceClass) (instanceId : String)
    (vendorId deviceId : UInt16) (driverProvider : String) : PciDeviceBinding where
  schemaVersion := 1
  instanceId := instanceId
  containerId := "\x7b01234567-89ab-cdef-0123-456789abcdef\x7d"
  classGuid := deviceClass.classGuid
  vendorId := vendorId
  deviceId := deviceId
  subsystemVendorId := vendorId
  subsystemDeviceId := 0
  revisionId := 0xa1
  driverProvider := driverProvider
  driverVersion := "31.0.15.0"
  publishedInf := "oem7.inf"
  observedAtUtc := "2026-08-13T12:00:00Z"

def plainIntelGpu : PciDeviceBinding :=
  plainDevice .display "PCI\\VEN_8086&DEV_4680&SUBSYS_00008086&REV_A1\\3&1&0&10" 0x8086 0x4680
    "Intel"

def plainNvidiaGpu : PciDeviceBinding :=
  plainDevice .display "PCI\\VEN_10DE&DEV_2684&SUBSYS_000010DE&REV_A1\\4&1&0&0008" 0x10de 0x2684
    "NVIDIA"

def plainNetworkDevice : PciDeviceBinding :=
  plainDevice .network "PCI\\VEN_8086&DEV_15F3&SUBSYS_00008086&REV_A1\\4&2&0&0008" 0x8086 0x15f3
    "Intel"

/-- The wired adapter of the plain host. -/
def plainAdapter : NetworkAdapterBinding where
  schemaVersion := 1
  adapterName := "\x7b01234567-89ab-cdef-0123-456789abcdef\x7d"
  interfaceGuid := "\x7b01234567-89ab-cdef-0123-456789abcdef\x7d"
  interfaceLuid := 7
  interfaceIndex := 3
  friendlyName := "Ethernet"
  interfaceDescription := "Ethernet Controller"
  physicalAddress := [2, 0, 0, 0, 0, 1]
  device := plainNetworkDevice
  observedAtUtc := "2026-08-13T12:00:00Z"

/-- The install of the plain host. -/
def plainInstall : Domain.Cs2Install where
  steamRoot := [.device "C:", .rootDir, .normal "Steam"]
  libraryRoot := [.device "C:", .rootDir, .normal "Steam"]
  installRoot := joinNames [.device "C:", .rootDir, .normal "Steam"]
    ["steamapps", "common", CS2_DIRECTORY]

/-- The inventory of a host whose page file Windows manages. -/
def plainInventory : PagefileInventory where
  automaticManaged := true
  computerObjectPath := "Win32_ComputerSystem"
  computerRelativePath := "Win32_ComputerSystem.Name=\"PC\""
  systemDrive := "C:"
  physicalRamMb := 32768
  freeSpaceMb := 200000
  settings := []

/-- The listing of the display adapters of the plain host. -/
def plainListing : String :=
  "Device Description: Intel UHD\nDevice Description: NVIDIA GeForce\n"

/-- A host with an Intel and an NVIDIA adapter and an install of CS2.  A change returns and
is not kept. -/
def plainNative : Native Unit Unit Unit where
  digest _ := .error .invalidReceiptId
  digests :=
    { planInput := fun _ => ⟨String.ofList (List.replicate 64 '0'), by decide +kernel⟩
      packageSet := fun _ => ⟨String.ofList (List.replicate 64 '0'), by decide +kernel⟩ }
  cfgDigests := { sha256 := id, encodedBytes := fun _ => [] }
  cfgAssets _ := []
  timestamp _ := "2026-08-13 12:00:00"
  requireElevation _ := .ok ()
  query _ _ := .ok plainListing
  execute _ := pure ""
  registryRead change _ :=
    .ok (if change = steamPathChange then some (.string "C:\\Steam") else none)
  registryReadExact _ _ := .ok (some (.string "GenuineIntel"))
  registryWrite _ := pure ()
  interrupts :=
    { enumeratePciDevices := fun _ => .ok
        ([plainIntelGpu, plainNvidiaGpu, plainNetworkDevice].map fun device =>
          { binding := device, present := true, statusOk := true })
      enumerateNetworkAdapters := fun _ => .ok
        [{ binding := plainAdapter, isUp := true, isPhysical := true, isWired := true }]
      processorTopology := fun _ => .ok
        { groups := [{ groupNumber := 0, activeLogicalProcessors := 16 }] }
      readInterruptValue := fun _ _ _ => .ok none
      writeInterruptValue := fun _ _ _ => pure ()
      deleteInterruptValue := fun _ _ => pure () }
  networkStack :=
    { discoverActiveWired := pure [plainAdapter]
      readSetting := fun _ _ => pure none
      writeSetting := fun _ _ _ => pure ()
      readNla := pure { keyExisted := false, valueExisted := false, originalValue := none }
      restoreNla := fun _ => pure ()
      readPolicy := fun _ => pure none
      deletePolicy := fun _ => pure ()
      restorePolicy := fun _ _ => pure () }
  describeNetworkStack _ := "network stack"
  connectPagefile := pure ()
  pagefile :=
    { inventory := pure plainInventory
      setAutomatic := fun _ _ _ _ => pure ()
      update := fun _ _ _ => pure ()
      create := fun path size _ => pure
        { objectPath := path, relativePath := path, path := path, initialSize := size,
          maximumSize := size }
      delete := fun _ => pure () }
  loadNvapi := pure ()
  nvapiModuleSha256 _ := String.ofList (List.replicate 64 '0')
  nvapiInterfaceVersion := "1"
  drs :=
    { initializeApi := pure ()
      createSession := pure ()
      destroySession := fun _ => pure ()
      loadSettings := fun _ => pure ()
      saveSettings := fun _ => pure ()
      findProfileByName := fun _ _ => pure none
      profileName := fun _ _ => pure CS2_PROFILE_NAME
      findApplicationProfile := fun _ _ => pure none
      createProfile := fun _ _ => pure ()
      bindApplication := fun _ _ _ => pure ()
      deleteApplication := fun _ _ _ => pure ()
      deleteProfile := fun _ _ => pure ()
      readDword := fun _ _ _ => pure none
      setDword := fun _ _ _ _ => pure ()
      restoreDword := fun _ _ _ => pure () }
  enumerateChipsetDriverRecords _ := .ok []
  readRawSmbios _ := .error "no SMBIOS table"
  compatibleAdapterStates _ := .ok []
  inspectDriverCleanupPreparation _ := .error "no target"
  discoverCs2Install _ _ := .ok (some plainInstall)
  canonicalize _ _ := .ok "C:\\Steam\\cs2.exe"
  newCs2ConfigFs _ _ := .ok { content := fun _ => none }
  putCs2ConfigFs _ _ := ()
  describeCfg _ := "cfg"
  describeCfgBackup _ := "cfg backup"
  readState _ := .ok none
  readProgress _ := .ok none
  readHistory _ := .ok none
  hagsReceipts _ := .ok []
  readEvidence _ := .ok none
  writeEvidence _ := pure ()
  acquireWorkDir _ := .ok ()
  readDriverTransaction _ := .ok none
  writeDriverTransaction _ := pure ()
  driver :=
    { currentUtc := pure "2026-08-13T12:00:00Z"
      observeSafeMode := fun _ => raise { operation := "safe mode", reason := "not observed" }
      removePublishedPackage := fun _ _ => raise { operation := "remove", reason := "absent" }
      inspectPublishedPackages := fun _ => pure [] }
  installAndReinspect _ _ _ := raise "no installer"
  readBackup _ := .ok none
  mergeSuiteOwned file _ := .ok file
  writeBackup _ := pure ()
  writeProgress _ := pure ()
  openAudit _ := .ok ()
  writeAudit _ := pure ()
  createLock := pure ()

/-- The backend on the plain host, on its NVIDIA branch. -/
def plainLive (state : State) : Live Unit where
  host := ()
  authority := .package
  state := state
  config := shippedConfig
  hardware := hardwareOfListing plainListing

theorem plainIntelGpu_valid : plainIntelGpu.validate = .ok () := by decide +kernel

theorem plainNvidiaGpu_valid : plainNvidiaGpu.validate = .ok () := by decide +kernel

end FrametimeCfg.Windows
