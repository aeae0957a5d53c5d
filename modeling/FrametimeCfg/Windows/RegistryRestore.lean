import FrametimeCfg.Domain.Fps
import FrametimeCfg.Windows.Registry

/-!
# Restoring a registry value

A record of the registry is restored only where its key and its name are the
ones its step binds: the changes of the catalog, or the closed lists and the
live identities that an older step recorded.  A value that existed is written
with its recorded type; one that did not is deleted.
-/

namespace FrametimeCfg.Windows

open FrametimeCfg.Domain
open FrametimeCfg.Lib.Effect
open FrametimeCfg.Lib.OrderedMap
open FrametimeCfg.Lib.Text
open FrametimeCfg.Lib.Wide
open FrametimeCfg.Lib.Checks

/-- A recorded value with the identity it is restored to. -/
structure RegistryRestore where
  step : String
  path : String
  name : String
  value : Value
  originalType : Option String
  existed : Bool
  unknown : BTreeMap Value
  config : Config

/-! ## Bindings -/

/-- `parse_registry_path`. -/
def parseRegistryPath (path : String) : Except String (Hive × String) :=
  match stripPrefix "HKLM:\\".toList path.toList, stripPrefix "HKLM\\".toList path.toList,
    stripPrefix "HKCU:\\".toList path.toList, stripPrefix "HKCU\\".toList path.toList with
  | some key, _, _, _ | none, some key, _, _ => .ok (.localMachine, String.ofList key)
  | none, none, some key, _ | none, none, none, some key =>
      .ok (.currentUser, String.ofList key)
  | none, none, none, none => .error "registry hive is not allowlisted"

/-- `validate_registry_restore_binding`. -/
def validateRegistryRestoreBinding (step : String) (hive : Hive) (key name : String) :
    Except String Unit :=
  let expected := stepCatalog.any fun catalogStep =>
    catalogStep.id.progressKey = step &&
      match (descriptorFor catalogStep).map ActionDescriptor.action with
      | .ok (.registryBatch changes) => changes.any fun change =>
          change.hive = hive && change.key = key && change.name = name
      | _ => false
  if expected then .ok ()
  else .error "registry restore step and identity are not an exact catalog binding"

def PROCESS_PRIORITY_KEY : String :=
  "SOFTWARE\\Microsoft\\Windows NT\\CurrentVersion\\Image File Execution Options\\" ++
    "cs2.exe\\PerfOptions"

/-- `validate_process_priority_restore_binding`. -/
def validateProcessPriorityRestoreBinding (hive : Hive) (key name : String) :
    Except String Unit :=
  if hive = .localMachine ∧ key = PROCESS_PRIORITY_KEY ∧ name = "CpuPriorityClass" then .ok ()
  else .error "P3:10 restore is not the exact CpuPriorityClass binding"

/-- The identities of `validate_debloat_policy_restore`. -/
def DEBLOAT_POLICIES : List (Hive × String × String) :=
  [(.localMachine, "SOFTWARE\\Policies\\Microsoft\\Windows\\CloudContent",
      "DisableWindowsConsumerFeatures"),
    (.localMachine, "SOFTWARE\\Policies\\Microsoft\\Windows\\CloudContent",
      "DisableSoftLanding"),
    (.currentUser, "SOFTWARE\\Microsoft\\Windows\\CurrentVersion\\AdvertisingInfo",
      "Enabled")]

/-- `validate_debloat_policy_restore`. -/
def validateDebloatPolicyRestore (hive : Hive) (key name : String) : Except String Unit :=
  if (hive, key, name) ∈ DEBLOAT_POLICIES then .ok ()
  else .error "P1:13 registry restore is not an exact consumer-policy identity"

def AUTOSTART_RUN_KEY : String := "SOFTWARE\\Microsoft\\Windows\\CurrentVersion\\Run"

/-- `valid_autostart_name`. -/
def validAutostartName (name : String) : Bool :=
  !name.isEmpty && byteLen name ≤ 128 && name.toList.all fun c =>
    c.isAlphanum || c = ' ' || c = '_' || c = '-' || c = '.'

/-- The loop of `validated_autostart_names`; `names` holds the earlier ones. -/
def autostartNames (names : List String) : List String → Except String (List String)
  | [] => .ok names
  | candidate :: rest =>
      if !validAutostartName candidate || names.any (eqIgnoreAsciiCase · candidate) then
        .error "P1:14 restore configuration has an unsafe or duplicate Run name"
      else autostartNames (names ++ [candidate]) rest

/-- `validated_autostart_names`. -/
def validatedAutostartNames (config : Config) : Except String (List String) := do
  match config.validate with
  | .ok () => autostartNames [] config.autostartRemove
  | .error error => .error ("invalid config: " ++ error.message)

/-- `validate_autostart_restore_binding`. -/
def validateAutostartRestoreBinding (config : Config) (key name : String) :
    Except String Unit := do
  reject (key ≠ AUTOSTART_RUN_KEY) "P1:14 restore key is not an exact Run binding"
  reject (!validAutostartName name) "P1:14 restore name is unsafe"
  let names ← validatedAutostartNames config
  reject (name ∉ names) "P1:14 restore name is not present in validated config"

/-! ## Live identities -/

structure NagleBinding where
  interfaceGuid : String
  luid : UInt64
  ifIndex : UInt32
  linkSpeed : UInt64
  registryKey : String

structure Cs2Install where
  steamRoot : String
  installRoot : String

/-- What the restore asks of the system: the interface of a record, the install
under a Steam root, and the canonical form of a path. -/
structure RestoreNatives where
  reobserveNagle : NagleBinding → Except String Unit
  discoverCs2Install : String → Except String (Option Cs2Install)
  canonicalize : String → Except String String

def TCPIP_INTERFACE_PREFIX : String :=
  "SYSTEM\\CurrentControlSet\\Services\\Tcpip\\Parameters\\Interfaces\\"
def NAGLE_VALUE_NAMES : List String := ["TcpNoDelay", "TcpAckFrequency"]

/-- `nagle_registry_key`. -/
def nagleRegistryKey (guid : String) : Except String String :=
  if isBracedGuid guid then .ok (TCPIP_INTERFACE_PREFIX ++ guid)
  else .error "network interface GUID is not an exact registry identity"

/-- `validate_nagle_restore_binding`. -/
def validateNagleRestoreBinding (natives : RestoreNatives) (key name : String)
    (unknown : BTreeMap Value) : Except String Unit := do
  reject (name ∉ NAGLE_VALUE_NAMES) "Nagle restore value name is not allowlisted"
  let guid ← okOr ((unknown["interfaceGuid"]?).bind Value.asStr)
    "Nagle backup has no interface GUID"
  let luid ← okOr ((unknown["interfaceLuid"]?).bind Value.asU64)
    "Nagle backup has no interface LUID"
  let ifIndex ← okOr ((unknown["interfaceIndex"]?).bind Value.asU64)
    "Nagle backup has no interface index"
  reject (UInt32.size ≤ ifIndex.toNat) "Nagle backup interface index exceeds u32"
  let expected ← nagleRegistryKey guid
  reject (key ≠ expected) "Nagle backup registry key does not exactly bind its interface GUID"
  natives.reobserveNagle
    { interfaceGuid := guid
      luid := luid
      ifIndex := ifIndex.toUInt32
      linkSpeed := 0
      registryKey := key }

def STEAM_REGISTRY_KEY : String := "SOFTWARE\\Valve\\Steam"
def STEAM_PATH_VALUE : String := "SteamPath"
def APP_COMPAT_LAYERS_KEY : String :=
  "SOFTWARE\\Microsoft\\Windows NT\\CurrentVersion\\AppCompatFlags\\Layers"
def DIRECTX_GPU_PREFERENCES_KEY : String :=
  "Software\\Microsoft\\DirectX\\UserGpuPreferences"

/-- The change whose value names the Steam root. -/
def steamPathChange : RegistryChange where
  hive := .currentUser
  key := STEAM_REGISTRY_KEY
  name := STEAM_PATH_VALUE
  value := .string ""

/-- A path that is not empty. -/
def steamPathOf : Option RegValue → Option String
  | some (.string path) => if path.isEmpty then none else some path
  | _ => none

/-- `discover_cs2_install_from_hkcu`. -/
def discoverCs2InstallFromHkcu (natives : RestoreNatives) :
    Prog RegistryHost String (Option Cs2Install) := do
  let value ← registryRead steamPathChange
  match steamPathOf value with
  | none => pure none
  | some steamPath =>
      match natives.discoverCs2Install steamPath with
      | .ok install => pure install
      | .error error => raise ("validate CS2 install from HKCU SteamPath: " ++ error)

/-- `discover_cs2_registry_binding`: the canonical path of the executable. -/
def discoverCs2RegistryBinding (natives : RestoreNatives) :
    Prog RegistryHost String String := do
  let found ← discoverCs2InstallFromHkcu natives
  match found with
  | none => raise "no trusted CS2 install exists under HKCU SteamPath"
  | some install =>
      match natives.canonicalize (install.installRoot ++ "\\game\\bin\\win64\\cs2.exe") with
      | .ok canonical => pure canonical
      | .error error => raise ("canonicalize trusted CS2 executable: " ++ error)

/-- The key that a step of the CS2 executable binds. -/
def cs2RestoreKey (step : String) : Except String String :=
  if step = "P1:4" then .ok APP_COMPAT_LAYERS_KEY
  else if step = "P1:30" then .ok DIRECTX_GPU_PREFERENCES_KEY
  else .error "CS2 registry restore step is not allowlisted"

/-- `validate_cs2_restore_binding`. -/
def validateCs2RestoreBinding (natives : RestoreNatives) (step key name : String)
    (unknown : BTreeMap Value) : Prog RegistryHost String Unit := do
  let expected ← ofExcept (cs2RestoreKey step)
  ofExcept (reject (key ≠ expected) "CS2 registry restore key is not the exact catalog key")
  let captured ← ofExcept (okOr ((unknown["cs2Executable"]?).bind Value.asStr)
    "CS2 registry backup has no canonical executable identity")
  ofExcept (reject (name ≠ captured)
    "CS2 registry restore value name does not match captured executable identity")
  let executable ← discoverCs2RegistryBinding natives
  ofExcept (reject (executable ≠ captured)
    ("CS2 registry restore executable identity no longer matches " ++
      "HKCU SteamPath discovery"))

/-! ## Restoring -/

/-- The binding of the step. -/
def restoreBinding (natives : RestoreNatives) (restore : RegistryRestore) (hive : Hive)
    (key : String) : Prog RegistryHost String Unit :=
  if restore.step = "P1:25" then ofExcept (do
    reject (hive ≠ .localMachine) "Nagle restore hive is not allowlisted"
    validateNagleRestoreBinding natives key restore.name restore.unknown)
  else if restore.step = "P1:4" ∨ restore.step = "P1:30" then do
    ofExcept (reject (hive ≠ .currentUser) "CS2 registry restore hive is not allowlisted")
    validateCs2RestoreBinding natives restore.step key restore.name restore.unknown
  else if restore.step = "P1:14" then ofExcept (do
    reject (!restore.existed || !restore.unknown.isEmpty)
      "P1:14 backup is not an exact captured Run value"
    validateAutostartRestoreBinding restore.config key restore.name)
  else if restore.step = "P1:13" then ofExcept (do
    reject (!restore.unknown.isEmpty) "P1:13 registry backup has unrecognized fields"
    validateDebloatPolicyRestore hive key restore.name)
  else if restore.step = "P3:10" then ofExcept (do
    reject (!restore.unknown.isEmpty) "P3:10 backup has unrecognized fields"
    validateProcessPriorityRestoreBinding hive key restore.name)
  else ofExcept (validateRegistryRestoreBinding restore.step hive key restore.name)

/-- The bytes of a recorded array. -/
def recordedBytes : List Value → Except String (List UInt8)
  | [] => .ok []
  | item :: items => do
      let byte ← okOr item.asU64 "invalid registry binary byte"
      reject (256 ≤ byte.toNat) "registry binary byte exceeds u8"
      let bytes ← recordedBytes items
      return byte.toUInt8 :: bytes

/-- The value of a record of the type. -/
def restoredValue (value : Value) (originalType : String) : Except String RegValue :=
  if originalType = "DWord" ∨ originalType = "DWORD" then do
    let n ← okOr value.asU64 "invalid registry DWORD backup"
    reject (UInt32.size ≤ n.toNat) "registry DWORD exceeds u32"
    return .dword n.toUInt32
  else if originalType = "String" ∨ originalType = "REG_SZ" then do
    let text ← okOr value.asStr "invalid registry string backup"
    return .string text
  else if originalType = "Binary" ∨ originalType = "REG_BINARY" then do
    let items ← okOr value.asArray "invalid registry binary backup"
    let bytes ← recordedBytes items
    return .binary bytes
  else .error "unsupported registry value type retained"

/-- The restore of a value that did not exist. -/
def restoreAbsent (hive : Hive) (key name : String) : Prog RegistryHost String Unit := do
  registryDelete hive key name
  let remaining ← registryReadExact { hive := hive, key := key, name := name, value := .dword 0 }
  ofExcept (reject remaining.isSome "registry value remains after restore deletion")

/-- The steps whose restored value is read back. -/
def readsBack (step : String) : Bool :=
  step = "P1:14" || step = "P1:13" || step = "P3:7" || step = "P3:10"

/-- The restore of a value that existed. -/
def restoreExistingValue (restore : RegistryRestore) (hive : Hive) (key : String) :
    Prog RegistryHost String Unit := do
  let originalType ← ofExcept
    (okOr restore.originalType "existing registry backup has no value type")
  let value ← ofExcept (restoredValue restore.value originalType)
  let change : RegistryChange :=
    { hive := hive, key := key, name := restore.name, value := value }
  registryWrite change
  if readsBack restore.step then do
    let actual ← registryReadExact change
    ofExcept (reject (actual ≠ some value)
      "registry restore readback did not match the captured value")
  else pure ()

/-- `restore_registry`. -/
def restoreRegistry (natives : RestoreNatives) (restore : RegistryRestore) :
    Prog RegistryHost String Unit := do
  let (hive, key) ← ofExcept (parseRegistryPath restore.path)
  restoreBinding natives restore hive key
  if restore.existed then restoreExistingValue restore hive key
  else restoreAbsent hive key restore.name

/-- `restore_registry_entry`: what is restored of a registry record. -/
def registryRestoreOf (config : Config) : BackupEntry → Option RegistryRestore
  | .registry step _ path name value originalType existed unknown =>
      some { step, path, name, value, originalType, existed, unknown, config }
  | _ => none

end FrametimeCfg.Windows
