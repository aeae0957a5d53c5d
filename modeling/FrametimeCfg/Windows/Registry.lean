import FrametimeCfg.Domain.Backup
import FrametimeCfg.Lib.Effect
import FrametimeCfg.Lib.Wide
import FrametimeCfg.Windows.ActionCatalog
import Mathlib.Logic.Function.Basic

/-!
# Registry values

A registry value has a type and bytes.  The adapter knows three of the types;
before a change it captures the value it is about to replace as a backup entry.

The registry answers each call of the program with an error code, or does what
it was asked for.  `failures` says which of the calls to come fail; a call that
fails has no effect.  A key or a value that does not exist is answered with
`ERROR_FILE_NOT_FOUND`, which no failure uses.
-/

namespace FrametimeCfg.Windows

open FrametimeCfg.Domain
open FrametimeCfg.Lib.Effect
open FrametimeCfg.Lib.Wide

/-! ## The registry -/

def ERROR_FILE_NOT_FOUND : UInt32 := 2

def REG_SZ : UInt32 := 1
def REG_BINARY : UInt32 := 3
def REG_DWORD : UInt32 := 4

/-- A stored value. -/
structure RegData where
  kind : UInt32
  bytes : List UInt8
  deriving DecidableEq, Repr

/-- An error other than that of a missing key or value. -/
structure Failure where
  code : UInt32
  failed : code ≠ 0
  found : code ≠ ERROR_FILE_NOT_FOUND

/-- The keys with their values, and the failures to come. -/
structure RegistryHost where
  keys : Hive → String → Option (String → Option RegData)
  failures : List (Option Failure) := []

namespace RegistryHost

def value (s : RegistryHost) (hive : Hive) (key name : String) : Option RegData :=
  (s.keys hive key).bind fun values => values name

/-- The values of one key replaced. -/
def withValues (s : RegistryHost) (hive : Hive) (key : String)
    (values : String → Option RegData) : RegistryHost :=
  let keys := Function.update (s.keys hive) key (some values)
  { s with keys := Function.update s.keys hive keys }

/-- One value of a key replaced. -/
def withValue (s : RegistryHost) (hive : Hive) (key name : String)
    (data : Option RegData) : RegistryHost :=
  s.withValues hive key
    (Function.update ((s.keys hive key).getD fun _ => none) name data)

@[simp] theorem withValues_keys (s : RegistryHost) (hive : Hive) (key : String)
    (values : String → Option RegData) :
    (s.withValues hive key values).keys hive key = some values := by
  simp [withValues]

@[simp] theorem withValues_failures (s : RegistryHost) (hive : Hive) (key : String)
    (values : String → Option RegData) :
    (s.withValues hive key values).failures = s.failures := rfl

@[simp] theorem withValue_value (s : RegistryHost) (hive : Hive) (key name : String)
    (data : Option RegData) : (s.withValue hive key name data).value hive key name = data := by
  simp [withValue, value]

@[simp] theorem withValue_failures (s : RegistryHost) (hive : Hive) (key name : String)
    (data : Option RegData) : (s.withValue hive key name data).failures = s.failures := rfl

end RegistryHost

/-- The answer to one call; the error is its code. -/
def registryCall {α : Type} (natural : Prog RegistryHost UInt32 α) :
    Prog RegistryHost UInt32 α := fun s =>
  match s.failures with
  | [] => natural s
  | none :: failures => natural { s with failures := failures }
  | some failure :: failures => (.error failure.code, { s with failures := failures })

/-- `RegOpenKeyExW`. -/
def regOpenKey (hive : Hive) (key : String) : Prog RegistryHost UInt32 Unit :=
  registryCall fun s =>
    if (s.keys hive key).isSome then (.ok (), s) else (.error ERROR_FILE_NOT_FOUND, s)

/-- `RegCreateKeyW`: an existing key is opened. -/
def regCreateKey (hive : Hive) (key : String) : Prog RegistryHost UInt32 Unit :=
  registryCall fun s =>
    (.ok (), s.withValues hive key ((s.keys hive key).getD fun _ => none))

/-- `RegQueryValueExW`, the size first and the bytes after it. -/
def regQueryValue (hive : Hive) (key name : String) : Prog RegistryHost UInt32 RegData :=
  registryCall fun s =>
    match s.value hive key name with
    | some data => (.ok data, s)
    | none => (.error ERROR_FILE_NOT_FOUND, s)

/-- `RegSetValueExW`. -/
def regSetValue (hive : Hive) (key name : String) (data : RegData) :
    Prog RegistryHost UInt32 Unit :=
  registryCall fun s => (.ok (), s.withValue hive key name (some data))

/-- `RegDeleteValueW`. -/
def regDeleteValue (hive : Hive) (key name : String) : Prog RegistryHost UInt32 Unit :=
  registryCall fun s =>
    match s.value hive key name with
    | some _ => (.ok (), s.withValue hive key name none)
    | none => (.error ERROR_FILE_NOT_FOUND, s)

/-! ## Typed values -/

/-- The text that `ok` gives a code. -/
def win32Error (code : UInt32) : String := "Win32 registry error " ++ toString code.toNat

def utf16Error : String := "invalid utf-16: lone surrogate found"

/-- The text before the first zero unit. -/
def readString (bytes : List UInt8) : Except String String :=
  match readText bytes with
  | some text => .ok (String.ofList text)
  | none => .error utf16Error

/-- What `native_registry::read` makes of a value. -/
def valueOf (data : RegData) : Except String (Option RegValue) :=
  if data.kind = REG_DWORD ∧ 4 ≤ data.bytes.length then
    .ok (some (.dword (UInt32.ofNat (leValue (data.bytes.take 4)))))
  else if data.kind = REG_SZ then
    (readString data.bytes).map fun text => some (.string text)
  else if data.kind = REG_BINARY then .ok (some (.binary data.bytes))
  else .ok none

/-- What `native_registry::read_exact` makes of a value. -/
def valueOfExact (data : RegData) : Except String (Option RegValue) :=
  if data.kind = REG_DWORD ∧ data.bytes.length = 4 then
    .ok (some (.dword (UInt32.ofNat (leValue data.bytes))))
  else if data.kind = REG_SZ ∧ data.bytes.length % 2 = 0 then
    (readString data.bytes).map fun text => some (.string text)
  else if data.kind = REG_BINARY then .ok (some (.binary data.bytes))
  else .error "registry value type is unsupported by the exact contract"

/-- The type and the bytes that `native_registry::write` stores. -/
def RegValue.data : RegValue → RegData
  | .dword value => { kind := REG_DWORD, bytes := leBytes 4 value.toNat }
  | .string value => { kind := REG_SZ, bytes := wideBytes value.toList }
  | .binary value => { kind := REG_BINARY, bytes := value }

/-! ## Reading and writing -/

/-- `open`. -/
def registryOpen (change : RegistryChange) : Prog RegistryHost String Unit :=
  relabel win32Error (regOpenKey change.hive change.key)

/-- The value of a key that was opened: any error of the first query is a
missing value. -/
def readOpened (change : RegistryChange) : Prog RegistryHost String (Option RegValue) := do
  let first ← attempt (regQueryValue change.hive change.key change.name)
  match first with
  | .error _ => pure none
  | .ok _ => do
      let data ← relabel win32Error (regQueryValue change.hive change.key change.name)
      ofExcept (valueOf data)

/-- `native_registry::read`: an error text with a `2` in it is a missing key. -/
def registryRead (change : RegistryChange) : Prog RegistryHost String (Option RegValue) := do
  let opened ← attempt (registryOpen change)
  match opened with
  | .ok () => readOpened change
  | .error error => if '2' ∈ error.toList then pure none else raise error

/-- The value of a key that was opened, where only the code of a missing value
means that there is none. -/
def readOpenedExact (change : RegistryChange) :
    Prog RegistryHost String (Option RegValue) := do
  let first ← attempt (regQueryValue change.hive change.key change.name)
  match first with
  | .error code =>
      if code = ERROR_FILE_NOT_FOUND then pure none else raise (win32Error code)
  | .ok _ => do
      let data ← relabel win32Error (regQueryValue change.hive change.key change.name)
      ofExcept (valueOfExact data)

/-- `native_registry::read_exact`. -/
def registryReadExact (change : RegistryChange) :
    Prog RegistryHost String (Option RegValue) := do
  let opened ← attempt (regOpenKey change.hive change.key)
  match opened with
  | .ok () => readOpenedExact change
  | .error code =>
      if code = ERROR_FILE_NOT_FOUND then pure none else raise (win32Error code)

/-- `registry_write`. -/
def registryWrite (change : RegistryChange) : Prog RegistryHost String Unit := do
  relabel win32Error (regCreateKey change.hive change.key)
  relabel win32Error (regSetValue change.hive change.key change.name change.value.data)

/-- `registry_delete`. -/
def registryDelete (hive : Hive) (key name : String) : Prog RegistryHost String Unit := do
  relabel win32Error (regOpenKey hive key)
  relabel win32Error (regDeleteValue hive key name)

/-! ## Capture -/

def Hive.root : Hive → String
  | .localMachine => "HKLM"
  | .currentUser => "HKCU"

/-- The recorded value, its recorded type, and whether there was one. -/
def recordedValue : Option RegValue → Value × Option String × Bool
  | some (.dword value) => (.number (.unsigned value.toUInt64), some "DWord", true)
  | some (.string value) => (.string value, some "String", true)
  | some (.binary value) =>
      (.array (value.map fun byte => .number (.unsigned byte.toUInt64)), some "Binary", true)
  | none => (.null, none, false)

/-- `capture_registry`. -/
def captureRegistry (change : RegistryChange) (step timestamp : String) :
    Prog RegistryHost String BackupEntry := do
  let original ← registryRead change
  let (value, originalType, existed) := recordedValue original
  return .registry step timestamp (change.hive.root ++ ":\\" ++ change.key) change.name
    value originalType existed ∅

end FrametimeCfg.Windows
