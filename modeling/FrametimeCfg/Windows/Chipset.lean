import FrametimeCfg.Lib.Checks
import FrametimeCfg.Lib.Splitting
import FrametimeCfg.Lib.Text

/-!
# The chipset drivers

P1:35 observes the system devices whose PCI vendor is the vendor of the processor.  The
records of all of them are validated and kept in the order of their instances; a device
of the other vendor, or of both, is an error.
-/

namespace FrametimeCfg.Windows

open FrametimeCfg.Lib.Checks
open FrametimeCfg.Lib.Text

inductive ChipsetVendor where
  | amd
  | intel
  deriving DecidableEq, Repr

/-- `ChipsetVendor::pci_vendor_id`. -/
def ChipsetVendor.pciVendorId : ChipsetVendor → String
  | .amd => "1022"
  | .intel => "8086"

structure ChipsetDriverRecord where
  instanceId : String
  hardwareIds : List String
  compatibleIds : List String
  infPath : String
  provider : String
  driverVersion : String
  driverDateFiletime : UInt64
  deriving DecidableEq

/-- A record as it is enumerated, with the same fields. -/
abbrev RawChipsetDriverRecord : Type := ChipsetDriverRecord

structure ChipsetInventory where
  vendor : ChipsetVendor
  records : List ChipsetDriverRecord
  deriving DecidableEq

/-- `checked_device_text`. -/
def checkedDeviceText (value label : String) : Except String String := do
  reject (value.isEmpty || trim value.toList ≠ value.toList || 4096 < byteLen value ||
    value.toList.any isControl) ("P1:35 " ++ label ++ " is malformed")
  return value

/-- `chipset_vendor_from_pci_id`. -/
def chipsetVendorFromPciId (id : String) : Except String (Option ChipsetVendor) := do
  let id ← checkedDeviceText id "device ID"
  let upper := (asciiUpper id).toList
  if !"PCI\\".toList.isPrefixOf upper then return none
  else
    match (splitAt (fun c => c = '\\' || c = '&') upper).findSome?
        (stripPrefix "VEN_".toList) with
    | none => return none
    | some vendor => do
        reject (byteLen (String.ofList vendor) ≠ 4 || !vendor.all isHexDigit)
          "P1:35 PCI device ID has a malformed VEN_ component"
        return [ChipsetVendor.amd, .intel].find? fun known =>
          String.ofList vendor = known.pciVendorId

/-- `chipset_vendor_bindings`: the vendors that the identifiers name. -/
def chipsetVendorBindings (hardwareIds compatibleIds : List String) :
    Except String (List ChipsetVendor) := do
  reject (hardwareIds.isEmpty && compatibleIds.isEmpty)
    "P1:35 system device has no hardware or compatible IDs"
  let vendors ← (hardwareIds ++ compatibleIds).mapM chipsetVendorFromPciId
  return (vendors.filterMap id).dedup

/-- `valid_vendor_package_inf`. -/
def validVendorPackageInf (value : String) : Bool :=
  let chars := value.toList
  7 < chars.length && eqIgnoreAsciiCase (String.ofList (chars.take 3)) "oem" &&
    eqIgnoreAsciiCase (String.ofList (chars.drop (chars.length - 4))) ".inf" &&
    ((chars.drop 3).take (chars.length - 7)).all Char.isDigit

/-- The text holds the pattern. -/
def containsText (text pattern : String) : Bool := decide (pattern.toList <:+: text.toList)

/-- `provider_matches_vendor`. -/
def providerMatchesVendor (vendor : ChipsetVendor) (provider : String) : Bool :=
  let provider := asciiLower provider
  match vendor with
  | .amd => provider = "amd" || containsText provider "advanced micro devices"
  | .intel => provider = "intel" || containsText provider "intel corporation"

/-- `valid_driver_version`.  Five digits always parse. -/
def validDriverVersion (value : String) : Bool :=
  let parts := splitAt (· = '.') value.toList
  byteLen value ≤ 32 && parts.length = 4 && parts.all fun part =>
    !part.isEmpty && byteLen (String.ofList part) ≤ 5 && part.all Char.isDigit

/-- `validate_chipset_record`. -/
def validateChipsetRecord (vendor : ChipsetVendor) (record : RawChipsetDriverRecord) :
    Except String ChipsetDriverRecord := do
  reject (!"PCI\\".toList.isPrefixOf (asciiUpper record.instanceId).toList)
    "P1:35 chipset record has a non-PCI instance ID"
  reject record.hardwareIds.isEmpty "P1:35 chipset record has no hardware IDs"
  let _ ← (record.hardwareIds ++ record.compatibleIds).mapM (checkedDeviceText · "device ID")
  let instanceId ← checkedDeviceText record.instanceId "instance ID"
  let infPath ← checkedDeviceText record.infPath "installed INF"
  reject (!validVendorPackageInf infPath)
    "P1:35 installed INF is not an OEM vendor-package filename"
  let provider ← checkedDeviceText record.provider "driver provider"
  reject (!providerMatchesVendor vendor provider)
    "P1:35 driver provider does not match the exact CPU/PCI vendor binding"
  reject (record.driverDateFiletime = 0) "P1:35 driver date is malformed"
  let driverVersion ← checkedDeviceText record.driverVersion "driver version"
  reject (!validDriverVersion driverVersion)
    "P1:35 driver version is not a bounded numeric dotted version"
  return { record with
    instanceId := instanceId
    infPath := infPath
    provider := provider
    driverVersion := driverVersion }

/-- One record of `chipset_inventory_from_raw`, where it is of the vendor. -/
def selectChipsetRecord (vendor : ChipsetVendor) (record : RawChipsetDriverRecord) :
    Except String (Option ChipsetDriverRecord) := do
  let bindings ← chipsetVendorBindings record.hardwareIds record.compatibleIds
  match bindings with
  | [] => return none
  | [binding] => do
      reject (binding ≠ vendor) ("P1:35 CPU vendor " ++ vendor.pciVendorId ++
        " conflicts with system-device PCI vendor " ++ binding.pciVendorId)
      let validated ← validateChipsetRecord vendor record
      return some validated
  | _ => .error "P1:35 system device has conflicting AMD and Intel PCI vendor bindings"

/-- `chipset_inventory_from_raw`. -/
def chipsetInventoryFromRaw (vendor : ChipsetVendor) (records : List RawChipsetDriverRecord) :
    Except String (Option ChipsetInventory) := do
  let found ← records.mapM (selectChipsetRecord vendor)
  let selected := found.filterMap id
  if selected.isEmpty then return none
  else do
    let sorted := selected.mergeSort fun left right =>
      asciiUpper left.instanceId ≤ asciiUpper right.instanceId
    reject ((sorted.zip sorted.tail).any fun (left, right) =>
        eqIgnoreAsciiCase left.instanceId right.instanceId)
      "P1:35 system-device inventory has duplicate instance IDs"
    return some { vendor := vendor, records := sorted }

end FrametimeCfg.Windows
