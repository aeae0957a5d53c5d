import FrametimeCfg.Domain.Evidence
import FrametimeCfg.Lib.Checks

/-!
# Bindings of live devices

The binding that SetupAPI gives for a device.  Its instance id is parsed here once for the
numbers, and once more where the binding is validated.
-/

namespace FrametimeCfg.Windows.DeviceBindings

open FrametimeCfg.Domain
open FrametimeCfg.Lib.Checks
open FrametimeCfg.Lib.Text

/-- `parse_hex`, to an unsigned integer of 32 bits. -/
def parseHex32 (value : List Char) (width : Nat) : Option Nat :=
  if byteLen (String.ofList value) = width then
    (parseHexNat value).filter (· < 2 ^ 32)
  else none

/-- One part of the path. -/
def readPart (fields : PciFields) (part : List Char) : PciFields :=
  match stripPrefix "VEN_".toList part with
  | some value => { fields with vendor := parseHex32 value 4 }
  | none =>
  match stripPrefix "DEV_".toList part with
  | some value => { fields with device := parseHex32 value 4 }
  | none =>
  match stripPrefix "SUBSYS_".toList part with
  | some value => { fields with subsystem := parseHex32 value 8 }
  | none =>
  match stripPrefix "REV_".toList part with
  | some value => { fields with revision := parseHex32 value 2 }
  | none => fields

/-- `parse_pci_identity`.  The numbers are cast to their widths. -/
def parsePciIdentity (value : String) : Except String (Nat × Nat × Nat × Nat × Nat) := do
  let parts := FrametimeCfg.Lib.Text.splitAt (fun c => c = '\\' || c = '&')
    (asciiUpper value).toList
  let fields := parts.foldl readPart {}
  let subsystem ← okOr fields.subsystem "PCI instance has no canonical subsystem ID"
  let vendor ← okOr fields.vendor "PCI instance has no canonical vendor ID"
  let device ← okOr fields.device "PCI instance has no canonical device ID"
  let revision ← okOr fields.revision "PCI instance has no canonical revision ID"
  return (vendor % 2 ^ 16, device % 2 ^ 16, subsystem % 2 ^ 16, subsystem / 2 ^ 16 % 2 ^ 16,
    revision % 2 ^ 8)

/-- What SetupAPI answers about one device. -/
structure DeviceProperties where
  classGuid : String
  instanceId : Except String String
  containerId : Except String String
  driverProvider : Except String String
  driverVersion : Except String String
  publishedInf : Except String String

/-- `binding`: the properties of a device of the expected class, validated. -/
def binding (expectedClassGuid observedAtUtc : String) (device : DeviceProperties) :
    Except String PciDeviceBinding := do
  reject (!eqIgnoreAsciiCase device.classGuid expectedClassGuid)
    "SetupAPI class GUID disagrees with the requested class"
  let instanceId ← device.instanceId
  let (vendorId, deviceId, subsystemVendorId, subsystemDeviceId, revisionId) ←
    parsePciIdentity instanceId
  let containerId ← device.containerId
  let driverProvider ← device.driverProvider
  let driverVersion ← device.driverVersion
  let publishedInf ← device.publishedInf
  let binding : PciDeviceBinding := {
    schemaVersion := NATIVE_BINDING_SCHEMA_VERSION
    instanceId := instanceId
    containerId := containerId
    classGuid := device.classGuid
    vendorId := .ofNat vendorId
    deviceId := .ofNat deviceId
    subsystemVendorId := .ofNat subsystemVendorId
    subsystemDeviceId := .ofNat subsystemDeviceId
    revisionId := .ofNat revisionId
    driverProvider := driverProvider
    driverVersion := driverVersion
    publishedInf := asciiLower publishedInf
    observedAtUtc := observedAtUtc }
  binding.validate.mapError fun error =>
    "SetupAPI binding validation failed: " ++ error.message
  return binding

end FrametimeCfg.Windows.DeviceBindings
