import FrametimeCfg.Lib.Checks
import FrametimeCfg.Lib.Layout

/-!
# The wire protocol of the driver

A request to the kernel and its response have fixed layouts: the fields are named with their
offsets once where they are written and once where they are read.  A request is admitted by
the user-side validator, and by the kernel-side gate, which takes the bytes and states why it
refuses.
-/

namespace FrametimeCfg.Northclock.Protocol

open FrametimeCfg.Lib.Checks
open FrametimeCfg.Lib.Layout

/-- `u32::from_le_bytes(*b"NCLK")`. -/
def PROTOCOL_MAGIC : UInt32 := u32.decode [78, 67, 76, 75]
def PROTOCOL_VERSION : UInt16 := 1
def CURVE_OPTIMIZER_MIN : Int16 := -50
def CURVE_OPTIMIZER_MAX : Int16 := 50
def MAX_LOGICAL_CORE_INDEX : UInt16 := 511
def RYZEN_7000_DESKTOP_TABLE_VERSION : UInt8 := 1
def CURVE_OPTIMIZER_REQUEST_WIRE_SIZE : UInt16 := 42
def CURVE_OPTIMIZER_RESPONSE_WIRE_SIZE : UInt16 := 28

inductive DecodeError where
  | wrongLength
  deriving DecidableEq, Repr

inductive Command where
  | queryCapabilities
  | captureCurveOptimizerState
  | applyCurveOptimizer
  | restoreCurveOptimizerState
  | queryWatchdog
  deriving DecidableEq, Repr

/-- `Command::try_from`. -/
def Command.tryFrom (value : UInt16) : Option Command :=
  match value.toNat with
  | 1 => some .queryCapabilities
  | 2 => some .captureCurveOptimizerState
  | 3 => some .applyCurveOptimizer
  | 4 => some .restoreCurveOptimizerState
  | 5 => some .queryWatchdog
  | _ => none

structure ProtocolHeader where
  magic : UInt32
  version : UInt16
  structureSize : UInt16
  sequence : UInt64
  deriving DecidableEq

/-- `ProtocolHeader::valid_for_size`. -/
def ProtocolHeader.validForSize (header : ProtocolHeader) (expectedSize : UInt16) : Bool :=
  header.magic = PROTOCOL_MAGIC && header.version = PROTOCOL_VERSION &&
    header.structureSize = expectedSize && header.sequence ≠ 0

structure ProcessorModel where
  vendor : ByteArrayOf 12
  family : UInt8
  model : UInt8
  stepping : UInt8
  protocolTableVersion : UInt8
  deriving DecidableEq

/-- `b"AuthenticAMD"`. -/
def AUTHENTIC_AMD : List UInt8 := [65, 117, 116, 104, 101, 110, 116, 105, 99, 65, 77, 68]

/-- `ProcessorModel::has_registered_protocol_table`. -/
def ProcessorModel.hasRegisteredProtocolTable (processor : ProcessorModel) : Bool :=
  processor.vendor.val = AUTHENTIC_AMD && processor.family = 0x19 && processor.model = 0x61 &&
    processor.protocolTableVersion = RYZEN_7000_DESKTOP_TABLE_VERSION

/-! ## Reading and writing -/

/-- One byte. -/
def readU8 (bytes : List UInt8) (offset : Nat) : UInt8 := u8.decode (fieldAt bytes ⟨offset, 1⟩)

/-- `read_u16`. -/
def readU16 (bytes : List UInt8) (offset : Nat) : UInt16 :=
  u16.decode (fieldAt bytes ⟨offset, 2⟩)

/-- `read_i16`. -/
def readI16 (bytes : List UInt8) (offset : Nat) : Int16 :=
  i16.decode (fieldAt bytes ⟨offset, 2⟩)

/-- `read_u32`. -/
def readU32 (bytes : List UInt8) (offset : Nat) : UInt32 :=
  u32.decode (fieldAt bytes ⟨offset, 4⟩)

/-- `read_u64`. -/
def readU64 (bytes : List UInt8) (offset : Nat) : UInt64 :=
  u64.decode (fieldAt bytes ⟨offset, 8⟩)

/-- `write_header`. -/
def writeHeader (bytes : List UInt8) (header : ProtocolHeader) : List UInt8 :=
  let bytes := putAt bytes 0 (u32.encode header.magic)
  let bytes := putAt bytes 4 (u16.encode header.version)
  let bytes := putAt bytes 6 (u16.encode header.structureSize)
  putAt bytes 8 (u64.encode header.sequence)

/-! ## Requests -/

structure CurveOptimizerRequest where
  header : ProtocolHeader
  command : UInt16
  processor : ProcessorModel
  logicalCoreIndex : UInt16
  offsetSteps : Int16
  watchdogTimeoutMs : UInt32
  deriving DecidableEq

namespace CurveOptimizerRequest

/-- `CurveOptimizerRequest::decode`. -/
def decode (bytes : List UInt8) : Except DecodeError CurveOptimizerRequest := do
  reject (bytes.length ≠ CURVE_OPTIMIZER_REQUEST_WIRE_SIZE.toNat) .wrongLength
  return {
    header := {
      magic := readU32 bytes 0
      version := readU16 bytes 4
      structureSize := readU16 bytes 6
      sequence := readU64 bytes 8 }
    command := readU16 bytes 16
    processor := {
      vendor := (byteArray 12).decode (fieldAt bytes ⟨18, 12⟩)
      family := readU8 bytes 30
      model := readU8 bytes 31
      stepping := readU8 bytes 32
      protocolTableVersion := readU8 bytes 33 }
    logicalCoreIndex := readU16 bytes 34
    offsetSteps := readI16 bytes 36
    watchdogTimeoutMs := readU32 bytes 38 }

/-- `CurveOptimizerRequest::encode`. -/
def encode (request : CurveOptimizerRequest) : List UInt8 :=
  let bytes := List.replicate CURVE_OPTIMIZER_REQUEST_WIRE_SIZE.toNat 0
  let bytes := writeHeader bytes request.header
  let bytes := putAt bytes 16 (u16.encode request.command)
  let bytes := putAt bytes 18 request.processor.vendor.val
  let bytes := putAt bytes 30 (u8.encode request.processor.family)
  let bytes := putAt bytes 31 (u8.encode request.processor.model)
  let bytes := putAt bytes 32 (u8.encode request.processor.stepping)
  let bytes := putAt bytes 33 (u8.encode request.processor.protocolTableVersion)
  let bytes := putAt bytes 34 (u16.encode request.logicalCoreIndex)
  let bytes := putAt bytes 36 (i16.encode request.offsetSteps)
  putAt bytes 38 (u32.encode request.watchdogTimeoutMs)

/-- `CurveOptimizerRequest::has_supported_command`. -/
def hasSupportedCommand (request : CurveOptimizerRequest) : Bool :=
  match Command.tryFrom request.command with
  | some .captureCurveOptimizerState => true
  | some .applyCurveOptimizer => true
  | some .restoreCurveOptimizerState => true
  | _ => false

/-- `CurveOptimizerRequest::values_are_bounded`. -/
def valuesAreBounded (request : CurveOptimizerRequest) : Bool :=
  request.logicalCoreIndex ≤ MAX_LOGICAL_CORE_INDEX &&
    CURVE_OPTIMIZER_MIN ≤ request.offsetSteps && request.offsetSteps ≤ CURVE_OPTIMIZER_MAX &&
    1000 ≤ request.watchdogTimeoutMs && request.watchdogTimeoutMs ≤ 60000

/-- `CurveOptimizerRequest::validate`. -/
def validate (request : CurveOptimizerRequest) : Bool :=
  request.header.validForSize CURVE_OPTIMIZER_REQUEST_WIRE_SIZE &&
    request.hasSupportedCommand && request.valuesAreBounded &&
    request.processor.hasRegisteredProtocolTable

end CurveOptimizerRequest

/-! ## Responses -/

structure CurveOptimizerResponse where
  header : ProtocolHeader
  status : UInt32
  capturedOffsetSteps : Int16
  readbackOffsetSteps : Int16
  reserved : UInt32
  deriving DecidableEq

namespace CurveOptimizerResponse

/-- `CurveOptimizerResponse::decode`. -/
def decode (bytes : List UInt8) : Except DecodeError CurveOptimizerResponse := do
  reject (bytes.length ≠ CURVE_OPTIMIZER_RESPONSE_WIRE_SIZE.toNat) .wrongLength
  return {
    header := {
      magic := readU32 bytes 0
      version := readU16 bytes 4
      structureSize := readU16 bytes 6
      sequence := readU64 bytes 8 }
    status := readU32 bytes 16
    capturedOffsetSteps := readI16 bytes 20
    readbackOffsetSteps := readI16 bytes 22
    reserved := readU32 bytes 24 }

/-- `CurveOptimizerResponse::encode`. -/
def encode (response : CurveOptimizerResponse) : List UInt8 :=
  let bytes := List.replicate CURVE_OPTIMIZER_RESPONSE_WIRE_SIZE.toNat 0
  let bytes := writeHeader bytes response.header
  let bytes := putAt bytes 16 (u32.encode response.status)
  let bytes := putAt bytes 20 (i16.encode response.capturedOffsetSteps)
  let bytes := putAt bytes 22 (i16.encode response.readbackOffsetSteps)
  putAt bytes 24 (u32.encode response.reserved)

end CurveOptimizerResponse

/-! ## The kernel-side gate -/

inductive ProtocolStatus where
  | success
  | invalidHeader
  | unsupportedProcessor
  | valueOutOfBounds
  | permissionDenied
  | rateLimited
  | watchdogArmed
  | readbackMismatch
  | restoreFailed
  | unsupportedCommand
  | invalidBuffer
  deriving DecidableEq, Repr

/-- `validate_curve_optimizer_request`. -/
def validateCurveOptimizerRequest (request : CurveOptimizerRequest) : ProtocolStatus :=
  if !request.header.validForSize CURVE_OPTIMIZER_REQUEST_WIRE_SIZE then .invalidHeader
  else if !request.hasSupportedCommand then .unsupportedCommand
  else if !request.processor.hasRegisteredProtocolTable then .unsupportedProcessor
  else if !request.valuesAreBounded then .valueOutOfBounds
  else .success

/-- `validate_curve_optimizer_request_bytes`. -/
def validateCurveOptimizerRequestBytes (bytes : List UInt8) : ProtocolStatus :=
  match CurveOptimizerRequest.decode bytes with
  | .error _ => .invalidBuffer
  | .ok request => validateCurveOptimizerRequest request

end FrametimeCfg.Northclock.Protocol
