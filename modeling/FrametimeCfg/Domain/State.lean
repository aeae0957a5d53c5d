import FrametimeCfg.Domain.Catalog
import FrametimeCfg.Domain.Fps
import FrametimeCfg.Domain.Handoff
import FrametimeCfg.Lib.Checks

/-!
# The suite state

`State` is the content of `state.json`: the selected profile, the last
frame-rate capture and the baseline capture, the reboot transaction and the
final benchmark receipt.  The decoder is tolerant field by field, with one
exception: a transaction or a receipt that does not decode stays where it was
found, among the unknown fields, and `State.validate` refuses such a state.

The final benchmark receipt is declared here because the state holds it and
its validation is part of the validation of the state.
-/

namespace FrametimeCfg.Domain

open FrametimeCfg.Lib.Checks
open FrametimeCfg.Lib.OrderedMap
open FrametimeCfg.Lib.Text

/-! ## The final benchmark receipt -/

def FINAL_BENCHMARK_SCHEMA_VERSION : UInt8 := 1
def FINAL_BENCHMARK_LABEL : String := "After all optimizations"
def BASELINE_BENCHMARK_LABEL : String := "Baseline (before optimizations)"

/-- `valid_capture_timestamp`: the shape `YYYY-MM-DD hh:mm:ss`. -/
def validCaptureTimestamp (value : String) : Bool :=
  value.toList.length = 19 && value.toList.zipIdx.all fun (c, index) =>
    match index with
    | 4 | 7 => c = '-'
    | 10 => c = ' '
    | 13 | 16 => c = ':'
    | _ => c.isDigit

/-- A positive average and a positive first percentile below it. -/
def validRates (avgFps p1Fps : F64) : Bool :=
  avgFps.isFinite && F64.flt F64.zero avgFps && p1Fps.isFinite &&
    F64.flt F64.zero p1Fps && F64.fle p1Fps avgFps

/-- Durable evidence of the Phase 3 final benchmark, bound to one reboot
transaction. -/
structure FinalBenchmarkReceipt where
  schemaVersion : UInt8
  receiptId : TransactionId
  transactionId : TransactionId
  capturedUtc : String
  avgFps : F64
  p1Fps : F64
  runs : UInt32
  fpsCap : UInt32
  label : String
  unknown : BTreeMap Value := ∅
  deriving DecidableEq

namespace FinalBenchmarkReceipt

/-- `FinalBenchmarkReceipt::validate`. -/
def validate (r : FinalBenchmarkReceipt) : Except String Unit := do
  reject (r.schemaVersion ≠ FINAL_BENCHMARK_SCHEMA_VERSION)
    "unsupported final benchmark schema"
  reject (r.receiptId = r.transactionId)
    "final benchmark receipt id must differ from its reboot transaction id"
  reject (!validCaptureTimestamp r.capturedUtc)
    "final benchmark timestamp is invalid"
  reject (!validRates r.avgFps r.p1Fps || r.runs = 0)
    "final benchmark capture is incomplete or invalid"
  reject (r.label ≠ FINAL_BENCHMARK_LABEL)
    "final benchmark label is not the fixed Phase 3 label"

/-- `FinalBenchmarkReceipt::new`. -/
def new (receiptId transactionId : TransactionId) (capturedUtc : String)
    (capture : BenchmarkCapture) (fpsCap : UInt32) :
    Except String FinalBenchmarkReceipt := do
  let receipt : FinalBenchmarkReceipt :=
    { schemaVersion := FINAL_BENCHMARK_SCHEMA_VERSION
      receiptId := receiptId
      transactionId := transactionId
      capturedUtc := capturedUtc
      avgFps := capture.averageFps
      p1Fps := capture.p1Fps
      runs := capture.runs
      fpsCap := fpsCap
      label := FINAL_BENCHMARK_LABEL }
  receipt.validate
  return receipt

/-- `FinalBenchmarkReceipt::validate_for_transaction`. -/
def validateForTransaction (r : FinalBenchmarkReceipt) (t : RebootTransaction) :
    Except String Unit := do
  r.validate
  reject (t.transactionId ≠ some r.transactionId)
    "final benchmark transaction id does not match active reboot transaction"

end FinalBenchmarkReceipt

/-! ## The state -/

def MAX_PAGEFILE_MB : UInt64 := 1048576

def defaultMode : String := "CONTROL"
def defaultLogLevel : String := "NORMAL"
def defaultProfile : Profile := .recommended
def defaultWorkDir : String := "C:\\FRAMETIME_CFG"

/-- The content of `state.json`. -/
structure State where
  mode : String := defaultMode
  logLevel : String := defaultLogLevel
  profile : Profile := defaultProfile
  fpsCap : UInt32 := 0
  avgFps : F64 := F64.zero
  p1Fps : Option F64 := none
  baselineAvg : F64 := F64.zero
  baselineP1 : Option F64 := none
  capDate : Option String := none
  gpuInput : Option String := none
  pagefileMb : UInt64 := 0
  workDir : String := defaultWorkDir
  scriptRoot : String := ""
  phase1SafeModeReady : Bool := false
  activeRebootTransaction : Option RebootTransaction := none
  finalBenchmark : Option FinalBenchmarkReceipt := none
  unknown : BTreeMap Value := ∅
  deriving DecidableEq

def GPU_INPUTS : List String := ["1", "2", "3", "4"]

/-- The baseline fields are both there and valid, or both absent. -/
def validBaseline (baselineAvg : F64) : Option F64 → Bool
  | some p1 => validRates baselineAvg p1
  | none => F64.feq baselineAvg F64.zero

/-- A receipt is allowed at the last two stages only. -/
def receiptStageAuthorized (t : RebootTransaction) : Bool :=
  match t.stage with
  | .phaseThreeArmed => t.isAuthorizedAt .phaseThreeArmed
  | .phaseThreeComplete => t.isAuthorizedAt .phaseThreeComplete
  | _ => false

/-- `State::validate`. -/
def State.validate (s : State) : Except String Unit := do
  reject (s.unknown.contains "activeRebootTransaction")
    "activeRebootTransaction is malformed"
  reject (s.unknown.contains "finalBenchmark") "finalBenchmark is malformed"
  reject (s.gpuInput.any (· ∉ GPU_INPUTS)) "gpuInput must be one of 1, 2, 3, or 4"
  reject (s.pagefileMb ≠ 0 && MAX_PAGEFILE_MB < s.pagefileMb)
    "pagefileMB must be 0 or between 1 and 1048576"
  reject (!validBaseline s.baselineAvg s.baselineP1)
    "baselineAvg and baselineP1 must be a complete valid capture"
  match s.finalBenchmark with
  | none => .ok ()
  | some receipt => do
      let transaction ← okOr s.activeRebootTransaction
        "finalBenchmark requires an active reboot transaction"
      reject (!receiptStageAuthorized transaction)
        "finalBenchmark requires a Phase 3 reboot transaction"
      receipt.validateForTransaction transaction

/-- Without a receipt, a state is valid by its own settings: neither the
transaction nor the measured rates matter. -/
theorem State.validate_congr {s s' : State} (hnone : s.finalBenchmark = none)
    (hnone' : s'.finalBenchmark = none) (hunknown : s'.unknown = s.unknown)
    (hgpu : s'.gpuInput = s.gpuInput) (hpagefile : s'.pagefileMb = s.pagefileMb)
    (havg : s'.baselineAvg = s.baselineAvg) (hp1 : s'.baselineP1 = s.baselineP1) :
    s'.validate = s.validate := by
  rw [State.validate, State.validate, hnone, hnone', hunknown, hgpu, hpagefile, havg, hp1]

/-- A state whose transaction waits for the final benchmark. -/
def armedState : State where
  activeRebootTransaction := some (sampleTransaction .phaseThreeArmed)

/-! ## Encoding and decoding -/

def Profile.asStr : Profile → String
  | .safe => "SAFE"
  | .recommended => "RECOMMENDED"
  | .competitive => "COMPETITIVE"
  | .custom => "CUSTOM"
  | .yolo => "YOLO"

/-- `parse_profile`. -/
def parseProfile (value : String) : Option Profile :=
  match asciiUpper value with
  | "SAFE" => some .safe
  | "RECOMMENDED" => some .recommended
  | "COMPETITIVE" => some .competitive
  | "CUSTOM" => some .custom
  | "YOLO" => some .yolo
  | _ => none

/-- `mode_for_profile`. -/
def modeForProfile : Profile → String
  | .safe | .recommended => "AUTO"
  | .competitive => "CONTROL"
  | .custom => "INFORMED"
  | .yolo => "YOLO"

def requiredU8 (field : String) (fields : BTreeMap Value) : Except String UInt8 := do
  let value ← okOr fields[field]? ("missing field " ++ field)
  okOr (tolerantU8 (some value)) "invalid type: expected u8"

/-- `u32::try_from` of a field. -/
def tolerantU32 (value : Option Value) : Option UInt32 :=
  (value.bind Value.asU64).bind fun n =>
    if n.toNat < 4294967296 then some (UInt32.ofNat n.toNat) else none

def requiredU32 (field : String) (fields : BTreeMap Value) : Except String UInt32 := do
  let value ← okOr fields[field]? ("missing field " ++ field)
  okOr (tolerantU32 (some value)) "invalid type: expected u32"

def requiredF64 (field : String) (fields : BTreeMap Value) : Except String F64 := do
  let value ← okOr fields[field]? ("missing field " ++ field)
  okOr value.asF64 "invalid type: expected f64"

/-- The keys of a receipt. -/
def FinalBenchmarkReceipt.knownKeys : List String :=
  ["schemaVersion", "receiptId", "transactionId", "capturedUtc", "avgFps",
    "p1Fps", "runs", "fpsCap", "label"]

/-- `FinalBenchmarkReceipt::deserialize`. -/
def FinalBenchmarkReceipt.decode (value : Value) :
    Except String FinalBenchmarkReceipt := do
  let fields ← okOr value.asObject "invalid type: expected struct FinalBenchmarkReceipt"
  let schemaVersion ← requiredU8 "schemaVersion" fields
  let receiptId ← (requiredString "receiptId" fields).bind TransactionId.parse
  let transactionId ← (requiredString "transactionId" fields).bind TransactionId.parse
  let capturedUtc ← requiredString "capturedUtc" fields
  let avgFps ← requiredF64 "avgFps" fields
  let p1Fps ← requiredF64 "p1Fps" fields
  let runs ← requiredU32 "runs" fields
  let fpsCap ← requiredU32 "fpsCap" fields
  let label ← requiredString "label" fields
  return {
    schemaVersion := schemaVersion
    receiptId := receiptId
    transactionId := transactionId
    capturedUtc := capturedUtc
    avgFps := avgFps
    p1Fps := p1Fps
    runs := runs
    fpsCap := fpsCap
    label := label
    unknown := BTreeMap.without fields knownKeys }

/-- `FinalBenchmarkReceipt::serialize`. -/
def FinalBenchmarkReceipt.encode (r : FinalBenchmarkReceipt) : Value :=
  .ofRecord
    [("schemaVersion", some (.ofU64 r.schemaVersion.toUInt64)),
      ("receiptId", some (.string r.receiptId.text)),
      ("transactionId", some (.string r.transactionId.text)),
      ("capturedUtc", some (.string r.capturedUtc)),
      ("avgFps", some (.ofF64 r.avgFps)),
      ("p1Fps", some (.ofF64 r.p1Fps)),
      ("runs", some (.ofU64 r.runs.toUInt64)),
      ("fpsCap", some (.ofU64 r.fpsCap.toUInt64)),
      ("label", some (.string r.label))]
    r.unknown

/-- `StateFields::finite_f64`. -/
def finiteF64 (value : Option Value) : Option F64 :=
  (value.bind Value.asF64).filter F64.isFinite

/-- `StateFields::nonnegative_f64`. -/
def nonnegativeF64 (value : Option Value) : Option F64 :=
  (finiteF64 value).filter (F64.fle F64.zero)

/-- `StateFields::typed_preserving_malformed`: what the field decodes to. -/
def typedPreservingMalformed {α : Type} (decode : Value → Except String α)
    (value : Option Value) : Option α :=
  value.bind fun value => (decode value).toOption

/-- The keys that the decoder always removes. -/
def State.removedKeys : List String :=
  ["profile", "mode", "logLevel", "fpsCap", "avgFps", "p1Fps", "baselineAvg",
    "baselineP1", "capDate", "gpuInput", "pagefileMB", "workDir", "scriptRoot",
    "phase1SafeModeReady"]

/-- `State::deserialize`.  The two typed fields are removed only where they
decode. -/
def State.decode (value : Value) : Except String State := do
  let fields ← okOr value.asObject "invalid type: expected a map"
  let profile := ((tolerantString fields["profile"]?).bind parseProfile).getD
    defaultProfile
  let transaction := typedPreservingMalformed RebootTransaction.decode
    fields["activeRebootTransaction"]?
  let receipt := typedPreservingMalformed FinalBenchmarkReceipt.decode
    fields["finalBenchmark"]?
  let decodedKeys :=
    (if transaction.isSome then ["activeRebootTransaction"] else []) ++
      (if receipt.isSome then ["finalBenchmark"] else [])
  return {
    mode := ((tolerantString fields["mode"]?).filter fun value =>
      value ∈ ["AUTO", "CONTROL", "INFORMED", "YOLO", "DRY-RUN"]).getD
        (modeForProfile profile)
    logLevel := ((tolerantString fields["logLevel"]?).filter fun value =>
      value ∈ ["MINIMAL", "NORMAL", "VERBOSE"]).getD defaultLogLevel
    profile := profile
    fpsCap := (tolerantU32 fields["fpsCap"]?).getD 0
    avgFps := (finiteF64 fields["avgFps"]?).getD F64.zero
    p1Fps := nonnegativeF64 fields["p1Fps"]?
    baselineAvg := (nonnegativeF64 fields["baselineAvg"]?).getD F64.zero
    baselineP1 := nonnegativeF64 fields["baselineP1"]?
    capDate := tolerantString fields["capDate"]?
    gpuInput := (tolerantString fields["gpuInput"]?).filter (· ∈ GPU_INPUTS)
    pagefileMb := (((fields["pagefileMB"]?).bind Value.asU64).filter fun value =>
      value = 0 || value ≤ MAX_PAGEFILE_MB).getD 0
    workDir := (tolerantString fields["workDir"]?).getD defaultWorkDir
    scriptRoot := (tolerantString fields["scriptRoot"]?).getD ""
    phase1SafeModeReady := fields["phase1SafeModeReady"]? = some (.bool true)
    activeRebootTransaction := transaction
    finalBenchmark := receipt
    unknown := BTreeMap.without fields (State.removedKeys ++ decodedKeys) }

/-- The known entries of a written state. -/
def State.entries (s : State) : List (String × Option Value) :=
  [("mode", some (.string s.mode)),
    ("logLevel", some (.string s.logLevel)),
    ("profile", some (.string s.profile.asStr)),
    ("fpsCap", some (.ofU64 s.fpsCap.toUInt64)),
    ("avgFps", some (.ofF64 s.avgFps)),
    ("p1Fps", s.p1Fps.map .ofF64),
    ("baselineAvg", if F64.feq s.baselineAvg F64.zero then none
      else some (.ofF64 s.baselineAvg)),
    ("baselineP1", s.baselineP1.map .ofF64),
    ("capDate", s.capDate.map .string),
    ("gpuInput", s.gpuInput.map .string),
    ("pagefileMB", some (.ofU64 s.pagefileMb)),
    ("workDir", some (.string s.workDir)),
    ("scriptRoot", some (.string s.scriptRoot)),
    ("phase1SafeModeReady", some (.bool s.phase1SafeModeReady)),
    ("activeRebootTransaction",
      s.activeRebootTransaction.map RebootTransaction.encode),
    ("finalBenchmark", s.finalBenchmark.map FinalBenchmarkReceipt.encode)]

/-- `State::serialize`. -/
def State.encode (s : State) : Value :=
  .ofRecord s.entries s.unknown

end FrametimeCfg.Domain
