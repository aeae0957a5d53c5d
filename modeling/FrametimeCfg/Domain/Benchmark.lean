import FrametimeCfg.Domain.Progress
import FrametimeCfg.Domain.State
import FrametimeCfg.Lib.Window

/-!
# Benchmark evidence

Two observations are evidence rather than advice: the baseline before the
optimizations and the final benchmark after them.  Each is a bundle over the
state, the progress and the benchmark history; a commit computes the bundle
without touching a file, and a validator accepts the three files only where
they agree.  The history keeps its newest records and drops the oldest.
-/

namespace FrametimeCfg.Domain

open FrametimeCfg.Lib.Checks
open FrametimeCfg.Lib.OrderedMap
open FrametimeCfg.Lib.Window

def MAX_BENCHMARK_HISTORY : Nat := 200

/-! ## History -/

structure BenchmarkRecord where
  timestamp : String
  avgFps : F64
  p1Fps : F64
  label : String
  runs : UInt32
  receiptId : Option TransactionId := none
  transactionId : Option TransactionId := none
  unknown : BTreeMap Value := ∅
  deriving DecidableEq

/-- `append_benchmark_record`: the oldest records beyond the limit are
drained. -/
def appendBenchmarkRecord (history : List BenchmarkRecord)
    (record : BenchmarkRecord) : List BenchmarkRecord :=
  pushNewest MAX_BENCHMARK_HISTORY history record

/-- A record that `validate_history` refuses. -/
def invalidRecord (r : BenchmarkRecord) : Bool :=
  !r.avgFps.isFinite || F64.flt r.avgFps F64.zero || !r.p1Fps.isFinite ||
    F64.flt r.p1Fps F64.zero || r.runs = 0 || r.label.isEmpty ||
    !validCaptureTimestamp r.timestamp

/-- `validate_history`. -/
def validateHistory (history : List BenchmarkRecord) : Except String Unit := do
  reject (MAX_BENCHMARK_HISTORY < history.length)
    "benchmark history exceeds its retention limit"
  reject (history.any invalidRecord) "benchmark history contains an invalid record"

/-! ## The baseline -/

structure BaselineBenchmarkCommit where
  state : State
  progress : Progress
  history : List BenchmarkRecord
  capturedUtc : String
  idempotent : Bool
  deriving DecidableEq

/-- `validate_complete_capture`. -/
def validateCompleteCapture (capture : BenchmarkCapture) : Except String Unit :=
  reject (!validRates capture.averageFps capture.p1Fps || capture.runs = 0)
    "baseline benchmark requires complete VProf Avg, P1, and runs"

/-- `record_matches_capture`. -/
def recordMatchesCapture (r : BenchmarkRecord) (capture : BenchmarkCapture) : Bool :=
  F64.feq r.avgFps capture.averageFps && F64.feq r.p1Fps capture.p1Fps &&
    r.runs = capture.runs && r.receiptId.isNone && r.transactionId.isNone

/-- The record that the state's baseline fields refer to. -/
def isBaselineRecord (s : State) (r : BenchmarkRecord) : Bool :=
  r.label = BASELINE_BENCHMARK_LABEL && F64.feq r.avgFps s.baselineAvg &&
    F64.feq r.p1Fps (s.baselineP1.getD F64.zero) && 0 < r.runs &&
    r.receiptId.isNone && r.transactionId.isNone

/-- `validate_persisted_baseline_benchmark`. -/
def validatePersistedBaselineBenchmark (s : State) (p : Progress)
    (history : List BenchmarkRecord) : Except String BenchmarkRecord := do
  s.validate
  validateHistory history
  reject (!validRates s.baselineAvg (s.baselineP1.getD F64.zero))
    "baseline state is incomplete or invalid"
  reject (!p.isCompleted PHASE_ONE_BASELINE_BENCHMARK ||
      p.isSkipped PHASE_ONE_BASELINE_BENCHMARK)
    "baseline benchmark progress is incomplete or skipped"
  let record ← okOr (sole (history.filter (isBaselineRecord s)))
    "baseline state, history, and progress are not coherent"
  reject (p.timestamps["1-17"]? ≠ some record.timestamp)
    "baseline state, history, and progress are not coherent"
  return record

/-- The state holds a baseline already. -/
def stateHasBaseline (s : State) : Bool :=
  F64.flt F64.zero s.baselineAvg || s.baselineP1.isSome

/-- The bundle of a baseline that was not complete before. -/
def baselineCommit (s : State) (p : Progress) (history : List BenchmarkRecord)
    (existing : Option BenchmarkRecord) (capturedUtc : String)
    (capture : BenchmarkCapture) : Except String BaselineBenchmarkCommit := do
  let recordTimestamp := (existing.map (·.timestamp)).getD capturedUtc
  let nextState : State :=
    { s with baselineAvg := capture.averageFps, baselineP1 := some capture.p1Fps }
  nextState.validate
  let record : BenchmarkRecord :=
    { timestamp := recordTimestamp
      avgFps := capture.averageFps
      p1Fps := capture.p1Fps
      label := BASELINE_BENCHMARK_LABEL
      runs := capture.runs }
  return {
    state := nextState
    progress := p.completeStep PHASE_ONE_BASELINE_BENCHMARK recordTimestamp
    history := if existing.isNone then appendBenchmarkRecord history record else history
    capturedUtc := recordTimestamp
    idempotent := false }

/-- `prepare_baseline_benchmark_commit`. -/
def prepareBaselineBenchmarkCommit (s : State) (p : Progress)
    (history : List BenchmarkRecord) (capturedUtc : String)
    (capture : BenchmarkCapture) : Except String BaselineBenchmarkCommit := do
  s.validate
  validateHistory history
  validateCompleteCapture capture
  reject (!validCaptureTimestamp capturedUtc)
    "baseline benchmark timestamp is invalid"
  reject (p.isSkipped PHASE_ONE_BASELINE_BENCHMARK)
    "baseline benchmark was skipped and cannot be captured"
  let matching := history.filter (·.label = BASELINE_BENCHMARK_LABEL)
  reject (1 < matching.length) "baseline benchmark history is duplicated"
  let existing := matching.head?
  reject (existing.any fun r => !recordMatchesCapture r capture)
    "baseline benchmark conflicts with existing history"
  if stateHasBaseline s then
    let record ← okOr existing "baseline state has no matching benchmark history"
    reject (!F64.feq s.baselineAvg capture.averageFps ||
        !(s.baselineP1.any (F64.feq · capture.p1Fps)))
      "baseline state conflicts with requested capture"
    if p.isCompleted PHASE_ONE_BASELINE_BENCHMARK then
      let _ ← validatePersistedBaselineBenchmark s p history
      return {
        state := s
        progress := p
        history := history
        capturedUtc := record.timestamp
        idempotent := true }
    else baselineCommit s p history existing capturedUtc capture
  else
    reject (p.isCompleted PHASE_ONE_BASELINE_BENCHMARK)
      "baseline benchmark progress precedes its state"
    baselineCommit s p history existing capturedUtc capture

/-! ## The final benchmark -/

/-- `phase_three_engine_steps`: without the driver installation. -/
def phaseThreeEngineSteps : List Step :=
  stepCatalog.filter fun step =>
    step.id.phase = .three && step.orchestrationRole = .engine &&
      step.id ≠ PHASE_THREE_DRIVER_INSTALL

/-- The step is neither completed nor skipped. -/
def unresolvedFor (p : Progress) (step : Step) : Bool :=
  !p.isCompleted step.id && !p.isSkipped step.id

structure FinalBenchmarkCommit where
  state : State
  progress : Progress
  history : List BenchmarkRecord
  receipt : FinalBenchmarkReceipt
  deriving DecidableEq

/-- `FinalBenchmarkReceipt::matches_history_record`. -/
def FinalBenchmarkReceipt.matchesHistoryRecord (receipt : FinalBenchmarkReceipt)
    (r : BenchmarkRecord) : Bool :=
  r.timestamp = receipt.capturedUtc && F64.feq r.avgFps receipt.avgFps &&
    F64.feq r.p1Fps receipt.p1Fps && r.label = receipt.label &&
    r.runs = receipt.runs && r.receiptId = some receipt.receiptId &&
    r.transactionId = some receipt.transactionId

/-- The record refers to the receipt or to its transaction. -/
def refersTo (receiptId transactionId : TransactionId) (r : BenchmarkRecord) : Bool :=
  r.receiptId = some receiptId || r.transactionId = some transactionId

def unresolvedPhaseThreeMessage : String :=
  "final benchmark requires resolved P3:2-P3:12 and unresolved P3:13"

/-- The history record of a receipt. -/
def FinalBenchmarkReceipt.historyRecord (receipt : FinalBenchmarkReceipt) :
    BenchmarkRecord where
  timestamp := receipt.capturedUtc
  avgFps := receipt.avgFps
  p1Fps := receipt.p1Fps
  label := receipt.label
  runs := receipt.runs
  receiptId := some receipt.receiptId
  transactionId := some receipt.transactionId

/-- `prepare_final_benchmark_commit`. -/
def prepareFinalBenchmarkCommit (s : State) (p : Progress)
    (history : List BenchmarkRecord) (config : Config) (receiptId : TransactionId)
    (capturedUtc : String) (capture : BenchmarkCapture) :
    Except String FinalBenchmarkCommit := do
  config.validate.mapError ConfigError.message
  s.validate
  reject s.finalBenchmark.isSome "final benchmark receipt already exists"
  reject (!p.isCompleted PHASE_THREE_DRIVER_INSTALL)
    "final benchmark requires completed P3:1"
  reject (phaseThreeEngineSteps.any (unresolvedFor p) ||
      p.isCompleted PHASE_THREE_FINAL_BENCHMARK ||
      p.isSkipped PHASE_THREE_FINAL_BENCHMARK)
    unresolvedPhaseThreeMessage
  let transaction ← okOr s.activeRebootTransaction
    "final benchmark requires an active reboot transaction"
  reject (!transaction.isAuthorizedAt .phaseThreeArmed)
    "final benchmark requires an authorized Phase 3 transaction"
  let transactionId ← okOr transaction.transactionId
    "authorized reboot transaction is missing its id"
  reject (history.any (refersTo receiptId transactionId))
    "final benchmark receipt or reboot transaction was already recorded"
  let fpsCap ← okOr (measuredFpsCap config.fpsCap.capStrategy capture)
    "final benchmark P1 FPS does not sustain the selected measured or VRR cap"
  let receipt ← FinalBenchmarkReceipt.new receiptId transactionId capturedUtc
    capture fpsCap
  let completed ← transaction.transitionTo .phaseThreeComplete
  let nextState : State :=
    { s with
      fpsCap := receipt.fpsCap
      avgFps := receipt.avgFps
      p1Fps := some receipt.p1Fps
      capDate := some receipt.capturedUtc
      finalBenchmark := some receipt
      activeRebootTransaction := some { completed with updatedUtc := some capturedUtc } }
  nextState.validate
  let nextHistory := appendBenchmarkRecord history receipt.historyRecord
  let persisted ← okOr nextHistory.getLast?
    "final benchmark history did not retain its receipt"
  reject (!receipt.matchesHistoryRecord persisted)
    "final benchmark history does not match its receipt"
  return {
    state := nextState
    progress := p.completeStep PHASE_THREE_FINAL_BENCHMARK capturedUtc
    history := nextHistory
    receipt := receipt }

def unresolvedEarlierWorkMessage : String :=
  "persisted final benchmark has unresolved earlier Phase 3 work"

/-- `validate_persisted_final_benchmark`. -/
def validatePersistedFinalBenchmark (s : State) (p : Progress)
    (history : List BenchmarkRecord) : Except String FinalBenchmarkReceipt := do
  s.validate
  let receipt ← okOr s.finalBenchmark
    "persisted state has no final benchmark receipt"
  let transaction ← okOr s.activeRebootTransaction
    "persisted state has no reboot transaction"
  reject (!transaction.isAuthorizedAt .phaseThreeComplete)
    "persisted final benchmark transaction is not Phase 3 complete"
  receipt.validateForTransaction transaction
  reject (!p.isCompleted PHASE_THREE_DRIVER_INSTALL ||
      !p.isCompleted PHASE_THREE_FINAL_BENCHMARK ||
      p.isSkipped PHASE_THREE_FINAL_BENCHMARK ||
      p.timestamps["3-13"]? ≠ some receipt.capturedUtc)
    "persisted final benchmark progress is incomplete or skipped"
  reject (phaseThreeEngineSteps.any (unresolvedFor p)) unresolvedEarlierWorkMessage
  reject (s.fpsCap ≠ receipt.fpsCap || !F64.feq s.avgFps receipt.avgFps ||
      !(s.p1Fps.any (F64.feq · receipt.p1Fps)) ||
      s.capDate ≠ some receipt.capturedUtc)
    "persisted FPS state does not match the final benchmark receipt"
  let record ← okOr
    (sole (history.filter (refersTo receipt.receiptId receipt.transactionId)))
    "persisted benchmark history is missing, duplicated, or inconsistent"
  reject (!receipt.matchesHistoryRecord record)
    "persisted benchmark history is missing, duplicated, or inconsistent"
  return receipt

end FrametimeCfg.Domain
