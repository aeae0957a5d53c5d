import FrametimeCfg.Windows.Store

/-!
# Persisting benchmark evidence

Three procedures write frame-rate evidence: the advisory capture behind
`fps-cap`, the baseline before the optimizations and the final benchmark.
The last two write the history first, then the state and the progress last,
so that an interrupted run never claims completion.

A retry of the final benchmark first reconciles what it finds: it recognises
the part of a bundle that an interrupted run left, takes that part out again,
and prepares the same bundle once more.
-/

namespace FrametimeCfg.Windows

open FrametimeCfg.Domain
open FrametimeCfg.Lib.Checks
open FrametimeCfg.Lib.Journal

/-! ## The writes with their readbacks -/

/-- Write the history and read it back. -/
def writeHistory (history : List BenchmarkRecord) (mismatch : String) : StoreM Unit := do
  put (.history history)
  let verified ← read Durable.history
  check (reject (verified ≠ history) mismatch)

/-- Write the state, read it back and validate it. -/
def writeState (state : State) (mismatch : String) : StoreM Unit := do
  put (.state state)
  let verified ← read Durable.state
  check verified.validate
  check (reject (verified ≠ state) mismatch)

/-- Write the progress and read it back. -/
def writeProgress (progress : Progress) (mismatch : String) : StoreM Unit := do
  put (.progress progress)
  let verified ← read Durable.progress
  check (reject (verified ≠ progress) mismatch)

/-! ## The advisory capture -/

/-- The record that an advisory capture appends. -/
def captureRecord (capturedAt label : String) (capture : BenchmarkCapture) :
    BenchmarkRecord where
  timestamp := capturedAt
  avgFps := capture.averageFps
  p1Fps := capture.p1Fps
  label := label
  runs := capture.runs

/-- `persist_fps_capture`. -/
def persistFpsCapture (now : String) (cap : UInt32) (capture : BenchmarkCapture)
    (label : String) : StoreM State := do
  check (reject (cap = 0 || !capture.averageFps.isFinite ||
      F64.fle capture.averageFps F64.zero || !capture.p1Fps.isFinite ||
      F64.flt capture.p1Fps F64.zero) "invalid FPS capture")
  let state ← read Durable.state
  check state.validate
  check (reject state.finalBenchmark.isSome
    "advisory FPS persistence cannot replace a completed Phase 3 benchmark receipt")
  let next : State :=
    { state with
      fpsCap := cap
      avgFps := capture.averageFps
      p1Fps := if F64.flt F64.zero capture.p1Fps then some capture.p1Fps else none
      capDate := some now
      workDir := WINDOWS_WORK_DIR }
  writeState next "FPS state readback verification failed"
  if F64.flt F64.zero capture.p1Fps then
    let history ← readHistory
    writeHistory (appendBenchmarkRecord history (captureRecord now label capture))
      "benchmark history readback verification failed"
    return next
  else return next

/-! ## The baseline -/

/-- `persist_baseline_benchmark`. -/
def persistBaselineBenchmark (now : String) (capture : BenchmarkCapture) :
    StoreM State := do
  let state ← readState
  let progress ← readProgress
  let history ← readHistory
  let commit ← check
    (prepareBaselineBenchmarkCommit state progress history now capture)
  if commit.idempotent then return commit.state
  else
    onlyIf (commit.history ≠ history)
      (writeHistory commit.history
        "baseline benchmark history readback verification failed")
    onlyIf (commit.state ≠ state)
      (writeState commit.state
        "baseline benchmark state readback verification failed")
    onlyIf (commit.progress ≠ progress)
      (writeProgress commit.progress
        "baseline benchmark progress readback verification failed")
    let _ ← check (validatePersistedBaselineBenchmark commit.state
      commit.progress commit.history)
    return commit.state

/-! ## Reconciling the final benchmark -/

inductive FinalBenchmarkReconciliation where
  | complete (receipt : FinalBenchmarkReceipt)
  | pending (commit : FinalBenchmarkCommit)
  deriving DecidableEq

/-- The record belongs to a final benchmark. -/
def isFinalRecord (r : BenchmarkRecord) : Bool :=
  r.label = FINAL_BENCHMARK_LABEL || r.receiptId.isSome || r.transactionId.isSome

/-- `final_history_prefix`: the index and the record of the only final
record. -/
def finalHistoryPrefix (history : List BenchmarkRecord) :
    Except String (Option (Nat × BenchmarkRecord)) :=
  match history.zipIdx.filter fun (record, _) => isFinalRecord record with
  | [] => .ok none
  | [(record, index)] => .ok (some (index, record))
  | _ => .error "final benchmark history contains conflicting receipt prefixes"

/-- `receipt_matches_capture`. -/
def receiptMatchesCapture (receipt : FinalBenchmarkReceipt)
    (capture : BenchmarkCapture) : Bool :=
  F64.feq receipt.avgFps capture.averageFps && F64.feq receipt.p1Fps capture.p1Fps &&
    receipt.runs = capture.runs

/-- `validate_partial_final_state`. -/
def validatePartialFinalState (s : State) (receipt : FinalBenchmarkReceipt)
    (capture : BenchmarkCapture) : Except String Unit := do
  s.validate
  reject (s.activeRebootTransaction.map (·.stage) ≠ some .phaseThreeComplete)
    "final benchmark partial state is not Phase 3 complete"
  reject (!receiptMatchesCapture receipt capture || s.fpsCap ≠ receipt.fpsCap ||
      !F64.feq s.avgFps receipt.avgFps ||
      !(s.p1Fps.any (F64.feq · receipt.p1Fps)) ||
      s.capDate ≠ some receipt.capturedUtc)
    "final benchmark partial state conflicts with the requested capture"

/-- `validate_partial_final_record`. -/
def validatePartialFinalRecord (record : BenchmarkRecord) (s : State)
    (capture : BenchmarkCapture) : Except String Unit := do
  s.validate
  let transactionId ← okOr (s.activeRebootTransaction.bind (·.transactionId))
    "final benchmark history has no active reboot transaction"
  reject (record.label ≠ FINAL_BENCHMARK_LABEL || record.receiptId.isNone ||
      record.transactionId ≠ some transactionId ||
      !F64.feq record.avgFps capture.averageFps ||
      !F64.feq record.p1Fps capture.p1Fps || record.runs ≠ capture.runs)
    "final benchmark partial history conflicts with the requested capture"

/-- `receipt_id_from_record`. -/
def receiptIdFromRecord (record : BenchmarkRecord) : Except String TransactionId :=
  okOr record.receiptId "final benchmark partial history has no receipt id"

/-- The state that an interrupted run started from: the receipt is taken out
and the transaction is moved back to its armed stage. -/
def sourceState (s : State) (capture : BenchmarkCapture) : Except String State :=
  match s.finalBenchmark with
  | some receipt => do
      validatePartialFinalState s receipt capture
      let transaction ← okOr s.activeRebootTransaction
        "final benchmark partial state lost its reboot transaction"
      return { s with
        finalBenchmark := none
        activeRebootTransaction :=
          some { transaction with stage := .phaseThreeArmed } }
  | none => do
      s.validate
      return s

/-- The receipt id, the time stamp and the history that an interrupted run
started from, or fresh ones. -/
def sourceRecords (s : State) (history : List BenchmarkRecord)
    (partialHistory : Option (Nat × BenchmarkRecord))
    (freshReceiptId : Except String TransactionId) (capturedUtc : String)
    (capture : BenchmarkCapture) :
    Except String (TransactionId × String × List BenchmarkRecord) :=
  match partialHistory with
  | some (index, record) => do
      validatePartialFinalRecord record s capture
      reject (s.finalBenchmark.any fun receipt => !receipt.matchesHistoryRecord record)
        "final benchmark history and state prefixes disagree"
      let receiptId ← receiptIdFromRecord record
      return (receiptId, record.timestamp, history.eraseIdx index)
  | none =>
      match s.finalBenchmark with
      | some receipt => .ok (receipt.receiptId, receipt.capturedUtc, history)
      | none => do
          let receiptId ← freshReceiptId
          return (receiptId, capturedUtc, history)

/-- `reconcile_final_benchmark`. -/
def reconcileFinalBenchmark (s : State) (p : Progress)
    (history : List BenchmarkRecord) (config : Config)
    (freshReceiptId : Except String TransactionId) (capturedUtc : String)
    (capture : BenchmarkCapture) : Except String FinalBenchmarkReconciliation := do
  if Progress.key 3 13 ∈ p.completedSteps then
    let receipt ← validatePersistedFinalBenchmark s p history
    reject (!receiptMatchesCapture receipt capture)
      "completed final benchmark conflicts with the requested capture"
    return .complete receipt
  else
    reject (Progress.key 3 13 ∈ p.skippedSteps)
      "final benchmark progress was skipped and cannot be retried"
    let partialHistory ← finalHistoryPrefix history
    let source ← sourceState s capture
    let (receiptId, recordTimestamp, sourceHistory) ←
      sourceRecords s history partialHistory freshReceiptId capturedUtc capture
    let commit ← prepareFinalBenchmarkCommit source p sourceHistory config receiptId
      recordTimestamp capture
    reject (s.finalBenchmark.any fun receipt => commit.receipt ≠ receipt)
      "final benchmark partial state does not reproduce its receipt"
    reject (partialHistory.any fun (_, record) =>
        !commit.receipt.matchesHistoryRecord record)
      "final benchmark partial history does not reproduce its receipt"
    return .pending commit

/-- `fresh_final_receipt_id`, over the identifiers that are drawn. -/
def freshFinalReceiptId (s : State) (history : List BenchmarkRecord) :
    List (Except String TransactionId) → Except String TransactionId
  | [] => .error "could not generate a unique final benchmark receipt id"
  | draw :: draws => do
      let candidate ← draw
      if s.activeRebootTransaction.bind (·.transactionId) ≠ some candidate ∧
          history.all (·.receiptId ≠ some candidate) then
        return candidate
      else freshFinalReceiptId s history draws

/-- `persist_final_benchmark`.  The identifiers are drawn eight times at
most. -/
def persistFinalBenchmark (config : Config)
    (draws : List (Except String TransactionId)) (now : String)
    (capture : BenchmarkCapture) : StoreM FinalBenchmarkReceipt := do
  let state ← readState
  let progress ← readProgress
  let history ← readHistory
  let reconciliation ← check (reconcileFinalBenchmark state progress history config
    (freshFinalReceiptId state history (draws.take 8)) now capture)
  match reconciliation with
  | .complete receipt => return receipt
  | .pending commit => do
      onlyIf (commit.history ≠ history)
        (writeHistory commit.history
          "final benchmark history readback verification failed")
      onlyIf (commit.state ≠ state)
        (writeState commit.state
          "final benchmark state readback verification failed")
      -- P3:13 is the durable completion marker and is therefore always last.
      onlyIf (commit.progress ≠ progress)
        (writeProgress commit.progress
          "final benchmark progress readback verification failed")
      let state ← read Durable.state
      let progress ← read Durable.progress
      let history ← read Durable.history
      check (validatePersistedFinalBenchmark state progress history)

/-! ## The status of the final benchmark -/

inductive FinalBenchmarkStatus where
  | absent
  | coherent (receipt : FinalBenchmarkReceipt)
  | incoherent (error : String)
  deriving DecidableEq

/-- Something in the three files speaks of a final benchmark. -/
def hasReceiptEvidence (s : State) (p : Progress) (history : List BenchmarkRecord) :
    Bool :=
  s.finalBenchmark.isSome ||
    s.activeRebootTransaction.map (·.stage) = some .phaseThreeComplete ||
    Progress.key 3 13 ∈ p.completedSteps || Progress.key 3 13 ∈ p.skippedSteps ||
    p.timestamps.contains "3-13" || history.any isFinalRecord

/-- `final_benchmark_status_from_records`. -/
def finalBenchmarkStatusFromRecords (s : State) (p : Progress)
    (history : List BenchmarkRecord) : FinalBenchmarkStatus :=
  if hasReceiptEvidence s p history then
    match validatePersistedFinalBenchmark s p history with
    | .ok receipt => .coherent receipt
    | .error error => .incoherent error
  else .absent

/-- `final_benchmark_status_at`. -/
def finalBenchmarkStatus (d : Durable) : FinalBenchmarkStatus :=
  match checkState d.state with
  | .error error => .incoherent error
  | .ok state => finalBenchmarkStatusFromRecords state d.progress d.history

/-- `final_benchmark_evidence`. -/
def finalBenchmarkEvidence : FinalBenchmarkStatus → Evidence
  | .absent => .absent
  | .coherent _ => .verified
  | .incoherent _ => .unavailable

end FrametimeCfg.Windows
