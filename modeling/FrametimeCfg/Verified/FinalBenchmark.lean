import FrametimeCfg.Domain.Benchmark

/-!
# The final benchmark bundle

`prepare_final_benchmark_commit` computes the three files of the final
benchmark, and `validate_persisted_final_benchmark` accepts them.  The lemmas
here read both from their outcomes: the checks that a commit passed together
with the commit itself, and the agreement that an accepted bundle has.
-/

namespace FrametimeCfg.Verified.FinalBenchmark

open FrametimeCfg.Domain
open FrametimeCfg.Lib.Checks
open FrametimeCfg.Lib.Window

/-! ## Frame rates -/

/-- Numbers that compare equal are equal. -/
theorem feq_iff {a b : F64} : F64.feq a b = true ↔ a = b ∧ a ≠ .nan := by
  cases a <;> simp [F64.feq]

theorem feq_self {a : F64} (h : a.isFinite = true) : F64.feq a a = true := by
  refine feq_iff.mpr ⟨rfl, ?_⟩
  rintro rfl
  cases h

/-- A pair of valid rates is finite. -/
theorem finite_of_validRates {avg p1 : F64} (h : validRates avg p1 = true) :
    avg.isFinite = true ∧ p1.isFinite = true := by
  simp only [validRates, Bool.and_eq_true] at h
  exact ⟨h.1.1.1.1, h.1.1.2⟩

/-! ## Receipts -/

/-- The receipt of a capture. -/
def captureReceipt (receiptId transactionId : TransactionId) (capturedUtc : String)
    (capture : BenchmarkCapture) (fpsCap : UInt32) : FinalBenchmarkReceipt where
  schemaVersion := FINAL_BENCHMARK_SCHEMA_VERSION
  receiptId := receiptId
  transactionId := transactionId
  capturedUtc := capturedUtc
  avgFps := capture.averageFps
  p1Fps := capture.p1Fps
  runs := capture.runs
  fpsCap := fpsCap
  label := FINAL_BENCHMARK_LABEL

theorem new_eq_ok {receiptId transactionId : TransactionId} {capturedUtc : String}
    {capture : BenchmarkCapture} {fpsCap : UInt32} {receipt : FinalBenchmarkReceipt} :
    FinalBenchmarkReceipt.new receiptId transactionId capturedUtc capture fpsCap =
        .ok receipt ↔
      (captureReceipt receiptId transactionId capturedUtc capture fpsCap).validate =
          .ok () ∧
        receipt = captureReceipt receiptId transactionId capturedUtc capture fpsCap := by
  rw [FinalBenchmarkReceipt.new, check_bind_eq_ok]
  exact and_congr_right fun _ =>
    ⟨fun h => (Except.ok.inj h).symm, fun h => congrArg Except.ok h.symm⟩

/-- The rates of a valid receipt. -/
theorem rates_of_validate {r : FinalBenchmarkReceipt} (h : r.validate = .ok ()) :
    validRates r.avgFps r.p1Fps = true := by
  simp only [FinalBenchmarkReceipt.validate, check_bind_eq_ok, reject_eq_ok,
    Bool.or_eq_false_iff, Bool.not_eq_false'] at h
  exact h.2.2.2.1.1

/-- A valid receipt matches the record made from it. -/
theorem matches_historyRecord {r : FinalBenchmarkReceipt} (h : r.validate = .ok ()) :
    r.matchesHistoryRecord r.historyRecord = true := by
  obtain ⟨havg, hp1⟩ := finite_of_validRates (rates_of_validate h)
  simp [FinalBenchmarkReceipt.matchesHistoryRecord,
    FinalBenchmarkReceipt.historyRecord, feq_self havg, feq_self hp1]

/-- The record of a receipt refers to it. -/
theorem refersTo_historyRecord (r : FinalBenchmarkReceipt) :
    refersTo r.receiptId r.transactionId r.historyRecord = true := by
  simp [refersTo, FinalBenchmarkReceipt.historyRecord]

/-! ## The commit -/

/-- The state of a commit. -/
def committedState (s : State) (t : RebootTransaction) (receipt : FinalBenchmarkReceipt) :
    State :=
  { s with
    fpsCap := receipt.fpsCap
    avgFps := receipt.avgFps
    p1Fps := some receipt.p1Fps
    capDate := some receipt.capturedUtc
    finalBenchmark := some receipt
    activeRebootTransaction := some
      { t with stage := .phaseThreeComplete, updatedUtc := some receipt.capturedUtc } }

/-- The three files of a commit and its receipt. -/
def committed (s : State) (p : Progress) (history : List BenchmarkRecord)
    (t : RebootTransaction) (receipt : FinalBenchmarkReceipt) : FinalBenchmarkCommit where
  state := committedState s t receipt
  progress := p.completeStep PHASE_THREE_FINAL_BENCHMARK receipt.capturedUtc
  history := appendBenchmarkRecord history receipt.historyRecord
  receipt := receipt

/-- What the progress has to say before P3:13. -/
structure ReadyForFinal (p : Progress) : Prop where
  driver : p.isCompleted PHASE_THREE_DRIVER_INSTALL = true
  resolved : phaseThreeEngineSteps.any (unresolvedFor p) = false
  notCompleted : p.isCompleted PHASE_THREE_FINAL_BENCHMARK = false
  notSkipped : p.isSkipped PHASE_THREE_FINAL_BENCHMARK = false

/-- The checks that a commit passed. -/
structure Commits (s : State) (p : Progress) (history : List BenchmarkRecord)
    (config : Config) (capture : BenchmarkCapture) (t : RebootTransaction)
    (receipt : FinalBenchmarkReceipt) : Prop where
  configValid : config.validate = .ok ()
  valid : s.validate = .ok ()
  noReceipt : s.finalBenchmark = none
  ready : ReadyForFinal p
  transaction : s.activeRebootTransaction = some t
  authorized : t.isAuthorizedAt .phaseThreeArmed = true
  transactionId : t.transactionId = some receipt.transactionId
  unrecorded : history.any (refersTo receipt.receiptId receipt.transactionId) = false
  cap : measuredFpsCap config.fpsCap.capStrategy capture = some receipt.fpsCap
  captured : receipt = captureReceipt receipt.receiptId receipt.transactionId
    receipt.capturedUtc capture receipt.fpsCap
  receiptValid : receipt.validate = .ok ()
  committedValid : (committedState s t receipt).validate = .ok ()

section

variable {s : State} {p : Progress} {history : List BenchmarkRecord} {config : Config}
  {capture : BenchmarkCapture} {t : RebootTransaction} {receipt : FinalBenchmarkReceipt}

theorem Commits.label_eq (h : Commits s p history config capture t receipt) :
    receipt.label = FINAL_BENCHMARK_LABEL :=
  congrArg FinalBenchmarkReceipt.label h.captured

theorem Commits.runs_eq (h : Commits s p history config capture t receipt) :
    receipt.runs = capture.runs :=
  congrArg FinalBenchmarkReceipt.runs h.captured

/-- The rates of the receipt compare equal to those of the capture. -/
theorem Commits.rates_eq (h : Commits s p history config capture t receipt) :
    F64.feq receipt.avgFps capture.averageFps = true ∧
      F64.feq receipt.p1Fps capture.p1Fps = true := by
  have havg : receipt.avgFps = capture.averageFps :=
    congrArg FinalBenchmarkReceipt.avgFps h.captured
  have hp1 : receipt.p1Fps = capture.p1Fps :=
    congrArg FinalBenchmarkReceipt.p1Fps h.captured
  obtain ⟨hfavg, hfp1⟩ := finite_of_validRates (rates_of_validate h.receiptValid)
  rw [← havg, ← hp1]
  exact ⟨feq_self hfavg, feq_self hfp1⟩

end

/-- The history has room for a record. -/
theorem history_capacity_pos : 0 < MAX_BENCHMARK_HISTORY := by decide

private theorem getLast_append (history : List BenchmarkRecord) (r : BenchmarkRecord) :
    (appendBenchmarkRecord history r).getLast? = some r := by
  rw [appendBenchmarkRecord, pushNewest_eq history_capacity_pos, List.getLast?_concat]

private theorem ready_iff {p : Progress} :
    ReadyForFinal p ↔
      p.isCompleted PHASE_THREE_DRIVER_INSTALL = true ∧
      (phaseThreeEngineSteps.any (unresolvedFor p) = false ∧
        p.isCompleted PHASE_THREE_FINAL_BENCHMARK = false) ∧
      p.isSkipped PHASE_THREE_FINAL_BENCHMARK = false :=
  ⟨fun ⟨h1, h2, h3, h4⟩ => ⟨h1, ⟨h2, h3⟩, h4⟩,
    fun ⟨h1, ⟨h2, h3⟩, h4⟩ => ⟨h1, h2, h3, h4⟩⟩

/-- **A commit and its checks.** -/
theorem prepareFinalBenchmarkCommit_eq_ok {s : State} {p : Progress}
    {history : List BenchmarkRecord} {config : Config} {receiptId : TransactionId}
    {capturedUtc : String} {capture : BenchmarkCapture} {commit : FinalBenchmarkCommit} :
    prepareFinalBenchmarkCommit s p history config receiptId capturedUtc capture =
        .ok commit ↔
      ∃ t receipt, Commits s p history config capture t receipt ∧
        receipt.receiptId = receiptId ∧ receipt.capturedUtc = capturedUtc ∧
        commit = committed s p history t receipt := by
  have hallows : ∀ {t : RebootTransaction}, t.isAuthorizedAt .phaseThreeArmed = true →
      t.transitionTo .phaseThreeComplete = .ok { t with stage := .phaseThreeComplete } := by
    intro t ht
    rw [RebootTransaction.transitionTo, RebootTransaction.stage_of_isAuthorizedAt ht]
    rfl
  rw [prepareFinalBenchmarkCommit]
  simp only [bind_eq_ok, Unique.exists_iff, PUnit.default_eq_unit, mapError_eq_ok,
    reject_eq_ok, okOr_eq_ok, Bool.or_eq_false_iff, Bool.not_eq_false', Option.isSome_eq_false_iff,
    Option.isNone_iff_eq_none, new_eq_ok, getLast_append]
  constructor
  · rintro ⟨hconfig, hvalid, hnone, hdriver, hresolved, t, ht, hauth, tid, htid,
      hunrecorded, cap, hcap, receipt, ⟨hrvalid, rfl⟩, moved, hmoved, hcvalid,
      record, hrecord, hmatch, hcommit⟩
    rw [hallows hauth] at hmoved
    obtain rfl := Except.ok.inj hmoved
    refine ⟨t, captureReceipt receiptId tid capturedUtc capture cap, ?_, rfl, rfl,
      (Except.ok.inj hcommit).symm⟩
    exact ⟨hconfig, hvalid, hnone, ready_iff.mpr ⟨hdriver, hresolved⟩, ht, hauth, htid,
      hunrecorded, hcap, rfl, hrvalid, hcvalid⟩
  · rintro ⟨t, receipt, h, rfl, rfl, rfl⟩
    obtain ⟨hdriver, hresolved⟩ := ready_iff.mp h.ready
    have hreceipt := h.captured
    refine ⟨h.configValid, h.valid, h.noReceipt, hdriver, hresolved, t, h.transaction,
      h.authorized, receipt.transactionId, h.transactionId, h.unrecorded,
      receipt.fpsCap, h.cap, receipt, ⟨hreceipt ▸ h.receiptValid, hreceipt⟩, _,
      hallows h.authorized, h.committedValid, receipt.historyRecord, rfl,
      matches_historyRecord h.receiptValid, rfl⟩

/-! ## The persisted bundle -/

/-- The frame-rate fields of the state are those of the receipt. -/
structure RatesAgree (s : State) (receipt : FinalBenchmarkReceipt) : Prop where
  fpsCap : s.fpsCap = receipt.fpsCap
  avgFps : F64.feq s.avgFps receipt.avgFps = true
  p1Fps : s.p1Fps.any (F64.feq · receipt.p1Fps) = true
  capDate : s.capDate = some receipt.capturedUtc

/-- P3:13 is completed at the time of the receipt, after everything else. -/
structure FinalProgress (p : Progress) (receipt : FinalBenchmarkReceipt) : Prop where
  driver : p.isCompleted PHASE_THREE_DRIVER_INSTALL = true
  completed : p.isCompleted PHASE_THREE_FINAL_BENCHMARK = true
  notSkipped : p.isSkipped PHASE_THREE_FINAL_BENCHMARK = false
  stamped : p.timestamps["3-13"]? = some receipt.capturedUtc
  resolved : phaseThreeEngineSteps.any (unresolvedFor p) = false

/-- One record of the history refers to the receipt, and it matches. -/
def RecordedOnce (history : List BenchmarkRecord) (receipt : FinalBenchmarkReceipt) :
    Prop :=
  ∃ r, history.filter (refersTo receipt.receiptId receipt.transactionId) = [r] ∧
    receipt.matchesHistoryRecord r = true

/-- An accepted bundle. -/
structure Persisted (s : State) (p : Progress) (history : List BenchmarkRecord)
    (receipt : FinalBenchmarkReceipt) : Prop where
  valid : s.validate = .ok ()
  held : s.finalBenchmark = some receipt
  transaction : ∃ t, s.activeRebootTransaction = some t ∧
    t.isAuthorizedAt .phaseThreeComplete = true ∧
    receipt.validateForTransaction t = .ok ()
  progress : FinalProgress p receipt
  rates : RatesAgree s receipt
  recorded : RecordedOnce history receipt

/-- **What an accepted bundle agrees on.** -/
theorem validatePersistedFinalBenchmark_eq_ok {s : State} {p : Progress}
    {history : List BenchmarkRecord} {receipt : FinalBenchmarkReceipt} :
    validatePersistedFinalBenchmark s p history = .ok receipt ↔
      Persisted s p history receipt := by
  rw [validatePersistedFinalBenchmark]
  simp only [bind_eq_ok, Unique.exists_iff, PUnit.default_eq_unit, okOr_eq_ok,
    reject_eq_ok, sole_eq_some,
    Bool.or_eq_false_iff, Bool.not_eq_false', decide_eq_false_iff_not, not_not]
  constructor
  · rintro ⟨hvalid, receipt', hreceipt, t, ht, hauth, hfor,
      ⟨⟨⟨hdriver, hdone⟩, hskip⟩, hstamp⟩, hresolved, ⟨⟨⟨hcap, havg⟩, hp1⟩, hdate⟩,
      r, hr, hmatch, hreturn⟩
    obtain rfl := Except.ok.inj hreturn
    exact ⟨hvalid, hreceipt, ⟨t, ht, hauth, hfor⟩,
      ⟨hdriver, hdone, hskip, hstamp, hresolved⟩, ⟨hcap, havg, hp1, hdate⟩,
      r, hr, hmatch⟩
  · rintro ⟨hvalid, hreceipt, ⟨t, ht, hauth, hfor⟩, hp, hrates, r, hr, hmatch⟩
    exact ⟨hvalid, receipt, hreceipt, t, ht, hauth, hfor,
      ⟨⟨⟨hp.driver, hp.completed⟩, hp.notSkipped⟩, hp.stamped⟩, hp.resolved,
      ⟨⟨⟨hrates.fpsCap, hrates.avgFps⟩, hrates.p1Fps⟩, hrates.capDate⟩,
      r, hr, hmatch, rfl⟩

/-- Completing a step leaves no step unresolved that was resolved. -/
theorem resolved_completeStep {p : Progress} (i : StepId) (now : String)
    (h : phaseThreeEngineSteps.any (unresolvedFor p) = false) :
    phaseThreeEngineSteps.any (unresolvedFor (p.completeStep i now)) = false := by
  rw [List.any_eq_false] at h ⊢
  intro step hstep hunresolved
  refine h step hstep ?_
  simp only [unresolvedFor, Bool.and_eq_true, Bool.not_eq_true',
    ← Bool.not_eq_true] at hunresolved ⊢
  rw [Progress.isCompleted_completeStep, Progress.isSkipped_completeStep,
    not_or, not_and] at hunresolved
  obtain ⟨⟨hne, hcompleted⟩, hskipped⟩ := hunresolved
  exact ⟨hcompleted, hskipped hne⟩

/-- **A commit that was written is accepted.** -/
theorem persisted_of_commits {s : State} {p : Progress} {history : List BenchmarkRecord}
    {config : Config} {capture : BenchmarkCapture} {t : RebootTransaction}
    {receipt : FinalBenchmarkReceipt} (h : Commits s p history config capture t receipt) :
    Persisted (committedState s t receipt)
      (p.completeStep PHASE_THREE_FINAL_BENCHMARK receipt.capturedUtc)
      (appendBenchmarkRecord history receipt.historyRecord) receipt := by
  obtain ⟨havg, hp1⟩ := finite_of_validRates (rates_of_validate h.receiptValid)
  have hdriver : (p.completeStep PHASE_THREE_FINAL_BENCHMARK
      receipt.capturedUtc).isCompleted PHASE_THREE_DRIVER_INSTALL = true := by
    rw [Progress.isCompleted_completeStep]
    exact Or.inr h.ready.driver
  have hdone : (p.completeStep PHASE_THREE_FINAL_BENCHMARK
      receipt.capturedUtc).isCompleted PHASE_THREE_FINAL_BENCHMARK = true := by
    rw [Progress.isCompleted_completeStep]
    exact Or.inl rfl
  have hskip : (p.completeStep PHASE_THREE_FINAL_BENCHMARK
      receipt.capturedUtc).isSkipped PHASE_THREE_FINAL_BENCHMARK = false := by
    rw [← Bool.not_eq_true, Progress.isSkipped_completeStep]
    exact fun hskip => hskip.1 rfl
  have hstamp : (p.completeStep PHASE_THREE_FINAL_BENCHMARK
      receipt.capturedUtc).timestamps["3-13"]? = some receipt.capturedUtc := by
    show (p.timestamps.insert "3-13" receipt.capturedUtc)["3-13"]? = _
    exact Std.ExtTreeMap.getElem?_insert_self
  have hfor : receipt.validateForTransaction
      { t with
        stage := .phaseThreeComplete
        updatedUtc := some receipt.capturedUtc } = .ok () := by
    rw [FinalBenchmarkReceipt.validateForTransaction, check_bind_eq_ok, reject_eq_ok]
    exact ⟨h.receiptValid, by simp [h.transactionId]⟩
  have hrecord : RecordedOnce (appendBenchmarkRecord history receipt.historyRecord)
      receipt :=
    ⟨receipt.historyRecord, filter_pushNewest_new history_capacity_pos
      (refersTo_historyRecord receipt) h.unrecorded,
      matches_historyRecord h.receiptValid⟩
  exact {
    valid := h.committedValid
    held := rfl
    transaction := ⟨_, rfl, RebootTransaction.isAuthorizedAt_withStage h.authorized _, hfor⟩
    progress :=
      { driver := hdriver
        completed := hdone
        notSkipped := hskip
        stamped := hstamp
        resolved := resolved_completeStep _ _ h.ready.resolved }
    rates := ⟨rfl, feq_self havg, feq_self hp1, rfl⟩
    recorded := hrecord }

end FrametimeCfg.Verified.FinalBenchmark
