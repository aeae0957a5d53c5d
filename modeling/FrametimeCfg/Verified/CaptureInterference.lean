import FrametimeCfg.Verified.BenchmarkCommits

/-!
# Advisory captures next to benchmark evidence

An advisory capture replaces the rates of the state and appends a record under the
label of its caller.  The evidence looks at neither of these rates, but it recognises
its own records by their labels and refuses a history with a record it finds invalid.

Two stores are compared, one with the captures and one without.  A capture under a free
label and with runs makes no difference.  Any other one that is recorded does, as long
as the store is open for the evidence in question; `captureInterference` says exactly
when.
-/

namespace FrametimeCfg.Verified.CaptureInterference

open FrametimeCfg.Domain FrametimeCfg.Windows
open FrametimeCfg.Lib.Checks
open FrametimeCfg.Lib.Journal
open FrametimeCfg.Lib.Window
open FrametimeCfg.Verified.BenchmarkCommits
open FrametimeCfg.Verified.BenchmarkEvidence
open FrametimeCfg.Verified.BenchmarkStore
open FrametimeCfg.Verified.FinalBenchmark
open FrametimeCfg.Verified.FinalBenchmarkRetry

/-! ## Captures -/

/-- One call of the advisory capture. -/
structure AdvisoryCapture where
  now : String
  cap : UInt32
  capture : BenchmarkCapture
  label : String

/-- The record of a call. -/
def AdvisoryCapture.record (a : AdvisoryCapture) : BenchmarkRecord :=
  captureRecord a.now a.label a.capture

/-- The call appends its record. -/
def AdvisoryCapture.isRecorded (a : AdvisoryCapture) : Bool :=
  F64.flt F64.zero a.capture.p1Fps

/-- The records that the calls append. -/
def records (captures : List AdvisoryCapture) : List BenchmarkRecord :=
  (captures.filter AdvisoryCapture.isRecorded).map AdvisoryCapture.record

/-- All calls are accepted, one after the other, and leave room in the history.  The
clock gives well-formed times. -/
inductive Accepted : Durable → List AdvisoryCapture → Durable → Prop where
  | nil (d : Durable) : Accepted d [] d
  | cons {d d' : Durable} {a : AdvisoryCapture} {captures : List AdvisoryCapture}
      {ws : List Write} {s : State} (hnow : validCaptureTimestamp a.now = true)
      (h : Returns (persistFpsCapture a.now a.cap a.capture a.label) d ws s)
      (hroom : (after d ws).history.length < MAX_BENCHMARK_HISTORY)
      (hrest : Accepted (after d ws) captures d') : Accepted d (a :: captures) d'

/-! ## The comparison -/

/-- Both bundles are prepared or none is, with the same baseline and progress. -/
structure SameBaselineCommit (x y : Except String BaselineBenchmarkCommit) : Prop where
  accepted : (∃ c, x = .ok c) ↔ ∃ c, y = .ok c
  same : ∀ c c', x = .ok c → y = .ok c' →
    c'.state.baselineAvg = c.state.baselineAvg ∧
      c'.state.baselineP1 = c.state.baselineP1 ∧ c'.progress = c.progress

/-- The receipt of a reconciliation. -/
def receiptOf : FinalBenchmarkReconciliation → FinalBenchmarkReceipt
  | .complete receipt => receipt
  | .pending commit => commit.receipt

/-- The progress after a reconciliation. -/
def progressOf (p : Progress) : FinalBenchmarkReconciliation → Progress
  | .complete _ => p
  | .pending commit => commit.progress

/-- Both reconciliations succeed or none does, with the same receipt and progress. -/
structure SameReconciliation (p : Progress)
    (x y : Except String FinalBenchmarkReconciliation) : Prop where
  accepted : (∃ r, x = .ok r) ↔ ∃ r, y = .ok r
  same : ∀ r r', x = .ok r → y = .ok r' →
    receiptOf r' = receiptOf r ∧ progressOf p r' = progressOf p r

/-- The Phase 3 transaction is armed. -/
def Armed (d : Durable) : Prop :=
  ∃ t, d.state.activeRebootTransaction = some t ∧ t.isAuthorizedAt .phaseThreeArmed = true

/-- No call for the baseline or the final benchmark tells the two stores apart. -/
structure Undisturbed (d d' : Durable) : Prop where
  baseline : ∀ now capture, SameBaselineCommit
    (prepareBaselineBenchmarkCommit d.state d.progress d.history now capture)
    (prepareBaselineBenchmarkCommit d'.state d'.progress d'.history now capture)
  final : Armed d → ∀ config fresh now capture, SameReconciliation d.progress
    (reconcileAt d config fresh now capture) (reconcileAt d' config fresh now capture)

/-! ## The store after captures -/

/-- Only the rates and the work directory differ. -/
def Rerated (s s' : State) : Prop :=
  s' = { s with
    fpsCap := s'.fpsCap
    avgFps := s'.avgFps
    p1Fps := s'.p1Fps
    capDate := s'.capDate
    workDir := s'.workDir }

theorem Rerated.refl (s : State) : Rerated s s := rfl

theorem Rerated.trans {s s' s'' : State} (h : Rerated s s') (h' : Rerated s' s'') :
    Rerated s s'' := by
  unfold Rerated at h h' ⊢
  rw [h] at h'
  exact h'

theorem Rerated.symm {s s' : State} (h : Rerated s s') : Rerated s' s := by
  unfold Rerated at h ⊢
  rw [h]

/-- A new rate does not need a receipt. -/
theorem rerated_captured (s : State) (now : String) (cap : UInt32)
    (capture : BenchmarkCapture) : Rerated s (capturedState s now cap capture) := rfl

/-- The rates do not matter for the validity of a state. -/
theorem Rerated.validate {s s' : State} (h : Rerated s s') : s'.validate = s.validate := by
  unfold Rerated at h
  rw [h]
  rfl

/-- The store after the calls: the records come last, and the state has new rates. -/
structure AfterCaptures (d : Durable) (captures : List AdvisoryCapture) (d' : Durable) :
    Prop where
  rerated : Rerated d.state d'.state
  progress : d'.progress = d.progress
  history : d'.history = d.history ++ records captures
  room : captures ≠ [] → d'.history.length < MAX_BENCHMARK_HISTORY
  valid : captures ≠ [] → d.state.validate = .ok () ∧ d.state.finalBenchmark = none
  invalid : ∀ a ∈ captures, invalidRecord a.record = false ↔
    a.capture.runs ≠ 0 ∧ a.label.isEmpty = false

/-- What an accepted call leaves of its record that can be invalid. -/
theorem invalidRecord_record {s : State} {a : AdvisoryCapture}
    (h : AcceptsCapture s a.cap a.capture) (hnow : validCaptureTimestamp a.now = true) :
    invalidRecord a.record = false ↔ a.capture.runs ≠ 0 ∧ a.label.isEmpty = false := by
  have hnonneg : F64.flt a.capture.averageFps F64.zero = false := by
    rw [F64.flt, h.avgPositive]
    rfl
  simp [invalidRecord, AdvisoryCapture.record, captureRecord, h.avgFinite, hnonneg,
    h.p1Finite, h.p1Nonneg, hnow, and_comm]
  exact fun _ => decide_eq_false_iff_not

/-- Where a history has room after an append, nothing was dropped. -/
theorem append_room {history : List BenchmarkRecord} {record : BenchmarkRecord}
    (h : (appendBenchmarkRecord history record).length < MAX_BENCHMARK_HISTORY) :
    appendBenchmarkRecord history record = history ++ [record] := by
  have hpos := history_capacity_pos
  rw [appendBenchmarkRecord, pushNewest_eq history_capacity_pos] at h ⊢
  rw [List.length_append, List.length_singleton, kept, List.length_drop] at h
  rw [kept_eq_self (by omega)]

/-- The history after one call. -/
theorem history_captured {history : List BenchmarkRecord} {a : AdvisoryCapture}
    (h : (capturedHistory history a.now a.label a.capture).length < MAX_BENCHMARK_HISTORY) :
    capturedHistory history a.now a.label a.capture = history ++ records [a] := by
  unfold capturedHistory at h ⊢
  unfold records
  by_cases hrecorded : F64.flt F64.zero a.capture.p1Fps = true
  · have hfilter : [a].filter AdvisoryCapture.isRecorded = [a] := by
      rw [List.filter_singleton, AdvisoryCapture.isRecorded, hrecorded]
      rfl
    rw [if_pos hrecorded] at h ⊢
    rw [append_room h, hfilter]
    rfl
  · have hfilter : [a].filter AdvisoryCapture.isRecorded = [] := by
      rw [List.filter_singleton, AdvisoryCapture.isRecorded, Bool.eq_false_iff.mpr hrecorded]
      rfl
    rw [if_neg hrecorded, hfilter, List.map_nil, List.append_nil]

theorem records_cons (a : AdvisoryCapture) (captures : List AdvisoryCapture) :
    records (a :: captures) = records [a] ++ records captures := by
  unfold records
  rw [← List.map_append, ← List.filter_append]
  rfl

/-- **What accepted captures leave.** -/
theorem afterCaptures {d d' : Durable} {captures : List AdvisoryCapture}
    (h : Accepted d captures d') : AfterCaptures d captures d' := by
  induction h with
  | nil d =>
      exact {
        rerated := Rerated.refl _
        progress := rfl
        history := (List.append_nil _).symm
        room := fun hne => absurd rfl hne
        valid := fun hne => absurd rfl hne
        invalid := fun a ha => absurd ha List.not_mem_nil }
  | @cons d d' a captures ws s hnow h hroom hrest ih =>
      obtain ⟨haccepts, hafter⟩ := after_persistFpsCapture h
      rw [hafter] at hroom ih
      have hhistory : capturedHistory d.history a.now a.label a.capture =
          d.history ++ records [a] := history_captured hroom
      constructor
      · exact (rerated_captured d.state a.now a.cap a.capture).trans ih.rerated
      · exact ih.progress
      · rw [ih.history, records_cons, ← List.append_assoc, ← hhistory]
        rfl
      · intro _
        cases captures with
        | nil =>
            rw [ih.history]
            show (_ ++ []).length < _
            rw [List.append_nil]
            exact hroom
        | cons b rest => exact ih.room (List.cons_ne_nil b rest)
      · intro _
        exact ⟨haccepts.valid, haccepts.noReceipt⟩
      · intro b hb
        rcases List.mem_cons.mp hb with rfl | hb
        · exact invalidRecord_record haccepts hnow
        · exact ih.invalid b hb

/-! ## What captures under free labels leave -/

/-- A recorded call that the evidence of the baseline passes over. -/
def BaselineFree (a : AdvisoryCapture) : Prop :=
  a.capture.runs ≠ 0 ∧ a.label.isEmpty = false ∧ a.label ≠ BASELINE_BENCHMARK_LABEL

/-- A recorded call that the evidence of the final benchmark passes over. -/
def FinalFree (a : AdvisoryCapture) : Prop := a.label ≠ FINAL_BENCHMARK_LABEL

section

variable {s s' : State} {p : Progress} {history history' : List BenchmarkRecord}
  {now : String} {capture : BenchmarkCapture}

theorem Rerated.withBaseline (h : Rerated s s') (capture : BenchmarkCapture) :
    Rerated (withBaseline s capture) (withBaseline s' capture) := by
  unfold Rerated at h ⊢
  rw [h]
  rfl

theorem Rerated.baseline (h : Rerated s s') :
    s'.baselineAvg = s.baselineAvg ∧ s'.baselineP1 = s.baselineP1 := by
  unfold Rerated at h
  rw [h]
  exact ⟨rfl, rfl⟩

/-- **The baseline is prepared alike** from rerated states and histories with the same
baseline records. -/
theorem baseline_transfer {c : BaselineBenchmarkCommit} (hrerated : Rerated s s')
    (hvalid : ValidHistory history → ValidHistory history')
    (hlabel : history'.filter (·.label = BASELINE_BENCHMARK_LABEL) =
      history.filter (·.label = BASELINE_BENCHMARK_LABEL))
    (h : prepareBaselineBenchmarkCommit s p history now capture = .ok c) :
    ∃ c', prepareBaselineBenchmarkCommit s' p history' now capture = .ok c' ∧
      c'.state.baselineAvg = c.state.baselineAvg ∧
      c'.state.baselineP1 = c.state.baselineP1 ∧ c'.progress = c.progress := by
  have hready := prepare_ready h
  obtain ⟨hnow, hkind⟩ := prepare_cases h
  obtain ⟨havg, hp1⟩ := hrerated.baseline
  have hready' : BaselineReady s' p history' capture :=
    ⟨by rw [hrerated.validate, hready.valid], hvalid hready.validHistory, hready.complete,
      hready.notSkipped⟩
  have hhas : stateHasBaseline s' = stateHasBaseline s := by
    unfold stateHasBaseline
    rw [havg, hp1]
  have hsource : HasCapture s capture → HasCapture s' capture := by
    intro hcapture
    exact ⟨havg.trans hcapture.1, hp1.trans hcapture.2⟩
  have hfound : ∀ r, FoundRecord history capture r → FoundRecord history' capture r :=
    fun r hr => ⟨hlabel.trans hr.sole, hr.matching⟩
  rcases hkind with hdone | hrecords
  · obtain ⟨r, hr, rfl⟩ := hdone.found
    obtain ⟨record, hpersisted⟩ := hdone.persisted
    have haccepted := validatePersistedBaselineBenchmark_eq_ok.mp hpersisted
    have hsame : isBaselineRecord s' = isBaselineRecord s :=
      SameBaseline.isBaselineRecord_eq ⟨havg, hp1⟩
    have hpersisted' : validatePersistedBaselineBenchmark s' p history' = .ok record := by
      rw [validatePersistedBaselineBenchmark_eq_ok]
      refine ⟨hready'.valid, hready'.validHistory, ?_, haccepted.progress, ?_⟩
      · rw [havg, hp1]
        exact haccepted.rates
      · rw [hsame, filter_baseline, hlabel, ← filter_baseline]
        exact haccepted.record
    exact ⟨_, prepare_done hready' hnow (hfound r hr) (hsource hdone.source) hdone.completed
      hpersisted', havg, hp1, rfl⟩
  · have hvalid' : (BenchmarkCommits.withBaseline s' capture).validate = .ok () := by
      rw [(hrerated.withBaseline capture).validate, hrecords.valid]
    obtain ⟨r, next, hrecorded, rfl⟩ := hrecords.found
    cases hrecorded with
    | found hr =>
        refine ⟨_, prepare_found hready' hnow (hfound r hr) ?_ hrecords.notCompleted hvalid',
          rfl, rfl, rfl⟩
        rcases hrecords.source with hnone | hcapture
        · exact .inl (hhas.trans hnone)
        · exact .inr (hsource hcapture)
    | appended hnone =>
        have hno : stateHasBaseline s' = false := by
          rw [hhas, ← Bool.not_eq_true]
          exact fun hheld => hrecords.held hheld hnone
        exact ⟨_, prepare_appended hready' hnow (hlabel.trans hnone) hno
          hrecords.notCompleted hvalid', rfl, rfl, rfl⟩

end

/-! ## Reconciling next to captures -/

section

variable {s s' : State} {p : Progress} {history extra clean : List BenchmarkRecord}
  {config : Config} {fresh : Except String TransactionId} {now : String}
  {capture : BenchmarkCapture} {t : RebootTransaction} {receipt : FinalBenchmarkReceipt}
  {found : Option (Nat × BenchmarkRecord)}

/-- A reconciliation without a receipt in the state. -/
structure Fresh (s : State) (p : Progress) (history : List BenchmarkRecord) (config : Config)
    (fresh : Except String TransactionId) (now : String) (capture : BenchmarkCapture)
    (found : Option (Nat × BenchmarkRecord)) (clean : List BenchmarkRecord)
    (t : RebootTransaction) (receipt : FinalBenchmarkReceipt) : Prop where
  notCompleted : Progress.key 3 13 ∉ p.completedSteps
  notSkipped : Progress.key 3 13 ∉ p.skippedSteps
  searched : finalHistoryPrefix history = .ok found
  source : sourceRecords s history found fresh now capture =
    .ok (receipt.receiptId, receipt.capturedUtc, clean)
  commits : Commits s p clean config capture t receipt
  matching : (found.any fun (_, record) => !receipt.matchesHistoryRecord record) = false

/-- **Reconciling without a receipt in the state.** -/
theorem reconcile_eq_ok {r : FinalBenchmarkReconciliation} (hnone : s.finalBenchmark = none) :
    reconcileFinalBenchmark s p history config fresh now capture = .ok r ↔
      ∃ found clean t receipt,
        Fresh s p history config fresh now capture found clean t receipt ∧
          r = .pending (committed s p clean t receipt) := by
  unfold reconcileFinalBenchmark
  by_cases hdone : Progress.key 3 13 ∈ p.completedSteps
  · rw [if_pos hdone]
    constructor
    · intro h
      obtain ⟨receipt, hreceipt, -⟩ := bind_eq_ok.mp h
      have hheld := (validatePersistedFinalBenchmark_eq_ok.mp hreceipt).held
      rw [hnone] at hheld
      cases hheld
    · intro h
      obtain ⟨_, _, _, _, hfresh, -⟩ := h
      exact absurd hdone hfresh.notCompleted
  · rw [if_neg hdone]
    have hsource : ∀ source, sourceState s capture = .ok source ↔
        s.validate = .ok () ∧ source = s := by
      intro source
      rw [sourceState_eq_ok]
      constructor
      · intro h
        rcases h with ⟨-, hvalid, rfl⟩ | ⟨receipt, t, hreceipt, -⟩
        · exact ⟨hvalid, rfl⟩
        · rw [hnone] at hreceipt
          cases hreceipt
      · intro h
        exact .inl ⟨hnone, h.1, h.2⟩
    constructor
    · intro h
      obtain ⟨hskip, h⟩ := check_bind_eq_ok.mp h
      obtain ⟨found, hfound, h⟩ := bind_eq_ok.mp h
      obtain ⟨source, hsourceFound, h⟩ := bind_eq_ok.mp h
      obtain ⟨-, rfl⟩ := (hsource source).mp hsourceFound
      obtain ⟨⟨receiptId, stamp, clean⟩, hrecords, h⟩ := bind_eq_ok.mp h
      obtain ⟨commit, hcommit, h⟩ := bind_eq_ok.mp h
      obtain ⟨-, h⟩ := check_bind_eq_ok.mp h
      obtain ⟨hmatch, h⟩ := check_bind_eq_ok.mp h
      obtain ⟨t, receipt, hcommits, rfl, rfl, rfl⟩ :=
        prepareFinalBenchmarkCommit_eq_ok.mp hcommit
      have hskip' := reject_eq_ok.mp hskip
      exact ⟨found, clean, t, receipt, ⟨hdone, of_decide_eq_false hskip', hfound, hrecords,
        hcommits, reject_eq_ok.mp hmatch⟩, (Except.ok.inj h).symm⟩
    · intro h
      obtain ⟨found, clean, t, receipt, hfresh, rfl⟩ := h
      have hcommit : prepareFinalBenchmarkCommit s p clean config receipt.receiptId
          receipt.capturedUtc capture = .ok (committed s p clean t receipt) :=
        prepareFinalBenchmarkCommit_eq_ok.mpr ⟨t, receipt, hfresh.commits, rfl, rfl, rfl⟩
      refine check_bind_eq_ok.mpr ⟨reject_eq_ok.mpr (decide_eq_false hfresh.notSkipped), ?_⟩
      refine bind_eq_ok.mpr ⟨found, hfresh.searched, ?_⟩
      refine bind_eq_ok.mpr ⟨s, (hsource s).mpr ⟨hfresh.commits.valid, rfl⟩, ?_⟩
      refine bind_eq_ok.mpr ⟨_, hfresh.source, ?_⟩
      refine bind_eq_ok.mpr ⟨_, hcommit, ?_⟩
      refine check_bind_eq_ok.mpr ⟨reject_eq_ok.mpr ?_, ?_⟩
      · rw [hnone]
        rfl
      · exact check_bind_eq_ok.mpr ⟨reject_eq_ok.mpr hfresh.matching, rfl⟩

theorem Rerated.committed (h : Rerated s s') (t : RebootTransaction)
    (receipt : FinalBenchmarkReceipt) :
    Rerated (committedState s t receipt) (committedState s' t receipt) := by
  unfold Rerated at h ⊢
  rw [h]
  rfl

theorem Rerated.held (h : Rerated s s') : s'.finalBenchmark = s.finalBenchmark := by
  unfold Rerated at h
  rw [h]

theorem Rerated.transaction (h : Rerated s s') :
    s'.activeRebootTransaction = s.activeRebootTransaction := by
  unfold Rerated at h
  rw [h]

/-- A record without identifiers refers to nothing. -/
theorem any_refersTo_of_noFinal (h : extra.any isFinalRecord = false)
    (receiptId transactionId : TransactionId) :
    extra.any (refersTo receiptId transactionId) = false := by
  rw [List.any_eq_false] at h ⊢
  intro r hr hrefers
  exact h r hr (isFinalRecord_of_refersTo hrefers)

/-- Records that are not final do not matter for a commit. -/
theorem commits_append (hrerated : Rerated s s') (hextra : extra.any isFinalRecord = false) :
    Commits s' p (clean ++ extra) config capture t receipt ↔
      Commits s p clean config capture t receipt := by
  have hany : (clean ++ extra).any (refersTo receipt.receiptId receipt.transactionId) =
      clean.any (refersTo receipt.receiptId receipt.transactionId) := by
    rw [List.any_append, any_refersTo_of_noFinal hextra, Bool.or_false]
  have hcommitted := (hrerated.committed t receipt).validate
  constructor
  · intro h
    exact {
      configValid := h.configValid
      valid := hrerated.validate.symm.trans h.valid
      noReceipt := hrerated.held.symm.trans h.noReceipt
      ready := h.ready
      transaction := hrerated.transaction.symm.trans h.transaction
      authorized := h.authorized
      transactionId := h.transactionId
      unrecorded := hany.symm.trans h.unrecorded
      cap := h.cap
      captured := h.captured
      receiptValid := h.receiptValid
      committedValid := hcommitted.symm.trans h.committedValid }
  · intro h
    exact {
      configValid := h.configValid
      valid := hrerated.validate.trans h.valid
      noReceipt := hrerated.held.trans h.noReceipt
      ready := h.ready
      transaction := hrerated.transaction.trans h.transaction
      authorized := h.authorized
      transactionId := h.transactionId
      unrecorded := hany.trans h.unrecorded
      cap := h.cap
      captured := h.captured
      receiptValid := h.receiptValid
      committedValid := hcommitted.trans h.committedValid }

private theorem no_final_records (hextra : extra.any isFinalRecord = false) (n : Nat) :
    ((extra.zipIdx n).filter fun (record, _) => isFinalRecord record) = [] := by
  rw [List.filter_eq_nil_iff]
  intro pair hmem hfinal
  have hrecord : pair.1 ∈ extra := List.fst_mem_of_mem_zipIdx hmem
  exact List.any_eq_false.mp hextra pair.1 hrecord hfinal

/-- Records that are not final do not matter for the search. -/
theorem finalHistoryPrefix_append (hextra : extra.any isFinalRecord = false) :
    finalHistoryPrefix (history ++ extra) = finalHistoryPrefix history := by
  unfold finalHistoryPrefix
  rw [List.zipIdx_append, List.filter_append, no_final_records hextra, List.append_nil]

/-- A record that is found is one of the history. -/
theorem found_lt {index : Nat} {record : BenchmarkRecord}
    (h : finalHistoryPrefix history = .ok (some (index, record))) :
    index < history.length := by
  obtain ⟨_, hcleaned, -⟩ := foundIn_of_eq_ok h
  exact (List.getElem?_eq_some_iff.mp hcleaned.1).1

/-- What is read from the records is the same with more records after them. -/
theorem sourceRecords_append (hrerated : Rerated s s') (hnone : s.finalBenchmark = none)
    (hfound : finalHistoryPrefix history = .ok found) :
    sourceRecords s' (history ++ extra) found fresh now capture =
      (sourceRecords s history found fresh now capture).map fun (id, stamp, clean) =>
        (id, stamp, clean ++ extra) := by
  have hnone' := hrerated.held.trans hnone
  cases found with
  | none =>
      unfold sourceRecords
      rw [hnone, hnone']
      cases fresh <;> rfl
  | some pair =>
      obtain ⟨index, record⟩ := pair
      have hlt := found_lt hfound
      have herase : (history ++ extra).eraseIdx index = history.eraseIdx index ++ extra :=
        List.eraseIdx_append_of_lt_length hlt extra
      have hrecord : validatePartialFinalRecord record s' capture =
          validatePartialFinalRecord record s capture := by
        unfold validatePartialFinalRecord
        rw [hrerated.validate, hrerated.transaction]
      unfold sourceRecords
      dsimp only
      rw [hnone, hnone', herase, hrecord]
      cases validatePartialFinalRecord record s capture with
      | error e => rfl
      | ok _ => cases receiptIdFromRecord record <;> rfl

/-- **A reconciliation passes over records that are not final.** -/
theorem fresh_append (hrerated : Rerated s s') (hnone : s.finalBenchmark = none)
    (hextra : extra.any isFinalRecord = false) :
    Fresh s' p (history ++ extra) config fresh now capture found (clean ++ extra) t receipt ↔
      Fresh s p history config fresh now capture found clean t receipt := by
  have hsearch : finalHistoryPrefix (history ++ extra) = finalHistoryPrefix history :=
    finalHistoryPrefix_append hextra
  constructor
  · intro h
    have hfound := hsearch.symm.trans h.searched
    have hsource := h.source
    rw [sourceRecords_append hrerated hnone hfound] at hsource
    obtain ⟨⟨id, stamp, clean'⟩, hread, heq⟩ := map_eq_ok.mp hsource
    have hparts := Prod.mk.inj heq
    have hrest := Prod.mk.inj hparts.2
    have hclean : clean' = clean := List.append_cancel_right hrest.2
    rw [hparts.1, hrest.1, hclean] at hread
    exact ⟨h.notCompleted, h.notSkipped, hfound, hread,
      (commits_append hrerated hextra).mp h.commits, h.matching⟩
  · intro h
    refine ⟨h.notCompleted, h.notSkipped, hsearch.trans h.searched, ?_,
      (commits_append hrerated hextra).mpr h.commits, h.matching⟩
    rw [sourceRecords_append hrerated hnone h.searched, h.source]
    rfl

/-- The clean history after captures ends with their records. -/
theorem clean_append (hrerated : Rerated s s') (hnone : s.finalBenchmark = none)
    (hextra : extra.any isFinalRecord = false)
    (h : Fresh s' p (history ++ extra) config fresh now capture found clean t receipt) :
    ∃ clean', clean = clean' ++ extra := by
  have hfound := (finalHistoryPrefix_append hextra).symm.trans h.searched
  have hsource := h.source
  rw [sourceRecords_append hrerated hnone hfound] at hsource
  obtain ⟨⟨id, stamp, clean'⟩, -, heq⟩ := map_eq_ok.mp hsource
  exact ⟨clean', (Prod.mk.inj (Prod.mk.inj heq).2).2.symm⟩

/-- **The final benchmark is reconciled alike** next to records that are not final. -/
theorem reconcile_transfer (hrerated : Rerated s s') (hnone : s.finalBenchmark = none)
    (hextra : extra.any isFinalRecord = false) :
    SameReconciliation p (reconcileFinalBenchmark s p history config fresh now capture)
      (reconcileFinalBenchmark s' p (history ++ extra) config fresh now capture) := by
  have hnone' := hrerated.held.trans hnone
  constructor
  · constructor
    · intro h
      obtain ⟨r, hr⟩ := h
      obtain ⟨found, clean, t, receipt, hfresh, -⟩ := (reconcile_eq_ok hnone).mp hr
      exact ⟨_, (reconcile_eq_ok hnone').mpr ⟨found, clean ++ extra, t, receipt,
        (fresh_append hrerated hnone hextra).mpr hfresh, rfl⟩⟩
    · intro h
      obtain ⟨r, hr⟩ := h
      obtain ⟨found, clean, t, receipt, hfresh, -⟩ := (reconcile_eq_ok hnone').mp hr
      obtain ⟨clean', rfl⟩ := clean_append hrerated hnone hextra hfresh
      exact ⟨_, (reconcile_eq_ok hnone).mpr ⟨found, clean', t, receipt,
        (fresh_append hrerated hnone hextra).mp hfresh, rfl⟩⟩
  · intro r r' hr hr'
    obtain ⟨found, clean, t, receipt, hfresh, rfl⟩ := (reconcile_eq_ok hnone).mp hr
    have hagain := (reconcile_eq_ok hnone').mpr ⟨found, clean ++ extra, t, receipt,
      (fresh_append hrerated hnone hextra).mpr hfresh, rfl⟩
    rw [← Except.ok.inj (hagain.symm.trans hr')]
    exact ⟨rfl, rfl⟩

end

/-! ## Stores that are open for a baseline -/

/-- The record can be recorded again as a baseline. -/
structure Reusable (r : BenchmarkRecord) : Prop where
  rates : validRates r.avgFps r.p1Fps = true
  runs : r.runs ≠ 0
  receipt : r.receiptId = none
  transaction : r.transactionId = none

/-- The capture of a record. -/
def captureOf (r : BenchmarkRecord) : BenchmarkCapture := ⟨r.avgFps, r.p1Fps, r.runs⟩

/-- The state and the progress agree with the baseline record, as far as they got. -/
def AgreesWith (s : State) (p : Progress) (r : BenchmarkRecord) : Prop :=
  (stateHasBaseline s = false ∧ p.isCompleted PHASE_ONE_BASELINE_BENCHMARK = false) ∨
    (s.baselineAvg = r.avgFps ∧ s.baselineP1 = some r.p1Fps ∧
      (p.isCompleted PHASE_ONE_BASELINE_BENCHMARK = true →
        p.timestamps["1-17"]? = some r.timestamp))

/-- **The store takes a baseline**: nothing of one is recorded, or one record is, and
the state and the progress agree with it. -/
structure BaselineOpen (s : State) (p : Progress) (history : List BenchmarkRecord) :
    Prop where
  valid : s.validate = .ok ()
  validHistory : ValidHistory history
  notSkipped : p.isSkipped PHASE_ONE_BASELINE_BENCHMARK = false
  record : (history.filter (·.label = BASELINE_BENCHMARK_LABEL) = [] ∧
      stateHasBaseline s = false ∧ p.isCompleted PHASE_ONE_BASELINE_BENCHMARK = false) ∨
    ∃ r, history.filter (·.label = BASELINE_BENCHMARK_LABEL) = [r] ∧ Reusable r ∧
      AgreesWith s p r

/-- The state has a baseline only with a record of one. -/
def BaselineRecorded (d : Durable) : Prop :=
  stateHasBaseline d.state = true → hasBaselineLabel d.history = true

section

variable {s : State} {p : Progress} {history : List BenchmarkRecord}
  {capture : BenchmarkCapture} {r : BenchmarkRecord} {now : String}

/-- A record that matches a complete capture has its values. -/
theorem reusable_of_found (hcomplete : validateCompleteCapture capture = .ok ())
    (h : FoundRecord history capture r) : Reusable r ∧ captureOf r = capture := by
  obtain ⟨hrates, hruns⟩ := complete_rates hcomplete
  have hmatch := h.matching
  simp only [recordMatchesCapture, Bool.and_eq_true, decide_eq_true_eq,
    Option.isNone_iff_eq_none] at hmatch
  obtain ⟨⟨⟨⟨havg, hp1⟩, hsame⟩, hreceipt⟩, htransaction⟩ := hmatch
  have havg' := (feq_iff.mp havg).1
  have hp1' := (feq_iff.mp hp1).1
  refine ⟨⟨?_, ?_, hreceipt, htransaction⟩, ?_⟩
  · rw [havg', hp1', hrates]
  · rw [hsame]
    exact hruns
  · unfold captureOf
    rw [havg', hp1', hsame]

/-- The capture of a reusable record is complete and finds it. -/
theorem found_of_reusable (hr : Reusable r)
    (hfilter : history.filter (·.label = BASELINE_BENCHMARK_LABEL) = [r]) :
    validateCompleteCapture (captureOf r) = .ok () ∧ FoundRecord history (captureOf r) r := by
  obtain ⟨hfavg, hfp1⟩ := finite_of_validRates hr.rates
  have hruns : decide (r.runs = 0) = false := decide_eq_false hr.runs
  refine ⟨?_, hfilter, ?_⟩
  · unfold validateCompleteCapture captureOf
    rw [reject_eq_ok, hr.rates]
    exact hruns
  · simp [recordMatchesCapture, captureOf, feq_self hfavg, feq_self hfp1, hr.receipt,
      hr.transaction]

/-- A complete capture makes a valid baseline. -/
theorem validate_withBaseline (hvalid : s.validate = .ok ())
    (hcomplete : validateCompleteCapture capture = .ok ()) :
    (withBaseline s capture).validate = .ok () := by
  have hrates := (complete_rates hcomplete).1
  unfold State.validate at hvalid ⊢
  simp only [check_bind_eq_ok, reject_eq_ok] at hvalid ⊢
  obtain ⟨hmalformed, hreceipt, hgpu, hpagefile, -, hfinal⟩ := hvalid
  refine ⟨hmalformed, hreceipt, hgpu, hpagefile, ?_, hfinal⟩
  show (!validRates capture.averageFps capture.p1Fps) = false
  rw [hrates]
  rfl

/-- Where a baseline is prepared, the store takes one. -/
theorem open_of_prepare {c : BaselineBenchmarkCommit}
    (h : prepareBaselineBenchmarkCommit s p history now capture = .ok c) :
    BaselineOpen s p history ∧ ∀ r, history.filter (·.label = BASELINE_BENCHMARK_LABEL) = [r] →
      captureOf r = capture := by
  have hready := prepare_ready h
  have hcapture : ∀ r r', FoundRecord history capture r →
      history.filter (·.label = BASELINE_BENCHMARK_LABEL) = [r'] → captureOf r' = capture := by
    intro r r' hr hr'
    obtain rfl := List.singleton_inj.mp (hr.sole.symm.trans hr')
    exact (reusable_of_found hready.complete hr).2
  obtain ⟨-, hkind⟩ := prepare_cases h
  rcases hkind with hdone | hrecords
  · obtain ⟨r, hr, -⟩ := hdone.found
    obtain ⟨hreusable, hsame⟩ := reusable_of_found hready.complete hr
    obtain ⟨record, hpersisted⟩ := hdone.persisted
    have haccepted := validatePersistedBaselineBenchmark_eq_ok.mp hpersisted
    have hrecord : record = r := by
      have hmem : record ∈ history.filter (isBaselineRecord s) := by
        rw [haccepted.record]
        exact List.mem_singleton_self record
      rw [filter_baseline, hr.sole] at hmem
      exact List.mem_singleton.mp (List.mem_filter.mp hmem).1
    have hagrees : AgreesWith s p r := by
      refine .inr ⟨?_, ?_, ?_⟩
      · rw [hdone.source.1, ← hsame]
        rfl
      · rw [hdone.source.2, ← hsame]
        rfl
      · intro _
        rw [haccepted.progress.stamped, hrecord]
    exact ⟨⟨hready.valid, hready.validHistory, hready.notSkipped,
      .inr ⟨r, hr.sole, hreusable, hagrees⟩⟩, fun r' => hcapture r r' hr⟩
  · obtain ⟨r, next, hrecorded, -⟩ := hrecords.found
    cases hrecorded with
    | appended hnone =>
        have hno : stateHasBaseline s = false := by
          rw [← Bool.not_eq_true]
          exact fun hheld => hrecords.held hheld hnone
        refine ⟨⟨hready.valid, hready.validHistory, hready.notSkipped,
          .inl ⟨hnone, hno, hrecords.notCompleted⟩⟩, ?_⟩
        intro r' hr'
        rw [hnone] at hr'
        cases hr'
    | found hr =>
        obtain ⟨hreusable, hsame⟩ := reusable_of_found hready.complete hr
        have hagrees : AgreesWith s p r := by
          rcases hrecords.source with hnone | hheld
          · exact .inl ⟨hnone, hrecords.notCompleted⟩
          · refine .inr ⟨?_, ?_, ?_⟩
            · rw [hheld.1, ← hsame]
              rfl
            · rw [hheld.2, ← hsame]
              rfl
            · intro hdone
              rw [hrecords.notCompleted] at hdone
              cases hdone
        exact ⟨⟨hready.valid, hready.validHistory, hready.notSkipped,
          .inr ⟨r, hr.sole, hreusable, hagrees⟩⟩, fun r' => hcapture r r' hr⟩

/-- A store without a baseline record takes every complete capture. -/
theorem prepare_of_open_nil (h : BaselineOpen s p history)
    (hnone : history.filter (·.label = BASELINE_BENCHMARK_LABEL) = [])
    (hnow : validCaptureTimestamp now = true)
    (hcomplete : validateCompleteCapture capture = .ok ()) :
    ∃ c, prepareBaselineBenchmarkCommit s p history now capture = .ok c := by
  rcases h.record with ⟨-, hno, hnot⟩ | ⟨r, hr, -⟩
  · exact ⟨_, prepare_appended ⟨h.valid, h.validHistory, hcomplete, h.notSkipped⟩ hnow hnone hno
      hnot (validate_withBaseline h.valid hcomplete)⟩
  · rw [hnone] at hr
    cases hr

/-- **A store that is open takes some baseline.** -/
theorem prepare_of_open (h : BaselineOpen s p history)
    (hnow : validCaptureTimestamp now = true) :
    ∃ capture c, prepareBaselineBenchmarkCommit s p history now capture = .ok c := by
  rcases h.record with ⟨hnone, -⟩ | ⟨r, hr, hreusable, hagrees⟩
  · exact ⟨_, prepare_of_open_nil h hnone hnow
      (rfl : validateCompleteCapture sampleCapture = .ok ())⟩
  · obtain ⟨hcomplete, hfound⟩ := found_of_reusable hreusable hr
    have hready : BaselineReady s p history (captureOf r) :=
      ⟨h.valid, h.validHistory, hcomplete, h.notSkipped⟩
    have hvalid := validate_withBaseline h.valid hcomplete
    cases hdone : p.isCompleted PHASE_ONE_BASELINE_BENCHMARK with
    | false =>
        refine ⟨captureOf r, _, prepare_found hready hnow hfound ?_ hdone hvalid⟩
        rcases hagrees with hnone | hheld
        · exact .inl hnone.1
        · exact .inr ⟨hheld.1, hheld.2.1⟩
    | true =>
        rcases hagrees with hnone | hheld
        · rw [hnone.2] at hdone
          cases hdone
        · have hsame : withBaseline s (captureOf r) = s := by
            unfold withBaseline captureOf
            rw [← hheld.1, ← hheld.2.1]
          have hpersisted : validatePersistedBaselineBenchmark s p history = .ok r := by
            rw [validatePersistedBaselineBenchmark_eq_ok]
            refine ⟨h.valid, h.validHistory, ?_, ⟨hdone, h.notSkipped, hheld.2.2 hdone⟩, ?_⟩
            · rw [hheld.1, hheld.2.1]
              exact hreusable.rates
            · have hfilter := filter_found (s := s) hcomplete hfound
              rwa [hsame] at hfilter
          exact ⟨captureOf r, _, prepare_done hready hnow hfound ⟨hheld.1, hheld.2.1⟩ hdone
            hpersisted⟩

end

/-! ## Stores that are open for a final benchmark -/

/-- The record is what an interrupted final benchmark of the transaction left. -/
structure FinalPrefix (t : RebootTransaction) (r : BenchmarkRecord) : Prop where
  label : r.label = FINAL_BENCHMARK_LABEL
  ids : ∃ receiptId transactionId, r.receiptId = some receiptId ∧
    r.transactionId = some transactionId ∧ t.transactionId = some transactionId ∧
      receiptId ≠ transactionId
  rates : validRates r.avgFps r.p1Fps = true
  runs : r.runs ≠ 0
  stamped : validCaptureTimestamp r.timestamp = true

/-- **The armed store takes a final benchmark**: the earlier work is resolved, and the
history has no final record or the one of an interrupted run. -/
structure FinalOpen (s : State) (p : Progress) (history : List BenchmarkRecord) : Prop where
  ready : ReadyForFinal p
  record : ∃ t, s.activeRebootTransaction = some t ∧
    t.isAuthorizedAt .phaseThreeArmed = true ∧
      (history.filter isFinalRecord = [] ∨
        ∃ r, history.filter isFinalRecord = [r] ∧ FinalPrefix t r)

section

variable {s : State} {p : Progress} {history : List BenchmarkRecord} {config : Config}
  {fresh : Except String TransactionId} {now : String} {capture : BenchmarkCapture}
  {t : RebootTransaction} {receipt : FinalBenchmarkReceipt} {r : BenchmarkRecord}

theorem map_finals (history : List BenchmarkRecord) (n : Nat) :
    ((history.zipIdx n).filter fun (record, _) => isFinalRecord record).map Prod.fst =
      history.filter isFinalRecord := by
  induction history generalizing n with
  | nil => rfl
  | cons record history ih =>
      rw [List.zipIdx_cons]
      cases hfinal : isFinalRecord record with
      | true => simp [hfinal, ih]
      | false => simp [hfinal, ih]

/-- What the search for a final record returns. -/
theorem finalHistoryPrefix_iff {found : Option (Nat × BenchmarkRecord)}
    (h : finalHistoryPrefix history = .ok found) :
    history.filter isFinalRecord = (found.map Prod.snd).toList := by
  have hmap := map_finals history 0
  unfold finalHistoryPrefix at h
  split at h
  · rename_i hnone
    rw [hnone] at hmap
    rw [← hmap, ← Except.ok.inj h]
    rfl
  · rename_i record index hone
    rw [hone] at hmap
    rw [← hmap, ← Except.ok.inj h]
    rfl
  · cases h

/-- The search succeeds on at most one final record. -/
theorem finalHistoryPrefix_of_filter {found : Option BenchmarkRecord}
    (h : history.filter isFinalRecord = found.toList) :
    ∃ found', finalHistoryPrefix history = .ok found' ∧ found'.map Prod.snd = found := by
  have hmap := map_finals history 0
  rw [h] at hmap
  unfold finalHistoryPrefix
  cases found with
  | none =>
      rw [List.map_eq_nil_iff.mp hmap]
      exact ⟨none, rfl, rfl⟩
  | some r =>
      obtain ⟨pair, hpair, hfst⟩ := List.map_eq_singleton_iff.mp hmap
      obtain ⟨record, index⟩ := pair
      rw [hpair]
      exact ⟨some (index, record), rfl, congrArg some hfst⟩

/-- Where a reconciliation succeeds, the store takes a final benchmark. -/
theorem finalOpen_of_reconcile {result : FinalBenchmarkReconciliation}
    (hnone : s.finalBenchmark = none)
    (h : reconcileFinalBenchmark s p history config fresh now capture = .ok result) :
    FinalOpen s p history := by
  obtain ⟨found, clean, t, receipt, hfresh, -⟩ := (reconcile_eq_ok hnone).mp h
  have hcommits := hfresh.commits
  have hfilter := finalHistoryPrefix_iff hfresh.searched
  refine ⟨hcommits.ready, t, hcommits.transaction, hcommits.authorized, ?_⟩
  cases found with
  | none => exact .inl hfilter
  | some pair =>
      obtain ⟨index, r⟩ := pair
      refine .inr ⟨r, hfilter, ?_⟩
      have hmatch : receipt.matchesHistoryRecord r = true := by
        simpa using hfresh.matching
      simp only [FinalBenchmarkReceipt.matchesHistoryRecord, Bool.and_eq_true,
        decide_eq_true_eq] at hmatch
      obtain ⟨⟨⟨⟨⟨⟨hstamp, havg⟩, hp1⟩, hlabel⟩, hruns⟩, hreceipt⟩, htransaction⟩ := hmatch
      have hvalid := hcommits.receiptValid
      simp only [FinalBenchmarkReceipt.validate, check_bind_eq_ok, reject_eq_ok,
        Bool.or_eq_false_iff, Bool.not_eq_false', decide_eq_false_iff_not, not_not] at hvalid
      obtain ⟨-, hids, hstamped, ⟨hrates, hpos⟩, -⟩ := hvalid
      refine ⟨hlabel.trans hcommits.label_eq, ⟨receipt.receiptId, receipt.transactionId,
        hreceipt, htransaction, hcommits.transactionId, hids⟩, ?_, ?_, ?_⟩
      · rw [(feq_iff.mp havg).1, (feq_iff.mp hp1).1, hrates]
      · rw [hruns]
        exact hpos
      · rw [hstamp, hstamped]

/-- The state of a commit is valid where its receipt is. -/
theorem validate_committedState (hvalid : s.validate = .ok ())
    (hauthorized : t.isAuthorizedAt .phaseThreeArmed = true)
    (hid : t.transactionId = some receipt.transactionId)
    (hreceipt : receipt.validate = .ok ()) :
    (committedState s t receipt).validate = .ok () := by
  have hstage : receiptStageAuthorized { t with
      stage := .phaseThreeComplete
      updatedUtc := some receipt.capturedUtc } = true :=
    RebootTransaction.isAuthorizedAt_withStage hauthorized .phaseThreeComplete
  have hfor : receipt.validateForTransaction { t with
      stage := .phaseThreeComplete
      updatedUtc := some receipt.capturedUtc } = .ok () := by
    rw [FinalBenchmarkReceipt.validateForTransaction, check_bind_eq_ok, reject_eq_ok]
    exact ⟨hreceipt, by simp [hid]⟩
  unfold State.validate at hvalid ⊢
  simp only [check_bind_eq_ok, reject_eq_ok] at hvalid ⊢
  obtain ⟨hmalformed, hmalformedReceipt, hgpu, hpagefile, hbaseline, -⟩ := hvalid
  refine ⟨hmalformed, hmalformedReceipt, hgpu, hpagefile, hbaseline, ?_⟩
  show ((okOr (some _) _).bind fun _ => _) = _
  rw [okOr_some]
  show ((reject (!receiptStageAuthorized _) _).bind fun _ => _) = _
  rw [hstage]
  exact hfor

/-- A commit of the shipped configuration, which does not cap. -/
theorem commits_shipped (hvalid : s.validate = .ok ()) (hnone : s.finalBenchmark = none)
    (hready : ReadyForFinal p) (ht : s.activeRebootTransaction = some t)
    (hauthorized : t.isAuthorizedAt .phaseThreeArmed = true)
    {receiptId transactionId : TransactionId} (hid : t.transactionId = some transactionId)
    (hids : receiptId ≠ transactionId) (hnow : validCaptureTimestamp now = true)
    (hrates : validRates capture.averageFps capture.p1Fps = true) (hruns : capture.runs ≠ 0)
    (hclean : history.any isFinalRecord = false) :
    Commits s p history shippedConfig capture t
      (captureReceipt receiptId transactionId now capture 0) := by
  have hreceipt : (captureReceipt receiptId transactionId now capture 0).validate =
      .ok () := by
    simp only [FinalBenchmarkReceipt.validate, check_bind_eq_ok, reject_eq_ok,
      Bool.or_eq_false_iff, Bool.not_eq_false', decide_eq_false_iff_not, not_not]
    exact ⟨rfl, hids, hnow, ⟨hrates, hruns⟩, rfl⟩
  exact {
    configValid := shippedConfig_valid
    valid := hvalid
    noReceipt := hnone
    ready := hready
    transaction := ht
    authorized := hauthorized
    transactionId := hid
    unrecorded := any_refersTo_of_noFinal hclean _ _
    cap := rfl
    captured := rfl
    receiptValid := hreceipt
    committedValid := validate_committedState hvalid hauthorized hid hreceipt }

theorem isCompleted_final {p : Progress} (h : ReadyForFinal p) :
    Progress.key 3 13 ∉ p.completedSteps ∧ Progress.key 3 13 ∉ p.skippedSteps :=
  ⟨of_decide_eq_false h.notCompleted, of_decide_eq_false h.notSkipped⟩

/-- **A store that is open takes some final benchmark.** -/
theorem reconcile_of_finalOpen (hvalid : s.validate = .ok ())
    (hnone : s.finalBenchmark = none) (h : FinalOpen s p history) :
    ∃ config fresh now capture result,
      reconcileFinalBenchmark s p history config fresh now capture = .ok result := by
  obtain ⟨hready, t, ht, hauthorized, hrecord⟩ := h
  obtain ⟨hdone, hskip⟩ := isCompleted_final hready
  rcases hrecord with hnil | ⟨r, hr, hprefix⟩
  · obtain ⟨transactionId, hid⟩ := Option.isSome_iff_exists.mp
      ((RebootTransaction.isAuthorizedAt_iff t _).mp hauthorized).2.1
    obtain ⟨receiptId, hids⟩ : ∃ receiptId, receiptId ≠ transactionId := by
      by_cases hsame : sampleReceiptId = transactionId
      · refine ⟨sampleTransactionId, ?_⟩
        rw [← hsame]
        decide +kernel
      · exact ⟨sampleReceiptId, hsame⟩
    have hclean : history.any isFinalRecord = false :=
      List.any_eq_false.mpr (List.filter_eq_nil_iff.mp hnil)
    have hstamp : validCaptureTimestamp "2026-08-10 12:34:56" = true := by decide +kernel
    have hcommits := commits_shipped hvalid hnone hready ht hauthorized hid hids hstamp
      (rfl : validRates sampleCapture.averageFps sampleCapture.p1Fps = true) (by decide) hclean
    obtain ⟨found, hsearch, hfound⟩ :=
      @finalHistoryPrefix_of_filter history none hnil
    have hfoundNone : found = none := Option.map_eq_none_iff.mp hfound
    rw [hfoundNone] at hsearch
    refine ⟨shippedConfig, .ok receiptId, "2026-08-10 12:34:56", sampleCapture, _,
      (reconcile_eq_ok hnone).mpr ⟨none, history, t, _,
        ⟨hdone, hskip, hsearch, ?_, hcommits, rfl⟩, rfl⟩⟩
    unfold sourceRecords
    rw [hnone]
    rfl
  · obtain ⟨receiptId, transactionId, hreceipt, htransaction, hid, hids⟩ := hprefix.ids
    obtain ⟨found, hsearch, hfound⟩ :=
      @finalHistoryPrefix_of_filter history (some r) hr
    obtain ⟨⟨index, r'⟩, hpair, hsame⟩ := Option.map_eq_some_iff.mp hfound
    have hrsame : r' = r := hsame
    rw [hpair, hrsame] at hsearch
    obtain ⟨clean, hcleaned, hclean⟩ := foundIn_of_eq_ok hsearch
    have hcommits : Commits s p clean shippedConfig (captureOf r) t
        (captureReceipt receiptId transactionId r.timestamp (captureOf r) 0) :=
      commits_shipped hvalid hnone hready ht hauthorized hid hids hprefix.stamped
        hprefix.rates hprefix.runs hclean
    obtain ⟨hfavg, hfp1⟩ := finite_of_validRates hprefix.rates
    have hvalidated : validatePartialFinalRecord r s (captureOf r) = .ok () := by
      rw [validatePartialFinalRecord, check_bind_eq_ok, ht]
      refine ⟨hvalid, ?_⟩
      show ((okOr t.transactionId _).bind fun _ => _) = _
      rw [hid, okOr_some]
      show reject _ _ = _
      rw [reject_eq_ok]
      simp [captureOf, hprefix.label, hreceipt, htransaction, feq_self hfavg, feq_self hfp1]
    refine ⟨shippedConfig, .ok receiptId, r.timestamp, captureOf r, _,
      (reconcile_eq_ok hnone).mpr ⟨some (index, r), clean, t, _,
        ⟨hdone, hskip, hsearch, ?_, hcommits, ?_⟩, rfl⟩⟩
    · unfold sourceRecords
      dsimp only
      rw [hvalidated, hnone]
      unfold receiptIdFromRecord
      rw [hreceipt, hcleaned.2.2]
      rfl
    · simp [FinalBenchmarkReceipt.matchesHistoryRecord, captureReceipt, captureOf,
        hprefix.label, hreceipt, htransaction, feq_self hfavg, feq_self hfp1]

end

/-! ## The two stores -/

theorem mem_records {captures : List AdvisoryCapture} {r : BenchmarkRecord} :
    r ∈ records captures ↔ ∃ a ∈ captures, a.isRecorded = true ∧ a.record = r := by
  simp [records, and_assoc]

section

variable {d d' : Durable} {captures : List AdvisoryCapture}

/-- A history with captures is valid where the one without them and their records are. -/
theorem validHistory_captures (hafter : AfterCaptures d captures d')
    (hnone : captures = [] → d' = d) :
    ValidHistory d'.history ↔ ValidHistory d.history ∧
      (records captures).any invalidRecord = false := by
  by_cases hempty : captures = []
  · rw [hnone hempty, hempty]
    exact (and_iff_left rfl).symm
  · have hroom := hafter.room hempty
    rw [hafter.history, List.length_append] at hroom
    constructor
    · intro h
      have hrecords := h.records
      rw [hafter.history, List.any_append, Bool.or_eq_false_iff] at hrecords
      exact ⟨⟨by omega, hrecords.1⟩, hrecords.2⟩
    · intro h
      constructor
      · rw [hafter.history, List.length_append]
        omega
      · rw [hafter.history, List.any_append, h.1.records, h.2]
        rfl

/-- Free captures leave the baseline records alone. -/
theorem baselineFree_records (hafter : AfterCaptures d captures d')
    (hfree : ∀ a ∈ captures, a.isRecorded = true → BaselineFree a) :
    (records captures).any invalidRecord = false ∧
      (records captures).filter (·.label = BASELINE_BENCHMARK_LABEL) = [] := by
  rw [List.any_eq_false, List.filter_eq_nil_iff]
  constructor
  · intro r hr
    obtain ⟨a, ha, hrecorded, rfl⟩ := mem_records.mp hr
    obtain ⟨hruns, hlabel, -⟩ := hfree a ha hrecorded
    exact Bool.eq_false_iff.mp ((hafter.invalid a ha).mpr ⟨hruns, hlabel⟩)
  · intro r hr hlabel
    obtain ⟨a, ha, hrecorded, rfl⟩ := mem_records.mp hr
    exact (hfree a ha hrecorded).2.2 (of_decide_eq_true hlabel)

/-- **Free captures do not disturb the baseline.** -/
theorem baseline_undisturbed (hafter : AfterCaptures d captures d')
    (hnone : captures = [] → d' = d)
    (hfree : ∀ a ∈ captures, a.isRecorded = true → BaselineFree a) (now : String)
    (capture : BenchmarkCapture) : SameBaselineCommit
      (prepareBaselineBenchmarkCommit d.state d.progress d.history now capture)
      (prepareBaselineBenchmarkCommit d'.state d'.progress d'.history now capture) := by
  obtain ⟨hvalid, hlabels⟩ := baselineFree_records hafter hfree
  have hhistory := validHistory_captures hafter hnone
  have hfilter : d'.history.filter (·.label = BASELINE_BENCHMARK_LABEL) =
      d.history.filter (·.label = BASELINE_BENCHMARK_LABEL) := by
    rw [hafter.history, List.filter_append, hlabels, List.append_nil]
  rw [hafter.progress]
  constructor
  · constructor
    · intro h
      obtain ⟨c, hc⟩ := h
      obtain ⟨c', hc', -⟩ := baseline_transfer hafter.rerated
        (fun hold => hhistory.mpr ⟨hold, hvalid⟩) hfilter hc
      exact ⟨c', hc'⟩
    · intro h
      obtain ⟨c', hc'⟩ := h
      obtain ⟨c, hc, -⟩ := baseline_transfer hafter.rerated.symm
        (fun hnew => (hhistory.mp hnew).1) hfilter.symm hc'
      exact ⟨c, hc⟩
  · intro c c' hc hc'
    obtain ⟨c'', hc'', hsame⟩ := baseline_transfer hafter.rerated
      (fun hold => hhistory.mpr ⟨hold, hvalid⟩) hfilter hc
    rw [hc'] at hc''
    rw [Except.ok.inj hc'']
    exact hsame

/-- What is left where a baseline is prepared next to a capture that is not free: its
record is the only one under the label. -/
theorem prepare_next_to {a : AdvisoryCapture} {now : String} {capture : BenchmarkCapture}
    {c : BaselineBenchmarkCommit} (hafter : AfterCaptures d captures d')
    (ha : a ∈ captures) (hrecorded : a.isRecorded = true) (hnot : ¬ BaselineFree a)
    (h : prepareBaselineBenchmarkCommit d'.state d'.progress d'.history now capture = .ok c) :
    d.history.filter (·.label = BASELINE_BENCHMARK_LABEL) = [] ∧
      d'.history.filter (·.label = BASELINE_BENCHMARK_LABEL) = [a.record] ∧
      captureOf a.record = capture := by
  obtain ⟨hopen, hcapture⟩ := open_of_prepare h
  have hmem : a.record ∈ records captures := mem_records.mpr ⟨a, ha, hrecorded, rfl⟩
  have hvalid : invalidRecord a.record = false := by
    have hall := hopen.validHistory.records
    rw [hafter.history, List.any_append, Bool.or_eq_false_iff, List.any_eq_false,
      List.any_eq_false] at hall
    exact Bool.eq_false_iff.mpr (hall.2 a.record hmem)
  have hlabel : a.label = BASELINE_BENCHMARK_LABEL := by
    obtain ⟨hruns, hname⟩ := (hafter.invalid a ha).mp hvalid
    by_contra hne
    exact hnot ⟨hruns, hname, hne⟩
  have hnew : a.record ∈ (records captures).filter (·.label = BASELINE_BENCHMARK_LABEL) :=
    List.mem_filter.mpr ⟨hmem, decide_eq_true hlabel⟩
  have hsplit : d'.history.filter (·.label = BASELINE_BENCHMARK_LABEL) =
      d.history.filter (·.label = BASELINE_BENCHMARK_LABEL) ++
        (records captures).filter (·.label = BASELINE_BENCHMARK_LABEL) := by
    rw [hafter.history, List.filter_append]
  rcases hopen.record with ⟨hnone, -⟩ | ⟨r, hr, -⟩
  · rw [hnone] at hsplit
    rw [(List.nil_eq_append_iff.mp hsplit).2] at hnew
    cases hnew
  · rw [hr] at hsplit
    rcases List.append_eq_singleton_iff.mp hsplit.symm with ⟨hold, hrest⟩ | ⟨-, hrest⟩
    · rw [hrest] at hnew
      rw [List.mem_singleton.mp hnew]
      exact ⟨hold, hr, hcapture r hr⟩
    · rw [hrest] at hnew
      cases hnew

/-- A store that is closed for a baseline stays closed next to captures. -/
theorem baseline_closed {a : AdvisoryCapture} {now : String} {capture : BenchmarkCapture}
    {c : BaselineBenchmarkCommit} (hrecords : BaselineRecorded d)
    (hafter : AfterCaptures d captures d') (hnone : captures = [] → d' = d)
    (ha : a ∈ captures) (hrecorded : a.isRecorded = true) (hnot : ¬ BaselineFree a)
    (h : prepareBaselineBenchmarkCommit d'.state d'.progress d'.history now capture = .ok c) :
    BaselineOpen d.state d.progress d.history := by
  obtain ⟨hold, hnew, -⟩ := prepare_next_to hafter ha hrecorded hnot h
  obtain ⟨hopen, -⟩ := open_of_prepare h
  obtain ⟨havg, hp1⟩ := hafter.rerated.baseline
  have hno : stateHasBaseline d.state = false := by
    rw [← Bool.not_eq_true]
    intro hhas
    obtain ⟨r, hr, hlabel⟩ := List.any_eq_true.mp (hrecords hhas)
    exact List.filter_eq_nil_iff.mp hold r hr hlabel
  have hno' : stateHasBaseline d'.state = false := by
    rw [← hno]
    unfold stateHasBaseline
    rw [havg, hp1]
  have hprogress : d.progress.isCompleted PHASE_ONE_BASELINE_BENCHMARK = false := by
    rw [← hafter.progress]
    rcases hopen.record with ⟨hnil, -⟩ | ⟨r, hr, -, hagrees⟩
    · rw [hnew] at hnil
      cases hnil
    · rcases hagrees with hfresh | hheld
      · exact hfresh.2
      · have hhas : stateHasBaseline d'.state = true := stateHasBaseline_of
          (⟨hheld.1, hheld.2.1⟩ : HasCapture d'.state (captureOf r))
        rw [hno'] at hhas
        cases hhas
  exact ⟨hafter.rerated.validate.symm.trans hopen.valid,
    ((validHistory_captures hafter hnone).mp hopen.validHistory).1,
    by rw [← hafter.progress]; exact hopen.notSkipped, .inl ⟨hold, hno, hprogress⟩⟩

/-- **A store that is open for a baseline is disturbed** by a capture that is not
free. -/
theorem baseline_disturbed {a : AdvisoryCapture} (hafter : AfterCaptures d captures d')
    (ha : a ∈ captures) (hrecorded : a.isRecorded = true) (hnot : ¬ BaselineFree a)
    (hopen : BaselineOpen d.state d.progress d.history)
    (h : ∀ now capture, SameBaselineCommit
      (prepareBaselineBenchmarkCommit d.state d.progress d.history now capture)
      (prepareBaselineBenchmarkCommit d'.state d'.progress d'.history now capture)) :
    False := by
  have hstamp : validCaptureTimestamp "2026-08-10 12:34:56" = true := by decide +kernel
  obtain ⟨capture, hc⟩ := prepare_of_open hopen hstamp
  obtain ⟨c', hc'⟩ := (h _ capture).accepted.mp hc
  obtain ⟨hold, -⟩ := prepare_next_to hafter ha hrecorded hnot hc'
  -- Without the captures every capture is taken, next to them only the one recorded.
  have hruns : ∀ runs : UInt32, runs ≠ 0 → a.record.runs = runs := by
    intro runs hpos
    have hcomplete : validateCompleteCapture ⟨F64.ofNat 300, F64.ofNat 180, runs⟩ =
        .ok () := by
      unfold validateCompleteCapture
      rw [reject_eq_ok, Bool.or_eq_false_iff]
      exact ⟨rfl, decide_eq_false hpos⟩
    have hfirst := prepare_of_open_nil hopen hold hstamp hcomplete
    obtain ⟨c'', hc''⟩ := (h _ _).accepted.mp hfirst
    obtain ⟨-, -, hcapture⟩ := prepare_next_to hafter ha hrecorded hnot hc''
    exact congrArg BenchmarkCapture.runs hcapture
  have hone := hruns 1 (by decide)
  rw [hruns 2 (by decide)] at hone
  cases hone

/-- Next to a capture under the label of the final benchmark, nothing is reconciled. -/
theorem final_blocked {a : AdvisoryCapture} {config : Config}
    {fresh : Except String TransactionId} {now : String} {capture : BenchmarkCapture}
    {result : FinalBenchmarkReconciliation} (hafter : AfterCaptures d captures d')
    (ha : a ∈ captures) (hrecorded : a.isRecorded = true) (hnot : ¬ FinalFree a)
    (h : reconcileAt d' config fresh now capture = .ok result) : False := by
  have hnone : d'.state.finalBenchmark = none :=
    hafter.rerated.held.trans (hafter.valid (List.ne_nil_of_mem ha)).2
  obtain ⟨-, t, -, -, hrecord⟩ := finalOpen_of_reconcile hnone h
  have hfinal : isFinalRecord a.record = true := by
    have hlabel : a.record.label = FINAL_BENCHMARK_LABEL := not_not.mp hnot
    unfold isFinalRecord
    rw [hlabel]
    simp
  have hmem : a.record ∈ d'.history.filter isFinalRecord := by
    refine List.mem_filter.mpr ⟨?_, hfinal⟩
    rw [hafter.history]
    exact List.mem_append_right _ (mem_records.mpr ⟨a, ha, hrecorded, rfl⟩)
  rcases hrecord with hnil | ⟨r, hr, hprefix⟩
  · rw [hnil] at hmem
    cases hmem
  · rw [hr, List.mem_singleton] at hmem
    obtain ⟨receiptId, _, hreceipt, -⟩ := hprefix.ids
    rw [← hmem] at hreceipt
    cases hreceipt

end

/-- **Advisory captures and benchmark evidence.**  They do not interfere exactly where
every recorded capture is free for the evidence that the store is open for. -/
theorem captureInterference {d d' : Durable} {captures : List AdvisoryCapture}
    (hrecords : BaselineRecorded d) (h : Accepted d captures d') :
    Undisturbed d d' ↔
      ((∀ a ∈ captures, a.isRecorded = true → BaselineFree a) ∨
          ¬ BaselineOpen d.state d.progress d.history) ∧
        ((∀ a ∈ captures, a.isRecorded = true → FinalFree a) ∨
          ¬ FinalOpen d.state d.progress d.history) := by
  have hafter := afterCaptures h
  have hnone : captures = [] → d' = d := by
    intro hempty
    subst hempty
    cases h
    rfl
  constructor
  · intro hsame
    constructor
    · by_contra hcontra
      rw [not_or, not_not] at hcontra
      push Not at hcontra
      obtain ⟨⟨a, ha, hrecorded, hnot⟩, hopen⟩ := hcontra
      exact baseline_disturbed hafter ha hrecorded hnot hopen hsame.baseline
    · by_contra hcontra
      rw [not_or, not_not] at hcontra
      push Not at hcontra
      obtain ⟨⟨a, ha, hrecorded, hnot⟩, hopen⟩ := hcontra
      obtain ⟨hvalid, hreceipt⟩ := hafter.valid (List.ne_nil_of_mem ha)
      obtain ⟨config, fresh, now, capture, result, hresult⟩ :=
        reconcile_of_finalOpen hvalid hreceipt hopen
      obtain ⟨t, ht, hauthorized, -⟩ := hopen.record
      obtain ⟨result', hresult'⟩ :=
        (hsame.final ⟨t, ht, hauthorized⟩ config fresh now capture).accepted.mp
          ⟨result, hresult⟩
      exact final_blocked hafter ha hrecorded hnot hresult'
  · intro hconditions
    obtain ⟨hbaseline, hfinal⟩ := hconditions
    constructor
    · intro now capture
      by_cases hfree : ∀ a ∈ captures, a.isRecorded = true → BaselineFree a
      · exact baseline_undisturbed hafter hnone hfree now capture
      · have hclosed := hbaseline.resolve_left hfree
        push Not at hfree
        obtain ⟨a, ha, hrecorded, hnot⟩ := hfree
        refine ⟨⟨?_, ?_⟩, ?_⟩
        · intro hc
          obtain ⟨c, hc⟩ := hc
          exact absurd (open_of_prepare hc).1 hclosed
        · intro hc
          obtain ⟨c, hc⟩ := hc
          exact absurd (baseline_closed hrecords hafter hnone ha hrecorded hnot hc) hclosed
        · intro c c' hc
          exact absurd (open_of_prepare hc).1 hclosed
    · intro _ config fresh now capture
      by_cases hempty : captures = []
      · rw [hnone hempty]
        refine ⟨Iff.rfl, ?_⟩
        intro r r' hr hr'
        rw [Except.ok.inj (hr'.symm.trans hr)]
        exact ⟨rfl, rfl⟩
      obtain ⟨hvalid, hreceipt⟩ := hafter.valid hempty
      by_cases hfree : ∀ a ∈ captures, a.isRecorded = true → FinalFree a
      · have hextra : (records captures).any isFinalRecord = false := by
          rw [List.any_eq_false]
          intro r hr
          obtain ⟨a, ha, hrecorded, rfl⟩ := mem_records.mp hr
          have hlabel : decide (a.label = FINAL_BENCHMARK_LABEL) = false :=
            decide_eq_false (hfree a ha hrecorded)
          simp [isFinalRecord, AdvisoryCapture.record, captureRecord]
          exact hlabel
        unfold reconcileAt
        rw [hafter.history, hafter.progress]
        exact reconcile_transfer hafter.rerated hreceipt hextra
      · have hclosed := hfinal.resolve_left hfree
        push Not at hfree
        obtain ⟨a, ha, hrecorded, hnot⟩ := hfree
        refine ⟨⟨?_, ?_⟩, ?_⟩
        · intro hr
          obtain ⟨r, hr⟩ := hr
          exact absurd (finalOpen_of_reconcile hreceipt hr) hclosed
        · intro hr
          obtain ⟨r, hr⟩ := hr
          exact (final_blocked hafter ha hrecorded hnot hr).elim
        · intro r r' hr
          exact absurd (finalOpen_of_reconcile hreceipt hr) hclosed

/-- An advisory capture under a label. -/
def labelled (label : String) : AdvisoryCapture :=
  ⟨"2026-08-11 12:34:56", 180, sampleCapture, label⟩

/-- The files that wait for the final benchmark, after an advisory capture. -/
def labelledFacts (label : String) : Durable :=
  after readyFacts (writesOf (persistFpsCapture (labelled label).now (labelled label).cap
    (labelled label).capture (labelled label).label) readyFacts)

private theorem labelled_accepted {label : String}
    (h : (outcomeOf (persistFpsCapture (labelled label).now (labelled label).cap
      (labelled label).capture (labelled label).label) readyFacts).toOption.isSome = true)
    (hroom : (labelledFacts label).history.length < MAX_BENCHMARK_HISTORY) :
    Accepted readyFacts [labelled label] (labelledFacts label) := by
  have hnow : validCaptureTimestamp (labelled label).now = true := by
    show validCaptureTimestamp "2026-08-11 12:34:56" = true
    decide +kernel
  cases hr : outcomeOf (persistFpsCapture (labelled label).now (labelled label).cap
      (labelled label).capture (labelled label).label) readyFacts with
  | ok s => exact .cons hnow (returns_of_outcome hr) hroom (.nil _)
  | error e =>
      rw [hr] at h
      cases h

private theorem readyFacts_recorded : BaselineRecorded readyFacts := by
  intro h
  cases h

/-- A capture under a label of its own does not interfere. -/
theorem captureInterference_free :
    Undisturbed readyFacts (labelledFacts "after tuning") := by
  have haccepted : Accepted readyFacts [labelled "after tuning"]
      (labelledFacts "after tuning") :=
    labelled_accepted (by decide +kernel) (by decide +kernel)
  refine (captureInterference readyFacts_recorded haccepted).mpr ⟨.inl ?_, .inl ?_⟩
  · intro a ha _
    rw [List.mem_singleton.mp ha]
    exact ⟨by decide, by decide +kernel, by decide +kernel⟩
  · intro a ha _
    rw [List.mem_singleton.mp ha]
    show "after tuning" ≠ FINAL_BENCHMARK_LABEL
    decide +kernel

/-- A capture under the label of the final benchmark blocks the final benchmark. -/
theorem captureInterference_final :
    Accepted readyFacts [labelled FINAL_BENCHMARK_LABEL]
        (labelledFacts FINAL_BENCHMARK_LABEL) ∧
      BaselineRecorded readyFacts ∧
      ¬ Undisturbed readyFacts (labelledFacts FINAL_BENCHMARK_LABEL) := by
  have haccepted : Accepted readyFacts [labelled FINAL_BENCHMARK_LABEL]
      (labelledFacts FINAL_BENCHMARK_LABEL) :=
    labelled_accepted (by decide +kernel) (by decide +kernel)
  refine ⟨haccepted, readyFacts_recorded, ?_⟩
  intro hsame
  obtain ⟨-, hfinal⟩ := (captureInterference readyFacts_recorded haccepted).mp hsame
  rcases hfinal with hfree | hclosed
  · exact hfree _ (List.mem_singleton_self _) (by decide +kernel) rfl
  · have hready : ReadyForFinal readyProgress :=
      ⟨by decide +kernel, by decide +kernel, by decide +kernel, by decide +kernel⟩
    exact hclosed ⟨hready, _, rfl, by decide +kernel, .inl rfl⟩

end FrametimeCfg.Verified.CaptureInterference
