import FrametimeCfg.Verified.FinalBenchmark
import FrametimeCfg.Windows.Persistence

/-!
# Retrying the final benchmark

The final benchmark is written in a fixed order: the history, the state, the
progress.  A run that stops in between leaves a partial bundle.  The next run
with the same capture and configuration reconciles what it finds: it takes the
record and the receipt out again, moves the transaction back, and prepares the
bundle once more.

The result of this module is that the reconciliation finds its way back from
every partial bundle: what it prepares is the commit that was interrupted, and
not a second one.
-/

namespace FrametimeCfg.Verified.FinalBenchmarkRetry

open FrametimeCfg.Domain FrametimeCfg.Windows
open FrametimeCfg.Lib.Checks
open FrametimeCfg.Lib.Journal
open FrametimeCfg.Lib.Window
open FrametimeCfg.Verified.FinalBenchmark

/-! ## The final record of a history -/

/-- The clean history is what is left without the only final record, if there
is one. -/
def CleanedFrom (history clean : List BenchmarkRecord) :
    Option (Nat × BenchmarkRecord) → Prop
  | none => clean = history
  | some (index, record) =>
      history[index]? = some record ∧ isFinalRecord record = true ∧
        clean = history.eraseIdx index

/-- The only final record was found, and without it the history has none. -/
def FoundIn (history : List BenchmarkRecord) (found : Option (Nat × BenchmarkRecord)) :
    Prop :=
  ∃ clean, CleanedFrom history clean found ∧ clean.any isFinalRecord = false

private theorem mem_finals {history : List BenchmarkRecord} {r : BenchmarkRecord}
    {i : Nat} (hget : history[i]? = some r) (hr : isFinalRecord r = true) :
    (r, i) ∈ history.zipIdx.filter fun (record, _) => isFinalRecord record := by
  rw [List.mem_filter]
  exact ⟨List.mk_mem_zipIdx_iff_getElem?.mpr hget, hr⟩

theorem foundIn_of_eq_ok {history : List BenchmarkRecord}
    {found : Option (Nat × BenchmarkRecord)}
    (h : finalHistoryPrefix history = .ok found) : FoundIn history found := by
  unfold finalHistoryPrefix at h
  split at h
  · rename_i hnone
    obtain rfl := Except.ok.inj h
    refine ⟨history, rfl, ?_⟩
    rw [List.any_eq_false]
    intro r hr hfinal
    obtain ⟨i, hi⟩ := List.getElem?_of_mem hr
    have hmem := mem_finals hi hfinal
    rw [hnone] at hmem
    exact List.not_mem_nil hmem
  · rename_i record index hone
    obtain rfl := Except.ok.inj h
    have hfound : (record, index) ∈
        history.zipIdx.filter fun (record, _) => isFinalRecord record := by
      rw [hone]
      exact List.mem_singleton_self _
    obtain ⟨hget, hrecord⟩ := List.mem_filter.mp hfound
    refine ⟨history.eraseIdx index,
      ⟨List.mk_mem_zipIdx_iff_getElem?.mp hget, hrecord, rfl⟩, ?_⟩
    rw [List.any_eq_false]
    intro r hr hfinal
    obtain ⟨i, hne, hi⟩ := List.mem_eraseIdx_iff_getElem?.mp hr
    have hmem := mem_finals hi hfinal
    rw [hone, List.mem_singleton] at hmem
    exact hne (congrArg Prod.snd hmem)
  · cases h

/-- A final record at the end of a history without one is found. -/
theorem finalHistoryPrefix_concat {history : List BenchmarkRecord} {r : BenchmarkRecord}
    (hhistory : history.any isFinalRecord = false) (hr : isFinalRecord r = true) :
    finalHistoryPrefix (history ++ [r]) = .ok (some (history.length, r)) := by
  have hold : (history.zipIdx.filter fun (record, _) => isFinalRecord record) = [] := by
    rw [List.filter_eq_nil_iff]
    rintro ⟨record, i⟩ hmem hfinal
    have hrecord := List.mem_of_getElem? (List.mk_mem_zipIdx_iff_getElem?.mp hmem)
    exact List.any_eq_false.mp hhistory record hrecord hfinal
  have hnew : ((history ++ [r]).zipIdx.filter fun (record, _) => isFinalRecord record) =
      [(r, history.length)] := by
    rw [List.zipIdx_append, List.filter_append, hold]
    simp [hr]
  unfold finalHistoryPrefix
  rw [hnew]

theorem isFinalRecord_historyRecord (receipt : FinalBenchmarkReceipt) :
    isFinalRecord receipt.historyRecord = true := by
  simp [isFinalRecord, FinalBenchmarkReceipt.historyRecord]

/-- A record that refers to a receipt is a final record. -/
theorem isFinalRecord_of_refersTo {receiptId transactionId : TransactionId}
    {r : BenchmarkRecord} (h : refersTo receiptId transactionId r = true) :
    isFinalRecord r = true := by
  simp only [refersTo, Bool.or_eq_true, decide_eq_true_eq] at h
  rcases h with h | h <;> simp [isFinalRecord, h]

/-! ## The state that an interrupted run started from -/

/-- The state without its receipt, and with the transaction `t`. -/
def withoutReceipt (s : State) (t : RebootTransaction) : State :=
  { s with
    finalBenchmark := none
    activeRebootTransaction := some { t with stage := .phaseThreeArmed } }

theorem sourceState_eq_ok {s source : State} {capture : BenchmarkCapture} :
    sourceState s capture = .ok source ↔
      (s.finalBenchmark = none ∧ s.validate = .ok () ∧ source = s) ∨
      ∃ receipt t, s.finalBenchmark = some receipt ∧
        validatePartialFinalState s receipt capture = .ok () ∧
        s.activeRebootTransaction = some t ∧ source = withoutReceipt s t := by
  rw [sourceState]
  cases hf : s.finalBenchmark with
  | none =>
      simp only [check_bind_eq_ok, reduceCtorEq, false_and, exists_false, or_false,
        true_and]
      exact and_congr_right fun _ =>
        ⟨fun h => (Except.ok.inj h).symm, fun h => congrArg Except.ok h.symm⟩
  | some receipt =>
      simp only [check_bind_eq_ok, reduceCtorEq, false_and, false_or]
      rw [bind_eq_ok]
      constructor
      · rintro ⟨hfound, t, ht, hreturn⟩
        exact ⟨receipt, t, rfl, hfound, okOr_eq_ok.mp ht, (Except.ok.inj hreturn).symm⟩
      · rintro ⟨receipt', t, hreceipt, hfound, ht, rfl⟩
        obtain rfl := Option.some.inj hreceipt
        exact ⟨hfound, t, okOr_eq_ok.mpr ht, rfl⟩

/-- Taking the receipt out keeps the state valid and the transaction its
identifier. -/
theorem of_sourceState {s source : State} {capture : BenchmarkCapture}
    (h : sourceState s capture = .ok source) :
    s.validate = .ok () ∧
      s.activeRebootTransaction.bind (·.transactionId) =
        source.activeRebootTransaction.bind (·.transactionId) := by
  rcases sourceState_eq_ok.mp h with ⟨-, hvalid, rfl⟩ | ⟨receipt, t, -, hfound, ht, rfl⟩
  · exact ⟨hvalid, rfl⟩
  · rw [validatePartialFinalState, check_bind_eq_ok] at hfound
    exact ⟨hfound.1, by rw [ht]; rfl⟩

/-- Without a receipt, the frame-rate fields and the transaction do not matter
for the validity of a state. -/
theorem validate_withoutReceipt {s : State} {t t' : RebootTransaction}
    (receipt : FinalBenchmarkReceipt) (hvalid : s.validate = .ok ())
    (hnone : s.finalBenchmark = none) :
    (withoutReceipt (committedState s t receipt) t').validate = .ok () := by
  have hcongr : (withoutReceipt (committedState s t receipt) t').validate = s.validate :=
    State.validate_congr hnone rfl rfl rfl rfl rfl rfl
  rw [hcongr, hvalid]

/-! ## One reconciliation -/

section

variable {s source : State} {p : Progress} {history clean : List BenchmarkRecord}
  {config : Config} {fresh : Except String TransactionId} {now : String}
  {capture : BenchmarkCapture} {commit : FinalBenchmarkCommit}
  {t : RebootTransaction} {receipt : FinalBenchmarkReceipt}

/-- The receipt of the state, if it has one, is the given one. -/
def HoldsAtMost (s : State) (receipt : FinalBenchmarkReceipt) : Prop :=
  s.finalBenchmark.any (receipt ≠ ·) = false

theorem holdsAtMost_iff :
    HoldsAtMost s receipt ↔
      s.finalBenchmark = none ∨ s.finalBenchmark = some receipt := by
  rw [HoldsAtMost]
  cases s.finalBenchmark with
  | none => simp
  | some receipt' =>
      simp only [Option.any_some, decide_eq_false_iff_not, not_not, reduceCtorEq,
        false_or, Option.some.injEq]
      exact eq_comm

/-- The history that is prepared again: the one that was found, without its
final record. -/
theorem clean_of_sourceRecords {found : Option (Nat × BenchmarkRecord)}
    {receiptId : TransactionId} {timestamp : String}
    (hfound : FoundIn history found)
    (h : sourceRecords s history found fresh now capture =
      .ok (receiptId, timestamp, clean)) :
    CleanedFrom history clean found ∧ clean.any isFinalRecord = false := by
  obtain ⟨clean', hclean', hnone⟩ := hfound
  suffices hsame : clean = clean' by
    rw [hsame]
    exact ⟨hclean', hnone⟩
  cases found with
  | none =>
      obtain rfl : clean' = history := hclean'
      rw [sourceRecords] at h
      cases hf : s.finalBenchmark with
      | none =>
          rw [hf] at h
          obtain ⟨id, -, hreturn⟩ := bind_eq_ok.mp h
          exact (congrArg (·.2.2) (Except.ok.inj hreturn)).symm
      | some receipt =>
          rw [hf] at h
          exact (congrArg (·.2.2) (Except.ok.inj h)).symm
  | some pair =>
      obtain ⟨-, -, rfl⟩ := hclean'
      rw [sourceRecords] at h
      obtain ⟨-, h⟩ := check_bind_eq_ok.mp h
      obtain ⟨-, h⟩ := check_bind_eq_ok.mp h
      obtain ⟨id, -, hreturn⟩ := bind_eq_ok.mp h
      exact (congrArg (·.2.2) (Except.ok.inj hreturn)).symm

/-- What a reconciliation that has work left went through. -/
structure Reconciled (s : State) (p : Progress) (config : Config)
    (capture : BenchmarkCapture) (source : State) (clean : List BenchmarkRecord)
    (t : RebootTransaction) (receipt : FinalBenchmarkReceipt) : Prop where
  notCompleted : Progress.key 3 13 ∉ p.completedSteps
  notSkipped : Progress.key 3 13 ∉ p.skippedSteps
  sourceFound : sourceState s capture = .ok source
  held : HoldsAtMost s receipt
  noFinal : clean.any isFinalRecord = false
  commits : Commits source p clean config capture t receipt

theorem reconciled_of_pending
    (h : reconcileFinalBenchmark s p history config fresh now capture =
      .ok (.pending commit)) :
    ∃ source clean t receipt,
      Reconciled s p config capture source clean t receipt ∧
      (∃ found, CleanedFrom history clean found) ∧
      commit = committed source p clean t receipt := by
  rw [reconcileFinalBenchmark] at h
  split at h
  · obtain ⟨receipt, -, h⟩ := bind_eq_ok.mp h
    obtain ⟨-, h⟩ := check_bind_eq_ok.mp h
    cases h
  · rename_i hnot
    obtain ⟨hskip, h⟩ := check_bind_eq_ok.mp h
    obtain ⟨found, hfound, h⟩ := bind_eq_ok.mp h
    obtain ⟨source, hsource, h⟩ := bind_eq_ok.mp h
    obtain ⟨⟨receiptId, timestamp, clean⟩, hrecords, h⟩ := bind_eq_ok.mp h
    obtain ⟨commit', hcommit, h⟩ := bind_eq_ok.mp h
    obtain ⟨hheld, h⟩ := check_bind_eq_ok.mp h
    obtain ⟨-, h⟩ := check_bind_eq_ok.mp h
    obtain rfl : commit' = commit := by
      have hpending := Except.ok.inj h
      injection hpending
    obtain ⟨t, receipt, hcommits, -, -, rfl⟩ :=
      prepareFinalBenchmarkCommit_eq_ok.mp hcommit
    obtain ⟨hcleaned, hclean⟩ :=
      clean_of_sourceRecords (foundIn_of_eq_ok hfound) hrecords
    exact ⟨source, clean, t, receipt,
      ⟨hnot, by simpa [reject_eq_ok] using hskip, hsource, reject_eq_ok.mp hheld,
        hclean, hcommits⟩, ⟨found, hcleaned⟩, rfl⟩

/-! ## Reconciling a history that has the record -/

/-- The record of the receipt passes the checks on a partial history. -/
theorem validatePartialFinalRecord_historyRecord
    (hvalid : s.validate = .ok ())
    (hid : s.activeRebootTransaction.bind (·.transactionId) =
      some receipt.transactionId)
    (hcommits : Commits source p clean config capture t receipt) :
    validatePartialFinalRecord receipt.historyRecord s capture = .ok () := by
  obtain ⟨havg, hp1⟩ := hcommits.rates_eq
  rw [validatePartialFinalRecord, check_bind_eq_ok, hid]
  refine ⟨hvalid, ?_⟩
  rw [okOr_some, bind_ok, reject_eq_ok]
  simp [FinalBenchmarkReceipt.historyRecord, hcommits.label_eq, hcommits.runs_eq,
    havg, hp1]

/-- The reconciliation takes the record out again and keeps its identifier and
its time. -/
theorem sourceRecords_historyRecord
    (hvalid : s.validate = .ok ()) (hheld : HoldsAtMost s receipt)
    (hid : s.activeRebootTransaction.bind (·.transactionId) =
      some receipt.transactionId)
    (hcommits : Commits source p clean config capture t receipt) :
    sourceRecords s (clean ++ [receipt.historyRecord])
        (some (clean.length, receipt.historyRecord)) fresh now capture =
      .ok (receipt.receiptId, receipt.capturedUtc, clean) := by
  have hagrees : (s.finalBenchmark.any fun held =>
      !held.matchesHistoryRecord receipt.historyRecord) = false := by
    rcases holdsAtMost_iff.mp hheld with hnone | hsome
    · rw [hnone, Option.any_none]
    · rw [hsome, Option.any_some, matches_historyRecord hcommits.receiptValid]
      rfl
  have herase : (clean ++ [receipt.historyRecord]).eraseIdx clean.length = clean := by
    simp [List.eraseIdx_append_of_length_le]
  rw [sourceRecords, validatePartialFinalRecord_historyRecord hvalid hid hcommits,
    hagrees, herase]
  rfl

/-- **Reconciling a recorded bundle.**  Where the record of the receipt is the
last of the history, the reconciliation prepares the commit of that receipt,
whatever identifier and time the retry brings. -/
theorem reconcile_recorded (h : Reconciled s p config capture source clean t receipt)
    (fresh : Except String TransactionId) (now : String) :
    reconcileFinalBenchmark s p (clean ++ [receipt.historyRecord]) config fresh now
        capture = .ok (.pending (committed source p clean t receipt)) := by
  obtain ⟨hvalid, hid⟩ := of_sourceState h.sourceFound
  have hid' : s.activeRebootTransaction.bind (·.transactionId) =
      some receipt.transactionId := by
    rw [hid, h.commits.transaction]
    exact h.commits.transactionId
  have hcommit : prepareFinalBenchmarkCommit source p clean config receipt.receiptId
      receipt.capturedUtc capture = .ok (committed source p clean t receipt) :=
    prepareFinalBenchmarkCommit_eq_ok.mpr ⟨t, receipt, h.commits, rfl, rfl, rfl⟩
  have hmatch : (!receipt.matchesHistoryRecord receipt.historyRecord) = false := by
    rw [matches_historyRecord h.commits.receiptValid]
    rfl
  rw [reconcileFinalBenchmark, if_neg h.notCompleted]
  refine check_bind_eq_ok.mpr ⟨by simp [h.notSkipped], ?_⟩
  refine bind_eq_ok.mpr ⟨_, finalHistoryPrefix_concat h.noFinal
    (isFinalRecord_historyRecord receipt), ?_⟩
  refine bind_eq_ok.mpr ⟨_, h.sourceFound, ?_⟩
  refine bind_eq_ok.mpr ⟨_, sourceRecords_historyRecord hvalid h.held hid' h.commits, ?_⟩
  refine bind_eq_ok.mpr ⟨_, hcommit, ?_⟩
  refine check_bind_eq_ok.mpr ⟨reject_eq_ok.mpr h.held, ?_⟩
  exact check_bind_eq_ok.mpr ⟨reject_eq_ok.mpr hmatch, rfl⟩

/-- Draining the history before or after makes no difference. -/
theorem committed_kept (source : State) (p : Progress) (clean : List BenchmarkRecord)
    (t : RebootTransaction) (receipt : FinalBenchmarkReceipt) :
    committed source p (kept MAX_BENCHMARK_HISTORY clean) t receipt =
      committed source p clean t receipt := by
  have hpush : appendBenchmarkRecord (kept MAX_BENCHMARK_HISTORY clean)
      receipt.historyRecord = appendBenchmarkRecord clean receipt.historyRecord :=
    pushNewest_kept history_capacity_pos _ _
  rw [committed, committed, hpush]

/-- The checks hold over fewer records. -/
theorem Reconciled.afterDrain
    (h : Reconciled s p config capture source clean t receipt) (n : Nat) :
    Reconciled s p config capture source (kept n clean) t receipt := by
  have hsubset := kept_subset n clean
  refine { h with noFinal := ?_, commits := { h.commits with unrecorded := ?_ } }
  · rw [List.any_eq_false]
    exact fun r hr => List.any_eq_false.mp h.noFinal r (hsubset hr)
  · rw [List.any_eq_false]
    exact fun r hr => List.any_eq_false.mp h.commits.unrecorded r (hsubset hr)

/-- After the history was written. -/
theorem reconcile_after_history
    (h : Reconciled s p config capture source clean t receipt)
    (fresh : Except String TransactionId) (now : String) :
    reconcileFinalBenchmark s p (committed source p clean t receipt).history config fresh
        now capture = .ok (.pending (committed source p clean t receipt)) := by
  have hhistory : (committed source p clean t receipt).history =
      kept MAX_BENCHMARK_HISTORY clean ++ [receipt.historyRecord] := by
    rw [committed, appendBenchmarkRecord, pushNewest_eq history_capacity_pos]
  rw [hhistory, reconcile_recorded (h.afterDrain _) fresh now, committed_kept]

/-! ## Reconciling a state that has the receipt -/

/-- The committed transaction. -/
def completedTransaction (t : RebootTransaction) (receipt : FinalBenchmarkReceipt) :
    RebootTransaction :=
  { t with stage := .phaseThreeComplete, updatedUtc := some receipt.capturedUtc }

/-- The state of a commit passes the checks on a partial state. -/
theorem validatePartialFinalState_committedState
    (h : Commits source p clean config capture t receipt) :
    validatePartialFinalState (committedState source t receipt) receipt capture =
      .ok () := by
  obtain ⟨havg, hp1⟩ := h.rates_eq
  obtain ⟨hfavg, hfp1⟩ := finite_of_validRates (rates_of_validate h.receiptValid)
  rw [validatePartialFinalState, check_bind_eq_ok, check_bind_eq_ok]
  refine ⟨h.committedValid, ?_, ?_⟩
  · simp [committedState]
  · rw [reject_eq_ok]
    simp [committedState, receiptMatchesCapture, h.runs_eq, havg, hp1,
      feq_self hfavg, feq_self hfp1]

/-- Preparing the bundle again from its own state gives the same state. -/
theorem committedState_again (source : State) (t : RebootTransaction)
    (receipt : FinalBenchmarkReceipt) :
    committedState
        (withoutReceipt (committedState source t receipt) (completedTransaction t receipt))
        { completedTransaction t receipt with stage := .phaseThreeArmed } receipt =
      committedState source t receipt := rfl

/-- A state that was written can be reconciled like the one it came from. -/
theorem Reconciled.afterState
    (h : Reconciled s p config capture source clean t receipt) :
    Reconciled (committedState source t receipt) p config capture
      (withoutReceipt (committedState source t receipt) (completedTransaction t receipt))
      clean { completedTransaction t receipt with stage := .phaseThreeArmed } receipt := by
  have hauth := (RebootTransaction.isAuthorizedAt_iff _ _).mp h.commits.authorized
  have hheld : HoldsAtMost (committedState source t receipt) receipt :=
    holdsAtMost_iff.mpr (Or.inr rfl)
  exact { h with
    sourceFound := sourceState_eq_ok.mpr (Or.inr ⟨receipt, _, rfl,
      validatePartialFinalState_committedState h.commits, rfl, rfl⟩)
    held := hheld
    commits := { h.commits with
      valid := validate_withoutReceipt receipt h.commits.valid h.commits.noReceipt
      noReceipt := rfl
      transaction := rfl
      authorized := (RebootTransaction.isAuthorizedAt_iff _ _).mpr
        ⟨hauth.1, hauth.2.1, hauth.2.2.1, hauth.2.2.2.1, rfl⟩ } }

/-- After the history and the state were written. -/
theorem reconcile_after_state (h : Reconciled s p config capture source clean t receipt)
    (fresh : Except String TransactionId) (now : String) :
    reconcileFinalBenchmark (committed source p clean t receipt).state p
        (committed source p clean t receipt).history config fresh now capture =
      .ok (.pending (committed source p clean t receipt)) := by
  have hagain := reconcile_after_history h.afterState fresh now
  exact hagain

/-- After all three files were written. -/
theorem reconcile_after_progress (h : Commits source p clean config capture t receipt)
    (fresh : Except String TransactionId) (now : String) :
    reconcileFinalBenchmark (committed source p clean t receipt).state
        (committed source p clean t receipt).progress
        (committed source p clean t receipt).history config fresh now capture =
      .ok (.complete receipt) := by
  have hdone : Progress.key 3 13 ∈
      (p.completeStep PHASE_THREE_FINAL_BENCHMARK receipt.capturedUtc).completedSteps :=
    Progress.mem_completedSteps_completeStep.mpr (Or.inl rfl)
  have hpersisted := validatePersistedFinalBenchmark_eq_ok.mpr (persisted_of_commits h)
  obtain ⟨havg, hp1⟩ := h.rates_eq
  have hcapture : receiptMatchesCapture receipt capture = true := by
    simp [receiptMatchesCapture, havg, hp1, h.runs_eq]
  simp only [committed]
  rw [reconcileFinalBenchmark, if_pos hdone, hpersisted, bind_ok, hcapture]
  rfl

/-! ## Every crash point -/

/-- The writes of a commit, in their fixed order. -/
def finalWrites (commit : FinalBenchmarkCommit) : List Write :=
  [.history commit.history, .state commit.state, .progress commit.progress]

/-- What the next run finds in the three files. -/
def reconcileAt (d : Durable) (config : Config) (fresh : Except String TransactionId)
    (now : String) (capture : BenchmarkCapture) :
    Except String FinalBenchmarkReconciliation :=
  reconcileFinalBenchmark d.state d.progress d.history config fresh now capture

/-- **The final benchmark converges from every crash point.**  Where the first
reconciliation has a commit to write, and at least one of its three files was
written before the crash: the next reconciliation with the same configuration
and capture, under any identifier and any time, yields the same commit, or
reports completion with its receipt when all three files were written. -/
theorem reconcile_after_crash {d : Durable}
    (h : reconcileAt d config fresh now capture = .ok (.pending commit))
    {k : Nat} (hk : 0 < k) (fresh' : Except String TransactionId) (now' : String) :
    reconcileAt (crash d (finalWrites commit) k) config fresh' now' capture =
      .ok (if k < 3 then .pending commit else .complete commit.receipt) := by
  obtain ⟨source, clean, t, receipt, hrec, -, hcommit⟩ := reconciled_of_pending h
  have hreceipt : commit.receipt = receipt := by rw [hcommit]; rfl
  have hhistory := reconcile_after_history hrec fresh' now'
  have hstate := reconcile_after_state hrec fresh' now'
  have hprogress := reconcile_after_progress hrec.commits fresh' now'
  rw [← hcommit] at hhistory hstate hprogress
  match k, hk with
  | 1, _ => exact hhistory
  | 2, _ => exact hstate
  | k + 3, _ =>
      have hlast : crash d (finalWrites commit) (k + 3) =
          crash d (finalWrites commit) 3 :=
        congrArg (after d) (List.take_of_length_le (by
          show 3 ≤ k + 3
          omega))
      rw [hlast, if_neg (by omega), hreceipt]
      exact hprogress

end

/-- Progress with everything before P3:13 completed. -/
def readyProgress : Progress :=
  (stepsOfPhase .three).foldl (fun p step =>
    if step.id = PHASE_THREE_FINAL_BENCHMARK then p
    else p.completeStep step.id "2026-08-10 12:00:00") {}

/-- Files that wait for the final benchmark. -/
def readyFacts : Durable where
  state := armedState
  progress := readyProgress

def sampleCapture : BenchmarkCapture := ⟨F64.ofNat 300, F64.ofNat 180, 3⟩

private theorem reconcile_ready_pending :
    (match reconcileAt readyFacts shippedConfig (.ok sampleReceiptId)
      "2026-08-10 12:34:56" sampleCapture with
      | .ok (.pending _) => true
      | _ => false) = true := by
  decide +kernel

/-- A crash between the state and the progress is reconciled with the same
commit. -/
theorem reconcile_after_crash_ready :
    ∃ commit,
      reconcileAt readyFacts shippedConfig (.ok sampleReceiptId) "2026-08-10 12:34:56"
        sampleCapture = .ok (.pending commit) ∧
      reconcileAt (crash readyFacts (finalWrites commit) 2) shippedConfig
        (.error "no random source") "2026-08-11 00:00:00" sampleCapture =
        .ok (.pending commit) := by
  have hpending := reconcile_ready_pending
  split at hpending
  · rename_i commit hcommit
    exact ⟨commit, hcommit, reconcile_after_crash hcommit (by decide) _ _⟩
  · cases hpending

end FrametimeCfg.Verified.FinalBenchmarkRetry
