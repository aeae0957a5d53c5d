import FrametimeCfg.Lib.Runs
import FrametimeCfg.Verified.BenchmarkStore

/-!
# Committed benchmark evidence over runs

The baseline and the final benchmark stay in the store while advisory captures
go on.  All of them share one history of at most 200 records, from which each
writer drains the oldest.

Two things can undo accepted evidence.  An append may drain the very record
that the state and the progress still refer to, and an advisory capture with
no runs leaves a record that the baseline's validator refuses.  A step that
does neither keeps the evidence, so over a run the evidence is kept exactly
when every step is harmless in this sense.
-/

namespace FrametimeCfg.Verified.BenchmarkEvidence

open FrametimeCfg.Domain FrametimeCfg.Windows
open FrametimeCfg.Lib.Checks
open FrametimeCfg.Lib.Journal
open FrametimeCfg.Lib.Runs
open FrametimeCfg.Lib.Window
open FrametimeCfg.Verified.BenchmarkStore
open FrametimeCfg.Verified.FinalBenchmark
open FrametimeCfg.Verified.FinalBenchmarkRetry

/-! ## The accepted baseline -/

/-- The history is within its limit and has no invalid record. -/
structure ValidHistory (history : List BenchmarkRecord) : Prop where
  length : history.length ≤ MAX_BENCHMARK_HISTORY
  records : history.any invalidRecord = false

theorem validateHistory_eq_ok {history : List BenchmarkRecord} :
    validateHistory history = .ok () ↔ ValidHistory history := by
  rw [validateHistory, check_bind_eq_ok, reject_eq_ok, reject_eq_ok,
    decide_eq_false_iff_not, Nat.not_lt]
  exact ⟨fun ⟨h1, h2⟩ => ⟨h1, h2⟩, fun ⟨h1, h2⟩ => ⟨h1, h2⟩⟩

/-- P1:17 is completed at the time of the record. -/
structure BaselineProgress (p : Progress) (r : BenchmarkRecord) : Prop where
  completed : p.isCompleted PHASE_ONE_BASELINE_BENCHMARK = true
  notSkipped : p.isSkipped PHASE_ONE_BASELINE_BENCHMARK = false
  stamped : p.timestamps["1-17"]? = some r.timestamp

/-- An accepted baseline. -/
structure BaselineAccepted (s : State) (p : Progress) (history : List BenchmarkRecord)
    (r : BenchmarkRecord) : Prop where
  valid : s.validate = .ok ()
  validHistory : ValidHistory history
  rates : validRates s.baselineAvg (s.baselineP1.getD F64.zero) = true
  progress : BaselineProgress p r
  record : history.filter (isBaselineRecord s) = [r]

/-- **What an accepted baseline agrees on.** -/
theorem validatePersistedBaselineBenchmark_eq_ok {s : State} {p : Progress}
    {history : List BenchmarkRecord} {r : BenchmarkRecord} :
    validatePersistedBaselineBenchmark s p history = .ok r ↔
      BaselineAccepted s p history r := by
  rw [validatePersistedBaselineBenchmark]
  simp only [bind_eq_ok, Unique.exists_iff, PUnit.default_eq_unit, okOr_eq_ok,
    reject_eq_ok, sole_eq_some, validateHistory_eq_ok, Bool.or_eq_false_iff,
    Bool.not_eq_false', decide_eq_false_iff_not, not_not]
  constructor
  · rintro ⟨hvalid, hhistory, hrates, ⟨hdone, hskip⟩, r', hr, hstamp, hreturn⟩
    obtain rfl := Except.ok.inj hreturn
    exact ⟨hvalid, hhistory, hrates, ⟨hdone, hskip, hstamp⟩, hr⟩
  · rintro ⟨hvalid, hhistory, hrates, hp, hr⟩
    exact ⟨hvalid, hhistory, hrates, ⟨hp.completed, hp.notSkipped⟩, r, hr, hp.stamped,
      rfl⟩

/-- The baseline fields of the two states are the same. -/
structure SameBaseline (s s' : State) : Prop where
  avg : s'.baselineAvg = s.baselineAvg
  p1 : s'.baselineP1 = s.baselineP1

theorem SameBaseline.isBaselineRecord_eq {s s' : State} (h : SameBaseline s s') :
    isBaselineRecord s' = isBaselineRecord s := by
  funext r
  rw [isBaselineRecord, isBaselineRecord, h.avg, h.p1]

/-! ## Appending a record -/

/-- Where one record of a kind is left after an append of another kind, none of
them was drained. -/
theorem evicted_of_filter_append {history : List BenchmarkRecord}
    {x r r' : BenchmarkRecord} {q : BenchmarkRecord → Bool} (hx : q x = false)
    (hr : history.filter q = [r])
    (hafter : (appendBenchmarkRecord history x).filter q = [r']) :
    (evicted MAX_BENCHMARK_HISTORY history).any q = false := by
  have hnew : [x].filter q = [] := by rw [List.filter_singleton, hx]; rfl
  have hsplit : (evicted MAX_BENCHMARK_HISTORY history).filter q ++
      (kept MAX_BENCHMARK_HISTORY history).filter q = [r] := by
    rw [← List.filter_append, evicted_append_kept, hr]
  rw [appendBenchmarkRecord, pushNewest_eq history_capacity_pos, List.filter_append,
    hnew, List.append_nil] at hafter
  rw [hafter, List.append_eq_singleton_iff] at hsplit
  rcases hsplit with ⟨hnil, -⟩ | ⟨-, hcons⟩
  · rw [List.any_eq_false]
    exact List.filter_eq_nil_iff.mp hnil
  · cases hcons

/-- An append keeps the only record of another kind exactly when it does not
drain it. -/
theorem filter_append_iff {history : List BenchmarkRecord} {x r : BenchmarkRecord}
    {q : BenchmarkRecord → Bool} (hx : q x = false) (hr : history.filter q = [r]) :
    (appendBenchmarkRecord history x).filter q = [r] ↔
      (evicted MAX_BENCHMARK_HISTORY history).any q = false := by
  refine ⟨evicted_of_filter_append hx hr, fun hevicted => ?_⟩
  have hnil : (evicted MAX_BENCHMARK_HISTORY history).filter q = [] :=
    List.filter_eq_nil_iff.mpr (List.any_eq_false.mp hevicted)
  rw [appendBenchmarkRecord, filter_pushNewest history_capacity_pos hx hnil, hr]

/-- An append to valid records is valid exactly when the new record is. -/
theorem validHistory_append_iff {history : List BenchmarkRecord} {x : BenchmarkRecord}
    (h : history.any invalidRecord = false) :
    ValidHistory (appendBenchmarkRecord history x) ↔ invalidRecord x = false := by
  rw [List.any_eq_false] at h
  constructor
  · intro hafter
    have hmem : x ∈ appendBenchmarkRecord history x := by
      rw [appendBenchmarkRecord, pushNewest_eq history_capacity_pos]
      exact List.mem_append_right _ (List.mem_singleton_self x)
    exact Bool.eq_false_iff.mpr (List.any_eq_false.mp hafter.records x hmem)
  · intro hx
    refine ⟨length_pushNewest history_capacity_pos history x, List.any_eq_false.mpr ?_⟩
    intro y hy
    rcases mem_pushNewest history_capacity_pos hy with hold | rfl
    · exact h y hold
    · exact Bool.eq_false_iff.mp hx

/-- **Appending next to an accepted baseline.**  Under the same baseline
fields and the same P1:17, the baseline stays accepted exactly when the new
record is valid and the old one is not drained. -/
theorem baselineAccepted_append_iff {s s' : State} {p p' : Progress}
    {history clean : List BenchmarkRecord} {x r : BenchmarkRecord}
    (h : BaselineAccepted s p history r) (hvalid : s'.validate = .ok ())
    (hs : SameBaseline s s') (hp : BaselineProgress p' r)
    (hclean : clean ⊆ history)
    (hfilter : clean.filter (isBaselineRecord s) = history.filter (isBaselineRecord s))
    (hx : isBaselineRecord s x = false) :
    BaselineAccepted s' p' (appendBenchmarkRecord clean x) r ↔
      invalidRecord x = false ∧
        (evicted MAX_BENCHMARK_HISTORY clean).any (isBaselineRecord s) = false := by
  have hrecords : clean.any invalidRecord = false := by
    rw [List.any_eq_false]
    exact fun y hy => List.any_eq_false.mp h.validHistory.records y (hclean hy)
  rw [← validHistory_append_iff hrecords,
    ← filter_append_iff hx (hfilter.trans h.record)]
  constructor
  · intro hafter
    exact ⟨hafter.validHistory, by rw [← hs.isBaselineRecord_eq]; exact hafter.record⟩
  · rintro ⟨hhistory, hrecord⟩
    refine ⟨hvalid, hhistory, ?_, hp, ?_⟩
    · rw [hs.avg, hs.p1]
      exact h.rates
    · rw [hs.isBaselineRecord_eq]
      exact hrecord

/-- **Appending next to an accepted final benchmark.**  It stays recorded
exactly when its record is not drained. -/
theorem recordedOnce_append_iff {history : List BenchmarkRecord} {x : BenchmarkRecord}
    {receipt : FinalBenchmarkReceipt} (h : RecordedOnce history receipt)
    (hx : refersTo receipt.receiptId receipt.transactionId x = false) :
    RecordedOnce (appendBenchmarkRecord history x) receipt ↔
      (evicted MAX_BENCHMARK_HISTORY history).any
        (refersTo receipt.receiptId receipt.transactionId) = false := by
  obtain ⟨r, hr, hmatch⟩ := h
  constructor
  · rintro ⟨r', hr', -⟩
    exact evicted_of_filter_append hx hr hr'
  · intro hevicted
    exact ⟨r, (filter_append_iff hx hr).mpr hevicted, hmatch⟩

/-- The final benchmark stays accepted under another baseline. -/
theorem persisted_rebase {s s' : State} {p p' : Progress}
    {history history' : List BenchmarkRecord} {receipt : FinalBenchmarkReceipt}
    (h : Persisted s p history receipt) (hvalid : s'.validate = .ok ())
    (hheld : s'.finalBenchmark = s.finalBenchmark)
    (hactive : s'.activeRebootTransaction = s.activeRebootTransaction)
    (hrates : RatesAgree s' receipt) (hp : FinalProgress p' receipt)
    (hrecorded : RecordedOnce history' receipt) : Persisted s' p' history' receipt :=
  { valid := hvalid
    held := hheld.trans h.held
    transaction := by rw [hactive]; exact h.transaction
    progress := hp
    rates := hrates
    recorded := hrecorded }

/-! ## The baseline's commit -/

/-- The record of a baseline. -/
def baselineRecord (stamp : String) (capture : BenchmarkCapture) : BenchmarkRecord where
  timestamp := stamp
  avgFps := capture.averageFps
  p1Fps := capture.p1Fps
  label := BASELINE_BENCHMARK_LABEL
  runs := capture.runs

/-- The history has a record under the label of the baseline. -/
def hasBaselineLabel (history : List BenchmarkRecord) : Bool :=
  history.any fun r => r.label = BASELINE_BENCHMARK_LABEL

/-- A commit of a baseline that was not complete. -/
structure BaselineWritten (s : State) (p : Progress) (history : List BenchmarkRecord)
    (capture : BenchmarkCapture) (commit : BaselineBenchmarkCommit) (stamp : String) :
    Prop where
  notCompleted : p.isCompleted PHASE_ONE_BASELINE_BENCHMARK = false
  state : commit.state =
    { s with baselineAvg := capture.averageFps, baselineP1 := some capture.p1Fps }
  valid : commit.state.validate = .ok ()
  progress : commit.progress = p.completeStep PHASE_ONE_BASELINE_BENCHMARK stamp
  history : commit.history =
    if hasBaselineLabel history then history
    else appendBenchmarkRecord history (baselineRecord stamp capture)

private theorem isNone_head_filter (history : List BenchmarkRecord) :
    (history.filter (·.label = BASELINE_BENCHMARK_LABEL)).head?.isNone =
      !hasBaselineLabel history := by
  cases hlabel : hasBaselineLabel history with
  | true =>
      obtain ⟨r, hr, hrlabel⟩ := List.any_eq_true.mp hlabel
      have hmem : r ∈ history.filter (·.label = BASELINE_BENCHMARK_LABEL) :=
        List.mem_filter.mpr ⟨hr, hrlabel⟩
      cases hf : history.filter (·.label = BASELINE_BENCHMARK_LABEL) with
      | nil => rw [hf] at hmem; cases hmem
      | cons => rfl
  | false =>
      have hnil : history.filter (·.label = BASELINE_BENCHMARK_LABEL) = [] :=
        List.filter_eq_nil_iff.mpr (List.any_eq_false.mp hlabel)
      rw [hnil]
      rfl

private theorem written_of_baselineCommit {s : State} {p : Progress}
    {history : List BenchmarkRecord} {now : String} {capture : BenchmarkCapture}
    {commit : BaselineBenchmarkCommit}
    (hnot : p.isCompleted PHASE_ONE_BASELINE_BENCHMARK = false)
    (h : baselineCommit s p history
      (history.filter (·.label = BASELINE_BENCHMARK_LABEL)).head? now capture =
        .ok commit) :
    commit.idempotent = false ∧
      ∃ stamp, BaselineWritten s p history capture commit stamp := by
  rw [baselineCommit, check_bind_eq_ok] at h
  obtain ⟨hvalid, hreturn⟩ := h
  obtain rfl := (Except.ok.inj hreturn).symm
  refine ⟨rfl, _, hnot, rfl, hvalid, rfl, ?_⟩
  show (if Option.isNone _ then _ else _) = _
  rw [isNone_head_filter]
  cases hasBaselineLabel history <;> rfl

/-- **The two kinds of baseline commits.** -/
theorem prepareBaselineBenchmarkCommit_cases {s : State} {p : Progress}
    {history : List BenchmarkRecord} {now : String} {capture : BenchmarkCapture}
    {commit : BaselineBenchmarkCommit}
    (h : prepareBaselineBenchmarkCommit s p history now capture = .ok commit) :
    (commit.idempotent = true ∧ hasBaselineLabel history = true) ∨
      (commit.idempotent = false ∧
        ∃ stamp, BaselineWritten s p history capture commit stamp) := by
  rw [prepareBaselineBenchmarkCommit] at h
  simp only [bind_eq_ok, Unique.exists_iff, PUnit.default_eq_unit, reject_eq_ok] at h
  obtain ⟨-, -, -, -, -, -, -, h⟩ := h
  split at h
  · obtain ⟨record, hrecord, h⟩ := bind_eq_ok.mp h
    obtain ⟨-, h⟩ := check_bind_eq_ok.mp h
    split at h
    · obtain ⟨r, -, hreturn⟩ := bind_eq_ok.mp h
      obtain rfl := (Except.ok.inj hreturn).symm
      have hlabel := isNone_head_filter history
      rw [okOr_eq_ok.mp hrecord] at hlabel
      exact Or.inl ⟨rfl, by simpa using hlabel.symm⟩
    · rename_i hnot
      exact Or.inr (written_of_baselineCommit (Bool.eq_false_iff.mpr hnot) h)
  · obtain ⟨hnot, h⟩ := check_bind_eq_ok.mp h
    exact Or.inr (written_of_baselineCommit (reject_eq_ok.mp hnot) h)

/-! ## Steps -/

/-- The three procedures that write benchmark evidence, with what they are
called with. -/
inductive EvidenceStep where
  | fpsCapture (now : String) (cap : UInt32) (capture : BenchmarkCapture)
      (label : String)
  | baseline (now : String) (capture : BenchmarkCapture)
  | final (config : Config) (draws : List (Except String TransactionId)) (now : String)
      (capture : BenchmarkCapture)

/-- A label that an advisory capture may carry. -/
def FreeLabel (label : String) : Prop :=
  label.isEmpty = false ∧ label ≠ BASELINE_BENCHMARK_LABEL ∧
    label ≠ FINAL_BENCHMARK_LABEL

/-- The step succeeds.  The clock gives well-formed times. -/
def Performs : EvidenceStep → Durable → Durable → Prop
  | .fpsCapture now cap capture label, d, d' =>
      validCaptureTimestamp now = true ∧ FreeLabel label ∧
        ∃ ws s, Returns (persistFpsCapture now cap capture label) d ws s ∧
          d' = after d ws
  | .baseline now capture, d, d' =>
      ∃ ws s, Returns (persistBaselineBenchmark now capture) d ws s ∧ d' = after d ws
  | .final config draws now capture, d, d' =>
      ∃ ws receipt, Returns (persistFinalBenchmark config draws now capture) d ws receipt ∧
        d' = after d ws

/-- What the baseline's validator accepts in the store. -/
def baselineOf (d : Durable) : Except String BenchmarkRecord :=
  validatePersistedBaselineBenchmark d.state d.progress d.history

/-- What the final benchmark's validator accepts in the store. -/
def finalOf (d : Durable) : Except String FinalBenchmarkReceipt :=
  validatePersistedFinalBenchmark d.state d.progress d.history

theorem baselineOf_withFiles (d : Durable) (s : State) (p : Progress)
    (history : List BenchmarkRecord) :
    baselineOf (withFiles d s p history) =
      validatePersistedBaselineBenchmark s p history := rfl

/-- What was accepted stays accepted, with the same result. -/
def Keeps (d d' : Durable) : Prop :=
  (∀ r, baselineOf d = .ok r → baselineOf d' = .ok r) ∧
    ∀ receipt, finalOf d = .ok receipt → finalOf d' = .ok receipt

instance : IsTrans Durable Keeps :=
  ⟨fun _ _ _ h h' => ⟨fun r hr => h'.1 r (h.1 r hr),
    fun receipt hreceipt => h'.2 receipt (h.2 receipt hreceipt)⟩⟩

/-- The next append to the history drains a record of the accepted baseline. -/
def drainsBaseline (d : Durable) : Bool :=
  (evicted MAX_BENCHMARK_HISTORY d.history).any (isBaselineRecord d.state)

/-- The next append to the history drains the record of the receipt. -/
def drainsFinal (d : Durable) (receipt : FinalBenchmarkReceipt) : Bool :=
  (evicted MAX_BENCHMARK_HISTORY d.history).any
    (refersTo receipt.receiptId receipt.transactionId)

/-- **A harmless step.**  Next to an accepted baseline, an advisory capture
that is appended has runs and drains nothing of it, and a final benchmark that
is appended drains nothing of it.  Next to an accepted final benchmark, a
baseline that is appended does not drain its record. -/
def Harmless (d : Durable) : EvidenceStep → Prop
  | .fpsCapture _ _ capture _ =>
      (∃ r, baselineOf d = .ok r) → F64.flt F64.zero capture.p1Fps = true →
        capture.runs ≠ 0 ∧ drainsBaseline d = false
  | .baseline _ _ =>
      ∀ receipt, finalOf d = .ok receipt → hasBaselineLabel d.history = false →
        drainsFinal d receipt = false
  | .final _ _ _ _ =>
      (∃ r, baselineOf d = .ok r) → d.history.any isFinalRecord = false →
        drainsBaseline d = false

/-! ## The advisory capture -/

/-- An advisory record is invalid only without runs. -/
theorem invalidRecord_captureRecord {s : State} {now label : String} {cap : UInt32}
    {capture : BenchmarkCapture} (h : AcceptsCapture s cap capture)
    (hnow : validCaptureTimestamp now = true) (hlabel : FreeLabel label) :
    invalidRecord (captureRecord now label capture) = false ↔ capture.runs ≠ 0 := by
  have hnonneg : F64.flt capture.averageFps F64.zero = false := by
    rw [F64.flt, h.avgPositive]
    rfl
  simp [invalidRecord, captureRecord, h.avgFinite, hnonneg, h.p1Finite, h.p1Nonneg,
    hlabel.1, hnow]
  exact decide_eq_false_iff_not

theorem isBaselineRecord_captureRecord {s : State} {now label : String}
    {capture : BenchmarkCapture} (hlabel : FreeLabel label) :
    isBaselineRecord s (captureRecord now label capture) = false := by
  simp [isBaselineRecord, captureRecord, hlabel.2.1]

/-- An advisory capture keeps the evidence exactly when it is harmless. -/
theorem fpsCapture_keeps_iff {now label : String} {cap : UInt32}
    {capture : BenchmarkCapture} {d d' : Durable}
    (h : Performs (.fpsCapture now cap capture label) d d') :
    Keeps d d' ↔ Harmless d (.fpsCapture now cap capture label) := by
  obtain ⟨hnow, hlabel, ws, s, hreturns, rfl⟩ := h
  obtain ⟨haccepts, hafter⟩ := after_persistFpsCapture hreturns
  rw [hafter]
  have hvalid := validate_capturedState now cap capture haccepts.valid haccepts.noReceipt
  have hnofinal : ∀ receipt, finalOf d ≠ .ok receipt := by
    intro receipt hreceipt
    have hheld := (validatePersistedFinalBenchmark_eq_ok.mp hreceipt).held
    rw [haccepts.noReceipt] at hheld
    cases hheld
  have hkeeps : Keeps d (withFiles d (capturedState d.state now cap capture) d.progress
      (capturedHistory d.history now label capture)) ↔
      ∀ r, baselineOf d = .ok r →
        BaselineAccepted (capturedState d.state now cap capture) d.progress
          (capturedHistory d.history now label capture) r := by
    constructor
    · intro hk r hr
      exact validatePersistedBaselineBenchmark_eq_ok.mp (hk.1 r hr)
    · intro hk
      exact ⟨fun r hr => validatePersistedBaselineBenchmark_eq_ok.mpr (hk r hr),
        fun receipt hreceipt => absurd hreceipt (hnofinal receipt)⟩
  rw [hkeeps]
  by_cases hp1 : F64.flt F64.zero capture.p1Fps = true
  · have happend : ∀ r, baselineOf d = .ok r →
        (BaselineAccepted (capturedState d.state now cap capture) d.progress
          (capturedHistory d.history now label capture) r ↔
            capture.runs ≠ 0 ∧ drainsBaseline d = false) := by
      intro r hr
      have haccepted := validatePersistedBaselineBenchmark_eq_ok.mp hr
      rw [capturedHistory, if_pos hp1, baselineAccepted_append_iff haccepted hvalid
        ⟨rfl, rfl⟩ haccepted.progress (List.Subset.refl _) rfl
        (isBaselineRecord_captureRecord hlabel),
        invalidRecord_captureRecord haccepts hnow hlabel]
      rfl
    constructor
    · rintro hk ⟨r, hr⟩ -
      exact (happend r hr).mp (hk r hr)
    · intro hharmless r hr
      exact (happend r hr).mpr (hharmless ⟨r, hr⟩ hp1)
  · refine iff_of_true (fun r hr => ?_) fun _ hp1' => absurd hp1' hp1
    have haccepted := validatePersistedBaselineBenchmark_eq_ok.mp hr
    rw [capturedHistory, if_neg hp1]
    exact ⟨hvalid, haccepted.validHistory, haccepted.rates, haccepted.progress,
      haccepted.record⟩

/-! ## The baseline -/

theorem refersTo_baselineRecord (receiptId transactionId : TransactionId) (stamp : String)
    (capture : BenchmarkCapture) :
    refersTo receiptId transactionId (baselineRecord stamp capture) = false := by
  simp [refersTo, baselineRecord]

/-- Completing P1:17 leaves what the final benchmark asks of the progress. -/
theorem finalProgress_completeStep {p : Progress} {receipt : FinalBenchmarkReceipt}
    (stamp : String) (h : FinalProgress p receipt) :
    FinalProgress (p.completeStep PHASE_ONE_BASELINE_BENCHMARK stamp) receipt := by
  have hstamped : (p.completeStep PHASE_ONE_BASELINE_BENCHMARK stamp).timestamps["3-13"]? =
      p.timestamps["3-13"]? := by
    show (p.timestamps.insert "1-17" stamp)["3-13"]? = _
    rw [FrametimeCfg.Lib.OrderedMap.BTreeMap.get_insert, if_neg (by decide)]
  have hskip : (p.completeStep PHASE_ONE_BASELINE_BENCHMARK stamp).isSkipped
      PHASE_THREE_FINAL_BENCHMARK = false := by
    rw [← Bool.not_eq_true, Progress.isSkipped_completeStep, h.notSkipped]
    exact fun hskip => Bool.false_ne_true hskip.2
  exact {
    driver := (Progress.isCompleted_completeStep _ _ _ _).mpr (Or.inr h.driver)
    completed := (Progress.isCompleted_completeStep _ _ _ _).mpr (Or.inr h.completed)
    notSkipped := hskip
    stamped := hstamped.trans h.stamped
    resolved := resolved_completeStep _ _ h.resolved }

/-- A baseline keeps the evidence exactly when it is harmless. -/
theorem baseline_keeps_iff {now : String} {capture : BenchmarkCapture} {d d' : Durable}
    (h : Performs (.baseline now capture) d d') :
    Keeps d d' ↔ Harmless d (.baseline now capture) := by
  obtain ⟨ws, s, hreturns, rfl⟩ := h
  obtain ⟨commit, hcommit, hafter⟩ := after_persistBaselineBenchmark hreturns
  rw [hafter]
  rcases prepareBaselineBenchmarkCommit_cases hcommit with
    ⟨hidem, hlabel⟩ | ⟨hnot, stamp, hwritten⟩
  · rw [if_pos hidem]
    refine iff_of_true ⟨fun _ hr => hr, fun _ hreceipt => hreceipt⟩ ?_
    intro receipt _ hlabel'
    rw [hlabel] at hlabel'
    cases hlabel'
  · rw [if_neg (by rw [hnot]; exact Bool.false_ne_true)]
    have hnobaseline : ∀ r, baselineOf d ≠ .ok r := by
      intro r hr
      have hdone := (validatePersistedBaselineBenchmark_eq_ok.mp hr).progress.completed
      rw [hwritten.notCompleted] at hdone
      cases hdone
    have hrecorded : ∀ receipt, finalOf d = .ok receipt →
        (finalOf (withFiles d commit.state commit.progress commit.history) =
            .ok receipt ↔ RecordedOnce commit.history receipt) := by
      intro receipt hreceipt
      have hpersisted := validatePersistedFinalBenchmark_eq_ok.mp hreceipt
      constructor
      · exact fun hafter => (validatePersistedFinalBenchmark_eq_ok.mp hafter).recorded
      · intro honce
        refine validatePersistedFinalBenchmark_eq_ok.mpr
          (persisted_rebase hpersisted hwritten.valid ?_ ?_ ?_ ?_ honce)
        · show commit.state.finalBenchmark = _
          rw [hwritten.state]
        · show commit.state.activeRebootTransaction = _
          rw [hwritten.state]
        · have hrates := hpersisted.rates
          show RatesAgree commit.state receipt
          rw [hwritten.state]
          exact ⟨hrates.fpsCap, hrates.avgFps, hrates.p1Fps, hrates.capDate⟩
        · show FinalProgress commit.progress receipt
          rw [hwritten.progress]
          exact finalProgress_completeStep stamp hpersisted.progress
    have hhistory := hwritten.history
    cases hlabel : hasBaselineLabel d.history with
    | true =>
        rw [hlabel, if_pos rfl] at hhistory
        refine iff_of_true ⟨fun r hr => absurd hr (hnobaseline r), ?_⟩ ?_
        · intro receipt hreceipt
          rw [hrecorded receipt hreceipt, hhistory]
          exact (validatePersistedFinalBenchmark_eq_ok.mp hreceipt).recorded
        · intro receipt _ hlabel'
          rw [hlabel] at hlabel'
          cases hlabel'
    | false =>
        rw [hlabel, if_neg Bool.false_ne_true] at hhistory
        have hiff : ∀ receipt, finalOf d = .ok receipt →
            (RecordedOnce commit.history receipt ↔ drainsFinal d receipt = false) := by
          intro receipt hreceipt
          rw [hhistory, recordedOnce_append_iff
            (validatePersistedFinalBenchmark_eq_ok.mp hreceipt).recorded
            (refersTo_baselineRecord _ _ _ _)]
          rfl
        constructor
        · intro hkeeps receipt hreceipt _
          exact (hiff receipt hreceipt).mp
            ((hrecorded receipt hreceipt).mp (hkeeps.2 receipt hreceipt))
        · intro hharmless
          refine ⟨fun r hr => absurd hr (hnobaseline r), fun receipt hreceipt => ?_⟩
          exact (hrecorded receipt hreceipt).mpr
            ((hiff receipt hreceipt).mpr (hharmless receipt hreceipt hlabel))

/-! ## The final benchmark -/

/-- A final record is not a baseline record. -/
theorem isBaselineRecord_of_isFinalRecord {s : State} {r : BenchmarkRecord}
    (h : isFinalRecord r = true) : isBaselineRecord s r = false := by
  have hne : FINAL_BENCHMARK_LABEL ≠ BASELINE_BENCHMARK_LABEL := by decide +kernel
  rw [← Bool.not_eq_true]
  intro hbaseline
  simp only [isBaselineRecord, Bool.and_eq_true, decide_eq_true_eq,
    Option.isNone_iff_eq_none] at hbaseline
  obtain ⟨⟨⟨⟨⟨hlabel, -⟩, -⟩, -⟩, hreceipt⟩, htransaction⟩ := hbaseline
  simp [isFinalRecord, hlabel, hreceipt, htransaction, hne.symm] at h

/-- Taking the final record out leaves the baseline records. -/
theorem filter_cleanedFrom {s : State} {history clean : List BenchmarkRecord}
    {found : Option (Nat × BenchmarkRecord)} (h : CleanedFrom history clean found) :
    clean ⊆ history ∧
      clean.filter (isBaselineRecord s) = history.filter (isBaselineRecord s) := by
  cases found with
  | none =>
      obtain rfl : clean = history := h
      exact ⟨List.Subset.refl _, rfl⟩
  | some pair =>
      obtain ⟨hget, hfinal, rfl⟩ := h
      obtain ⟨hlt, hrecord⟩ := List.getElem?_eq_some_iff.mp hget
      refine ⟨List.eraseIdx_subset, ?_⟩
      have hsplit : history = history.take pair.1 ++ pair.2 :: history.drop (pair.1 + 1) := by
        rw [← hrecord, ← List.drop_eq_getElem_cons hlt, List.take_append_drop]
      rw [List.eraseIdx_eq_take_drop_succ, List.filter_append]
      conv_rhs => rw [hsplit, List.filter_append, List.filter_cons_of_neg
        (by rw [isBaselineRecord_of_isFinalRecord hfinal]; exact Bool.false_ne_true)]

/-- A positive number is not below zero. -/
theorem not_flt_zero {a : F64} (h : F64.flt F64.zero a = true) :
    F64.flt a F64.zero = false := by
  cases a with
  | nan => rfl
  | inf negative =>
      cases negative with
      | false => rfl
      | true => cases h
  | finite q =>
      simp only [F64.flt, F64.fle, F64.feq, F64.zero, Bool.and_eq_true, decide_eq_true_eq,
        Bool.not_eq_true', decide_eq_false_iff_not, F64.finite.injEq] at h
      simp only [F64.flt, F64.fle, F64.feq, F64.zero, Bool.and_eq_false_iff,
        decide_eq_false_iff_not, F64.finite.injEq, Bool.not_eq_false', decide_eq_true_eq]
      by_cases hq : q = 0
      · exact Or.inr hq
      · exact Or.inl fun hle => hq (le_antisymm hle h.1)

/-- The record of a valid receipt is valid. -/
theorem invalidRecord_historyRecord {receipt : FinalBenchmarkReceipt}
    (h : receipt.validate = .ok ()) :
    invalidRecord receipt.historyRecord = false := by
  simp only [FinalBenchmarkReceipt.validate, check_bind_eq_ok, reject_eq_ok,
    Bool.or_eq_false_iff, Bool.not_eq_false', decide_eq_false_iff_not, not_not] at h
  obtain ⟨-, -, hstamp, ⟨hrates, hruns⟩, hlabel⟩ := h
  simp only [validRates, Bool.and_eq_true] at hrates
  obtain ⟨⟨⟨⟨havg, havgpos⟩, hp1⟩, hp1pos⟩, -⟩ := hrates
  have hnonempty : FINAL_BENCHMARK_LABEL.isEmpty = false := by decide +kernel
  simp [invalidRecord, FinalBenchmarkReceipt.historyRecord, havg, hp1,
    not_flt_zero havgpos, not_flt_zero hp1pos, hruns, hlabel, hnonempty, hstamp]

theorem isBaselineRecord_historyRecord {s : State} (receipt : FinalBenchmarkReceipt) :
    isBaselineRecord s receipt.historyRecord = false :=
  isBaselineRecord_of_isFinalRecord (isFinalRecord_historyRecord receipt)

/-- Completing P3:13 leaves P1:17 alone. -/
theorem baselineProgress_completeStep {p : Progress} {r : BenchmarkRecord} (stamp : String)
    (h : BaselineProgress p r) :
    BaselineProgress (p.completeStep PHASE_THREE_FINAL_BENCHMARK stamp) r := by
  have hstamped : (p.completeStep PHASE_THREE_FINAL_BENCHMARK stamp).timestamps["1-17"]? =
      p.timestamps["1-17"]? := by
    show (p.timestamps.insert "3-13" stamp)["1-17"]? = _
    rw [FrametimeCfg.Lib.OrderedMap.BTreeMap.get_insert, if_neg (by decide)]
  have hskip : (p.completeStep PHASE_THREE_FINAL_BENCHMARK stamp).isSkipped
      PHASE_ONE_BASELINE_BENCHMARK = false := by
    rw [← Bool.not_eq_true, Progress.isSkipped_completeStep, h.notSkipped]
    exact fun hskip => Bool.false_ne_true hskip.2
  exact ⟨(Progress.isCompleted_completeStep _ _ _ _).mpr (Or.inr h.completed), hskip,
    hstamped.trans h.stamped⟩

/-- The baseline fields survive a final benchmark. -/
theorem sameBaseline_of_sourceState {s source : State} {capture : BenchmarkCapture}
    (h : sourceState s capture = .ok source) (t : RebootTransaction)
    (receipt : FinalBenchmarkReceipt) :
    SameBaseline s (committedState source t receipt) := by
  rcases sourceState_eq_ok.mp h with ⟨-, -, rfl⟩ | ⟨_, _, -, -, -, rfl⟩
  · exact ⟨rfl, rfl⟩
  · exact ⟨rfl, rfl⟩

/-- Where a final record was taken out, nothing is drained. -/
theorem evicted_cleanedFrom {history clean : List BenchmarkRecord}
    {pair : Nat × BenchmarkRecord} (h : CleanedFrom history clean (some pair))
    (hlength : history.length ≤ MAX_BENCHMARK_HISTORY) :
    evicted MAX_BENCHMARK_HISTORY clean = [] := by
  obtain ⟨hget, -, rfl⟩ := h
  obtain ⟨hlt, -⟩ := List.getElem?_eq_some_iff.mp hget
  have hzero : (history.eraseIdx pair.1).length + 1 - MAX_BENCHMARK_HISTORY = 0 := by
    rw [List.length_eraseIdx_of_lt hlt]
    omega
  rw [evicted, hzero, List.take_zero]

/-- A final benchmark keeps the evidence exactly when it is harmless. -/
theorem final_keeps_iff {config : Config} {draws : List (Except String TransactionId)}
    {now : String} {capture : BenchmarkCapture} {d d' : Durable}
    (h : Performs (.final config draws now capture) d d') :
    Keeps d d' ↔ Harmless d (.final config draws now capture) := by
  obtain ⟨ws, receipt, hreturns, rfl⟩ := h
  obtain ⟨-, ⟨hcomplete, rfl⟩ | ⟨commit, hpending, rfl, rfl⟩⟩ :=
    returns_persistFinalBenchmark.mp hreturns
  · refine iff_of_true ⟨fun _ hr => hr, fun _ hreceipt => hreceipt⟩ ?_
    intro _ hnone
    obtain ⟨r, hr, -⟩ := (persisted_of_complete hcomplete).recorded
    have hmem : r ∈ d.history.filter
        (refersTo receipt.receiptId receipt.transactionId) := by
      rw [hr]
      exact List.mem_singleton_self r
    obtain ⟨hrecord, hrefers⟩ := List.mem_filter.mp hmem
    exact absurd (isFinalRecord_of_refersTo hrefers) (List.any_eq_false.mp hnone r hrecord)
  · obtain ⟨source, clean, t, receipt, hrec, ⟨found, hcleaned⟩, hcommit⟩ :=
      reconciled_of_pending hpending
    rw [after_changedFiles]
    have hnofinal : ∀ receipt, finalOf d ≠ .ok receipt := by
      intro receipt hreceipt
      have hdone := (validatePersistedFinalBenchmark_eq_ok.mp hreceipt).progress.completed
      exact hrec.notCompleted (of_decide_eq_true hdone)
    obtain ⟨hsubset, hfilter⟩ := filter_cleanedFrom (s := d.state) hcleaned
    have hiff : ∀ r, baselineOf d = .ok r →
        (baselineOf (withFiles d commit.state commit.progress commit.history) = .ok r ↔
          (evicted MAX_BENCHMARK_HISTORY clean).any (isBaselineRecord d.state) = false) := by
      intro r hr
      have haccepted := validatePersistedBaselineBenchmark_eq_ok.mp hr
      have happend := baselineAccepted_append_iff haccepted hrec.commits.committedValid
        (sameBaseline_of_sourceState hrec.sourceFound t receipt)
        (baselineProgress_completeStep receipt.capturedUtc haccepted.progress)
        hsubset hfilter (isBaselineRecord_historyRecord receipt)
      rw [hcommit, baselineOf_withFiles]
      simp only [committed]
      rw [validatePersistedBaselineBenchmark_eq_ok, happend,
        invalidRecord_historyRecord hrec.commits.receiptValid]
      exact and_iff_right rfl
    constructor
    · rintro hkeeps ⟨r, hr⟩ hnone
      have hclean : clean = d.history := by
        cases found with
        | none => exact hcleaned
        | some pair =>
            obtain ⟨hget, hfinal, -⟩ := hcleaned
            exact absurd hfinal
              (List.any_eq_false.mp hnone pair.2 (List.mem_of_getElem? hget))
      have hkept := (hiff r hr).mp (hkeeps.1 r hr)
      rw [hclean] at hkept
      exact hkept
    · intro hharmless
      refine ⟨fun r hr => (hiff r hr).mpr ?_,
        fun receipt hreceipt => absurd hreceipt (hnofinal receipt)⟩
      cases found with
      | none =>
          obtain rfl : clean = d.history := hcleaned
          exact hharmless ⟨r, hr⟩ hrec.noFinal
      | some pair =>
          have hlength :=
            (validatePersistedBaselineBenchmark_eq_ok.mp hr).validHistory.length
          rw [evicted_cleanedFrom hcleaned hlength]
          rfl

/-! ## Runs -/

/-- A successful step keeps the evidence exactly when it is harmless. -/
theorem keeps_iff_harmless {step : EvidenceStep} {d d' : Durable}
    (h : Performs step d d') : Keeps d d' ↔ Harmless d step := by
  cases step with
  | fpsCapture => exact fpsCapture_keeps_iff h
  | baseline => exact baseline_keeps_iff h
  | final => exact final_keeps_iff h

/-- **When committed evidence stays valid.**  Over every run of successful
steps from any store: whatever either validator accepts in some state of the
run it accepts with the same result in every later one, exactly when every
step of the run is harmless. -/
theorem evidence_kept_iff {d : Durable} {run : List (EvidenceStep × Durable)}
    (hrun : IsRun Performs d run) :
    (states d run).Pairwise Keeps ↔ EachStep Harmless d run :=
  hrun.pairwise_iff fun _ _ _ h => keeps_iff_harmless h

/-! ## Executing steps -/

/-- The writes of a step. -/
def stepWrites : EvidenceStep → Durable → List Write
  | .fpsCapture now cap capture label, d =>
      writesOf (persistFpsCapture now cap capture label) d
  | .baseline now capture, d => writesOf (persistBaselineBenchmark now capture) d
  | .final config draws now capture, d =>
      writesOf (persistFinalBenchmark config draws now capture) d

/-- The store after a step. -/
def nextStore (step : EvidenceStep) (d : Durable) : Durable :=
  after d (stepWrites step d)

/-- The step succeeds. -/
def succeeds : EvidenceStep → Durable → Bool
  | .fpsCapture now cap capture label, d =>
      validCaptureTimestamp now && !label.isEmpty &&
        label ≠ BASELINE_BENCHMARK_LABEL && label ≠ FINAL_BENCHMARK_LABEL &&
        (outcomeOf (persistFpsCapture now cap capture label) d).toOption.isSome
  | .baseline now capture, d =>
      (outcomeOf (persistBaselineBenchmark now capture) d).toOption.isSome
  | .final config draws now capture, d =>
      (outcomeOf (persistFinalBenchmark config draws now capture) d).toOption.isSome

private theorem returns_of_isSome {α : Type} {m : StoreM α} {d : Durable}
    (h : (outcomeOf m d).toOption.isSome = true) : ∃ a, Returns m d (writesOf m d) a := by
  cases hr : outcomeOf m d with
  | ok a => exact ⟨a, returns_of_outcome hr⟩
  | error e =>
      rw [hr] at h
      cases h

theorem performs_nextStore {step : EvidenceStep} {d : Durable}
    (h : succeeds step d = true) : Performs step d (nextStore step d) := by
  cases step with
  | fpsCapture now cap capture label =>
      simp only [succeeds, Bool.and_eq_true, Bool.not_eq_true', decide_eq_true_eq] at h
      obtain ⟨⟨⟨⟨hnow, hempty⟩, hbaseline⟩, hfinal⟩, hok⟩ := h
      obtain ⟨s, hs⟩ := returns_of_isSome hok
      exact ⟨hnow, ⟨hempty, hbaseline, hfinal⟩, _, s, hs, rfl⟩
  | baseline now capture =>
      obtain ⟨s, hs⟩ := returns_of_isSome h
      exact ⟨_, s, hs, rfl⟩
  | final config draws now capture =>
      obtain ⟨receipt, hs⟩ := returns_of_isSome h
      exact ⟨_, receipt, hs, rfl⟩

/-- A baseline with complete rates. -/
def sampleBaseline : EvidenceStep := .baseline "2026-08-10 12:34:56" sampleCapture

/-- An advisory capture over the given number of runs. -/
def sampleFpsCapture (runs : UInt32) : EvidenceStep :=
  .fpsCapture "2026-08-11 12:34:56" 180 ⟨F64.ofNat 300, F64.ofNat 180, runs⟩ "after tuning"

/-- A baseline from an empty store, and an advisory capture after it. -/
def sampleRun (runs : UInt32) : List (EvidenceStep × Durable) :=
  [(sampleBaseline, nextStore sampleBaseline {}),
    (sampleFpsCapture runs, nextStore (sampleFpsCapture runs) (nextStore sampleBaseline {}))]

private theorem sampleRun_isRun (runs : UInt32)
    (h : succeeds (sampleFpsCapture runs) (nextStore sampleBaseline {}) = true) :
    IsRun Performs {} (sampleRun runs) :=
  ⟨performs_nextStore (by decide +kernel), performs_nextStore h, trivial⟩

/-- An advisory capture with runs keeps the baseline. -/
theorem evidence_kept_with_runs :
    (states {} (sampleRun 3)).Pairwise Keeps := by
  refine (evidence_kept_iff (sampleRun_isRun 3 (by decide +kernel))).mpr ⟨?_, ?_, trivial⟩
  · intro receipt hreceipt
    have hnone : (finalOf {}).toOption = none := by decide +kernel
    rw [hreceipt] at hnone
    cases hnone
  · intro _ _
    exact ⟨by decide, by decide +kernel⟩

/-- An advisory capture without runs is accepted and ends the baseline's
acceptance. -/
theorem evidence_lost_without_runs :
    IsRun Performs {} (sampleRun 0) ∧
      (baselineOf (nextStore sampleBaseline {})).toOption.isSome = true ∧
      baselineOf (nextStore (sampleFpsCapture 0) (nextStore sampleBaseline {})) =
        .error "benchmark history contains an invalid record" ∧
      ¬ (states {} (sampleRun 0)).Pairwise Keeps := by
  have hlost : baselineOf (nextStore (sampleFpsCapture 0) (nextStore sampleBaseline {})) =
      .error "benchmark history contains an invalid record" := by decide +kernel
  have haccepted : (baselineOf (nextStore sampleBaseline {})).toOption.isSome = true := by
    decide +kernel
  refine ⟨sampleRun_isRun 0 (by decide +kernel), haccepted, hlost, fun hkeeps => ?_⟩
  have hstep : Keeps (nextStore sampleBaseline {})
      (nextStore (sampleFpsCapture 0) (nextStore sampleBaseline {})) :=
    (List.pairwise_cons.mp (List.pairwise_cons.mp hkeeps).2).1 _ (List.mem_singleton_self _)
  cases hr : baselineOf (nextStore sampleBaseline {}) with
  | error e =>
      rw [hr] at haccepted
      cases haccepted
  | ok r =>
      have hkept := hstep.1 r hr
      rw [hlost] at hkept
      cases hkept

end FrametimeCfg.Verified.BenchmarkEvidence
