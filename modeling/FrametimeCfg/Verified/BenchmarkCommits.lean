import FrametimeCfg.Verified.BenchmarkEvidence

/-!
# What a benchmark commit and its validator agree on

A commit of the baseline or of the final benchmark is prepared by one list of checks
and accepted after it was written by another.  Whatever is prepared is accepted, with
the record it appended.

The baseline has no transaction.  After a crash between its three writes it is
prepared again from whatever was written, and this gives the bundle of the first time.
-/

namespace FrametimeCfg.Verified.BenchmarkCommits

open FrametimeCfg.Domain
open FrametimeCfg.Lib.Checks
open FrametimeCfg.Lib.Window
open FrametimeCfg.Verified.BenchmarkEvidence
open FrametimeCfg.Verified.FinalBenchmark

/-! ## The final benchmark -/

/-- The new history is the old one with one more record.  The oldest ones are dropped
where it is full. -/
def AppendsOne (history next : List BenchmarkRecord) : Prop :=
  ∃ oldest rest record, history = oldest ++ rest ∧ next = rest ++ [record] ∧
    (oldest ≠ [] → next.length = MAX_BENCHMARK_HISTORY)

/-- A commit that the validator accepts, within the limits of the history. -/
structure FinalAccepted (history : List BenchmarkRecord) (c : FinalBenchmarkCommit) :
    Prop where
  validated : validatePersistedFinalBenchmark c.state c.progress c.history = .ok c.receipt
  bounded : c.history.length ≤ MAX_BENCHMARK_HISTORY
  appended : AppendsOne history c.history
  complete : c.state.activeRebootTransaction.map (·.stage) = some .phaseThreeComplete

/-- Every final commit is accepted. -/
def FinalCoherent (s : State) (p : Progress) (history : List BenchmarkRecord)
    (config : Config) (receiptId : TransactionId) (capturedUtc : String)
    (capture : BenchmarkCapture) : Prop :=
  ∀ c, prepareFinalBenchmarkCommit s p history config receiptId capturedUtc capture =
    .ok c → FinalAccepted history c

theorem appendsOne_append (history : List BenchmarkRecord) (record : BenchmarkRecord) :
    AppendsOne history (appendBenchmarkRecord history record) := by
  rw [appendBenchmarkRecord, pushNewest_eq history_capacity_pos]
  refine ⟨_, _, record, (evicted_append_kept MAX_BENCHMARK_HISTORY history).symm, rfl, ?_⟩
  intro hevicted
  have hpos := history_capacity_pos
  have hfull : MAX_BENCHMARK_HISTORY ≤ history.length := by
    by_contra hroom
    have hzero : history.length + 1 - MAX_BENCHMARK_HISTORY = 0 := by omega
    apply hevicted
    rw [evicted, hzero, List.take_zero]
  rw [List.length_append, List.length_singleton, kept, List.length_drop]
  omega

theorem length_append (history : List BenchmarkRecord) (record : BenchmarkRecord) :
    (appendBenchmarkRecord history record).length ≤ MAX_BENCHMARK_HISTORY := by
  rw [appendBenchmarkRecord]
  exact length_pushNewest history_capacity_pos history record

theorem finalCoherent (s : State) (p : Progress) (history : List BenchmarkRecord)
    (config : Config) (receiptId : TransactionId) (capturedUtc : String)
    (capture : BenchmarkCapture) :
    FinalCoherent s p history config receiptId capturedUtc capture := by
  intro c hc
  obtain ⟨t, receipt, hcommits, -, -, hcommit⟩ := prepareFinalBenchmarkCommit_eq_ok.mp hc
  have hhistory : c.history = appendBenchmarkRecord history receipt.historyRecord := by
    simp only [hcommit, committed]
  constructor
  · have hpersisted := persisted_of_commits hcommits
    simp only [hcommit, committed]
    exact validatePersistedFinalBenchmark_eq_ok.mpr hpersisted
  · rw [hhistory]
    exact length_append history receipt.historyRecord
  · rw [hhistory]
    exact appendsOne_append history receipt.historyRecord
  · rw [hcommit]
    rfl

/-! ## The baseline -/

/-- The files of the bundle, in the order they are written. -/
inductive BaselineFile where
  | history
  | state
  | progress
  deriving DecidableEq, Repr

/-- The write order: the progress is last. -/
def baselineOrder : List BaselineFile := [.history, .state, .progress]

/-- The three files. -/
structure Bundle where
  state : State
  progress : Progress
  history : List BenchmarkRecord

/-- Write one file of a commit. -/
def Bundle.write (c : BaselineBenchmarkCommit) (b : Bundle) : BaselineFile → Bundle
  | .history => { b with history := c.history }
  | .state => { b with state := c.state }
  | .progress => { b with progress := c.progress }

/-- The files after some writes. -/
def Bundle.written (c : BaselineBenchmarkCommit) (b : Bundle) (files : List BaselineFile) :
    Bundle :=
  files.foldl (Bundle.write c) b

/-- Prepare the commit from the three files. -/
def Bundle.prepare (b : Bundle) (capturedUtc : String) (capture : BenchmarkCapture) :
    Except String BaselineBenchmarkCommit :=
  prepareBaselineBenchmarkCommit b.state b.progress b.history capturedUtc capture

/-- The two commits differ in the idempotent flag at most. -/
def SameCommit (c c' : BaselineBenchmarkCommit) : Prop :=
  { c' with idempotent := c.idempotent } = c

/-- A commit that the validator accepts, and that every retry prepares again. -/
structure BaselineCoherent (b : Bundle) (capture : BenchmarkCapture)
    (c : BaselineBenchmarkCommit) : Prop where
  validated : ∃ record,
    validatePersistedBaselineBenchmark c.state c.progress c.history = .ok record
  retried : ∀ files, files <+: baselineOrder → files ≠ [] →
    ∀ later, validCaptureTimestamp later = true →
      ∃ c', (b.written c files).prepare later capture = .ok c' ∧ SameCommit c c'

/-- The one baseline record of the history is the one of the capture. -/
structure FoundRecord (history : List BenchmarkRecord) (capture : BenchmarkCapture)
    (r : BenchmarkRecord) : Prop where
  sole : history.filter (·.label = BASELINE_BENCHMARK_LABEL) = [r]
  matching : recordMatchesCapture r capture = true

/-- What the search for the baseline record returns. -/
def Existing (history : List BenchmarkRecord) (capture : BenchmarkCapture) :
    Option BenchmarkRecord → Prop
  | none => history.filter (·.label = BASELINE_BENCHMARK_LABEL) = []
  | some r => FoundRecord history capture r

/-- What every preparation checks first. -/
structure BaselineReady (s : State) (p : Progress) (history : List BenchmarkRecord)
    (capture : BenchmarkCapture) : Prop where
  valid : s.validate = .ok ()
  validHistory : ValidHistory history
  complete : validateCompleteCapture capture = .ok ()
  notSkipped : p.isSkipped PHASE_ONE_BASELINE_BENCHMARK = false

/-- The baseline fields of the state are the ones of the capture. -/
def HasCapture (s : State) (capture : BenchmarkCapture) : Prop :=
  s.baselineAvg = capture.averageFps ∧ s.baselineP1 = some capture.p1Fps

/-- The state with the baseline of a capture. -/
def withBaseline (s : State) (capture : BenchmarkCapture) : State :=
  { s with baselineAvg := capture.averageFps, baselineP1 := some capture.p1Fps }

/-- The bundle that records the baseline of a capture. -/
def recordedBaseline (s : State) (p : Progress) (history : List BenchmarkRecord)
    (capture : BenchmarkCapture) (stamp : String) : BaselineBenchmarkCommit where
  state := withBaseline s capture
  progress := p.completeStep PHASE_ONE_BASELINE_BENCHMARK stamp
  history := history
  capturedUtc := stamp
  idempotent := false

section

variable {s : State} {p : Progress} {history : List BenchmarkRecord}
  {capture : BenchmarkCapture} {r : BenchmarkRecord} {now : String}

theorem complete_rates (h : validateCompleteCapture capture = .ok ()) :
    validRates capture.averageFps capture.p1Fps = true ∧ capture.runs ≠ 0 := by
  unfold validateCompleteCapture at h
  rw [reject_eq_ok, Bool.or_eq_false_iff] at h
  exact ⟨by simpa using h.1, of_decide_eq_false h.2⟩

theorem hasCapture_withBaseline : HasCapture (withBaseline s capture) capture := ⟨rfl, rfl⟩

/-- A state with a complete capture has a baseline. -/
theorem stateHasBaseline_of (h : HasCapture s capture) : stateHasBaseline s = true := by
  unfold stateHasBaseline
  rw [h.2]
  exact Bool.or_true _

/-- What is checked before the state is looked at. -/
theorem prepare_ready {c : BaselineBenchmarkCommit}
    (h : prepareBaselineBenchmarkCommit s p history now capture = .ok c) :
    BaselineReady s p history capture := by
  rw [prepareBaselineBenchmarkCommit] at h
  simp only [bind_eq_ok, Unique.exists_iff, PUnit.default_eq_unit] at h
  obtain ⟨hvalid, hhistory, hcomplete, -, hskipped, -⟩ := h
  exact ⟨hvalid, validateHistory_eq_ok.mp hhistory, hcomplete, reject_eq_ok.mp hskipped⟩

/-- The record that a commit refers to, with the history it leaves: the one that is
found, or a new one. -/
inductive Recorded (history : List BenchmarkRecord) (now : String)
    (capture : BenchmarkCapture) : BenchmarkRecord → List BenchmarkRecord → Prop where
  | found {r : BenchmarkRecord} (h : FoundRecord history capture r) :
      Recorded history now capture r history
  | appended (h : history.filter (·.label = BASELINE_BENCHMARK_LABEL) = []) :
      Recorded history now capture (baselineRecord now capture)
        (appendBenchmarkRecord history (baselineRecord now capture))

/-- A commit that records the baseline. -/
structure Records (s : State) (p : Progress) (history : List BenchmarkRecord)
    (now : String) (capture : BenchmarkCapture) (c : BaselineBenchmarkCommit) : Prop where
  notCompleted : p.isCompleted PHASE_ONE_BASELINE_BENCHMARK = false
  source : stateHasBaseline s = false ∨ HasCapture s capture
  held : stateHasBaseline s = true →
    history.filter (·.label = BASELINE_BENCHMARK_LABEL) ≠ []
  valid : (withBaseline s capture).validate = .ok ()
  found : ∃ r next, Recorded history now capture r next ∧
    c = recordedBaseline s p next capture r.timestamp

/-- A commit of a baseline that is complete. -/
structure Complete (s : State) (p : Progress) (history : List BenchmarkRecord)
    (capture : BenchmarkCapture) (c : BaselineBenchmarkCommit) : Prop where
  source : HasCapture s capture
  completed : p.isCompleted PHASE_ONE_BASELINE_BENCHMARK = true
  persisted : ∃ record, validatePersistedBaselineBenchmark s p history = .ok record
  found : ∃ r, FoundRecord history capture r ∧ c = ⟨s, p, history, r.timestamp, true⟩

/-- The record of a complete capture matches it. -/
theorem matches_baselineRecord (h : validateCompleteCapture capture = .ok ()) :
    recordMatchesCapture (baselineRecord now capture) capture = true := by
  obtain ⟨hfavg, hfp1⟩ := finite_of_validRates (complete_rates h).1
  simp [recordMatchesCapture, baselineRecord, feq_self hfavg, feq_self hfp1]

/-- The record of a complete capture is valid. -/
theorem invalidRecord_baselineRecord (h : validateCompleteCapture capture = .ok ())
    (hnow : validCaptureTimestamp now = true) :
    invalidRecord (baselineRecord now capture) = false := by
  obtain ⟨hrates, hruns⟩ := complete_rates h
  obtain ⟨hfavg, hfp1⟩ := finite_of_validRates hrates
  have hpositive : F64.flt F64.zero capture.averageFps = true ∧
      F64.flt F64.zero capture.p1Fps = true := by
    simp only [validRates, Bool.and_eq_true] at hrates
    exact ⟨hrates.1.1.1.2, hrates.1.2⟩
  have hlabel : BASELINE_BENCHMARK_LABEL.isEmpty = false := by decide +kernel
  simp [invalidRecord, baselineRecord, hfavg, hfp1, not_flt_zero hpositive.1,
    not_flt_zero hpositive.2, hruns, hnow, hlabel]

/-- The record of a commit is found in the history that the commit leaves. -/
theorem Recorded.left {next : List BenchmarkRecord} (hready : BaselineReady s p history capture)
    (hnow : validCaptureTimestamp now = true) (h : Recorded history now capture r next) :
    FoundRecord next capture r ∧ ValidHistory next := by
  cases h with
  | found h => exact ⟨h, hready.validHistory⟩
  | appended hnone =>
      have hlabel : (fun r : BenchmarkRecord =>
          decide (r.label = BASELINE_BENCHMARK_LABEL)) (baselineRecord now capture) = true :=
        decide_eq_true rfl
      have hold : history.any (·.label = BASELINE_BENCHMARK_LABEL) = false :=
        List.any_eq_false.mpr (List.filter_eq_nil_iff.mp hnone)
      refine ⟨⟨?_, matches_baselineRecord hready.complete⟩, ?_⟩
      · rw [appendBenchmarkRecord]
        exact filter_pushNewest_new history_capacity_pos hlabel hold
      · rw [validHistory_append_iff hready.validHistory.records]
        exact invalidRecord_baselineRecord hready.complete hnow

/-- Recording the baseline of a capture. -/
theorem records_of_commit {existing : Option BenchmarkRecord} {c : BaselineBenchmarkCommit}
    (hnot : p.isCompleted PHASE_ONE_BASELINE_BENCHMARK = false)
    (hsource : stateHasBaseline s = false ∨ HasCapture s capture)
    (hheld : stateHasBaseline s = true →
      history.filter (·.label = BASELINE_BENCHMARK_LABEL) ≠ [])
    (hexisting : Existing history capture existing)
    (h : baselineCommit s p history existing now capture = .ok c) :
    Records s p history now capture c := by
  rw [baselineCommit, check_bind_eq_ok] at h
  obtain ⟨hvalid, hreturn⟩ := h
  refine ⟨hnot, hsource, hheld, hvalid, ?_⟩
  cases existing with
  | none =>
      have hcommit : c = recordedBaseline s p
          (appendBenchmarkRecord history (baselineRecord now capture)) capture now := by
        rw [← Except.ok.inj hreturn]
        simp only [Option.map_none, Option.getD_none, Option.isNone_none, if_true,
          recordedBaseline, withBaseline, baselineRecord]
      exact ⟨_, _, .appended hexisting, hcommit⟩
  | some r => exact ⟨r, history, .found hexisting, (Except.ok.inj hreturn).symm⟩

/-- **The two kinds of a prepared baseline.** -/
theorem prepare_cases {c : BaselineBenchmarkCommit}
    (h : prepareBaselineBenchmarkCommit s p history now capture = .ok c) :
    validCaptureTimestamp now = true ∧
      (Complete s p history capture c ∨ Records s p history now capture c) := by
  rw [prepareBaselineBenchmarkCommit] at h
  simp only [bind_eq_ok, Unique.exists_iff, PUnit.default_eq_unit, reject_eq_ok] at h
  obtain ⟨-, -, -, hnow, -, hsingle, hmatch, h⟩ := h
  refine ⟨by simpa using hnow, ?_⟩
  have hexisting : Existing history capture
      (history.filter (·.label = BASELINE_BENCHMARK_LABEL)).head? := by
    cases hfilter : history.filter (·.label = BASELINE_BENCHMARK_LABEL) with
    | nil => exact hfilter
    | cons r rest =>
        rw [hfilter] at hmatch hsingle
        have hrest : rest = [] := by simpa using hsingle
        have hfound : recordMatchesCapture r capture = true := by simpa using hmatch
        exact ⟨by rw [hfilter, hrest], hfound⟩
  by_cases hbaseline : stateHasBaseline s = true
  · rw [if_pos hbaseline] at h
    obtain ⟨record, hrecord, h⟩ := bind_eq_ok.mp h
    rw [okOr_eq_ok] at hrecord
    have hheld : history.filter (·.label = BASELINE_BENCHMARK_LABEL) ≠ [] := by
      intro hnone
      rw [hnone] at hrecord
      cases hrecord
    rw [hrecord] at hexisting h
    obtain ⟨hconflict, h⟩ := check_bind_eq_ok.mp h
    have hsource : HasCapture s capture := by
      rw [reject_eq_ok, Bool.or_eq_false_iff, Bool.not_eq_false', Bool.not_eq_false']
        at hconflict
      obtain ⟨x, hx, hfeq⟩ := (Option.any_eq_true _ _).mp hconflict.2
      exact ⟨(feq_iff.mp hconflict.1).1, by rw [hx, (feq_iff.mp hfeq).1]⟩
    by_cases hdone : p.isCompleted PHASE_ONE_BASELINE_BENCHMARK = true
    · rw [if_pos hdone] at h
      obtain ⟨persisted, hpersisted, hreturn⟩ := bind_eq_ok.mp h
      exact .inl ⟨hsource, hdone, ⟨persisted, hpersisted⟩, record, hexisting,
        (Except.ok.inj hreturn).symm⟩
    · rw [if_neg hdone] at h
      exact .inr (records_of_commit (Bool.eq_false_iff.mpr hdone)
        (.inr hsource) (fun _ => hheld) hexisting h)
  · rw [if_neg hbaseline] at h
    obtain ⟨hnot, h⟩ := check_bind_eq_ok.mp h
    exact .inr (records_of_commit (reject_eq_ok.mp hnot)
      (.inl (Bool.eq_false_iff.mpr hbaseline)) (fun hhas => absurd hhas hbaseline)
      hexisting h)

/-- Preparing a baseline whose record is found. -/
theorem prepare_found (hready : BaselineReady s p history capture)
    (hnow : validCaptureTimestamp now = true) (hfound : FoundRecord history capture r)
    (hstate : stateHasBaseline s = false ∨ HasCapture s capture)
    (hnot : p.isCompleted PHASE_ONE_BASELINE_BENCHMARK = false)
    (hvalid : (withBaseline s capture).validate = .ok ()) :
    prepareBaselineBenchmarkCommit s p history now capture =
      .ok (recordedBaseline s p history capture r.timestamp) := by
  have hcommit : baselineCommit s p history (some r) now capture =
      .ok (recordedBaseline s p history capture r.timestamp) := by
    unfold baselineCommit
    show ((withBaseline s capture).validate.bind fun _ => _) = _
    rw [hvalid]
    rfl
  have hhistory := validateHistory_eq_ok.mpr hready.validHistory
  rw [prepareBaselineBenchmarkCommit, hready.valid, bind_ok, hhistory, bind_ok,
    hready.complete, bind_ok, hnow, hready.notSkipped]
  simp only [Bool.not_true, reject_false, bind_ok, hfound.sole, List.length_singleton,
    Nat.lt_irrefl, decide_false, List.head?_cons, Option.any_some, hfound.matching, hnot,
    Bool.false_eq_true, if_false, hcommit]
  rcases hstate with hnone | hcapture
  · rw [hnone]
    rfl
  · obtain ⟨havg, hp1⟩ := hcapture
    obtain ⟨hfavg, hfp1⟩ := finite_of_validRates (complete_rates hready.complete).1
    rw [stateHasBaseline_of ⟨havg, hp1⟩, if_pos rfl, havg, hp1, feq_self hfavg]
    simp only [okOr_some, bind_ok, Option.any_some, feq_self hfp1]
    rfl

/-- Preparing a baseline that nothing is recorded of. -/
theorem prepare_appended (hready : BaselineReady s p history capture)
    (hnow : validCaptureTimestamp now = true)
    (hnone : history.filter (·.label = BASELINE_BENCHMARK_LABEL) = [])
    (hstate : stateHasBaseline s = false)
    (hnot : p.isCompleted PHASE_ONE_BASELINE_BENCHMARK = false)
    (hvalid : (withBaseline s capture).validate = .ok ()) :
    prepareBaselineBenchmarkCommit s p history now capture =
      .ok (recordedBaseline s p (appendBenchmarkRecord history (baselineRecord now capture))
        capture now) := by
  have hcommit : baselineCommit s p history none now capture =
      .ok (recordedBaseline s p
        (appendBenchmarkRecord history (baselineRecord now capture)) capture now) := by
    unfold baselineCommit
    show ((withBaseline s capture).validate.bind fun _ => _) = _
    rw [hvalid]
    simp only [Option.map_none, Option.getD_none, Option.isNone_none, if_true, recordedBaseline,
      withBaseline, baselineRecord]
    rfl
  have hhistory := validateHistory_eq_ok.mpr hready.validHistory
  rw [prepareBaselineBenchmarkCommit, hready.valid, bind_ok, hhistory, bind_ok,
    hready.complete, bind_ok, hnow, hready.notSkipped]
  simp only [Bool.not_true, reject_false, bind_ok, hnone, List.length_nil, List.head?_nil,
    Option.any_none, hnot, hstate, Bool.false_eq_true, if_false, hcommit]
  rfl

/-- Preparing a baseline that is complete. -/
theorem prepare_done {record : BenchmarkRecord} (hready : BaselineReady s p history capture)
    (hnow : validCaptureTimestamp now = true) (hfound : FoundRecord history capture r)
    (hstate : HasCapture s capture)
    (hdone : p.isCompleted PHASE_ONE_BASELINE_BENCHMARK = true)
    (hpersisted : validatePersistedBaselineBenchmark s p history = .ok record) :
    prepareBaselineBenchmarkCommit s p history now capture =
      .ok ⟨s, p, history, r.timestamp, true⟩ := by
  have hhistory := validateHistory_eq_ok.mpr hready.validHistory
  obtain ⟨hfavg, hfp1⟩ := finite_of_validRates (complete_rates hready.complete).1
  rw [prepareBaselineBenchmarkCommit, hready.valid, bind_ok, hhistory, bind_ok,
    hready.complete, bind_ok, hnow, hready.notSkipped]
  simp only [Bool.not_true, reject_false, bind_ok, hfound.sole, List.length_singleton,
    Nat.lt_irrefl, decide_false, List.head?_cons, Option.any_some, hfound.matching, hdone,
    stateHasBaseline_of hstate, if_true, hpersisted, okOr_some]
  rw [hstate.1, hstate.2, feq_self hfavg]
  simp only [Option.any_some, feq_self hfp1]
  rfl

/-- The records that a state refers to are under the label of the baseline. -/
theorem filter_baseline (s : State) (history : List BenchmarkRecord) :
    history.filter (isBaselineRecord s) =
      (history.filter (·.label = BASELINE_BENCHMARK_LABEL)).filter (isBaselineRecord s) := by
  rw [List.filter_filter]
  refine List.filter_congr fun x _ => ?_
  unfold isBaselineRecord
  cases decide (x.label = BASELINE_BENCHMARK_LABEL) <;> simp

/-- The record that is found is the one that the state refers to. -/
theorem filter_found (hready : validateCompleteCapture capture = .ok ())
    (h : FoundRecord history capture r) :
    history.filter (isBaselineRecord (withBaseline s capture)) = [r] := by
  have hmatch := h.matching
  simp only [recordMatchesCapture, Bool.and_eq_true, decide_eq_true_eq] at hmatch
  obtain ⟨⟨⟨⟨havg, hp1⟩, hruns⟩, hreceipt⟩, htransaction⟩ := hmatch
  have hpos : 0 < r.runs := by
    rw [hruns]
    exact UInt32.pos_iff_ne_zero.mpr (complete_rates hready).2
  have hlabel : r.label = BASELINE_BENCHMARK_LABEL := by
    have hmem : r ∈ history.filter (·.label = BASELINE_BENCHMARK_LABEL) := by
      rw [h.sole]
      exact List.mem_singleton_self r
    exact of_decide_eq_true (List.mem_filter.mp hmem).2
  have hr : isBaselineRecord (withBaseline s capture) r = true := by
    simp [isBaselineRecord, withBaseline, hlabel, havg, hp1, hpos, hreceipt, htransaction]
  rw [filter_baseline, h.sole, List.filter_singleton, hr]
  rfl

/-- What recording a baseline leaves is accepted. -/
theorem recorded_accepted (hcomplete : validateCompleteCapture capture = .ok ())
    (hvalid : (withBaseline s capture).validate = .ok ()) (hhistory : ValidHistory history)
    (hfound : FoundRecord history capture r) :
    validatePersistedBaselineBenchmark (withBaseline s capture)
      (p.completeStep PHASE_ONE_BASELINE_BENCHMARK r.timestamp) history = .ok r := by
  have hskipped : (p.completeStep PHASE_ONE_BASELINE_BENCHMARK r.timestamp).isSkipped
      PHASE_ONE_BASELINE_BENCHMARK = false := by
    rw [← Bool.not_eq_true, Progress.isSkipped_completeStep]
    exact fun h => h.1 rfl
  rw [validatePersistedBaselineBenchmark_eq_ok]
  refine ⟨hvalid, hhistory, (complete_rates hcomplete).1, ⟨?_, hskipped, ?_⟩,
    filter_found hcomplete hfound⟩
  · exact (Progress.isCompleted_completeStep _ _ _ _).mpr (.inl rfl)
  · show (p.timestamps.insert "1-17" r.timestamp)["1-17"]? = _
    exact Std.ExtTreeMap.getElem?_insert_self

end

/-- The non-empty prefixes of the write order. -/
theorem baselineOrder_prefixes {files : List BaselineFile} (h : files <+: baselineOrder)
    (hne : files ≠ []) :
    files = [.history] ∨ files = [.history, .state] ∨
      files = [.history, .state, .progress] := by
  unfold baselineOrder at h
  simp only [List.prefix_cons_iff, List.prefix_nil] at h
  rcases h with h | ⟨_, rfl, h | ⟨_, rfl, h | ⟨_, rfl, h⟩⟩⟩
  · exact absurd h hne
  · exact .inl (by rw [h])
  · exact .inr (.inl (by rw [h]))
  · exact .inr (.inr (by rw [h]))

/-- Writing what the files hold changes nothing. -/
theorem written_same {c : BaselineBenchmarkCommit} {b : Bundle} (hstate : c.state = b.state)
    (hprogress : c.progress = b.progress) (hhistory : c.history = b.history)
    (files : List BaselineFile) : b.written c files = b := by
  unfold Bundle.written
  induction files with
  | nil => rfl
  | cons file files ih =>
      have hfile : b.write c file = b := by
        unfold Bundle.write
        cases file with
        | history => rw [hhistory]
        | state => rw [hstate]
        | progress => rw [hprogress]
      rw [List.foldl_cons, hfile, ih]

/-- **Every baseline commit is accepted, and a retry prepares it again.** -/
theorem baselineCoherent {b : Bundle} {now : String} {capture : BenchmarkCapture}
    {c : BaselineBenchmarkCommit} (h : b.prepare now capture = .ok c) :
    BaselineCoherent b capture c := by
  have hready := prepare_ready h
  obtain ⟨hnow, hkind⟩ := prepare_cases h
  rcases hkind with hdone | hrecords
  · obtain ⟨r, hfound, rfl⟩ := hdone.found
    obtain ⟨record, hpersisted⟩ := hdone.persisted
    refine ⟨⟨record, hpersisted⟩, ?_⟩
    intro files _ _ later hlater
    rw [written_same rfl rfl rfl]
    exact ⟨_, prepare_done hready hlater hfound hdone.source hdone.completed hpersisted, rfl⟩
  · obtain ⟨r, next, hrecorded, rfl⟩ := hrecords.found
    obtain ⟨hfound, hhistory⟩ := hrecorded.left hready hnow
    have haccepted := recorded_accepted (p := b.progress) hready.complete hrecords.valid
      hhistory hfound
    refine ⟨⟨r, haccepted⟩, ?_⟩
    intro files hfiles hne later hlater
    have hafter : BaselineReady b.state b.progress next capture :=
      ⟨hready.valid, hhistory, hready.complete, hready.notSkipped⟩
    have hwritten : BaselineReady (withBaseline b.state capture) b.progress next capture :=
      ⟨hrecords.valid, hhistory, hready.complete, hready.notSkipped⟩
    rcases baselineOrder_prefixes hfiles hne with rfl | rfl | rfl
    · -- The history is written: its record is found.
      exact ⟨_, prepare_found hafter hlater hfound hrecords.source hrecords.notCompleted
        hrecords.valid, rfl⟩
    · -- The state is written as well: it agrees with the capture.
      exact ⟨_, prepare_found hwritten hlater hfound (.inr hasCapture_withBaseline)
        hrecords.notCompleted hrecords.valid, rfl⟩
    · -- Everything is written: the bundle is accepted as it is.
      have haccept := validatePersistedBaselineBenchmark_eq_ok.mp haccepted
      have hdone : BaselineReady (withBaseline b.state capture)
          (b.progress.completeStep PHASE_ONE_BASELINE_BENCHMARK r.timestamp) next capture :=
        ⟨hrecords.valid, hhistory, hready.complete, haccept.progress.notSkipped⟩
      exact ⟨_, prepare_done hdone hlater hfound hasCapture_withBaseline
        haccept.progress.completed haccepted, rfl⟩

/-- **Benchmark commits are coherent.** -/
theorem benchmarkCommits (s : State) (p : Progress) (history : List BenchmarkRecord)
    (config : Config) (receiptId : TransactionId) (capturedUtc : String)
    (capture : BenchmarkCapture) :
    FinalCoherent s p history config receiptId capturedUtc capture ∧
      ∀ c, prepareBaselineBenchmarkCommit s p history capturedUtc capture = .ok c →
        BaselineCoherent ⟨s, p, history⟩ capture c :=
  ⟨finalCoherent s p history config receiptId capturedUtc capture,
    fun _ hc => baselineCoherent (b := ⟨s, p, history⟩) hc⟩

end FrametimeCfg.Verified.BenchmarkCommits
