import FrametimeCfg.Verified.FinalBenchmarkRetry

/-!
# What the benchmark procedures leave in the store

For each of the three procedures that write frame-rate evidence, the lemma
here says when it returns and what the three files hold afterwards.  A file
that would not change is not written, which leaves the same store as writing
it.
-/

namespace FrametimeCfg.Verified.BenchmarkStore

open FrametimeCfg.Domain FrametimeCfg.Windows
open FrametimeCfg.Lib.Checks
open FrametimeCfg.Lib.Journal
open FrametimeCfg.Verified.FinalBenchmark
open FrametimeCfg.Verified.FinalBenchmarkRetry

variable {d : Durable} {ws : List Write} {u : Unit} {mismatch : String}

/-! ## Single files -/

theorem returns_writeHistory {history : List BenchmarkRecord} :
    Returns (writeHistory history mismatch) d ws u ↔ ws = [.history history] := by
  simp only [writeHistory, put, returns_write_bind, returns_read_bind, returns_check,
    reject_eq_ok, decide_eq_false_iff_not, not_not]
  constructor
  · rintro ⟨ws', ⟨-, rfl⟩, rfl⟩
    rfl
  · rintro rfl
    exact ⟨[], ⟨rfl, rfl⟩, rfl⟩

theorem returns_writeState {state : State} :
    Returns (writeState state mismatch) d ws u ↔
      state.validate = .ok () ∧ ws = [.state state] := by
  simp only [writeState, put, returns_write_bind, returns_read_bind, returns_check_bind,
    returns_check, reject_eq_ok, decide_eq_false_iff_not, not_not]
  constructor
  · rintro ⟨ws', ⟨_, hvalid, -, rfl⟩, rfl⟩
    exact ⟨hvalid, rfl⟩
  · rintro ⟨hvalid, rfl⟩
    exact ⟨[], ⟨(), hvalid, rfl, rfl⟩, rfl⟩

theorem returns_writeProgress {progress : Progress} :
    Returns (writeProgress progress mismatch) d ws u ↔ ws = [.progress progress] := by
  simp only [writeProgress, put, returns_write_bind, returns_read_bind, returns_check,
    reject_eq_ok, decide_eq_false_iff_not, not_not]
  constructor
  · rintro ⟨ws', ⟨-, rfl⟩, rfl⟩
    rfl
  · rintro rfl
    exact ⟨[], ⟨rfl, rfl⟩, rfl⟩

/-! ## The three files together -/

/-- The store with three new files. -/
def withFiles (d : Durable) (s : State) (p : Progress)
    (history : List BenchmarkRecord) : Durable :=
  { d with state := s, progress := p, history := history }

/-- The write of a history that changed. -/
def historyWrites (d : Durable) (history : List BenchmarkRecord) : List Write :=
  if history = d.history then [] else [.history history]

/-- The write of a state that changed. -/
def stateWrites (d : Durable) (s : State) : List Write :=
  if s = d.state then [] else [.state s]

/-- The write of a progress that changed. -/
def progressWrites (d : Durable) (p : Progress) : List Write :=
  if p = d.progress then [] else [.progress p]

/-- The writes of the files that changed, in their order. -/
def changedFiles (d : Durable) (s : State) (p : Progress)
    (history : List BenchmarkRecord) : List Write :=
  historyWrites d history ++ (stateWrites d s ++ progressWrites d p)

theorem after_historyWrites (d : Durable) (history : List BenchmarkRecord) :
    after d (historyWrites d history) = d.apply (.history history) := by
  by_cases h : history = d.history
  · rw [historyWrites, if_pos h, h]
    rfl
  · rw [historyWrites, if_neg h]
    rfl

/-- Files that did not change may as well have been written. -/
theorem after_changedFiles (d : Durable) (s : State) (p : Progress)
    (history : List BenchmarkRecord) :
    after d (changedFiles d s p history) = withFiles d s p history := by
  rw [changedFiles, after_append, after_append, after_historyWrites]
  by_cases hs : s = d.state <;> by_cases hp : p = d.progress <;>
    simp [stateWrites, progressWrites, hs, hp, withFiles, Durable.apply]

private theorem returns_historyWrites {history old : List BenchmarkRecord}
    (hold : old = d.history) :
    Returns (onlyIf (history ≠ old) (writeHistory history mismatch)) d ws u ↔
      ws = historyWrites d history := by
  subst hold
  rw [returns_onlyIf, returns_writeHistory, historyWrites]
  by_cases h : history = d.history <;> simp [h]

private theorem returns_stateWrites {s old : State} {d' : Durable}
    (hold : old = d.state) :
    Returns (onlyIf (s ≠ old) (writeState s mismatch)) d' ws u ↔
      (s ≠ d.state → s.validate = .ok ()) ∧ ws = stateWrites d s := by
  subst hold
  rw [returns_onlyIf, returns_writeState, stateWrites]
  by_cases h : s = d.state <;> simp [h]

private theorem returns_progressWrites {p old : Progress} {d' : Durable}
    (hold : old = d.progress) :
    Returns (onlyIf (p ≠ old) (writeProgress p mismatch)) d' ws u ↔
      ws = progressWrites d p := by
  subst hold
  rw [returns_onlyIf, returns_writeProgress, progressWrites]
  by_cases h : p = d.progress <;> simp [h]

/-- The three conditional writes and what follows them. -/
theorem returns_files {α : Type} {s : State} {p : Progress}
    {history : List BenchmarkRecord} {m₁ m₂ m₃ : String} {k : StoreM α} {a : α} :
    Returns (do
        onlyIf (history ≠ d.history) (writeHistory history m₁)
        onlyIf (s ≠ d.state) (writeState s m₂)
        onlyIf (p ≠ d.progress) (writeProgress p m₃)
        k) d ws a ↔
      (s ≠ d.state → s.validate = .ok ()) ∧
      ∃ ws', Returns k (withFiles d s p history) ws' a ∧
        ws = changedFiles d s p history ++ ws' := by
  rw [returns_bind]
  constructor
  · rintro ⟨_, _, _, hhistory, hrest, rfl⟩
    obtain rfl := (returns_historyWrites rfl).mp hhistory
    obtain ⟨_, _, _, hstate, hlast, rfl⟩ := returns_bind.mp hrest
    obtain ⟨hvalid, rfl⟩ := (returns_stateWrites rfl).mp hstate
    obtain ⟨_, _, ws', hprogress, hk, rfl⟩ := returns_bind.mp hlast
    obtain rfl := (returns_progressWrites rfl).mp hprogress
    rw [← after_append, ← after_append, ← changedFiles, after_changedFiles] at hk
    refine ⟨hvalid, ws', hk, ?_⟩
    rw [changedFiles, List.append_assoc, List.append_assoc]
  · rintro ⟨hvalid, ws', hk, rfl⟩
    rw [← after_changedFiles, changedFiles, after_append, after_append] at hk
    refine ⟨_, (), _, (returns_historyWrites rfl).mpr rfl, returns_bind.mpr
      ⟨_, (), _, (returns_stateWrites rfl).mpr ⟨hvalid, rfl⟩, returns_bind.mpr
        ⟨_, (), _, (returns_progressWrites rfl).mpr rfl, hk, rfl⟩, rfl⟩, ?_⟩
    rw [changedFiles, List.append_assoc, List.append_assoc]

/-! ## The advisory capture -/

/-- The advisory capture is accepted, and nothing final is in the way. -/
structure AcceptsCapture (s : State) (cap : UInt32) (capture : BenchmarkCapture) :
    Prop where
  cap : cap ≠ 0
  avgFinite : capture.averageFps.isFinite = true
  avgPositive : F64.fle capture.averageFps F64.zero = false
  p1Finite : capture.p1Fps.isFinite = true
  p1Nonneg : F64.flt capture.p1Fps F64.zero = false
  valid : s.validate = .ok ()
  noReceipt : s.finalBenchmark = none

/-- The state that an advisory capture leaves. -/
def capturedState (s : State) (now : String) (cap : UInt32) (capture : BenchmarkCapture) :
    State :=
  { s with
    fpsCap := cap
    avgFps := capture.averageFps
    p1Fps := if F64.flt F64.zero capture.p1Fps then some capture.p1Fps else none
    capDate := some now
    workDir := WINDOWS_WORK_DIR }

/-- The history that an advisory capture leaves. -/
def capturedHistory (history : List BenchmarkRecord) (now label : String)
    (capture : BenchmarkCapture) : List BenchmarkRecord :=
  if F64.flt F64.zero capture.p1Fps then
    appendBenchmarkRecord history (captureRecord now label capture)
  else history

/-- Without a receipt, the rates of a capture do not affect the validity. -/
theorem validate_capturedState {s : State} (now : String) (cap : UInt32)
    (capture : BenchmarkCapture) (hvalid : s.validate = .ok ())
    (hnone : s.finalBenchmark = none) :
    (capturedState s now cap capture).validate = .ok () := by
  have hcongr : (capturedState s now cap capture).validate = s.validate :=
    State.validate_congr hnone hnone rfl rfl rfl rfl rfl
  rw [hcongr, hvalid]

/-- **The advisory capture** replaces the rates of the state and appends a
record. -/
theorem after_persistFpsCapture {now label : String} {cap : UInt32}
    {capture : BenchmarkCapture} {s : State}
    (h : Returns (persistFpsCapture now cap capture label) d ws s) :
    AcceptsCapture d.state cap capture ∧
      after d ws = withFiles d (capturedState d.state now cap capture) d.progress
        (capturedHistory d.history now label capture) := by
  rw [persistFpsCapture, returns_check_bind] at h
  obtain ⟨_, hcapture, h⟩ := h
  replace h := returns_read_bind.mp h
  obtain ⟨_, hvalid, h⟩ := returns_check_bind.mp h
  obtain ⟨_, hreceipt, h⟩ := returns_check_bind.mp h
  simp only [reject_eq_ok, Bool.or_eq_false_iff, decide_eq_false_iff_not,
    Bool.not_eq_false'] at hcapture
  obtain ⟨⟨⟨⟨hcap, havg⟩, hpos⟩, hp1⟩, hnonneg⟩ := hcapture
  have hnone : d.state.finalBenchmark = none := by
    simpa [reject_eq_ok] using hreceipt
  refine ⟨⟨hcap, havg, hpos, hp1, hnonneg, hvalid, hnone⟩, ?_⟩
  obtain ⟨_, _, _, hstate, hrest, rfl⟩ := returns_bind.mp h
  obtain ⟨-, rfl⟩ := returns_writeState.mp hstate
  by_cases hp1pos : F64.flt F64.zero capture.p1Fps = true
  · have hthen := (congrArg (Returns · _ _ s) (if_pos hp1pos)).mp hrest
    obtain ⟨_, _, _, hread, hwrite, rfl⟩ := returns_bind.mp hthen
    obtain ⟨rfl, rfl⟩ := returns_readHistory.mp hread
    obtain ⟨_, _, _, hhistory, hreturn, rfl⟩ := returns_bind.mp hwrite
    obtain rfl := returns_writeHistory.mp hhistory
    obtain ⟨-, rfl⟩ := returns_pure.mp hreturn
    have hcaptured : capturedHistory d.history now label capture =
        appendBenchmarkRecord d.history (captureRecord now label capture) :=
      if_pos hp1pos
    rw [hcaptured]
    rfl
  · have helse := (congrArg (Returns · _ _ s) (if_neg hp1pos)).mp hrest
    obtain ⟨-, rfl⟩ := returns_pure.mp helse
    have hcaptured : capturedHistory d.history now label capture = d.history :=
      if_neg hp1pos
    rw [hcaptured]
    rfl

/-! ## The baseline -/

private theorem returns_readAll {α : Type}
    {k : State → Progress → List BenchmarkRecord → StoreM α} {a : α} :
    Returns (do
        let state ← readState
        let progress ← readProgress
        let history ← readHistory
        k state progress history) d ws a ↔
      Readable d.state ∧ Returns (k d.state d.progress d.history) d ws a := by
  rw [returns_bind]
  constructor
  · rintro ⟨_, _, _, hread, h, rfl⟩
    obtain ⟨hreadable, rfl, rfl⟩ := returns_readState.mp hread
    exact ⟨hreadable, returns_read_bind.mp (returns_read_bind.mp h)⟩
  · rintro ⟨hreadable, h⟩
    refine ⟨[], d.state, ws, returns_readState.mpr ⟨hreadable, rfl, rfl⟩, ?_, rfl⟩
    exact returns_read_bind.mpr (returns_read_bind.mpr h)

/-- **The baseline** leaves the store alone or writes the three files of its
commit. -/
theorem after_persistBaselineBenchmark {now : String} {capture : BenchmarkCapture}
    {s : State} (h : Returns (persistBaselineBenchmark now capture) d ws s) :
    ∃ commit, prepareBaselineBenchmarkCommit d.state d.progress d.history now capture =
        .ok commit ∧
      after d ws =
        if commit.idempotent then d
        else withFiles d commit.state commit.progress commit.history := by
  rw [persistBaselineBenchmark] at h
  obtain ⟨-, h⟩ := returns_readAll.mp h
  obtain ⟨commit, hcommit, h⟩ := returns_check_bind.mp h
  refine ⟨commit, hcommit, ?_⟩
  by_cases hidempotent : commit.idempotent = true
  · rw [if_pos hidempotent] at h
    obtain ⟨-, rfl⟩ := returns_pure.mp h
    rw [if_pos hidempotent, after_nil]
  · rw [if_neg hidempotent] at h
    obtain ⟨-, ws', hrest, rfl⟩ := returns_files.mp h
    obtain ⟨_, -, hreturn⟩ := returns_check_bind.mp hrest
    obtain ⟨-, rfl⟩ := returns_pure.mp hreturn
    rw [if_neg hidempotent, List.append_nil, after_changedFiles]

/-! ## The final benchmark -/

/-- The identifier that a run of the final benchmark would draw. -/
def drawnReceiptId (d : Durable) (draws : List (Except String TransactionId)) :
    Except String TransactionId :=
  freshFinalReceiptId d.state d.history (draws.take 8)

/-- The bundle that a reconciliation prepares is accepted. -/
theorem persisted_of_pending {config : Config} {fresh : Except String TransactionId}
    {now : String} {capture : BenchmarkCapture} {commit : FinalBenchmarkCommit}
    (h : reconcileAt d config fresh now capture = .ok (.pending commit)) :
    validatePersistedFinalBenchmark commit.state commit.progress commit.history =
      .ok commit.receipt := by
  obtain ⟨source, clean, t, receipt, hrec, -, hcommit⟩ := reconciled_of_pending h
  have hpersisted := validatePersistedFinalBenchmark_eq_ok.mpr
    (persisted_of_commits hrec.commits)
  rw [hcommit]
  simpa only [committed] using hpersisted

/-- The bundle that a reconciliation finds complete is accepted. -/
theorem persisted_of_complete {config : Config} {fresh : Except String TransactionId}
    {now : String} {capture : BenchmarkCapture} {receipt : FinalBenchmarkReceipt}
    (h : reconcileAt d config fresh now capture = .ok (.complete receipt)) :
    Persisted d.state d.progress d.history receipt := by
  rw [reconcileAt, reconcileFinalBenchmark] at h
  split at h
  · obtain ⟨receipt', hreceipt, h⟩ := bind_eq_ok.mp h
    obtain ⟨-, hreturn⟩ := check_bind_eq_ok.mp h
    have hsame : receipt' = receipt := by
      injection Except.ok.inj hreturn
    rw [← hsame]
    exact validatePersistedFinalBenchmark_eq_ok.mp hreceipt
  · obtain ⟨-, h⟩ := check_bind_eq_ok.mp h
    obtain ⟨_, -, h⟩ := bind_eq_ok.mp h
    obtain ⟨_, -, h⟩ := bind_eq_ok.mp h
    obtain ⟨_, -, h⟩ := bind_eq_ok.mp h
    obtain ⟨_, -, h⟩ := bind_eq_ok.mp h
    obtain ⟨-, h⟩ := check_bind_eq_ok.mp h
    obtain ⟨-, hreturn⟩ := check_bind_eq_ok.mp h
    cases hreturn

/-- The validation at the end of the final benchmark. -/
theorem returns_reread {receipt : FinalBenchmarkReceipt} :
    Returns ((do
        let state ← read Durable.state
        let progress ← read Durable.progress
        let history ← read Durable.history
        check (validatePersistedFinalBenchmark state progress history)) :
          StoreM FinalBenchmarkReceipt) d ws receipt ↔
      validatePersistedFinalBenchmark d.state d.progress d.history = .ok receipt ∧
        ws = [] := by
  rw [returns_read_bind, returns_read_bind, returns_read_bind, returns_check]

/-- **The final benchmark** finds its bundle complete, or writes the three
files of its commit. -/
theorem returns_persistFinalBenchmark {config : Config}
    {draws : List (Except String TransactionId)} {now : String}
    {capture : BenchmarkCapture} {receipt : FinalBenchmarkReceipt} :
    Returns (persistFinalBenchmark config draws now capture) d ws receipt ↔
      Readable d.state ∧
      ((reconcileAt d config (drawnReceiptId d draws) now capture =
            .ok (.complete receipt) ∧ ws = []) ∨
        ∃ commit, reconcileAt d config (drawnReceiptId d draws) now capture =
            .ok (.pending commit) ∧
          receipt = commit.receipt ∧
          ws = changedFiles d commit.state commit.progress commit.history) := by
  rw [persistFinalBenchmark]
  refine returns_readAll.trans (and_congr_right fun hreadable => ?_)
  rw [returns_check_bind]
  constructor
  · rintro ⟨reconciliation, hrec, h⟩
    cases reconciliation with
    | complete receipt' =>
        obtain ⟨rfl, rfl⟩ := returns_pure.mp h
        exact Or.inl ⟨hrec, rfl⟩
    | pending commit =>
        obtain ⟨-, ws', hrest, rfl⟩ := returns_files.mp h
        obtain ⟨hpersisted, rfl⟩ := returns_reread.mp hrest
        have hreceipt := hpersisted.symm.trans (persisted_of_pending hrec)
        exact Or.inr ⟨commit, hrec, Except.ok.inj hreceipt, List.append_nil _⟩
  · rintro (⟨hrec, rfl⟩ | ⟨commit, hrec, rfl, rfl⟩)
    · exact ⟨.complete receipt, hrec, returns_pure.mpr ⟨rfl, rfl⟩⟩
    · refine ⟨.pending commit, hrec, returns_files.mpr ⟨fun _ => ?_, [], ?_, ?_⟩⟩
      · exact (validatePersistedFinalBenchmark_eq_ok.mp (persisted_of_pending hrec)).valid
      · exact returns_reread.mpr ⟨persisted_of_pending hrec, rfl⟩
      · rw [List.append_nil]

end FrametimeCfg.Verified.BenchmarkStore
