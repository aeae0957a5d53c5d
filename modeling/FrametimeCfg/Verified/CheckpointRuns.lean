import FrametimeCfg.Verified.BenchmarkStore
import FrametimeCfg.Verified.Checkpoints

/-!
# Checkpoints check first

Every check of a checkpoint that can fail stands before its first write.  The
checks after a write are readbacks, and those succeed: what they ask of the
new state follows from what was checked of the old one, because no state
before Phase 3 holds a receipt.

So a call of a checkpoint that ends in an error has changed nothing, and a
call that is stopped on the way has made some of the writes of a call that
returns.
-/

namespace FrametimeCfg.Verified.CheckpointRuns

open FrametimeCfg.Domain FrametimeCfg.Windows
open FrametimeCfg.Lib.Checks
open FrametimeCfg.Lib.Journal
open FrametimeCfg.Verified.BenchmarkStore
open FrametimeCfg.Verified.Checkpoints
open FrametimeCfg.Verified.FinalBenchmark
open FrametimeCfg.Verified.FinalBenchmarkRetry

variable {ses : Session} {d : Durable}

/-! ## The parts -/

private theorem checksFirst_readState_bind {α : Type} {k : State → StoreM α}
    (h : Readable d.state → ChecksFirst (k d.state) d) :
    ChecksFirst (readState >>= k) d := by
  refine checksFirst_bind (Or.inl rfl) ?_
  intro ws s hreturns
  obtain ⟨hreadable, rfl, hws⟩ := returns_readState.mp hreturns
  exact Or.inl ⟨hws, h hreadable⟩

private theorem checksFirst_requireExactHandoff {slot : HandoffSlot}
    {expected label : String} :
    ChecksFirst (requireExactHandoff slot expected label) d := by
  refine checksFirst_bind (Or.inl rfl) ?_
  intro ws text hreturns
  obtain ⟨-, hws⟩ := returns_readHandoffValue.mp hreturns
  exact Or.inl ⟨hws, checksFirst_check _⟩

private theorem checksFirst_ensureHandoffValue {slot : HandoffSlot}
    {expected label : String} :
    ChecksFirst (ensureHandoffValue slot expected label) d := by
  refine checksFirst_bind (Or.inl rfl) ?_
  intro ws text hreturns
  obtain ⟨hvalue, hws⟩ := returns_readHandoffValue.mp hreturns
  refine Or.inl ⟨hws, ?_⟩
  cases text with
  | some value => exact checksFirst_check _
  | none =>
      have hfilled : Returns (requireExactHandoff slot expected label)
          (d.apply (.handoff slot (some (slot.change expected).value))) [] () := by
        refine returns_requireExactHandoff.mpr ⟨?_, rfl⟩
        rw [apply_handoff_self, change_value]
      exact ChecksFirst.of_returns (returns_write_bind.mpr ⟨[], hfilled, rfl⟩)

/-- A state stays readable when it holds no receipt and only its transaction
and its readiness change. -/
private theorem readable_of_noReceipt {s s' : State} (h : Readable s)
    (hnone : s.finalBenchmark = none) (hnone' : s'.finalBenchmark = none)
    (hunknown : s'.unknown = s.unknown) (hgpu : s'.gpuInput = s.gpuInput)
    (hpagefile : s'.pagefileMb = s.pagefileMb) (havg : s'.baselineAvg = s.baselineAvg)
    (hp1 : s'.baselineP1 = s.baselineP1) (hdir : s'.workDir = s.workDir) :
    Readable s' := by
  have hvalid : s'.validate = s.validate :=
    State.validate_congr hnone hnone' hunknown hgpu hpagefile havg hp1
  refine ⟨?_, ?_⟩
  · rw [hvalid]
    exact h.valid
  · rw [hdir]
    exact h.workDir

/-- Before Phase 3 is armed, another transaction keeps the state readable. -/
theorem readable_withTransaction {s : State} {t t' : RebootTransaction}
    (h : Readable s) (ht : s.activeRebootTransaction = some t)
    (harmed : t.stage ≠ .phaseThreeArmed) (hcomplete : t.stage ≠ .phaseThreeComplete) :
    Readable (withTransaction s t') := by
  have hnone := receipt_eq_none_of_stage h.valid ht harmed hcomplete
  exact readable_of_noReceipt h hnone hnone rfl rfl rfl rfl rfl rfl

/-- The transaction that P1:38 arms has its first stage. -/
theorem stage_of_armedTransaction {sid : String} {s : State} {t : RebootTransaction}
    (h : armedTransaction ses sid s = .ok t) : t.stage = .phaseOneSafeModeArmed := by
  unfold armedTransaction at h
  split at h
  · rename_i existing hexisting
    split at h
    · rename_i hsame
      obtain rfl := Except.ok.inj h
      simp only [Bool.and_eq_true, decide_eq_true_eq] at hsame
      exact RebootTransaction.stage_of_isAuthorizedAt hsame.1.1
    · cases h
  · obtain ⟨id, -, h⟩ := bind_eq_ok.mp h
    obtain ⟨-, hreturn⟩ := check_bind_eq_ok.mp h
    obtain rfl := Except.ok.inj hreturn
    rfl

/-- P1:38 takes over the transaction that it finds. -/
theorem armedTransaction_of_some {sid : String} {s : State} {t t' : RebootTransaction}
    (h : armedTransaction ses sid s = .ok t) (ht' : s.activeRebootTransaction = some t') :
    t' = t := by
  unfold armedTransaction at h
  rw [ht'] at h
  dsimp only at h
  split at h
  · exact Except.ok.inj h
  · cases h

/-- P1:38 keeps the state readable. -/
theorem readable_armed {sid : String} {s : State} {t : RebootTransaction}
    (h : Readable s) (ht : armedTransaction ses sid s = .ok t) :
    Readable (armedSafeModeState s t) := by
  have hstage := stage_of_armedTransaction ht
  have hnone : s.finalBenchmark = none := by
    refine receipt_eq_none h.valid ?_
    intro t' ht'
    rw [armedTransaction_of_some ht ht', receiptStageAuthorized, hstage]
  exact readable_of_noReceipt h hnone hnone rfl rfl rfl rfl rfl rfl

/-! ## The checkpoints -/

theorem checksFirst_armSafeModeHandoff : ChecksFirst (armSafeModeHandoff ses) d := by
  refine checksFirst_check_bind fun sid hsid => ?_
  refine checksFirst_check_bind fun phase2 hcommand => ?_
  refine checksFirst_readState_bind fun hreadable => ?_
  refine checksFirst_read_bind ?_
  refine checksFirst_check_bind fun t ht => ?_
  refine checksFirst_bind checksFirst_ensureHandoffValue ?_
  intro ws _ _
  have hwritable := readable_armed hreadable ht
  exact Or.inr ⟨_, (), returns_bind.mpr ⟨_, (), _, returns_setSafebootMinimal.mpr rfl,
    returns_persistBoth.mpr ⟨hwritable, rfl⟩, rfl⟩⟩

theorem checksFirst_completePhaseTwoSafeBootClear :
    ChecksFirst (completePhaseTwoSafeBootClear ses) d := by
  refine checksFirst_readState_bind fun hreadable => ?_
  refine checksFirst_read_bind ?_
  refine checksFirst_check_bind fun t ht => ?_
  refine checksFirst_check_bind fun _ howned => ?_
  refine checksFirst_check_bind fun phase2 hcommand => ?_
  refine checksFirst_bind checksFirst_requireExactHandoff ?_
  intro ws _ _
  have hstage := RebootTransaction.stage_of_isAuthorizedAt
    (requireRuntimeAndStage_eq_ok.mp howned).1
  have hallows : t.stage.allowsTransitionTo .phaseTwoSafeMode = true := by
    rw [hstage]
    rfl
  have hmoved := (transitionTo_eq_ok hallows).mpr rfl
  have hwritable : Readable (withTransaction d.state { t with stage := .phaseTwoSafeMode }) :=
    readable_withTransaction hreadable (okOr_eq_ok.mp ht) (by simp [hstage])
      (by simp [hstage])
  exact Or.inr ⟨_, (), returns_bind.mpr ⟨_, (), _, returns_clearSafeboot.mpr rfl,
    returns_check_bind.mpr ⟨_, mapError_eq_ok.mpr hmoved,
      returns_persistBoth.mpr ⟨hwritable, rfl⟩⟩, rfl⟩⟩

theorem checksFirst_armPhaseThreeHandoff : ChecksFirst (armPhaseThreeHandoff ses) d := by
  refine checksFirst_check_bind fun sid hsid => ?_
  refine checksFirst_check_bind fun phase3 hcommand => ?_
  refine checksFirst_check_bind fun evidence _ => ?_
  refine checksFirst_check_bind fun complete _ => ?_
  refine checksFirst_check_bind fun _ _ => ?_
  refine checksFirst_readState_bind fun hreadable => ?_
  refine checksFirst_read_bind ?_
  refine checksFirst_check_bind fun _ _ => ?_
  refine checksFirst_check_bind fun t ht => ?_
  refine checksFirst_check_bind fun _ howned => ?_
  refine checksFirst_check_bind fun _ _ => ?_
  refine checksFirst_bind checksFirst_ensureHandoffValue ?_
  intro ws _ _
  have hstage := RebootTransaction.stage_of_isAuthorizedAt
    (requireRuntimeAndStage_eq_ok.mp howned).1
  have hallows : t.stage.allowsTransitionTo .phaseThreeArmed = true := by
    rw [hstage]
    rfl
  have hmoved := (transitionTo_eq_ok hallows).mpr rfl
  have hwritable : Readable (withTransaction d.state { t with stage := .phaseThreeArmed }) :=
    readable_withTransaction hreadable (okOr_eq_ok.mp ht) (by simp [hstage])
      (by simp [hstage])
  exact Or.inr ⟨_, (), returns_check_bind.mpr ⟨_, mapError_eq_ok.mpr hmoved,
    returns_persistBoth.mpr ⟨hwritable, rfl⟩⟩⟩

theorem checksFirst_persistFinalBenchmark {config : Config}
    {draws : List (Except String TransactionId)} {now : String}
    {capture : BenchmarkCapture} :
    ChecksFirst (persistFinalBenchmark config draws now capture) d := by
  refine checksFirst_readState_bind fun hreadable => ?_
  refine checksFirst_read_bind (checksFirst_read_bind ?_)
  refine checksFirst_check_bind fun reconciliation hrec => ?_
  cases reconciliation with
  | complete receipt => exact ChecksFirst.of_returns (returns_pure.mpr ⟨rfl, rfl⟩)
  | pending commit =>
      have hpersisted := persisted_of_pending hrec
      have hvalid := (validatePersistedFinalBenchmark_eq_ok.mp hpersisted).valid
      exact ChecksFirst.of_returns (returns_files.mpr
        ⟨fun _ => hvalid, [], returns_reread.mpr ⟨hpersisted, rfl⟩, rfl⟩)

theorem checksFirst_clearPhaseThreeHandoff :
    ChecksFirst (clearPhaseThreeHandoff ses) d := by
  refine checksFirst_readState_bind fun hreadable => ?_
  refine checksFirst_read_bind ?_
  refine checksFirst_bind (Or.inl (writesOf_finalBenchmarkStatusLocked _ _)) ?_
  intro ws status hstatus
  have hws : ws = [] := by
    rw [← (returns_attempt.mp hstatus).2]
    exact writesOf_finalBenchmarkStatusLocked _ _
  refine Or.inl ⟨hws, ?_⟩
  refine checksFirst_check_bind fun _ _ => ?_
  refine checksFirst_check_bind fun t ht => ?_
  refine checksFirst_check_bind fun _ _ => ?_
  refine checksFirst_check_bind fun sid _ => ?_
  refine checksFirst_check_bind fun _ _ => ?_
  refine checksFirst_check_bind fun phase3 _ => ?_
  refine checksFirst_bind checksFirst_requireExactHandoff ?_
  intro ws' _ _
  have hread : Returns (readHandoffValue .phaseThreeRun)
      ((after d ws').apply (.handoff .phaseThreeRun none)) [] none :=
    returns_readHandoffValue.mpr ⟨apply_handoff_self _ _, rfl⟩
  exact Or.inr ⟨_, (), returns_write_bind.mpr ⟨[], returns_bind.mpr
    ⟨[], none, [], hread, returns_check.mpr ⟨rfl, rfl⟩, rfl⟩, rfl⟩⟩

end FrametimeCfg.Verified.CheckpointRuns
