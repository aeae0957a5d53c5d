import FrametimeCfg.Domain.Orchestration

/-!
# What an authorized request has established

`authorize` is a sequence of guards.  For each request the lemma here reads
the sequence from its outcome: the transition that comes back, and the
conjunction of what the guards asked of the state, the progress and the facts.
Later modules never unfold `authorize` again.
-/

namespace FrametimeCfg.Verified.Authorization

open FrametimeCfg.Domain
open FrametimeCfg.Lib.Checks

/-! ## The guards -/

/-- The active transaction has authority at the given stage. -/
def AtStage (s : State) (stage : RebootStage) : Prop :=
  ∃ t, s.activeRebootTransaction = some t ∧ t.isAuthorizedAt stage = true

/-- Authority names the stage it is at. -/
theorem AtStage.unique {s : State} {stage stage' : RebootStage}
    (h : AtStage s stage) (h' : AtStage s stage') : stage = stage' := by
  obtain ⟨t, ht, hstage⟩ := h
  obtain ⟨t', ht', hstage'⟩ := h'
  have heq : t = t' := Option.some.inj (ht.symm.trans ht')
  rw [← RebootTransaction.stage_of_isAuthorizedAt hstage, heq]
  exact RebootTransaction.stage_of_isAuthorizedAt hstage'

theorem requireBoot_eq_ok {request : PhaseRequest} {expected actual : BootEnvironment} :
    requireBoot request expected actual = .ok () ↔ actual = expected := by
  rw [requireBoot, reject_eq_ok, decide_eq_false_iff_not, not_not]

theorem requireRuntime_eq_ok {runtime : RuntimeBinding} :
    requireRuntime runtime = .ok () ↔ runtime = .verifiedSelectedExecutable := by
  rw [requireRuntime, reject_eq_ok, decide_eq_false_iff_not, not_not]

theorem requireCompleted_eq_ok {p : Progress} {id : StepId} {error : GuardError} :
    requireCompleted p id error = .ok () ↔ p.isCompleted id = true := by
  rw [requireCompleted, reject_eq_ok, Bool.not_eq_false']

theorem requireTransactionStage_eq_ok {s : State} {stage : RebootStage} :
    requireTransactionStage s stage = .ok () ↔ AtStage s stage := by
  rw [requireTransactionStage, bind_eq_ok]
  simp only [okOr_eq_ok, reject_eq_ok, Bool.not_eq_false']
  exact Iff.rfl

theorem requireFinalBenchmarkTransaction_eq_ok {s : State} :
    requireFinalBenchmarkTransaction s = .ok () ↔
      AtStage s .phaseThreeArmed ∨ AtStage s .phaseThreeComplete := by
  rw [requireFinalBenchmarkTransaction, bind_eq_ok]
  simp only [okOr_eq_ok, reject_eq_ok, Bool.not_eq_false', Bool.or_eq_true]
  constructor
  · rintro ⟨t, ht, h | h⟩
    · exact Or.inl ⟨t, ht, h⟩
    · exact Or.inr ⟨t, ht, h⟩
  · rintro (⟨t, ht, h⟩ | ⟨t, ht, h⟩)
    · exact ⟨t, ht, Or.inl h⟩
    · exact ⟨t, ht, Or.inr h⟩

/-! ## Requests -/

section

variable {s : State} {p : Progress} {facts : PhaseFacts} {transition : Transition}

private theorem return_eq_ok {expected : Transition} :
    ((pure expected : Except GuardError Transition) = .ok transition) ↔
      transition = expected :=
  ⟨fun h => (Except.ok.inj h).symm, fun h => congrArg Except.ok h.symm⟩

/-- Phase 1 starts from a system without a handoff and without later work. -/
theorem authorize_optimize :
    authorize .optimize s p facts = .ok transition ↔
      facts.boot = .normal ∧ facts.handoff.phaseTwoRunOnce = .absent ∧
      facts.handoff.phaseThreeRun = .absent ∧ facts.handoff.safeBoot = .absent ∧
      (hasPhase p .two || hasPhase p .three) = false ∧
      transition = .runPhaseOne := by
  have hclean : ∀ evidence, requireClean evidence = .ok () ↔ evidence = .absent :=
    fun _ => requireEvidence_eq_ok (by decide)
  simp only [authorize, requireCleanRebootState, check_bind_eq_ok, requireBoot_eq_ok,
    hclean, reject_eq_ok, return_eq_ok, and_assoc]

/-- P1:38 starts from a resolved Phase 1 and no transaction. -/
theorem authorize_armSafeMode :
    authorize .armSafeMode s p facts = .ok transition ↔
      facts.boot = .normal ∧ requireResolvedPhaseOne p = .ok () ∧
      facts.runtime = .verifiedSelectedExecutable ∧
      s.activeRebootTransaction = none ∧ transition = .armSafeMode true := by
  simp only [authorize, check_bind_eq_ok, requireBoot_eq_ok, requireRuntime_eq_ok,
    reject_eq_ok, return_eq_ok, Option.isSome_eq_false_iff, Option.isNone_iff_eq_none]

/-- What both halves of Phase 2 ask for. -/
structure PhaseTwoReady (s : State) (p : Progress) (facts : PhaseFacts) : Prop where
  boot : facts.boot = .safeMode
  runtime : facts.runtime = .verifiedSelectedExecutable
  flag : s.phase1SafeModeReady = true
  flagObserved : facts.phaseOneSafeModeReady = true
  handoff : facts.handoff.phaseTwoRunOnce = .verified
  armed : p.isCompleted PHASE_ONE_SAFE_MODE_HANDOFF = true
  notSkipped : p.isSkipped PHASE_TWO_SAFE_BOOT_CLEAR = false

/-- The request for Phase 2 is either the clearing of Safe Boot or the rest
of the phase, and P2:1 tells them apart. -/
theorem authorize_phaseTwo :
    authorize .phaseTwo s p facts = .ok transition ↔
      PhaseTwoReady s p facts ∧
      ((p.isCompleted PHASE_TWO_SAFE_BOOT_CLEAR = true ∧
          AtStage s .phaseTwoSafeMode ∧ facts.handoff.safeBoot = .absent ∧
          transition = .runRemainingPhaseTwo) ∨
        (p.isCompleted PHASE_TWO_SAFE_BOOT_CLEAR = false ∧
          hasPhaseTwoLaterStep p = false ∧ AtStage s .phaseOneSafeModeArmed ∧
          facts.handoff.safeBoot = .verified ∧ transition = .runPhaseTwoStepOne)) := by
  have hhandoff : requirePhaseTwoHandoff facts.handoff.phaseTwoRunOnce = .ok () ↔
      facts.handoff.phaseTwoRunOnce = .verified := requireEvidence_eq_ok (by decide)
  have hpresent : requireSafeBootPresent facts.handoff.safeBoot = .ok () ↔
      facts.handoff.safeBoot = .verified := requireEvidence_eq_ok (by decide)
  have habsent : requireSafeBootAbsent facts.handoff.safeBoot = .ok () ↔
      facts.handoff.safeBoot = .absent := requireEvidence_eq_ok (by decide)
  rw [authorize]
  simp only [check_bind_eq_ok, requireBoot_eq_ok, requireRuntime_eq_ok, reject_eq_ok,
    Bool.or_eq_false_iff, Bool.not_eq_false', hhandoff, requireCompleted_eq_ok]
  have hready : PhaseTwoReady s p facts ↔
      facts.boot = .safeMode ∧ facts.runtime = .verifiedSelectedExecutable ∧
      (s.phase1SafeModeReady = true ∧ facts.phaseOneSafeModeReady = true) ∧
      facts.handoff.phaseTwoRunOnce = .verified ∧
      p.isCompleted PHASE_ONE_SAFE_MODE_HANDOFF = true ∧
      p.isSkipped PHASE_TWO_SAFE_BOOT_CLEAR = false :=
    ⟨fun ⟨h1, h2, h3, h4, h5, h6, h7⟩ => ⟨h1, h2, ⟨h3, h4⟩, h5, h6, h7⟩,
      fun ⟨h1, h2, ⟨h3, h4⟩, h5, h6, h7⟩ => ⟨h1, h2, h3, h4, h5, h6, h7⟩⟩
  rw [hready]
  cases hdone : p.isCompleted PHASE_TWO_SAFE_BOOT_CLEAR with
  | true =>
      simp only [if_true, check_bind_eq_ok, requireTransactionStage_eq_ok, habsent,
        return_eq_ok]
      simp [and_assoc]
  | false =>
      simp only [Bool.false_eq_true, if_false, check_bind_eq_ok, reject_eq_ok,
        requireTransactionStage_eq_ok, hpresent, return_eq_ok]
      simp [and_assoc]

/-- What both requests of Phase 3 ask for besides the stage. -/
structure PhaseThreeReady (p : Progress) (facts : PhaseFacts) : Prop where
  boot : facts.boot = .normal
  runtime : facts.runtime = .verifiedSelectedExecutable
  handoff : facts.handoff.phaseThreeRun = .verified
  sameUser : facts.handoff.phaseThreeSameUser = .verified
  phaseTwo : requirePhaseTwoCompleted p = .ok ()

private theorem phaseThreeHandoff_eq_ok {evidence : Evidence} :
    requirePhaseThreeHandoff evidence = .ok () ↔ evidence = .verified :=
  requireEvidence_eq_ok (by decide)

private theorem sameUser_eq_ok {evidence : Evidence} :
    requireSameUser evidence = .ok () ↔ evidence = .verified :=
  requireEvidence_eq_ok (by decide)

/-- Phase 3 starts from an armed handoff and a completed Phase 2. -/
theorem authorize_phaseThree :
    authorize .phaseThree s p facts = .ok transition ↔
      PhaseThreeReady p facts ∧ AtStage s .phaseThreeArmed ∧
      transition = .runPhaseThree := by
  rw [authorize]
  simp only [check_bind_eq_ok, requireBoot_eq_ok, requireRuntime_eq_ok,
    requireTransactionStage_eq_ok, phaseThreeHandoff_eq_ok, sameUser_eq_ok, return_eq_ok]
  constructor
  · rintro ⟨hboot, hruntime, hstage, hhandoff, hsame, hphase, ht⟩
    exact ⟨⟨hboot, hruntime, hhandoff, hsame, hphase⟩, hstage, ht⟩
  · rintro ⟨⟨hboot, hruntime, hhandoff, hsame, hphase⟩, hstage, ht⟩
    exact ⟨hboot, hruntime, hstage, hhandoff, hsame, hphase, ht⟩

/-- The final benchmark also goes on at the complete stage, so that an
interrupted run can be retried. -/
theorem authorize_finalBenchmark :
    authorize .finalBenchmark s p facts = .ok transition ↔
      PhaseThreeReady p facts ∧
      (AtStage s .phaseThreeArmed ∨ AtStage s .phaseThreeComplete) ∧
      transition = .persistFinalBenchmark := by
  rw [authorize]
  simp only [check_bind_eq_ok, requireBoot_eq_ok, requireRuntime_eq_ok,
    requireFinalBenchmarkTransaction_eq_ok, phaseThreeHandoff_eq_ok, sameUser_eq_ok,
    return_eq_ok]
  constructor
  · rintro ⟨hboot, hruntime, hstage, hhandoff, hsame, hphase, ht⟩
    exact ⟨⟨hboot, hruntime, hhandoff, hsame, hphase⟩, hstage, ht⟩
  · rintro ⟨⟨hboot, hruntime, hhandoff, hsame, hphase⟩, hstage, ht⟩
    exact ⟨hboot, hruntime, hstage, hhandoff, hsame, hphase, ht⟩

/-- The handoff is cleared after P3:1, P3:13 and a persisted benchmark. -/
theorem authorize_clearPhaseThreeHandoff :
    authorize .clearPhaseThreeHandoff s p facts = .ok transition ↔
      AtStage s .phaseThreeComplete ∧ facts.handoff.phaseThreeRun = .verified ∧
      facts.handoff.phaseThreeSameUser = .verified ∧
      p.isCompleted PHASE_THREE_DRIVER_INSTALL = true ∧
      p.isCompleted PHASE_THREE_FINAL_BENCHMARK = true ∧
      facts.finalBenchmarkPersisted = .verified ∧
      transition = .clearPhaseThreeHandoff := by
  have hfinal : requireFinalBenchmark facts.finalBenchmarkPersisted = .ok () ↔
      facts.finalBenchmarkPersisted = .verified := requireEvidence_eq_ok (by decide)
  simp only [authorize, check_bind_eq_ok, requireTransactionStage_eq_ok,
    phaseThreeHandoff_eq_ok, sameUser_eq_ok, requireCompleted_eq_ok, hfinal,
    return_eq_ok]

end

end FrametimeCfg.Verified.Authorization
