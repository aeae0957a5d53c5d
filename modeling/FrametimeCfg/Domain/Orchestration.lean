import FrametimeCfg.Domain.Progress
import FrametimeCfg.Domain.State

/-!
# The guards of the reboot transaction

`authorize` computes the only transition that a caller may attempt from facts
the platform has already observed.  Evidence that could not be collected is a
value of its own, and no guard treats it as success.

The guards read three things: the persisted state with its transaction, the
persisted progress, and the facts of the running system.
-/

namespace FrametimeCfg.Domain

open FrametimeCfg.Lib.Checks

/-! ## Facts -/

inductive BootEnvironment where
  | normal
  | safeMode
  deriving DecidableEq, Repr

inductive Evidence where
  | verified
  | absent
  | unavailable
  deriving DecidableEq, Repr

inductive RuntimeBinding where
  | verifiedSelectedExecutable
  | unavailable
  deriving DecidableEq, Repr

structure HandoffEvidence where
  phaseTwoRunOnce : Evidence := .unavailable
  phaseThreeRun : Evidence := .unavailable
  safeBoot : Evidence := .unavailable
  phaseThreeSameUser : Evidence := .unavailable
  deriving DecidableEq, Repr

structure PhaseFacts where
  boot : BootEnvironment
  runtime : RuntimeBinding
  handoff : HandoffEvidence
  /-- The persisted and read-back `phase1SafeModeReady` flag. -/
  phaseOneSafeModeReady : Bool
  /-- Proof that P3:13 also persisted its benchmark. -/
  finalBenchmarkPersisted : Evidence
  deriving DecidableEq, Repr

inductive PhaseRequest where
  | optimize
  | armSafeMode
  | phaseTwo
  | phaseThree
  | finalBenchmark
  | clearPhaseThreeHandoff
  deriving DecidableEq, Repr

inductive Transition where
  | runPhaseOne
  | armSafeMode (requiresReadinessTransition : Bool)
  | runPhaseTwoStepOne
  | runRemainingPhaseTwo
  | runPhaseThree
  | persistFinalBenchmark
  | clearPhaseThreeHandoff
  deriving DecidableEq, Repr

inductive GuardError where
  | wrongBoot (request : PhaseRequest) (expected actual : BootEnvironment)
  | phaseOneCannotResumeLaterPhase
  | missingResolvedPhaseOneStep (number : UInt8)
  | selectedRuntimeNotVerified
  | safeModeReadinessNotPersisted
  | safeModeHandoffInspectionUnavailable
  | safeModeHandoffNotArmed
  | safeBootInspectionUnavailable
  | safeBootNotConfigured
  | safeBootStillConfigured
  | missingPhaseOneHandoffCompletion
  | phaseTwoSafeBootClearNotCompleted
  | phaseTwoSafeBootClearWasSkipped
  | missingCompletedPhaseTwoStep (number : UInt8)
  | phaseThreeHandoffInspectionUnavailable
  | phaseThreeHandoffNotArmed
  | sameUserHandoffInspectionUnavailable
  | sameUserHandoffNotVerified
  | phaseThreeHandoffMustRemain
  | legacyRebootStateInspectionUnavailable
  | legacyRebootTransactionArmed
  | activeRebootTransactionPresent
  | rebootTransactionMissing
  | rebootTransactionStageInvalid
  | finalBenchmarkPersistenceUnavailable
  | finalBenchmarkNotPersisted
  deriving DecidableEq, Repr

/-! ## Guards -/

/-- A guard on one piece of evidence: the wanted answer passes, the other
answer and the missing one each have their error. -/
def requireEvidence (wanted : Evidence) (otherwise unavailable : GuardError) :
    Evidence → Except GuardError Unit
  | .unavailable => .error unavailable
  | evidence => reject (evidence ≠ wanted) otherwise

def requirePhaseTwoHandoff : Evidence → Except GuardError Unit :=
  requireEvidence .verified .safeModeHandoffNotArmed
    .safeModeHandoffInspectionUnavailable

def requireSafeBootPresent : Evidence → Except GuardError Unit :=
  requireEvidence .verified .safeBootNotConfigured .safeBootInspectionUnavailable

def requireSafeBootAbsent : Evidence → Except GuardError Unit :=
  requireEvidence .absent .safeBootStillConfigured .safeBootInspectionUnavailable

def requirePhaseThreeHandoff : Evidence → Except GuardError Unit :=
  requireEvidence .verified .phaseThreeHandoffNotArmed
    .phaseThreeHandoffInspectionUnavailable

def requireSameUser : Evidence → Except GuardError Unit :=
  requireEvidence .verified .sameUserHandoffNotVerified
    .sameUserHandoffInspectionUnavailable

/-- The evidence that P3:13 persisted its benchmark. -/
def requireFinalBenchmark : Evidence → Except GuardError Unit :=
  requireEvidence .verified .finalBenchmarkNotPersisted
    .finalBenchmarkPersistenceUnavailable

/-- One element of the loop of `require_clean_reboot_state`. -/
def requireClean : Evidence → Except GuardError Unit :=
  requireEvidence .absent .legacyRebootTransactionArmed
    .legacyRebootStateInspectionUnavailable

/-- `require_clean_reboot_state`. -/
def requireCleanRebootState (handoff : HandoffEvidence) : Except GuardError Unit := do
  requireClean handoff.phaseTwoRunOnce
  requireClean handoff.phaseThreeRun
  requireClean handoff.safeBoot

/-- `require_boot`. -/
def requireBoot (request : PhaseRequest) (expected actual : BootEnvironment) :
    Except GuardError Unit :=
  reject (actual ≠ expected) (.wrongBoot request expected actual)

/-- `require_runtime`. -/
def requireRuntime (runtime : RuntimeBinding) : Except GuardError Unit :=
  reject (runtime ≠ .verifiedSelectedExecutable) .selectedRuntimeNotVerified

/-- `phase_one_advisory_is_authorized`. -/
def phaseOneAdvisoryIsAuthorized (id : StepId) : Bool :=
  id = PHASE_ONE_XMP_EXPO_CHECK || id = PHASE_ONE_RESIZABLE_BAR_CHECK

/-- What the Phase 1 handoff counts as resolved. -/
def resolvedPhaseOne (p : Progress) (id : StepId) : Bool :=
  p.isCompleted id || p.isSkipped id ||
    (phaseOneAdvisoryIsAuthorized id && p.hasAdvisory id)

/-- A loop over steps that stops at the first that fails a test. -/
def requireSteps (passes : StepId → Bool) (error : UInt8 → GuardError) :
    List Step → Except GuardError Unit
  | [] => .ok ()
  | step :: rest => do
      reject (!passes step.id) (error step.id.number)
      requireSteps passes error rest

/-- `require_resolved_phase_one`. -/
def requireResolvedPhaseOne (p : Progress) : Except GuardError Unit :=
  requireSteps (resolvedPhaseOne p) .missingResolvedPhaseOneStep
    (stepsForPhaseAndRole .one .engine)

/-- `require_phase_one_handoff_ready`. -/
def requirePhaseOneHandoffReady (p : Progress) : Except GuardError Unit :=
  requireResolvedPhaseOne p

/-- The steps of a phase, checkpoints included. -/
def stepsOfPhase (phase : Phase) : List Step :=
  stepCatalog.filter fun step => step.id.phase = phase

/-- The loop over the Phase 2 steps that later phases demand. -/
def requirePhaseTwoCompleted (p : Progress) : Except GuardError Unit :=
  requireSteps p.isCompleted .missingCompletedPhaseTwoStep (stepsOfPhase .two)

/-- `require_completed`, with the error it is mapped to. -/
def requireCompleted (p : Progress) (id : StepId) (error : GuardError) :
    Except GuardError Unit :=
  reject (!p.isCompleted id) error

/-- `require_transaction_stage`. -/
def requireTransactionStage (s : State) (expected : RebootStage) :
    Except GuardError Unit := do
  let transaction ← okOr s.activeRebootTransaction .rebootTransactionMissing
  reject (!transaction.isAuthorizedAt expected) .rebootTransactionStageInvalid

/-- `require_final_benchmark_transaction`. -/
def requireFinalBenchmarkTransaction (s : State) : Except GuardError Unit := do
  let transaction ← okOr s.activeRebootTransaction .rebootTransactionMissing
  reject (!(transaction.isAuthorizedAt .phaseThreeArmed ||
    transaction.isAuthorizedAt .phaseThreeComplete)) .rebootTransactionStageInvalid

/-- `has_phase`. -/
def hasPhase (p : Progress) (phase : Phase) : Bool :=
  (stepsOfPhase phase).any fun step => p.isCompleted step.id || p.isSkipped step.id

/-- `has_phase_two_later_step`. -/
def hasPhaseTwoLaterStep (p : Progress) : Bool :=
  (stepsOfPhase .two).any fun step =>
    step.id ≠ PHASE_TWO_SAFE_BOOT_CLEAR &&
      (p.isCompleted step.id || p.isSkipped step.id)

/-! ## Authorization -/

/-- `authorize`. -/
def authorize (request : PhaseRequest) (s : State) (p : Progress)
    (facts : PhaseFacts) : Except GuardError Transition :=
  match request with
  | .optimize => do
      requireBoot request .normal facts.boot
      requireCleanRebootState facts.handoff
      reject (hasPhase p .two || hasPhase p .three) .phaseOneCannotResumeLaterPhase
      return .runPhaseOne
  | .armSafeMode => do
      requireBoot request .normal facts.boot
      requireResolvedPhaseOne p
      requireRuntime facts.runtime
      reject s.activeRebootTransaction.isSome .activeRebootTransactionPresent
      return .armSafeMode true
  | .phaseTwo => do
      requireBoot request .safeMode facts.boot
      requireRuntime facts.runtime
      reject (!s.phase1SafeModeReady || !facts.phaseOneSafeModeReady)
        .safeModeReadinessNotPersisted
      requirePhaseTwoHandoff facts.handoff.phaseTwoRunOnce
      requireCompleted p PHASE_ONE_SAFE_MODE_HANDOFF .missingPhaseOneHandoffCompletion
      reject (p.isSkipped PHASE_TWO_SAFE_BOOT_CLEAR) .phaseTwoSafeBootClearWasSkipped
      if p.isCompleted PHASE_TWO_SAFE_BOOT_CLEAR then
        requireTransactionStage s .phaseTwoSafeMode
        requireSafeBootAbsent facts.handoff.safeBoot
        return .runRemainingPhaseTwo
      else
        reject (hasPhaseTwoLaterStep p) .phaseTwoSafeBootClearNotCompleted
        requireTransactionStage s .phaseOneSafeModeArmed
        requireSafeBootPresent facts.handoff.safeBoot
        return .runPhaseTwoStepOne
  | .phaseThree => do
      requireBoot request .normal facts.boot
      requireRuntime facts.runtime
      requireTransactionStage s .phaseThreeArmed
      requirePhaseThreeHandoff facts.handoff.phaseThreeRun
      requireSameUser facts.handoff.phaseThreeSameUser
      requirePhaseTwoCompleted p
      return .runPhaseThree
  | .finalBenchmark => do
      requireBoot request .normal facts.boot
      requireRuntime facts.runtime
      requireFinalBenchmarkTransaction s
      requirePhaseThreeHandoff facts.handoff.phaseThreeRun
      requireSameUser facts.handoff.phaseThreeSameUser
      requirePhaseTwoCompleted p
      return .persistFinalBenchmark
  | .clearPhaseThreeHandoff => do
      requireTransactionStage s .phaseThreeComplete
      requirePhaseThreeHandoff facts.handoff.phaseThreeRun
      requireSameUser facts.handoff.phaseThreeSameUser
      requireCompleted p PHASE_THREE_DRIVER_INSTALL .phaseThreeHandoffMustRemain
      requireCompleted p PHASE_THREE_FINAL_BENCHMARK .phaseThreeHandoffMustRemain
      requireFinalBenchmark facts.finalBenchmarkPersisted
      return .clearPhaseThreeHandoff

/-! ## What the guards say -/

theorem requireEvidence_eq_ok {wanted evidence : Evidence}
    {otherwise unavailable : GuardError} (h : wanted ≠ .unavailable) :
    requireEvidence wanted otherwise unavailable evidence = .ok () ↔
      evidence = wanted := by
  cases evidence with
  | unavailable => simpa [requireEvidence] using h.symm
  | verified => simp [requireEvidence, reject_eq_ok]
  | absent => simp [requireEvidence, reject_eq_ok]

/-- A loop of checks passes when every step passes. -/
theorem requireSteps_eq_ok {passes : StepId → Bool} {error : UInt8 → GuardError}
    {steps : List Step} :
    requireSteps passes error steps = .ok () ↔
      ∀ step ∈ steps, passes step.id = true := by
  induction steps with
  | nil => simp [requireSteps]
  | cons step rest ih =>
      rw [requireSteps, check_bind_eq_ok, ih, reject_eq_ok]
      simp

end FrametimeCfg.Domain
