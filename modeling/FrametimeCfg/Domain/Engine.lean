import FrametimeCfg.Domain.Audit
import FrametimeCfg.Domain.Backup
import FrametimeCfg.Domain.Progress
import FrametimeCfg.Lib.Effect

/-!
# The engine

The engine walks a list of steps.  For each one it decides from the recorded
progress, the profile and the user's consent whether to work on it, asks the
backend to inspect it, and then skips it, acknowledges it, verifies it or
applies it under the recovery its backend requires, and finally records it.

The backend is a record of ports over an arbitrary host state `σ`: every call
may answer anything, fail, and change the host.  The consent and cancellation
closures are ports over the same state.  The engine is a program (`Lib.Effect`)
over the host state, the engine's progress and the report, so an early return
keeps everything that was done before it.
-/

namespace FrametimeCfg.Domain

open FrametimeCfg.Lib.Effect

/-! ## Vocabulary -/

inductive Inspection where
  | satisfied
  | needsApply
  | inapplicable
  /-- A check-only step whose state cannot be authoritatively observed. -/
  | advisory (reason : String)
  | unsupported
  deriving DecidableEq

inductive Event where
  | inspect (key : String)
  | captureBackup (key : String)
  | persistBackup (key : String)
  | captureAudit (key : String)
  | persistAudit (key : String)
  | captureEvidence (key : String)
  | persistEvidence (key : String)
  | verifyEvidence (key : String)
  | apply (key : String)
  | verify (key : String)
  | finalizeAudit (key : String)
  | failAudit (key : String)
  | complete (key : String)
  | skip (key : String)
  | advisory (key reason : String)
  | plan (line : String)
  deriving DecidableEq

structure Operation where
  step : Step
  deriving DecidableEq

structure RunReport where
  events : List Event := []
  completed : Nat := 0
  skipped : Nat := 0
  advisories : Nat := 0
  failed : Nat := 0
  deriving DecidableEq

inductive EngineError where
  | inspect (key message : String)
  | unsupported (key : String)
  | cancelled (key : String)
  | backup (key message : String)
  | persist (key message : String)
  | auditCapture (key message : String)
  | auditPersist (key message : String)
  | evidenceCapture (key message : String)
  | evidencePersist (key message : String)
  | evidenceVerify (key message : String)
  | apply (key message : String)
  | verify (key message : String)
  | auditFinalize (key message : String)
  | auditFailurePersist (key message : String)
  | progress (key message : String)
  deriving DecidableEq

/-- One call out of the engine: it answers and changes the host. -/
abbrev Port (σ α : Type) : Type := σ → α × σ

/-- The `Backend` trait. -/
structure Backend (σ : Type) where
  isDryRun : Port σ Bool
  inspect : Operation → Port σ (Except String Inspection)
  plan : Operation → Port σ (Except String (List String))
  captureBackups : Operation → Port σ (Except String (List BackupEntry))
  persistBackups : List BackupEntry → Port σ (Except String Unit)
  recoveryRequirement : Operation → Port σ RecoveryRequirement
  capturePendingAudit : Operation → Port σ (Except String RebuildableAudit)
  persistPendingAudit : RebuildableAudit → Port σ (Except String Unit)
  finalizeAudit : RebuildableAudit → Port σ (Except String Unit)
  capturePendingIrreversibleAudit :
    Operation → Port σ (Except String IrreversibleAudit)
  persistPendingIrreversibleAudit : IrreversibleAudit → Port σ (Except String Unit)
  finalizeIrreversibleAudit : IrreversibleAudit → Port σ (Except String Unit)
  failIrreversibleAudit : IrreversibleAudit → Port σ (Except String Unit)
  evidenceRequirement : Operation → Port σ EvidenceRequirement
  captureEvidence : Operation → Port σ (Except String ObservationReceipt)
  persistEvidence : ObservationReceipt → Port σ (Except String Unit)
  verifyEvidence : Operation → ObservationReceipt → Port σ (Except String Unit)
  apply : Operation → Port σ (Except String Unit)
  verify : Operation → Port σ (Except String Unit)
  persistProgress : Progress → Port σ (Except String Unit)
  timestamp : Port σ String

/-- The consent and cancellation closures of a run. -/
structure Control (σ : Type) where
  consent : Step → Port σ Bool
  cancelled : Port σ Bool

/-- What a run of the engine reads and writes. -/
structure EngineState (σ : Type) where
  backend : σ
  progress : Progress
  report : RunReport := {}

abbrev EngineM (σ α : Type) : Type := Prog (EngineState σ) EngineError α

section Engine

variable {σ : Type}

/-! ## Calls -/

/-- Call a port. -/
def call {α : Type} (port : Port σ α) : EngineM σ α := fun s =>
  (.ok (port s.backend).1, { s with backend := (port s.backend).2 })

/-- Call a fallible port; a failure becomes the given engine error. -/
def tryCall {α : Type} (port : Port σ (Except String α))
    (error : String → EngineError) : EngineM σ α := do
  let answer ← call port
  match answer with
  | .ok a => pure a
  | .error message => raise (error message)

def emit (event : Event) : EngineM σ Unit :=
  update fun s => { s with report.events := s.report.events ++ [event] }

def setProgress (progress : Progress) : EngineM σ Unit :=
  update fun s => { s with progress := progress }

def countCompleted : EngineM σ Unit :=
  update fun s => { s with report.completed := s.report.completed + 1 }

def countSkipped : EngineM σ Unit :=
  update fun s => { s with report.skipped := s.report.skipped + 1 }

def countAdvisory : EngineM σ Unit :=
  update fun s => { s with report.advisories := s.report.advisories + 1 }

def countFailed : EngineM σ Unit :=
  update fun s => { s with report.failed := s.report.failed + 1 }

variable (b : Backend σ) (c : Control σ) (digest : Digest)

/-! ## Recording a step -/

/-- `Engine::record_advisory`. -/
def recordAdvisory (step : Step) (key reason : String) : EngineM σ Unit := do
  let before ← gets EngineState.progress
  let progress := before.acknowledgeStepAdvisory step.id reason
  tryCall (b.persistProgress progress) (.progress key)
  setProgress progress
  emit (.advisory key reason)
  countAdvisory

/-- `Engine::record_skip`. -/
def recordSkip (step : Step) (key : String) (persistProgress : Bool) :
    EngineM σ Unit := do
  emit (.skip key)
  if persistProgress then
    let before ← gets EngineState.progress
    let progress := before.skipStep step.id
    tryCall (b.persistProgress progress) (.progress key)
    setProgress progress
  countSkipped

/-- `Engine::complete_live_step`. -/
def completeLiveStep (step : Step) (key : String) : EngineM σ Unit := do
  let before ← gets EngineState.progress
  let now ← call b.timestamp
  let progress := before.completeStep step.id now
  tryCall (b.persistProgress progress) (.progress key)
  setProgress progress
  emit (.complete key)
  countCompleted

/-! ## Mutations and observations -/

/-- `Engine::apply_and_verify`. -/
def applyAndVerify (operation : Operation) (key : String) : EngineM σ Unit := do
  tryCall (b.apply operation) (.apply key)
  emit (.apply key)
  tryCall (b.verify operation) (.verify key)
  emit (.verify key)

/-- `Engine::capture_lossless_backups`. -/
def captureLosslessBackups (operation : Operation) (key : String) :
    EngineM σ Unit := do
  emit (.captureBackup key)
  let backups ← tryCall (b.captureBackups operation) (.backup key)
  if backups.isEmpty then
    raise (.backup key "mutating operation captured no recovery entries")
  else
    tryCall (b.persistBackups backups) (.persist key)
    emit (.persistBackup key)

/-- `Engine::run_lossless_operation`. -/
def runLosslessOperation (operation : Operation) (key : String) :
    EngineM σ Unit := do
  captureLosslessBackups b operation key
  applyAndVerify b operation key

/-- `Engine::run_evidence_operation`. -/
def runEvidenceOperation (operation : Operation) (key : String) :
    EngineM σ Unit := do
  emit (.captureEvidence key)
  let receipt ← tryCall (b.captureEvidence operation) (.evidenceCapture key)
  relabel (fun error => .evidenceCapture key error.message)
    (ofExcept (receipt.validateFor digest key))
  tryCall (b.persistEvidence receipt) (.evidencePersist key)
  emit (.persistEvidence key)
  tryCall (b.verifyEvidence operation receipt) (.evidenceVerify key)
  emit (.verifyEvidence key)
  tryCall (b.verify operation) (.verify key)
  emit (.verify key)

/-- `Engine::run_rebuildable_operation`. -/
def runRebuildableOperation (operation : Operation) (key : String) :
    EngineM σ Unit := do
  emit (.captureAudit key)
  let audit ← tryCall (b.capturePendingAudit operation) (.auditCapture key)
  if !audit.isValidPendingFor key then
    raise (.auditCapture key
      "rebuildable mutation must capture a complete pending audit record bound to the current step")
  else
    tryCall (b.persistPendingAudit audit) (.auditPersist key)
    emit (.persistAudit key)
    applyAndVerify b operation key
    let now ← call b.timestamp
    tryCall (b.finalizeAudit (audit.finalized now)) (.auditFinalize key)
    emit (.finalizeAudit key)

/-- `Engine::run_pending_irreversible_audit`.  A failed mutation is recorded
in the audit before its error is reported; a failure of that record replaces
the error. -/
def runPendingIrreversibleAudit (operation : Operation) (key : String)
    (requirement : RecoveryRequirement) : EngineM σ Unit := do
  emit (.captureAudit key)
  let audit ← tryCall (b.capturePendingIrreversibleAudit operation)
    (.auditCapture key)
  if !audit.isValidPendingFor requirement key then
    raise (.auditCapture key
      "irreversible mutation must capture a pending fixed-subject audit for the current recovery requirement")
  else
    tryCall (b.persistPendingIrreversibleAudit audit) (.auditPersist key)
    emit (.persistAudit key)
    match ← attempt (applyAndVerify b operation key) with
    | .error error =>
        let now ← call b.timestamp
        tryCall (b.failIrreversibleAudit (audit.failed now))
          (.auditFailurePersist key)
        emit (.failAudit key)
        raise error
    | .ok () =>
        let now ← call b.timestamp
        tryCall (b.finalizeIrreversibleAudit (audit.finalized now))
          (.auditFinalize key)
        emit (.finalizeAudit key)

/-- `Engine::run_irreversible_operation`.  The requirement is asked again, and
the second answer counts. -/
def runIrreversibleOperation (operation : Operation) (key : String) :
    EngineM σ Unit := do
  let requirement ← call (b.recoveryRequirement operation)
  if requirement = .mixed then
    captureLosslessBackups b operation key
  runPendingIrreversibleAudit b operation key requirement

/-! ## One step -/

/-- The work of a live step that is neither skipped nor acknowledged: verify
what is already satisfied or only checked, otherwise apply it. -/
def runLiveOperation (operation : Operation) (key : String)
    (inspection : Inspection) : EngineM σ Unit := do
  if inspection = .satisfied || operation.step.checkOnly then
    let evidence ← call (b.evidenceRequirement operation)
    if evidence = .durableReceipt then
      runEvidenceOperation b digest operation key
    else
      tryCall (b.verify operation) (.verify key)
      emit (.verify key)
  else
    match ← call (b.recoveryRequirement operation) with
    | .rebuildableAudit => runRebuildableOperation b operation key
    | .manualRecoveryAudit | .mixed => runIrreversibleOperation b operation key
    | .losslessBackup => runLosslessOperation b operation key

/-- `Engine::run_live_step`. -/
def runLiveStep (operation : Operation) (key : String) (inspection : Inspection) :
    EngineM σ Unit :=
  match inspection with
  | .unsupported => raise (.unsupported key)
  | .inapplicable => recordSkip b operation.step key true
  | .advisory reason => recordAdvisory b operation.step key reason
  | .satisfied | .needsApply => do
      runLiveOperation b digest operation key inspection
      completeLiveStep b operation.step key

/-- `Engine::report_dry_run`. -/
def reportDryRun (operation : Operation) (key : String) (inspection : Inspection) :
    EngineM σ Unit := do
  let lines ← tryCall (b.plan operation) (.inspect key)
  forEach (fun line => emit (.plan line)) lines
  match inspection with
  | .inapplicable => do
      emit (.skip key)
      countSkipped
  | .unsupported => countFailed
  | .advisory reason => do
      emit (.advisory key reason)
      countAdvisory
  | .satisfied | .needsApply => countCompleted

/-- `Engine::skip_recorded_or_cancelled`. -/
def skipRecordedOrCancelled (id : StepId) (key : String) : EngineM σ Bool := do
  let progress ← gets EngineState.progress
  if progress.isRecorded id then pure true
  else
    let dry ← call b.isDryRun
    if dry then pure false
    else
      let cancelled ← call c.cancelled
      if cancelled then raise (.cancelled key) else pure false

/-- `Engine::should_skip_for_policy`. -/
def shouldSkipForPolicy (step : Step) (profile : Profile) : EngineM σ Bool :=
  match profile.decision step.tier step.risk with
  | .skip => pure true
  | .prompt => do
      let dry ← call b.isDryRun
      if dry then pure false
      else
        let agreed ← call (c.consent step)
        pure !agreed
  | .auto => pure false

/-- The body of the loop of `Engine::run_with_control`. -/
def runStep (profile : Profile) (step : Step) : EngineM σ Unit := do
  let operation : Operation := { step := step }
  let key := Progress.keyFor step.id
  let recorded ← skipRecordedOrCancelled b c step.id key
  if recorded then pure ()
  else
    let skipped ← shouldSkipForPolicy b c step profile
    if skipped then
      let dry ← call b.isDryRun
      recordSkip b step key (!dry)
    else
      emit (.inspect key)
      let inspection ← tryCall (b.inspect operation) (.inspect key)
      let dry ← call b.isDryRun
      if dry then reportDryRun b operation key inspection
      else runLiveStep b digest operation key inspection

/-- `Engine::run_with_control`. -/
def runWithControl (steps : List Step) (profile : Profile) : EngineM σ Unit :=
  forEach (runStep b c digest profile) steps

end Engine

/-! ## A cooperative host -/

/-- A host on which every call succeeds and one registry value is captured. -/
def cooperativeBackend : Backend Unit where
  isDryRun _ := (false, ())
  inspect _ _ := (.ok .needsApply, ())
  plan _ _ := (.ok [], ())
  captureBackups _ _ :=
    (.ok [.registry "P1:12" "now" "HKCU:\\Software\\Microsoft\\GameBar"
      "AutoGameModeEnabled" .null none false ∅], ())
  persistBackups _ _ := (.ok (), ())
  recoveryRequirement _ _ := (.losslessBackup, ())
  capturePendingAudit _ _ := (.error "not rebuildable", ())
  persistPendingAudit _ _ := (.ok (), ())
  finalizeAudit _ _ := (.ok (), ())
  capturePendingIrreversibleAudit _ _ := (.error "not irreversible", ())
  persistPendingIrreversibleAudit _ _ := (.ok (), ())
  finalizeIrreversibleAudit _ _ := (.ok (), ())
  failIrreversibleAudit _ _ := (.ok (), ())
  evidenceRequirement _ _ := (.none, ())
  captureEvidence _ _ := (.error "no evidence", ())
  persistEvidence _ _ := (.ok (), ())
  verifyEvidence _ _ _ := (.ok (), ())
  apply _ _ := (.ok (), ())
  verify _ _ := (.ok (), ())
  persistProgress _ _ := (.ok (), ())
  timestamp _ := ("now", ())

/-- Nobody is asked and nothing is cancelled. -/
def unattended : Control Unit where
  consent _ _ := (true, ())
  cancelled _ := (false, ())

end FrametimeCfg.Domain
