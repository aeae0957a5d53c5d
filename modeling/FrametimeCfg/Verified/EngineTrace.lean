import FrametimeCfg.Domain.Engine
import FrametimeCfg.Lib.Trace

/-!
# The call trace of an engine run

`Backend.traced` wraps a backend so that every call is recorded with its
answer.  The wrapped backend is a backend like any other, so the engine runs
over it unchanged, and what it records is the sequence of backend calls of the
run, in order and with nothing left out.

`stepRuns` cuts the trace at the iterations of the engine's loop: one entry
for each step that was started, with the progress the engine held when it
started the step and the calls of that iteration alone.
-/

namespace FrametimeCfg.Verified.EngineTrace

open FrametimeCfg.Domain
open FrametimeCfg.Lib.Effect

/-- One backend call with its answer. -/
inductive Call where
  | isDryRun (answer : Bool)
  | inspect (operation : Operation) (answer : Except String Inspection)
  | plan (operation : Operation) (answer : Except String (List String))
  | captureBackups (operation : Operation)
      (answer : Except String (List BackupEntry))
  | persistBackups (entries : List BackupEntry) (answer : Except String Unit)
  | recoveryRequirement (operation : Operation) (answer : RecoveryRequirement)
  | capturePendingAudit (operation : Operation)
      (answer : Except String RebuildableAudit)
  | persistPendingAudit (audit : RebuildableAudit) (answer : Except String Unit)
  | finalizeAudit (audit : RebuildableAudit) (answer : Except String Unit)
  | capturePendingIrreversibleAudit (operation : Operation)
      (answer : Except String IrreversibleAudit)
  | persistPendingIrreversibleAudit (audit : IrreversibleAudit)
      (answer : Except String Unit)
  | finalizeIrreversibleAudit (audit : IrreversibleAudit)
      (answer : Except String Unit)
  | failIrreversibleAudit (audit : IrreversibleAudit)
      (answer : Except String Unit)
  | evidenceRequirement (operation : Operation) (answer : EvidenceRequirement)
  | captureEvidence (operation : Operation)
      (answer : Except String ObservationReceipt)
  | persistEvidence (receipt : ObservationReceipt) (answer : Except String Unit)
  | verifyEvidence (operation : Operation) (receipt : ObservationReceipt)
      (answer : Except String Unit)
  | apply (operation : Operation) (answer : Except String Unit)
  | verify (operation : Operation) (answer : Except String Unit)
  | persistProgress (progress : Progress) (answer : Except String Unit)
  | timestamp (answer : String)

variable {σ α : Type}

/-- A port that records its answer. -/
def record (port : Port σ α) (entry : α → Call) : Port (σ × List Call) α :=
  fun (s, log) => ((port s).1, ((port s).2, log ++ [entry (port s).1]))

/-- A port that records nothing. -/
def unrecorded (port : Port σ α) : Port (σ × List Call) α :=
  fun (s, log) => ((port s).1, ((port s).2, log))

/-- The backend with every call recorded. -/
def traced (b : Backend σ) : Backend (σ × List Call) where
  isDryRun := record b.isDryRun .isDryRun
  inspect operation := record (b.inspect operation) (.inspect operation)
  plan operation := record (b.plan operation) (.plan operation)
  captureBackups operation :=
    record (b.captureBackups operation) (.captureBackups operation)
  persistBackups entries :=
    record (b.persistBackups entries) (.persistBackups entries)
  recoveryRequirement operation :=
    record (b.recoveryRequirement operation) (.recoveryRequirement operation)
  capturePendingAudit operation :=
    record (b.capturePendingAudit operation) (.capturePendingAudit operation)
  persistPendingAudit audit :=
    record (b.persistPendingAudit audit) (.persistPendingAudit audit)
  finalizeAudit audit := record (b.finalizeAudit audit) (.finalizeAudit audit)
  capturePendingIrreversibleAudit operation :=
    record (b.capturePendingIrreversibleAudit operation)
      (.capturePendingIrreversibleAudit operation)
  persistPendingIrreversibleAudit audit :=
    record (b.persistPendingIrreversibleAudit audit)
      (.persistPendingIrreversibleAudit audit)
  finalizeIrreversibleAudit audit :=
    record (b.finalizeIrreversibleAudit audit) (.finalizeIrreversibleAudit audit)
  failIrreversibleAudit audit :=
    record (b.failIrreversibleAudit audit) (.failIrreversibleAudit audit)
  evidenceRequirement operation :=
    record (b.evidenceRequirement operation) (.evidenceRequirement operation)
  captureEvidence operation :=
    record (b.captureEvidence operation) (.captureEvidence operation)
  persistEvidence receipt :=
    record (b.persistEvidence receipt) (.persistEvidence receipt)
  verifyEvidence operation receipt :=
    record (b.verifyEvidence operation receipt) (.verifyEvidence operation receipt)
  apply operation := record (b.apply operation) (.apply operation)
  verify operation := record (b.verify operation) (.verify operation)
  persistProgress progress :=
    record (b.persistProgress progress) (.persistProgress progress)
  timestamp := record b.timestamp .timestamp

/-- The closures see the host, not the record. -/
def lifted (c : Control σ) : Control (σ × List Call) where
  consent step := unrecorded (c.consent step)
  cancelled := unrecorded c.cancelled

/-- One iteration of the engine's loop. -/
structure StepRun where
  step : Step
  before : Progress
  calls : List Call

variable (b : Backend σ) (c : Control σ) (digest : Digest) (profile : Profile)

/-- The run of the engine over the traced backend, from an empty record. -/
def tracedRun (steps : List Step) (progress : Progress) (host : σ) :
    Except EngineError Unit × EngineState (σ × List Call) :=
  runWithControl (traced b) (lifted c) digest steps profile
    { backend := (host, []), progress := progress }

/-- The iterations of the loop from a state on: each with the calls it
recorded. -/
def stepRunsFrom : List Step → EngineState (σ × List Call) → List StepRun
  | [], _ => []
  | step :: rest, s =>
      match runStep (traced b) (lifted c) digest profile step s with
      | (.ok _, t) =>
          ⟨step, s.progress, t.backend.2.drop s.backend.2.length⟩ ::
            stepRunsFrom rest t
      | (.error _, t) =>
          [⟨step, s.progress, t.backend.2.drop s.backend.2.length⟩]

/-- The iterations of a whole run. -/
def stepRuns (steps : List Step) (progress : Progress) (host : σ) :
    List StepRun :=
  stepRunsFrom b c digest profile steps
    { backend := (host, []), progress := progress }

end FrametimeCfg.Verified.EngineTrace
