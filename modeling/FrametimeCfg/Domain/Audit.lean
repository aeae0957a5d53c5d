import FrametimeCfg.Domain.Json
import FrametimeCfg.Lib.Text

/-!
# Recovery audits

A live mutation promises one of four kinds of recovery.  A mutation that can
be rebuilt or that needs manual recovery is announced by a *pending* audit
record before it runs and closed by a terminal one afterwards.  An audit is
bound to its step, and for the irreversible steps to a fixed target.
-/

namespace FrametimeCfg.Domain

open FrametimeCfg.Lib.OrderedMap
open FrametimeCfg.Lib.Text

/-- Recovery promise required before a live mutation can begin. -/
inductive RecoveryRequirement where
  | losslessBackup
  | rebuildableAudit
  | manualRecoveryAudit
  | mixed
  deriving DecidableEq, Repr

/-! ## Rebuildable mutations -/

/-- Fixed resources that their owning software rebuilds, in declaration
order. -/
inductive RebuildableTarget where
  | cs2ShaderCache
  | nvidiaDxCache
  | nvidiaGlCache
  | directxD3dCache
  deriving DecidableEq, Repr

def P1_3_REBUILDABLE_TARGETS : List RebuildableTarget :=
  [.cs2ShaderCache, .nvidiaDxCache, .nvidiaGlCache, .directxD3dCache]

inductive RebuildableAuditOutcome where
  | pending
  | verified (finalizedAt : String)
  deriving DecidableEq

structure RebuildableAudit where
  step : String
  capturedAt : String
  targets : List RebuildableTarget
  outcome : RebuildableAuditOutcome
  unknown : BTreeMap Value := ∅
  deriving DecidableEq

/-- The targets without repetition, in declaration order. -/
def deduplicatedTargets (targets : List RebuildableTarget) :
    List RebuildableTarget :=
  P1_3_REBUILDABLE_TARGETS.filter (· ∈ targets)

namespace RebuildableAudit

def isPending (a : RebuildableAudit) : Bool := a.outcome = .pending

def targetsAreUniqueAndNonempty (a : RebuildableAudit) : Bool :=
  !a.targets.isEmpty && a.targets = deduplicatedTargets a.targets

/-- `RebuildableAudit::is_valid_pending_for`. -/
def isValidPendingFor (a : RebuildableAudit) (step : String) : Bool :=
  a.isPending && a.step = step && !a.capturedAt.isEmpty &&
    a.targetsAreUniqueAndNonempty &&
    (step ≠ "P1:3" || a.targets = P1_3_REBUILDABLE_TARGETS)

def finalized (a : RebuildableAudit) (finalizedAt : String) : RebuildableAudit :=
  { a with outcome := .verified finalizedAt }

end RebuildableAudit

/-! ## Irreversible mutations -/

/-- Fixed irreversible catalog subjects. -/
inductive ManualRecoveryTarget where
  | appxRemovals
  | exactDriverPackageRemoval
  | driverInstallation
  deriving DecidableEq, Repr

inductive ManualRecoveryAuditOutcome where
  | pending
  | verified (finalizedAt : String)
  | failed (failedAt : String)
  deriving DecidableEq

structure ManualRecoveryAudit where
  step : String
  capturedAt : String
  target : ManualRecoveryTarget
  outcome : ManualRecoveryAuditOutcome
  unknown : BTreeMap Value := ∅
  deriving DecidableEq

/-- One exact package identity removed by P1:13. -/
inductive AppxRemovalSubject where
  | installed (fullName : String)
  | provisioned (packageName : String)
  deriving DecidableEq

structure MixedRecoveryAudit where
  step : String
  capturedAt : String
  target : ManualRecoveryTarget
  manualRecoverySubjects : List AppxRemovalSubject := []
  outcome : ManualRecoveryAuditOutcome
  unknown : BTreeMap Value := ∅
  deriving DecidableEq

inductive IrreversibleAudit where
  | manual (audit : ManualRecoveryAudit)
  | mixed (audit : MixedRecoveryAudit)
  deriving DecidableEq

/-- `ManualRecoveryAudit::pending`. -/
def ManualRecoveryAudit.mkPending (step capturedAt : String)
    (target : ManualRecoveryTarget) : ManualRecoveryAudit where
  step := step
  capturedAt := capturedAt
  target := target
  outcome := .pending

/-- `MixedRecoveryAudit::pending`. -/
def MixedRecoveryAudit.mkPending (step capturedAt : String)
    (target : ManualRecoveryTarget) : MixedRecoveryAudit where
  step := step
  capturedAt := capturedAt
  target := target
  outcome := .pending

def expectedManualTarget (step : String) : Option ManualRecoveryTarget :=
  if step = "P1:13" then some .appxRemovals
  else if step = "P2:2" then some .exactDriverPackageRemoval
  else if step = "P3:1" then some .driverInstallation
  else none

namespace AppxRemovalSubject

def identity : AppxRemovalSubject → String
  | .installed fullName => fullName
  | .provisioned packageName => packageName

/-- `appx_subject_is_invalid`. -/
def isInvalid (subject : AppxRemovalSubject) : Bool :=
  subject.identity.isEmpty || byteLen subject.identity > 1024

/-- The derived order: installed packages first, then by name. -/
def lt : AppxRemovalSubject → AppxRemovalSubject → Bool
  | .installed a, .installed b => a < b
  | .installed _, .provisioned _ => true
  | .provisioned _, .installed _ => false
  | .provisioned a, .provisioned b => a < b

end AppxRemovalSubject

/-- `appx_subjects_are_valid`: valid subjects in strictly increasing order. -/
def appxSubjectsAreValid : List AppxRemovalSubject → Bool
  | [] => true
  | [subject] => !subject.isInvalid
  | subject :: next :: rest =>
      !subject.isInvalid && subject.lt next && appxSubjectsAreValid (next :: rest)

namespace IrreversibleAudit

def step : IrreversibleAudit → String
  | .manual a => a.step
  | .mixed a => a.step

def capturedAt : IrreversibleAudit → String
  | .manual a => a.capturedAt
  | .mixed a => a.capturedAt

def target : IrreversibleAudit → ManualRecoveryTarget
  | .manual a => a.target
  | .mixed a => a.target

def outcome : IrreversibleAudit → ManualRecoveryAuditOutcome
  | .manual a => a.outcome
  | .mixed a => a.outcome

/-- The recovery requirement an audit of this kind answers. -/
def requirement : IrreversibleAudit → RecoveryRequirement
  | .manual _ => .manualRecoveryAudit
  | .mixed _ => .mixed

def subjectsAreValidFor (step : String) : IrreversibleAudit → Bool
  | .mixed a => step ≠ "P1:13" || appxSubjectsAreValid a.manualRecoverySubjects
  | .manual _ => true

/-- `IrreversibleAudit::is_valid_pending_for`. -/
def isValidPendingFor (a : IrreversibleAudit) (requirement : RecoveryRequirement)
    (step : String) : Bool :=
  (requirement = a.requirement && a.step = step) && !a.capturedAt.isEmpty &&
    a.outcome = .pending && expectedManualTarget step = some a.target &&
    a.subjectsAreValidFor step

/-- `IrreversibleAudit::with_outcome`. -/
def withOutcome (outcome : ManualRecoveryAuditOutcome) :
    IrreversibleAudit → IrreversibleAudit
  | .manual a => .manual { a with outcome := outcome }
  | .mixed a => .mixed { a with outcome := outcome }

def finalized (a : IrreversibleAudit) (finalizedAt : String) : IrreversibleAudit :=
  a.withOutcome (.verified finalizedAt)

def failed (a : IrreversibleAudit) (failedAt : String) : IrreversibleAudit :=
  a.withOutcome (.failed failedAt)

/-- A valid pending audit answers exactly the requirement it was checked
for, which is one of the two irreversible ones. -/
theorem requirement_of_isValidPendingFor {a : IrreversibleAudit}
    {r : RecoveryRequirement} {step : String}
    (h : a.isValidPendingFor r step = true) : r = a.requirement := by
  simp only [isValidPendingFor, Bool.and_eq_true, decide_eq_true_eq] at h
  exact h.1.1.1.1.1

section

variable (a : IrreversibleAudit) (o : ManualRecoveryAuditOutcome)

@[simp] theorem outcome_withOutcome : (a.withOutcome o).outcome = o := by
  cases a <;> rfl

@[simp] theorem step_withOutcome : (a.withOutcome o).step = a.step := by
  cases a <;> rfl

@[simp] theorem capturedAt_withOutcome :
    (a.withOutcome o).capturedAt = a.capturedAt := by
  cases a <;> rfl

@[simp] theorem requirement_withOutcome :
    (a.withOutcome o).requirement = a.requirement := by
  cases a <;> rfl

end

end IrreversibleAudit

end FrametimeCfg.Domain
