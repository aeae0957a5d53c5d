import FrametimeCfg.Lib.Recorded
import FrametimeCfg.Northclock.Application

/-!
# The calls of an operation

The methods of a backend are recorded with their answers, beside its state.  A workflow
is short, so its records can be listed: `ApplyRun` and `RollbackRun` have one case for
each place where the workflow can end, with the calls made until then and what is known
of their answers.
-/

namespace FrametimeCfg.Verified.OperationCalls

open FrametimeCfg.Domain
open FrametimeCfg.Lib.Checks (reject_eq_ok)
open FrametimeCfg.Lib.Effect
open FrametimeCfg.Lib.Recorded
open FrametimeCfg.Northclock

/-! ## Recorded calls -/

/-- A call of a backend, with its answer. -/
inductive Call where
  | elevated (answer : Except NorthclockError Bool)
  | preview (side : OperationTarget) (request : OperationRequest)
      (answer : Except NorthclockError OperationPlan)
  | apply (side : OperationTarget) (plan : OperationPlan)
      (answer : Except NorthclockError ApplyReceipt)
  | rollback (side : OperationTarget) (receipt : ApplyReceipt)
      (answer : Except NorthclockError RollbackReceipt)
  | previewAffinity (processId : UInt32) (mask : UInt64)
      (answer : Except NorthclockError ProcessAffinityPlan)
  | applyAffinity (plan : ProcessAffinityPlan)
      (answer : Except NorthclockError ProcessAffinityReceipt)
  | rollbackAffinity (receipt : ProcessAffinityReceipt)
      (answer : Except NorthclockError ProcessAffinityRollbackReceipt)
  deriving DecidableEq

/-- The call changes nothing. -/
def Call.isRead : Call → Bool
  | .elevated _ | .preview .. | .previewAffinity .. => true
  | .apply .. | .rollback .. | .applyAffinity .. | .rollbackAffinity .. => false

/-- The call rolls something back. -/
def Call.isRollback : Call → Bool
  | .rollback .. | .rollbackAffinity .. => true
  | .elevated _ | .preview .. | .previewAffinity .. | .apply .. | .applyAffinity .. => false

variable {σ : Type}

/-- The backend beside a record of its calls. -/
def recordedBackend (backend : BackendBundle σ) : BackendBundle (σ × List Call) where
  capabilities := fun (s, log) =>
    ((backend.capabilities s).1, (backend.capabilities s).2, log)
  isElevated := recorded .elevated backend.isElevated
  previewCpuOperation request :=
    recorded (.preview .cpuCurveOptimizer request) (backend.previewCpuOperation request)
  applyCpuOperation plan :=
    recorded (.apply .cpuCurveOptimizer plan) (backend.applyCpuOperation plan)
  rollbackCpuOperation receipt :=
    recorded (.rollback .cpuCurveOptimizer receipt) (backend.rollbackCpuOperation receipt)
  previewGpuOperation request :=
    recorded (.preview .gpuTuning request) (backend.previewGpuOperation request)
  applyGpuOperation plan :=
    recorded (.apply .gpuTuning plan) (backend.applyGpuOperation plan)
  rollbackGpuOperation receipt :=
    recorded (.rollback .gpuTuning receipt) (backend.rollbackGpuOperation receipt)
  previewProcessAffinity processId mask :=
    recorded (.previewAffinity processId mask) (backend.previewProcessAffinity processId mask)
  applyProcessAffinity plan :=
    recorded (.applyAffinity plan) (backend.applyProcessAffinity plan)
  rollbackProcessAffinity receipt :=
    recorded (.rollbackAffinity receipt) (backend.rollbackProcessAffinity receipt)

section

variable {backend : BackendBundle σ} {flags : WriteFlags} {s t : σ} {log log' : List Call}

theorem preview_recorded {request : OperationRequest}
    {r : Except NorthclockError OperationPlan} :
    backendPreview (recordedBackend backend) request (s, log) = (r, (t, log')) ↔
      backendPreview backend request s = (r, t) ∧
        log' = log ++ [.preview request.target request r] := by
  unfold backendPreview
  cases request.target with
  | cpuCurveOptimizer => exact recorded_eq
  | gpuTuning => exact recorded_eq

theorem apply_recorded {plan : OperationPlan} {r : Except NorthclockError ApplyReceipt} :
    backendApply (recordedBackend backend) plan (s, log) = (r, (t, log')) ↔
      backendApply backend plan s = (r, t) ∧ log' = log ++ [.apply plan.target plan r] := by
  unfold backendApply
  cases plan.target with
  | cpuCurveOptimizer => exact recorded_eq
  | gpuTuning => exact recorded_eq

theorem rollback_recorded {receipt : ApplyReceipt}
    {r : Except NorthclockError RollbackReceipt} :
    backendRollback (recordedBackend backend) receipt (s, log) = (r, (t, log')) ↔
      backendRollback backend receipt s = (r, t) ∧
        log' = log ++ [.rollback receipt.target receipt r] := by
  unfold backendRollback
  cases receipt.target with
  | cpuCurveOptimizer => exact recorded_eq
  | gpuTuning => exact recorded_eq

/-- A write that is authorised has asked whether the process is elevated. -/
theorem authorizeWrite_ok
    (h : authorizeWrite (recordedBackend backend) flags (s, log) = (.ok (), (t, log'))) :
    ∃ elevated, flags.allow elevated = .ok () ∧ log' = log ++ [.elevated (.ok elevated)] := by
  obtain ⟨elevated, ⟨s₁, log₁⟩, hasked, hallowed⟩ := bind_eq_ok h
  obtain ⟨-, hlog⟩ := recorded_eq.mp hasked
  obtain ⟨hallow, hsame⟩ := Prod.mk.inj hallowed
  obtain ⟨-, rfl⟩ := Prod.mk.inj hsame
  exact ⟨elevated, hallow, hlog⟩

theorem authorizeWrite_error {e : NorthclockError}
    (h : authorizeWrite (recordedBackend backend) flags (s, log) = (.error e, (t, log'))) :
    ∃ answer, log' = log ++ [.elevated answer] := by
  rcases bind_eq_error h with hasked | ⟨elevated, ⟨s₁, log₁⟩, hasked, hallowed⟩
  · exact ⟨_, (recorded_eq.mp hasked).2⟩
  · obtain ⟨-, hlog⟩ := recorded_eq.mp hasked
    obtain ⟨-, hsame⟩ := Prod.mk.inj hallowed
    obtain ⟨-, rfl⟩ := Prod.mk.inj hsame
    exact ⟨_, hlog⟩

/-- A value that is returned after a check. -/
theorem checked_value {τ α : Type} {c : Except NorthclockError Unit} {v : α} {s t : τ}
    {r : Except NorthclockError α} (h : (ofExcept c >>= fun _ => pure v) s = (r, t)) :
    r = (c >>= fun _ => pure v) ∧ t = s := by
  cases c with
  | error e => exact ⟨(Prod.mk.inj h).1.symm, (Prod.mk.inj h).2.symm⟩
  | ok _ => exact ⟨(Prod.mk.inj h).1.symm, (Prod.mk.inj h).2.symm⟩

end

/-! ## What the checks decide -/

/-- Another preview returned what the plan has. -/
structure SamePlan (current plan : OperationPlan) : Prop where
  target : current.target = plan.target
  backend : current.backend = plan.backend
  requestedChanges : current.requestedChanges = plan.requestedChanges
  capturedState : current.capturedState = plan.capturedState
  hardwareVerified : current.hardwareVerified = plan.hardwareVerified

/-- The hardware has what was applied. -/
structure StillApplied (current : OperationPlan) (receipt : ApplyReceipt) : Prop where
  target : current.target = receipt.target
  backend : current.backend = receipt.backend
  requestedChanges : current.requestedChanges = receipt.requestedChanges
  capturedState : current.capturedState = receipt.readback
  hardwareVerified : current.hardwareVerified = receipt.hardwareVerified

/-- The plan answers the request, with a value for each change. -/
structure Answers (plan : OperationPlan) (request : OperationRequest) : Prop where
  id : isBlank plan.id = false
  backend : isBlank plan.backend = false
  target : plan.target = request.target
  requestedChanges : plan.requestedChanges = request.changes
  captured : plan.capturedState.isEmpty = false
  keys : plan.capturedState.keys = plan.requestedChanges.keys

theorem previewContract_eq_ok {plan : OperationPlan} {request : OperationRequest} :
    validatePreviewContract plan request = .ok () ↔ Answers plan request := by
  rw [validatePreviewContract, reject_eq_ok]
  simp only [Bool.or_eq_false_iff, decide_eq_false_iff_not, not_not, and_assoc]
  exact ⟨fun ⟨h₁, h₂, h₃, h₄, h₅, h₆⟩ => ⟨h₁, h₂, h₃, h₄, h₅, h₆⟩,
    fun h => ⟨h.id, h.backend, h.target, h.requestedChanges, h.captured, h.keys⟩⟩

/-- The receipt is the receipt of the plan. -/
structure BoundTo (receipt : ApplyReceipt) (plan : OperationPlan) : Prop where
  planId : receipt.planId = plan.id
  target : receipt.target = plan.target
  backend : receipt.backend = plan.backend
  capturedState : receipt.capturedState = plan.capturedState
  requestedChanges : receipt.requestedChanges = plan.requestedChanges
  rollbackAvailable : receipt.rollbackAvailable = true
  hardwareVerified : receipt.hardwareVerified = plan.hardwareVerified

theorem checkCurrent_eq_ok {current plan : OperationPlan} :
    checkCurrent current plan = .ok () ↔ SamePlan current plan := by
  rw [checkCurrent, reject_eq_ok]
  simp only [Bool.or_eq_false_iff, decide_eq_false_iff_not, not_not, and_assoc]
  exact ⟨fun ⟨h₁, h₂, h₃, h₄, h₅⟩ => ⟨h₁, h₂, h₃, h₄, h₅⟩,
    fun h => ⟨h.target, h.backend, h.requestedChanges, h.capturedState, h.hardwareVerified⟩⟩

theorem checkUnchanged_eq_ok {current : OperationPlan} {receipt : ApplyReceipt} :
    checkUnchanged current receipt = .ok () ↔ StillApplied current receipt := by
  rw [checkUnchanged, reject_eq_ok]
  simp only [Bool.or_eq_false_iff, decide_eq_false_iff_not, not_not, and_assoc]
  exact ⟨fun ⟨h₁, h₂, h₃, h₄, h₅⟩ => ⟨h₁, h₂, h₃, h₄, h₅⟩,
    fun h => ⟨h.target, h.backend, h.requestedChanges, h.capturedState, h.hardwareVerified⟩⟩

theorem receiptIdentity_eq_ok {receipt : ApplyReceipt} {plan : OperationPlan} :
    validateReceiptIdentity receipt plan = .ok () ↔ BoundTo receipt plan := by
  rw [validateReceiptIdentity, reject_eq_ok]
  simp only [Bool.or_eq_false_iff, decide_eq_false_iff_not, not_not, and_assoc,
    Bool.not_eq_false']
  exact ⟨fun ⟨h₁, h₂, h₃, h₄, h₅, h₆, h₇⟩ => ⟨h₁, h₂, h₃, h₄, h₅, h₆, h₇⟩,
    fun h => ⟨h.planId, h.target, h.backend, h.capturedState, h.requestedChanges,
      h.rollbackAvailable, h.hardwareVerified⟩⟩

theorem readbackPassed_iff {receipt : ApplyReceipt} :
    readbackPassed receipt = true ↔
      receipt.validationPassed = true ∧ receipt.readback = receipt.requestedChanges := by
  rw [readbackPassed, Bool.and_eq_true, decide_eq_true_eq]

/-- The rollback brought back what was captured. -/
structure Restores (rollback : RollbackReceipt) (receipt : ApplyReceipt) : Prop where
  planId : rollback.planId = receipt.planId
  backend : rollback.backend = receipt.backend
  hardwareVerified : rollback.hardwareVerified = receipt.hardwareVerified
  restoredState : rollback.restoredState = receipt.capturedState
  validationPassed : rollback.validationPassed = true
  readback : rollback.readback = rollback.restoredState

theorem rollbackReceipt_eq_ok {rollback : RollbackReceipt} {receipt : ApplyReceipt} :
    validateRollbackReceipt rollback receipt = .ok () ↔ Restores rollback receipt := by
  rw [validateRollbackReceipt, reject_eq_ok]
  simp only [Bool.or_eq_false_iff, decide_eq_false_iff_not, not_not, and_assoc,
    Bool.not_eq_false']
  exact ⟨fun ⟨h₁, h₂, h₃, h₄, h₅, h₆⟩ => ⟨h₁, h₂, h₃, h₄, h₅, h₆⟩,
    fun h => ⟨h.planId, h.backend, h.hardwareVerified, h.restoredState, h.validationPassed,
      h.readback⟩⟩

/-! ## The run of an apply -/

/-- What is known when a plan is about to be applied. -/
structure Admitted (plan : OperationPlan) (flags : WriteFlags) (current : OperationPlan)
    (elevated : Bool) : Prop where
  valid : validateApplyPlan plan (requestFromPlan plan) = .ok ()
  contract : validatePreviewContract current (requestFromPlan plan) = .ok ()
  unchanged : checkCurrent current plan = .ok ()
  allowed : flags.allow elevated = .ok ()

/-- The calls before the write. -/
def asked (request : OperationRequest) (current : OperationPlan) (elevated : Bool) :
    List Call :=
  [.preview request.target request (.ok current), .elevated (.ok elevated)]

/-- **The runs of an apply**: the calls, and the result. -/
inductive ApplyRun (plan : OperationPlan) (flags : WriteFlags) :
    List Call → Except NorthclockError Value → Prop
  | refused (calls : List Call) (hreads : ∀ call ∈ calls, call.isRead = true)
      (e : NorthclockError) : ApplyRun plan flags calls (.error e)
  | failed (current : OperationPlan) (elevated : Bool)
      (h : Admitted plan flags current elevated) (e : NorthclockError) :
      ApplyRun plan flags
        (asked (requestFromPlan plan) current elevated ++ [.apply plan.target plan (.error e)])
        (.error e)
  | inconsistent (current : OperationPlan) (elevated : Bool)
      (h : Admitted plan flags current elevated) (receipt : ApplyReceipt)
      (e : NorthclockError) (hidentity : validateReceiptIdentity receipt plan = .error e) :
      ApplyRun plan flags
        (asked (requestFromPlan plan) current elevated ++
          [.apply plan.target plan (.ok receipt)]) (.error e)
  | compensated (current : OperationPlan) (elevated : Bool)
      (h : Admitted plan flags current elevated) (receipt : ApplyReceipt)
      (hidentity : validateReceiptIdentity receipt plan = .ok ())
      (hreadback : readbackPassed receipt = false)
      (answer : Except NorthclockError RollbackReceipt) :
      ApplyRun plan flags
        (asked (requestFromPlan plan) current elevated ++
          [.apply plan.target plan (.ok receipt), .rollback receipt.target receipt answer])
        (.error (failedReadback receipt answer))
  | applied (current : OperationPlan) (elevated : Bool)
      (h : Admitted plan flags current elevated) (receipt : ApplyReceipt)
      (hidentity : validateReceiptIdentity receipt plan = .ok ())
      (hreadback : readbackPassed receipt = true) :
      ApplyRun plan flags
        (asked (requestFromPlan plan) current elevated ++
          [.apply plan.target plan (.ok receipt)]) (.ok (ApplyReceipt.codec.write receipt))

section

variable {backend : BackendBundle σ} {flags : WriteFlags} {s t : σ} {calls : List Call}
  {r : Except NorthclockError Value}

/-- The write and what follows it. -/
theorem applyRun_written {plan current : OperationPlan} {elevated : Bool}
    (hadmitted : Admitted plan flags current elevated)
    (h : (do
      let receipt ← backendApply (recordedBackend backend) plan
      ofExcept (validateReceiptIdentity receipt plan)
      if readbackPassed receipt then return ApplyReceipt.codec.write receipt
      else rollbackAfterFailedReadback (recordedBackend backend) receipt)
        (s, asked (requestFromPlan plan) current elevated) = (r, (t, calls))) :
    ApplyRun plan flags calls r := by
  rcases bind_cases h with ⟨e, hwrite, rfl⟩ | ⟨receipt, ⟨s₁, log₁⟩, hwrite, h⟩
  · obtain ⟨-, rfl⟩ := apply_recorded.mp hwrite
    exact .failed current elevated hadmitted e
  · obtain ⟨-, rfl⟩ := apply_recorded.mp hwrite
    rcases check_cases h with ⟨e, hidentity, rfl, hsame⟩ | ⟨_, hidentity, h⟩
    · obtain ⟨-, rfl⟩ := Prod.mk.inj hsame
      exact .inconsistent current elevated hadmitted receipt e hidentity
    · cases hreadback : readbackPassed receipt with
      | true =>
          rw [hreadback, if_pos rfl] at h
          obtain ⟨rfl, hsame⟩ := Prod.mk.inj h
          obtain ⟨-, rfl⟩ := Prod.mk.inj hsame
          exact .applied current elevated hadmitted receipt hidentity hreadback
      | false =>
          rw [hreadback, if_neg Bool.false_ne_true] at h
          rcases bind_cases h with ⟨e, hcalled, -⟩ | ⟨answer, ⟨s₂, log₂⟩, hcalled, h⟩
          · rw [attempt] at hcalled
            cases hcalled
          · obtain ⟨-, rfl⟩ := rollback_recorded.mp (attempt_eq_ok.mp hcalled)
            obtain ⟨rfl, hsame⟩ := Prod.mk.inj h
            obtain ⟨-, rfl⟩ := Prod.mk.inj hsame
            rw [List.append_assoc]
            exact .compensated current elevated hadmitted receipt hidentity hreadback answer

/-- **Every run of an apply is listed.** -/
theorem apply_run {plan : OperationPlan}
    (h : apply (recordedBackend backend) plan flags (s, []) = (r, (t, calls))) :
    ApplyRun plan flags calls r := by
  rcases check_cases h with ⟨e, -, rfl, hsame⟩ | ⟨_, hvalid, h⟩
  · obtain ⟨-, rfl⟩ := Prod.mk.inj hsame
    exact .refused [] (by simp) e
  rcases bind_cases h with ⟨e, hpreview, rfl⟩ | ⟨current, ⟨s₁, log₁⟩, hpreview, h⟩
  · obtain ⟨-, rfl⟩ := preview_recorded.mp hpreview
    exact .refused _ (by simp [Call.isRead]) e
  obtain ⟨-, rfl⟩ := preview_recorded.mp hpreview
  rcases check_cases h with ⟨e, -, rfl, hsame⟩ | ⟨_, hcontract, h⟩
  · obtain ⟨-, rfl⟩ := Prod.mk.inj hsame
    exact .refused _ (by simp [Call.isRead]) e
  rcases check_cases h with ⟨e, -, rfl, hsame⟩ | ⟨_, hunchanged, h⟩
  · obtain ⟨-, rfl⟩ := Prod.mk.inj hsame
    exact .refused _ (by simp [Call.isRead]) e
  rcases bind_cases h with ⟨e, hallowed, rfl⟩ | ⟨_, ⟨s₂, log₂⟩, hallowed, h⟩
  · obtain ⟨answer, rfl⟩ := authorizeWrite_error hallowed
    exact .refused _ (by simp [Call.isRead]) e
  · obtain ⟨elevated, hallow, rfl⟩ := authorizeWrite_ok hallowed
    exact applyRun_written ⟨hvalid, hcontract, hunchanged, hallow⟩ h

end

/-! ## The run of a rollback -/

/-- The request that a receipt is the receipt of. -/
def requestOf (receipt : ApplyReceipt) : OperationRequest where
  target := receipt.target
  changes := receipt.requestedChanges

/-- What is known when a receipt is about to be rolled back. -/
structure Fresh (receipt : ApplyReceipt) (flags : WriteFlags) (current : OperationPlan)
    (elevated : Bool) : Prop where
  valid : validateRollbackInput receipt = .ok ()
  contract : validatePreviewContract current (requestOf receipt) = .ok ()
  unchanged : checkUnchanged current receipt = .ok ()
  allowed : flags.allow elevated = .ok ()

/-- The result of a rollback whose call was answered. -/
def rolledBack (receipt : ApplyReceipt) (answer : Except NorthclockError RollbackReceipt) :
    Except NorthclockError Value := do
  let rollback ← answer
  validateRollbackReceipt rollback receipt
  return RollbackReceipt.codec.write rollback

/-- **The runs of a rollback**: the calls, and the result. -/
inductive RollbackRun (receipt : ApplyReceipt) (flags : WriteFlags) :
    List Call → Except NorthclockError Value → Prop
  | refused (calls : List Call) (hreads : ∀ call ∈ calls, call.isRead = true)
      (e : NorthclockError) : RollbackRun receipt flags calls (.error e)
  | called (current : OperationPlan) (elevated : Bool)
      (h : Fresh receipt flags current elevated)
      (answer : Except NorthclockError RollbackReceipt) :
      RollbackRun receipt flags
        (asked (requestOf receipt) current elevated ++ [.rollback receipt.target receipt answer])
        (rolledBack receipt answer)

section

variable {backend : BackendBundle σ} {flags : WriteFlags} {s t : σ} {calls : List Call}
  {r : Except NorthclockError Value}

/-- **Every run of a rollback is listed.** -/
theorem rollback_run {receipt : ApplyReceipt}
    (h : rollback (recordedBackend backend) receipt flags (s, []) = (r, (t, calls))) :
    RollbackRun receipt flags calls r := by
  rcases check_cases h with ⟨e, -, rfl, hsame⟩ | ⟨_, hvalid, h⟩
  · obtain ⟨-, rfl⟩ := Prod.mk.inj hsame
    exact .refused [] (by simp) e
  rcases bind_cases h with ⟨e, hpreview, rfl⟩ | ⟨current, ⟨s₁, log₁⟩, hpreview, h⟩
  · obtain ⟨-, rfl⟩ := preview_recorded.mp hpreview
    exact .refused _ (by simp [Call.isRead]) e
  obtain ⟨-, rfl⟩ := preview_recorded.mp hpreview
  rcases check_cases h with ⟨e, -, rfl, hsame⟩ | ⟨_, hcontract, h⟩
  · obtain ⟨-, rfl⟩ := Prod.mk.inj hsame
    exact .refused _ (by simp [Call.isRead]) e
  rcases check_cases h with ⟨e, -, rfl, hsame⟩ | ⟨_, hunchanged, h⟩
  · obtain ⟨-, rfl⟩ := Prod.mk.inj hsame
    exact .refused _ (by simp [Call.isRead]) e
  rcases bind_cases h with ⟨e, hallowed, rfl⟩ | ⟨_, ⟨s₂, log₂⟩, hallowed, h⟩
  · obtain ⟨answer, rfl⟩ := authorizeWrite_error hallowed
    exact .refused _ (by simp [Call.isRead]) e
  obtain ⟨elevated, hallow, rfl⟩ := authorizeWrite_ok hallowed
  have hfresh : Fresh receipt flags current elevated :=
    ⟨hvalid, hcontract, hunchanged, hallow⟩
  rcases bind_cases h with ⟨e, hcalled, rfl⟩ | ⟨answer, ⟨s₃, log₃⟩, hcalled, h⟩
  · obtain ⟨-, rfl⟩ := rollback_recorded.mp hcalled
    exact .called current elevated hfresh (.error e)
  · obtain ⟨-, rfl⟩ := rollback_recorded.mp hcalled
    obtain ⟨rfl, hsame⟩ := checked_value h
    obtain ⟨-, rfl⟩ := Prod.mk.inj hsame
    exact .called current elevated hfresh (.ok answer)

/-! ## The run of an affinity -/

/-- The result of an affinity whose call was answered. -/
def appliedAffinity (plan : ProcessAffinityPlan)
    (answer : Except NorthclockError ProcessAffinityReceipt) :
    Except NorthclockError Value := do
  let receipt ← answer
  checkAffinityReceipt receipt plan
  return ProcessAffinityReceipt.codec.write receipt

/-- **The runs of an affinity apply**: the calls, and the result. -/
inductive AffinityRun (plan : ProcessAffinityPlan) :
    List Call → Except NorthclockError Value → Prop
  | refused (calls : List Call) (hreads : ∀ call ∈ calls, call.isRead = true)
      (e : NorthclockError) : AffinityRun plan calls (.error e)
  | called (before : List Call) (hreads : ∀ call ∈ before, call.isRead = true)
      (answer : Except NorthclockError ProcessAffinityReceipt) :
      AffinityRun plan (before ++ [.applyAffinity plan answer]) (appliedAffinity plan answer)

/-- **Every run of an affinity apply is listed.** -/
theorem affinity_run {plan : ProcessAffinityPlan}
    (h : affinityApply (recordedBackend backend) plan flags (s, []) = (r, (t, calls))) :
    AffinityRun plan calls r := by
  rcases check_cases h with ⟨e, -, rfl, hsame⟩ | ⟨_, -, h⟩
  · obtain ⟨-, rfl⟩ := Prod.mk.inj hsame
    exact .refused [] (by simp) e
  rcases check_cases h with ⟨e, -, rfl, hsame⟩ | ⟨_, -, h⟩
  · obtain ⟨-, rfl⟩ := Prod.mk.inj hsame
    exact .refused [] (by simp) e
  rcases bind_cases h with ⟨e, hpreview, rfl⟩ | ⟨current, ⟨s₁, log₁⟩, hpreview, h⟩
  · obtain ⟨-, rfl⟩ := recorded_eq.mp hpreview
    exact .refused _ (by simp [Call.isRead]) e
  obtain ⟨-, rfl⟩ := recorded_eq.mp hpreview
  rcases check_cases h with ⟨e, -, rfl, hsame⟩ | ⟨_, -, h⟩
  · obtain ⟨-, rfl⟩ := Prod.mk.inj hsame
    exact .refused _ (by simp [Call.isRead]) e
  rcases bind_cases h with ⟨e, hallowed, rfl⟩ | ⟨_, ⟨s₂, log₂⟩, hallowed, h⟩
  · obtain ⟨answer, rfl⟩ := authorizeWrite_error hallowed
    exact .refused _ (by simp [Call.isRead]) e
  obtain ⟨elevated, -, rfl⟩ := authorizeWrite_ok hallowed
  rcases bind_cases h with ⟨e, hcalled, rfl⟩ | ⟨receipt, ⟨s₃, log₃⟩, hcalled, h⟩
  · obtain ⟨-, rfl⟩ := recorded_eq.mp hcalled
    exact .called _ (by simp [Call.isRead]) (.error e)
  · obtain ⟨-, rfl⟩ := recorded_eq.mp hcalled
    obtain ⟨rfl, hsame⟩ := checked_value h
    obtain ⟨-, rfl⟩ := Prod.mk.inj hsame
    exact .called _ (by simp [Call.isRead]) (.ok receipt)

end

/-! ## Runs without the record -/

section

variable (backend : BackendBundle σ) (flags : WriteFlags) (s : σ)

theorem mirrors_preview (request : OperationRequest) :
    Mirrors (backendPreview (recordedBackend backend) request)
      (backendPreview backend request) := by
  unfold backendPreview
  cases request.target with
  | cpuCurveOptimizer => exact Mirrors.recorded _ _
  | gpuTuning => exact Mirrors.recorded _ _

theorem mirrors_backendApply (plan : OperationPlan) :
    Mirrors (backendApply (recordedBackend backend) plan) (backendApply backend plan) := by
  unfold backendApply
  cases plan.target with
  | cpuCurveOptimizer => exact Mirrors.recorded _ _
  | gpuTuning => exact Mirrors.recorded _ _

theorem mirrors_backendRollback (receipt : ApplyReceipt) :
    Mirrors (backendRollback (recordedBackend backend) receipt)
      (backendRollback backend receipt) := by
  unfold backendRollback
  cases receipt.target with
  | cpuCurveOptimizer => exact Mirrors.recorded _ _
  | gpuTuning => exact Mirrors.recorded _ _

theorem mirrors_authorizeWrite :
    Mirrors (authorizeWrite (recordedBackend backend) flags) (authorizeWrite backend flags) :=
  (Mirrors.recorded _ _).bind fun _ => Mirrors.ofExcept _

/-- Recording the calls changes no apply. -/
theorem mirrors_apply (plan : OperationPlan) :
    Mirrors (apply (recordedBackend backend) plan flags) (apply backend plan flags) := by
  apply (Mirrors.ofExcept _).bind
  intro _
  apply (mirrors_preview backend _).bind
  intro current
  apply (Mirrors.ofExcept _).bind
  intro _
  apply (Mirrors.ofExcept _).bind
  intro _
  apply (mirrors_authorizeWrite backend flags).bind
  intro _
  apply (mirrors_backendApply backend plan).bind
  intro receipt
  apply (Mirrors.ofExcept _).bind
  intro _
  by_cases hreadback : readbackPassed receipt = true
  · rw [if_pos hreadback, if_pos hreadback]
    exact Mirrors.pure _
  · rw [if_neg hreadback, if_neg hreadback]
    exact (mirrors_backendRollback backend receipt).attempt.bind fun _ => Mirrors.raise _

/-- Recording the calls changes no rollback. -/
theorem mirrors_rollback (receipt : ApplyReceipt) :
    Mirrors (rollback (recordedBackend backend) receipt flags)
      (rollback backend receipt flags) := by
  apply (Mirrors.ofExcept _).bind
  intro _
  apply (mirrors_preview backend _).bind
  intro current
  apply (Mirrors.ofExcept _).bind
  intro _
  apply (Mirrors.ofExcept _).bind
  intro _
  apply (mirrors_authorizeWrite backend flags).bind
  intro _
  apply (mirrors_backendRollback backend receipt).bind
  intro answer
  exact (Mirrors.ofExcept _).bind fun _ => Mirrors.pure _

/-- Recording the calls changes no affinity apply. -/
theorem mirrors_affinityApply (plan : ProcessAffinityPlan) :
    Mirrors (affinityApply (recordedBackend backend) plan flags)
      (affinityApply backend plan flags) := by
  apply (Mirrors.ofExcept _).bind
  intro _
  apply (Mirrors.ofExcept _).bind
  intro _
  apply (Mirrors.recorded _ _).bind
  intro current
  apply (Mirrors.ofExcept _).bind
  intro _
  apply (mirrors_authorizeWrite backend flags).bind
  intro _
  apply (Mirrors.recorded _ _).bind
  intro receipt
  exact (Mirrors.ofExcept _).bind fun _ => Mirrors.pure _

theorem mirrors_capability (name : String) :
    Mirrors (capability (recordedBackend backend) name) (capability backend name) :=
  fun _ _ => ⟨rfl, rfl⟩

theorem mirrors_underReport (report : CapabilityReport)
    {m' : Prog (σ × List Call) NorthclockError Value} {m : Prog σ NorthclockError Value}
    (h : Mirrors m' m) : Mirrors (underReport report m') (underReport report m) := by
  unfold underReport
  by_cases husable : report.isUsable = true
  · rw [if_pos husable, if_pos husable]
    exact (h.relabel _).bind fun _ => Mirrors.pure _
  · rw [if_neg husable, if_neg husable]
    exact Mirrors.raise _

/-- Recording the calls changes no command. -/
theorem mirrors_processAffinityApply (plan : ProcessAffinityPlan) :
    Mirrors (processAffinityApply (recordedBackend backend) plan flags)
      (processAffinityApply backend plan flags) :=
  (mirrors_capability backend _).bind fun report =>
    mirrors_underReport report (mirrors_affinityApply backend flags plan)

/-- The calls of an apply. -/
def applyCalls (plan : OperationPlan) : List Call :=
  calls (apply (recordedBackend backend) plan flags) s

/-- The calls of a rollback. -/
def rollbackCalls (receipt : ApplyReceipt) : List Call :=
  calls (rollback (recordedBackend backend) receipt flags) s

/-- The calls of an affinity apply. -/
def affinityCalls (plan : ProcessAffinityPlan) : List Call :=
  calls (processAffinityApply (recordedBackend backend) plan flags) s

/-- The error of a result. -/
def errorOf {ε α : Type} : Except ε α → Option ε
  | .ok _ => none
  | .error e => some e

theorem applyRun (plan : OperationPlan) :
    ApplyRun plan flags (applyCalls backend flags s plan) (apply backend plan flags s).1 :=
  apply_run ((mirrors_apply backend flags plan).run s)

theorem rollbackRun (receipt : ApplyReceipt) :
    RollbackRun receipt flags (rollbackCalls backend flags s receipt)
      (rollback backend receipt flags s).1 :=
  rollback_run ((mirrors_rollback backend flags receipt).run s)

/-- A command for an affinity runs as the affinity does, or does not call. -/
theorem affinityRun (plan : ProcessAffinityPlan) :
    ∃ r, AffinityRun plan (affinityCalls backend flags s plan) r ∧
      (errorOf (processAffinityApply backend plan flags s).1).map Prod.snd = errorOf r := by
  have hrun := (mirrors_processAffinityApply backend flags plan).run s
  rcases bind_cases hrun with ⟨e, hreport, -⟩ | ⟨report, ⟨s₁, log₁⟩, hreport, h⟩
  · cases (Prod.mk.inj hreport).1
  obtain ⟨-, hsame⟩ := Prod.mk.inj hreport
  obtain ⟨-, rfl⟩ := Prod.mk.inj hsame
  by_cases husable : report.isUsable = true
  · rw [underReport, if_pos husable] at h
    rcases bind_cases h with ⟨e, hfailed, hresult⟩ | ⟨v, ⟨s₂, log₂⟩, hreturned, hvalue⟩
    · obtain ⟨e', hstopped, rfl⟩ := relabel_eq_error.mp hfailed
      refine ⟨.error e', affinity_run hstopped, ?_⟩
      rw [hresult]
      rfl
    · obtain ⟨hresult, hsame⟩ := Prod.mk.inj hvalue
      obtain ⟨-, hcalls⟩ := Prod.mk.inj hsame
      refine ⟨.ok v, ?_, ?_⟩
      · rw [affinityCalls, ← hcalls]
        exact affinity_run (relabel_eq_ok.mp hreturned)
      · rw [← hresult]
        rfl
  · rw [underReport, if_neg husable] at h
    obtain ⟨hresult, hsame⟩ := Prod.mk.inj h
    obtain ⟨-, hcalls⟩ := Prod.mk.inj hsame
    refine ⟨.error (unusableCapabilityError report), ?_, ?_⟩
    · rw [affinityCalls, ← hcalls]
      exact .refused [] (by simp) _
    · rw [← hresult]
      rfl

end

end FrametimeCfg.Verified.OperationCalls
