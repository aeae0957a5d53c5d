import FrametimeCfg.Verified.OperationCalls

/-!
# The rollback of what was applied

A rollback asks of the receipt that was applied what the apply has checked already, and
one thing more: that the captured values, which it writes back, are within the bounds.
Nobody asks that of the hardware when the plan is made or applied, so that a write over
a value out of bounds cannot be taken back.
-/

namespace FrametimeCfg.Verified.OperationInverse

open FrametimeCfg.Domain
open FrametimeCfg.Lib.Checks (reject_eq_ok check_bind_eq_ok)
open FrametimeCfg.Lib.Effect
open FrametimeCfg.Northclock
open FrametimeCfg.Verified.OperationCalls

variable {σ τ : Type}

/-! ## The checks of a rollback -/

/-- A receipt with everything that a rollback asks for, but for the bounds. -/
structure Complete (receipt : ApplyReceipt) : Prop where
  planId : isBlank receipt.planId = false
  backend : isBlank receipt.backend = false
  rollbackAvailable : receipt.rollbackAvailable = true
  validationPassed : receipt.validationPassed = true
  captured : receipt.capturedState.isEmpty = false
  requested : receipt.requestedChanges.isEmpty = false
  readback : receipt.readback = receipt.requestedChanges
  keys : receipt.capturedState.keys = receipt.requestedChanges.keys

/-- The captured values are within the bounds of the target. -/
def CapturedInBounds (receipt : ApplyReceipt) : Prop :=
  SafetyPolicy.validate { target := receipt.target, changes := receipt.capturedState } = .ok ()

theorem rollbackInput_eq_ok {receipt : ApplyReceipt} :
    validateRollbackInput receipt = .ok () ↔ Complete receipt ∧
      SafetyPolicy.validate (requestOf receipt) = .ok () ∧ CapturedInBounds receipt := by
  rw [validateRollbackInput, check_bind_eq_ok, check_bind_eq_ok, reject_eq_ok]
  refine and_congr ?_ Iff.rfl
  simp only [Bool.or_eq_false_iff, decide_eq_false_iff_not, not_not, and_assoc,
    Bool.not_eq_false']
  exact ⟨fun ⟨h₁, h₂, h₃, h₄, h₅, h₆, h₇, h₈⟩ => ⟨h₁, h₂, h₃, h₄, h₅, h₆, h₇, h₈⟩,
    fun h => ⟨h.planId, h.backend, h.rollbackAvailable, h.validationPassed, h.captured,
      h.requested, h.readback, h.keys⟩⟩

/-! ## What was applied -/

/-- A preview that returns has a plan that answers the request. -/
theorem previewed {backend : BackendBundle σ} {request : OperationRequest} {s : σ} {v : Value}
    {plan : OperationPlan} (h : (preview backend request s).1 = .ok v)
    (hread : OperationPlan.codec.read v = some plan) : Answers plan request := by
  rcases hrun : preview backend request s with ⟨r, t⟩
  rw [hrun] at h
  obtain rfl : r = .ok v := h
  obtain ⟨_, s₁, -, hrun⟩ := bind_eq_ok hrun
  obtain ⟨seen, s₂, -, hrun⟩ := bind_eq_ok hrun
  obtain ⟨_, s₃, hcontract, hreturn⟩ := bind_eq_ok hrun
  obtain rfl := Except.ok.inj (Prod.mk.inj hreturn).1
  rw [OperationPlan.codec_roundTrip] at hread
  obtain rfl := Option.some.inj hread
  have hanswers := previewContract_eq_ok.mp (Prod.mk.inj hcontract).1
  exact ⟨hanswers.id, hanswers.backend, hanswers.target, hanswers.requestedChanges,
    hanswers.captured, hanswers.keys⟩

/-- What an apply has checked when it returns. -/
structure Applied (plan : OperationPlan) (receipt : ApplyReceipt) : Prop where
  bounds : SafetyPolicy.validate (requestFromPlan plan) = .ok ()
  answers : Answers plan (requestFromPlan plan)
  bound : BoundTo receipt plan
  validationPassed : receipt.validationPassed = true
  readback : receipt.readback = receipt.requestedChanges

theorem applied {backend : BackendBundle σ} {plan : OperationPlan} {flags : WriteFlags} {s : σ}
    {w : Value} {receipt : ApplyReceipt} (h : (apply backend plan flags s).1 = .ok w)
    (hread : ApplyReceipt.codec.read w = some receipt) : Applied plan receipt := by
  have hrun := applyRun backend flags s plan
  rw [h] at hrun
  generalize applyCalls backend flags s plan = calls at hrun
  cases hrun with
  | applied current elevated hadmitted receipt' hidentity hreadback =>
      rw [ApplyReceipt.codec_roundTrip] at hread
      obtain rfl := Option.some.inj hread
      have hvalid := (check_bind_eq_ok.mp hadmitted.valid).2
      obtain ⟨hbounds, hcontract⟩ := check_bind_eq_ok.mp hvalid
      obtain ⟨hpassed, hsame⟩ := readbackPassed_iff.mp hreadback
      exact ⟨hbounds, previewContract_eq_ok.mp hcontract, receiptIdentity_eq_ok.mp hidentity,
        hpassed, hsame⟩

/-- The requested values are not empty, being within bounds. -/
theorem Applied.requested {plan : OperationPlan} {receipt : ApplyReceipt}
    (h : Applied plan receipt) : plan.requestedChanges.isEmpty = false :=
  (SafetyPolicy.validate_eq_ok.mp h.bounds).1

theorem Applied.complete {plan : OperationPlan} {receipt : ApplyReceipt}
    (h : Applied plan receipt) : Complete receipt where
  planId := by rw [h.bound.planId]; exact h.answers.id
  backend := by rw [h.bound.backend]; exact h.answers.backend
  rollbackAvailable := h.bound.rollbackAvailable
  validationPassed := h.validationPassed
  captured := by rw [h.bound.capturedState]; exact h.answers.captured
  requested := by rw [h.bound.requestedChanges]; exact h.requested
  readback := h.readback
  keys := by rw [h.bound.capturedState, h.bound.requestedChanges]; exact h.answers.keys

theorem Applied.requestOf {plan : OperationPlan} {receipt : ApplyReceipt}
    (h : Applied plan receipt) : requestOf receipt = requestFromPlan plan := by
  rw [OperationCalls.requestOf, requestFromPlan, h.bound.target, h.bound.requestedChanges]

/-- **The check that is left**: the rollback refuses a receipt that was applied exactly
when its captured values are out of bounds. -/
theorem Applied.rollbackInput {plan : OperationPlan} {receipt : ApplyReceipt}
    (h : Applied plan receipt) :
    validateRollbackInput receipt = .ok () ↔ CapturedInBounds receipt := by
  rw [rollbackInput_eq_ok, and_iff_right h.complete, and_iff_right]
  rw [h.requestOf]
  exact h.bounds

/-! ## The rollback -/

/-- A backend that reports what was applied as captured, admits the write and rolls it
back, and whose receipt says so. -/
def RollsBack (backend : BackendBundle τ) (flags : WriteFlags) (receipt : ApplyReceipt)
    (undone : RollbackReceipt) (u : τ) : Prop :=
  ∃ current u₁ u₂ u₃, backendPreview backend (requestOf receipt) u = (.ok current, u₁) ∧
    isBlank current.id = false ∧ StillApplied current receipt ∧
    authorizeWrite backend flags u₁ = (.ok (), u₂) ∧
    backendRollback backend receipt u₂ = (.ok undone, u₃) ∧ Restores undone receipt

theorem rollback_ok {backend : BackendBundle τ} {flags : WriteFlags} {receipt : ApplyReceipt}
    {undone : RollbackReceipt} {u : τ} (hcomplete : Complete receipt)
    (hinput : validateRollbackInput receipt = .ok ())
    (h : RollsBack backend flags receipt undone u) :
    (rollback backend receipt flags u).1 = .ok (RollbackReceipt.codec.write undone) := by
  obtain ⟨current, u₁, u₂, u₃, hpreview, hid, hstill, hallowed, hcalled, hrestores⟩ := h
  have hcontract : validatePreviewContract current (requestOf receipt) = .ok () := by
    apply previewContract_eq_ok.mpr
    have hstate := hstill.capturedState.trans hcomplete.readback
    constructor
    · exact hid
    · rw [hstill.backend]
      exact hcomplete.backend
    · exact hstill.target
    · exact hstill.requestedChanges
    · rw [hstate]
      exact hcomplete.requested
    · rw [hstate, hstill.requestedChanges]
  have hchecked := checkUnchanged_eq_ok.mpr hstill
  have hpassed := rollbackReceipt_eq_ok.mpr hrestores
  show ((ofExcept (validateRollbackInput receipt) >>= fun _ => _) u).1 = _
  rw [hinput]
  show ((backendPreview backend (requestOf receipt) >>= fun current => _) u).1 = _
  rw [bind_apply_ok hpreview]
  show ((ofExcept (validatePreviewContract current (requestOf receipt)) >>= fun _ => _) u₁).1 = _
  rw [hcontract]
  show ((ofExcept (checkUnchanged current receipt) >>= fun _ => _) u₁).1 = _
  rw [hchecked]
  show ((authorizeWrite backend flags >>= fun _ => _) u₁).1 = _
  rw [bind_apply_ok hallowed, bind_apply_ok hcalled]
  show ((ofExcept (validateRollbackReceipt undone receipt) >>= fun _ => _) u₃).1 = _
  rw [hpassed]
  rfl

/-- A receipt that is refused is not rolled back. -/
theorem rollbackInput_of_ok {backend : BackendBundle τ} {flags : WriteFlags}
    {receipt : ApplyReceipt} {u : τ} {v : Value}
    (h : (rollback backend receipt flags u).1 = .ok v) :
    validateRollbackInput receipt = .ok () := by
  cases hinput : validateRollbackInput receipt with
  | ok _ => rfl
  | error e =>
      have hrefused : rollback backend receipt flags u = (.error e, u) := by
        show (ofExcept (validateRollbackInput receipt) >>= fun _ => _) u = _
        rw [hinput]
        rfl
      rw [hrefused] at h
      cases h

/-- **What was applied can be rolled back exactly when the captured values are within
the bounds.**  The plan and the receipt are read from their documents. -/
theorem operationInverse (backend : BackendBundle σ) (later : BackendBundle τ)
    (request : OperationRequest) (flags : WriteFlags) (s s' : σ) (u : τ) (v w : Value)
    (plan : OperationPlan) (receipt : ApplyReceipt) (undone : RollbackReceipt)
    (hpreview : (preview backend request s).1 = .ok v)
    (hplan : OperationPlan.codec.read v = some plan)
    (happly : (apply backend plan flags s').1 = .ok w)
    (hreceipt : ApplyReceipt.codec.read w = some receipt)
    (hlater : RollsBack later flags receipt undone u) :
    ((rollback later receipt flags u).1 = .ok (RollbackReceipt.codec.write undone) ∧
        undone.restoredState = plan.capturedState) ↔
      SafetyPolicy.validate { target := request.target, changes := plan.capturedState } =
        .ok () := by
  have hanswers := previewed hpreview hplan
  have happlied := applied happly hreceipt
  have hbounds : CapturedInBounds receipt ↔ SafetyPolicy.validate
      { target := request.target, changes := plan.capturedState } = .ok () := by
    rw [CapturedInBounds, happlied.bound.target, happlied.bound.capturedState,
      hanswers.target]
  have hrestored : undone.restoredState = plan.capturedState := by
    obtain ⟨_, _, _, _, -, -, -, -, -, hrestores⟩ := hlater
    exact hrestores.restoredState.trans happlied.bound.capturedState
  rw [← hbounds, ← happlied.rollbackInput]
  constructor
  · intro h
    exact rollbackInput_of_ok h.1
  · intro hinput
    exact ⟨rollback_ok happlied.complete hinput hlater, hrestored⟩

/-! ## A processor with one value -/

private def curve (value : Int64) : Lib.OrderedMap.BTreeMap Int64 :=
  Std.ExtTreeMap.ofList [("curve_optimizer", value)]

private def curveRequest (value : Int64) : OperationRequest where
  target := .cpuCurveOptimizer
  changes := curve value

private def curvePlan (request : OperationRequest) (value : Int64) : OperationPlan where
  id := "plan-1"
  target := .cpuCurveOptimizer
  backend := "fixture"
  requestedChanges := request.changes
  capturedState := curve value
  boundsValidated := false
  hardwareVerified := false

private def curveReceipt (plan : OperationPlan) : ApplyReceipt where
  planId := plan.id
  target := plan.target
  capturedState := plan.capturedState
  requestedChanges := plan.requestedChanges
  readback := plan.requestedChanges
  validationPassed := true
  rollbackAvailable := true
  backend := plan.backend
  hardwareVerified := plan.hardwareVerified

private def curveUndone (receipt : ApplyReceipt) : RollbackReceipt where
  planId := receipt.planId
  restoredState := receipt.capturedState
  readback := receipt.capturedState
  validationPassed := true
  backend := receipt.backend
  hardwareVerified := receipt.hardwareVerified

/-- A processor whose state is its curve. -/
private def curveBackend : BackendBundle Int64 where
  capabilities s := ([], s)
  isElevated := pure true
  previewCpuOperation request := gets (curvePlan request)
  applyCpuOperation plan := fun s =>
    (.ok (curveReceipt plan), plan.requestedChanges["curve_optimizer"]?.getD s)
  rollbackCpuOperation receipt := fun s =>
    (.ok (curveUndone receipt), receipt.capturedState["curve_optimizer"]?.getD s)
  previewGpuOperation _ := raise (.unavailable "no graphics card")
  applyGpuOperation _ := raise (.unavailable "no graphics card")
  rollbackGpuOperation _ := raise (.unavailable "no graphics card")
  previewProcessAffinity _ _ := raise (.unavailable "no process")
  applyProcessAffinity _ := raise (.unavailable "no process")
  rollbackProcessAffinity _ := raise (.unavailable "no process")

private def tuningFlags : WriteFlags where
  experimentalHardwareWrites := true
  experimental := true
  apply := true
  riskAcknowledgement := some RISK_ACKNOWLEDGEMENT

/-- The plan of a change to -10, after its preview. -/
private def tuningPlan (value : Int64) : OperationPlan :=
  { curvePlan (curveRequest (-10)) value with boundsValidated := true }

private theorem tuning_rollsBack (value : Int64) :
    RollsBack curveBackend tuningFlags (curveReceipt (tuningPlan value))
      (curveUndone (curveReceipt (tuningPlan value))) (-10) := by
  have hallowed : authorizeWrite curveBackend tuningFlags (-10) = (.ok (), -10) := by
    decide +kernel
  exact ⟨curvePlan (curveRequest (-10)) (-10), -10, -10, _, rfl, by decide,
    ⟨rfl, rfl, rfl, rfl, rfl⟩, hallowed, rfl, ⟨rfl, rfl, rfl, rfl, rfl, rfl⟩⟩

/-- A curve of 0 comes back. -/
theorem operationInverse_sample :
    (rollback curveBackend (curveReceipt (tuningPlan 0)) tuningFlags (-10)).1 =
      .ok (RollbackReceipt.codec.write (curveUndone (curveReceipt (tuningPlan 0)))) := by
  refine ((operationInverse curveBackend curveBackend (curveRequest (-10)) tuningFlags 0 0 (-10)
    _ _ (tuningPlan 0) (curveReceipt (tuningPlan 0)) _ ?_ (OperationPlan.codec_roundTrip _) ?_
    (ApplyReceipt.codec_roundTrip _) (tuning_rollsBack 0)).mpr ?_).1
  · decide +kernel
  · decide +kernel
  · decide +kernel

/-- A curve of 60 does not, whoever set it. -/
theorem wideCurve_stays :
    ¬ ∀ {σ τ : Type} (backend : BackendBundle σ) (later : BackendBundle τ)
        (request : OperationRequest) (flags : WriteFlags) (s s' : σ) (u : τ) (v w : Value)
        (plan : OperationPlan) (receipt : ApplyReceipt) (undone : RollbackReceipt),
        (preview backend request s).1 = .ok v → OperationPlan.codec.read v = some plan →
        (apply backend plan flags s').1 = .ok w → ApplyReceipt.codec.read w = some receipt →
        RollsBack later flags receipt undone u →
          (rollback later receipt flags u).1 = .ok (RollbackReceipt.codec.write undone) := by
  intro h
  have hrollback := h curveBackend curveBackend (curveRequest (-10)) tuningFlags 60 60 (-10) _ _
    (tuningPlan 60) (curveReceipt (tuningPlan 60)) _ (by decide +kernel)
    (OperationPlan.codec_roundTrip _) (by decide +kernel) (ApplyReceipt.codec_roundTrip _)
    (tuning_rollsBack 60)
  have hinput := rollbackInput_of_ok hrollback
  exact absurd hinput (by decide +kernel)

end FrametimeCfg.Verified.OperationInverse
