import FrametimeCfg.Lib.Trace
import FrametimeCfg.Verified.OperationCalls

/-!
# The gate of the writes

Whatever a backend answers and whatever plan or receipt is presented, a write call comes
after a preview that agrees with it, after the bounds and after the authorisation.  The
rules below say of a write call what its past must have; every record of `apply` and of
`rollback` is guarded by them.
-/

namespace FrametimeCfg.Verified.WriteGate

open FrametimeCfg.Domain
open FrametimeCfg.Lib.Checks (check_bind_eq_ok)
open FrametimeCfg.Lib.Recorded
open FrametimeCfg.Lib.Trace
open FrametimeCfg.Northclock
open FrametimeCfg.Verified.OperationCalls

/-! ## The rules -/

/-- A preview that satisfies `p` answered, and then an authorisation was given. -/
def AskedFirst (p : OperationPlan → Prop) (request : OperationRequest) (flags : WriteFlags)
    (past : List Call) : Prop :=
  ∃ current elevated, Happened (asked request current elevated) past ∧ p current ∧
    flags.allow elevated = .ok ()

/-- What the past of a call of `apply` must have. -/
def ApplyRule (plan : OperationPlan) (flags : WriteFlags) (past : List Call) : Call → Prop
  | .apply side applied _ => side = plan.target ∧ applied = plan ∧
      AskedFirst (fun current => SamePlan current plan) (requestFromPlan plan) flags past ∧
      SafetyPolicy.validate (requestFromPlan plan) = .ok ()
  | .rollback side receipt _ => side = receipt.target ∧
      .apply plan.target plan (.ok receipt) ∈ past
  | .applyAffinity .. | .rollbackAffinity .. => False
  | .elevated _ | .preview .. | .previewAffinity .. => True

/-- What the past of a call of `rollback` must have. -/
def RollbackRule (receipt : ApplyReceipt) (flags : WriteFlags) (past : List Call) :
    Call → Prop
  | .rollback side undone _ => side = receipt.target ∧ undone = receipt ∧
      AskedFirst (fun current => StillApplied current receipt) (requestOf receipt) flags past ∧
      SafetyPolicy.validate (requestOf receipt) = .ok () ∧
      SafetyPolicy.validate { target := receipt.target, changes := receipt.capturedState } =
        .ok ()
  | .apply .. | .applyAffinity .. | .rollbackAffinity .. => False
  | .elevated _ | .preview .. | .previewAffinity .. => True

/-- Calls that change nothing need no past. -/
theorem guarded_reads {A : List Call → Call → Prop} {calls : List Call}
    (hfree : ∀ past call, call.isRead = true → A past call)
    (hreads : ∀ call ∈ calls, call.isRead = true) : Guarded A [] calls := by
  intro pre call post heq
  exact hfree _ _ (hreads call (by rw [heq]; simp))

theorem asked_reads {request : OperationRequest} {current : OperationPlan}
    {elevated : Bool} : ∀ call ∈ asked request current elevated, call.isRead = true := by
  simp [asked, Call.isRead]

theorem applyRule_reads {plan : OperationPlan} {flags : WriteFlags} :
    ∀ past call, call.isRead = true → ApplyRule plan flags past call := by
  intro past call hread
  cases call with
  | elevated | preview | previewAffinity => trivial
  | apply | rollback | applyAffinity | rollbackAffinity => cases hread

theorem rollbackRule_reads {receipt : ApplyReceipt} {flags : WriteFlags} :
    ∀ past call, call.isRead = true → RollbackRule receipt flags past call := by
  intro past call hread
  cases call with
  | elevated | preview | previewAffinity => trivial
  | apply | rollback | applyAffinity | rollbackAffinity => cases hread

/-! ## The gate -/

variable {plan : OperationPlan} {receipt : ApplyReceipt} {flags : WriteFlags}
  {calls : List Call} {r : Except NorthclockError Value}

/-- The write of an admitted plan. -/
theorem guarded_admitted {current : OperationPlan} {elevated : Bool}
    (h : Admitted plan flags current elevated) (answer : Except NorthclockError ApplyReceipt) :
    Guarded (ApplyRule plan flags) []
      (asked (requestFromPlan plan) current elevated ++ [.apply plan.target plan answer]) := by
  have hasked : Guarded (ApplyRule plan flags) []
      (asked (requestFromPlan plan) current elevated) :=
    guarded_reads applyRule_reads asked_reads
  apply hasked.snoc
  refine ⟨rfl, rfl, ⟨current, elevated, ?_, ?_, h.allowed⟩, ?_⟩
  · exact List.Sublist.refl _
  · exact checkCurrent_eq_ok.mp h.unchanged
  · exact (check_bind_eq_ok.mp (check_bind_eq_ok.mp h.valid).2).1

theorem guarded_apply (h : ApplyRun plan flags calls r) :
    Guarded (ApplyRule plan flags) [] calls := by
  cases h with
  | refused calls hreads e => exact guarded_reads applyRule_reads hreads
  | failed current elevated h e => exact guarded_admitted h _
  | inconsistent current elevated h receipt e hidentity => exact guarded_admitted h _
  | compensated current elevated h receipt hidentity hreadback answer =>
      have hpast : ApplyRule plan flags
          ([] ++ (asked (requestFromPlan plan) current elevated ++
            [.apply plan.target plan (.ok receipt)]))
          (.rollback receipt.target receipt answer) := ⟨rfl, by simp⟩
      have hrollback := (guarded_admitted h (.ok receipt)).snoc hpast
      rwa [List.append_assoc] at hrollback
  | applied current elevated h receipt hidentity hreadback => exact guarded_admitted h _

theorem guarded_rollback (h : RollbackRun receipt flags calls r) :
    Guarded (RollbackRule receipt flags) [] calls := by
  cases h with
  | refused calls hreads e => exact guarded_reads rollbackRule_reads hreads
  | called current elevated h answer =>
      have hasked : Guarded (RollbackRule receipt flags) []
          (asked (requestOf receipt) current elevated) :=
        guarded_reads rollbackRule_reads asked_reads
      have hinput := (check_bind_eq_ok.mp h.valid).2
      apply hasked.snoc
      refine ⟨rfl, rfl, ⟨current, elevated, ?_, ?_, h.allowed⟩, ?_⟩
      · exact List.Sublist.refl _
      · exact checkUnchanged_eq_ok.mp h.unchanged
      · exact check_bind_eq_ok.mp hinput

/-- An apply that returns has the receipt of its plan, whose readback is the request. -/
theorem applied_receipt {v : Value} (h : ApplyRun plan flags calls (.ok v)) :
    ∃ receipt, v = ApplyReceipt.codec.write receipt ∧
      .apply plan.target plan (.ok receipt) ∈ calls ∧ BoundTo receipt plan ∧
      receipt.validationPassed = true ∧ receipt.readback = plan.requestedChanges := by
  cases h with
  | applied current elevated h receipt hidentity hreadback =>
      have hbound := receiptIdentity_eq_ok.mp hidentity
      obtain ⟨hpassed, hread⟩ := readbackPassed_iff.mp hreadback
      exact ⟨receipt, rfl, by simp, hbound, hpassed, hread.trans hbound.requestedChanges⟩

/-- **The write gate.**  For every backend, whatever plan or receipt is presented and
whatever the flags are. -/
theorem writeGate {σ : Type} (backend : BackendBundle σ) (plan : OperationPlan)
    (receipt : ApplyReceipt) (flags : WriteFlags) (s : σ) :
    Guarded (ApplyRule plan flags) [] (applyCalls backend flags s plan) ∧
      Guarded (RollbackRule receipt flags) [] (rollbackCalls backend flags s receipt) ∧
      ∀ v, (apply backend plan flags s).1 = .ok v → ∃ receipt,
        v = ApplyReceipt.codec.write receipt ∧
          .apply plan.target plan (.ok receipt) ∈ applyCalls backend flags s plan ∧
          BoundTo receipt plan ∧ receipt.validationPassed = true ∧
          receipt.readback = plan.requestedChanges := by
  refine ⟨guarded_apply (applyRun backend flags s plan),
    guarded_rollback (rollbackRun backend flags s receipt), ?_⟩
  intro v hv
  have hrun := applyRun backend flags s plan
  rw [hv] at hrun
  exact applied_receipt hrun

end FrametimeCfg.Verified.WriteGate
