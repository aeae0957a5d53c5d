import FrametimeCfg.Verified.OperationCalls

/-!
# The compensation of a write

A receipt is examined after the write that it reports.  Where its readback is not what
was asked for, `apply` rolls the write back; where the receipt is not one of the plan, it
returns the error at once, and the write stays.  The command for process affinities has
one check for all of it and rolls nothing back.
-/

namespace FrametimeCfg.Verified.WriteCompensation

open FrametimeCfg.Domain
open FrametimeCfg.Lib.Checks (reject_eq_ok)
open FrametimeCfg.Lib.Effect
open FrametimeCfg.Lib.Recorded
open FrametimeCfg.Northclock
open FrametimeCfg.Verified.OperationCalls

/-! ## Compensation -/

def RESTORED : NorthclockError :=
  .hardwareOperation "readback validation failed; captured state was restored"

/-- After a write, an error was returned after one rollback of the write, and it says
that the state was restored only when it was. -/
structure Compensates (plan : OperationPlan) (calls : List Call)
    (error : Option NorthclockError) : Prop where
  once : ∀ receipt, .apply plan.target plan (.ok receipt) ∈ calls → error.isSome = true →
    ∃ answer, calls.filter Call.isRollback = [.rollback plan.target receipt answer]
  honest : ∀ receipt, .apply plan.target plan (.ok receipt) ∈ calls → error = some RESTORED →
    ∃ rollback, .rollback plan.target receipt (.ok rollback) ∈ calls ∧
      rollback.planId = plan.id ∧ rollback.restoredState = plan.capturedState ∧
      rollback.readback = plan.capturedState

/-- The same for the affinity of a process. -/
structure CompensatesAffinity (plan : ProcessAffinityPlan) (calls : List Call)
    (error : Option NorthclockError) : Prop where
  once : ∀ receipt, .applyAffinity plan (.ok receipt) ∈ calls → error.isSome = true →
    ∃ answer, calls.filter Call.isRollback = [.rollbackAffinity receipt answer]
  honest : ∀ receipt, .applyAffinity plan (.ok receipt) ∈ calls → error = some RESTORED →
    ∃ rollback, .rollbackAffinity receipt (.ok rollback) ∈ calls ∧
      rollback.planId = plan.id ∧ rollback.restoredMask = plan.capturedMask ∧
      rollback.readbackMask = plan.capturedMask

theorem not_read_of_mem {calls : List Call} {call : Call}
    (hreads : ∀ call ∈ calls, call.isRead = true) (hcall : call.isRead = false) :
    call ∉ calls := by
  intro hmem
  rw [hreads call hmem] at hcall
  cases hcall

/-- Reads are no rollbacks. -/
theorem filter_reads {calls : List Call} (hreads : ∀ call ∈ calls, call.isRead = true) :
    calls.filter Call.isRollback = [] := by
  rw [List.filter_eq_nil_iff]
  intro call hcall
  have hread := hreads call hcall
  cases call <;> simp_all [Call.isRead, Call.isRollback]

/-! ## Operations -/

/-- A failed readback is reported as restored only after a rollback that restored. -/
theorem failedReadback_restored {receipt : ApplyReceipt}
    {answer : Except NorthclockError RollbackReceipt}
    (h : failedReadback receipt answer = RESTORED) :
    ∃ rollback, answer = .ok rollback ∧ Restores rollback receipt := by
  cases answer with
  | ok rollback =>
      rw [failedReadback] at h
      split at h
      · rename_i hvalid
        exact ⟨rollback, rfl, rollbackReceipt_eq_ok.mp hvalid⟩
      · exact absurd h (by decide)
  | error e =>
      have htext := congrArg (fun text => text.toList[26]?) (NorthclockError.hardwareOperation.inj h)
      simp only [String.toList_append] at htext
      rw [List.getElem?_append_left (by decide)] at htext
      exact absurd htext (by decide)

section

variable {plan : OperationPlan} {flags : WriteFlags} {calls : List Call}
  {r : Except NorthclockError Value}

/-- **When a write is compensated**: when the receipt is one of the plan. -/
theorem compensates_iff (h : ApplyRun plan flags calls r) :
    Compensates plan calls (errorOf r) ↔
      ∀ receipt, .apply plan.target plan (.ok receipt) ∈ calls →
        validateReceiptIdentity receipt plan = .ok () := by
  cases h with
  | refused calls hreads e =>
      have hnone : ∀ receipt, .apply plan.target plan (.ok receipt) ∉ calls :=
        fun receipt => not_read_of_mem hreads rfl
      constructor
      · intro _ receipt hreceipt
        exact absurd hreceipt (hnone receipt)
      · intro _
        exact ⟨fun receipt hreceipt => absurd hreceipt (hnone receipt),
          fun receipt hreceipt => absurd hreceipt (hnone receipt)⟩
  | failed current elevated h e =>
      have hnone : ∀ receipt, .apply plan.target plan (.ok receipt) ∉
          asked (requestFromPlan plan) current elevated ++
            [.apply plan.target plan (.error e)] := by
        simp [asked]
      constructor
      · intro _ receipt hreceipt
        exact absurd hreceipt (hnone receipt)
      · intro _
        exact ⟨fun receipt hreceipt => absurd hreceipt (hnone receipt),
          fun receipt hreceipt => absurd hreceipt (hnone receipt)⟩
  | inconsistent current elevated h receipt e hidentity =>
      constructor
      · intro hcompensates
        obtain ⟨answer, hrollback⟩ := hcompensates.once receipt (by simp) rfl
        simp [asked, Call.isRollback] at hrollback
      · intro hall
        rw [hall receipt (by simp)] at hidentity
        cases hidentity
  | compensated current elevated h receipt hidentity hreadback answer =>
      have hbound := receiptIdentity_eq_ok.mp hidentity
      have hsole : ∀ receipt', .apply plan.target plan (.ok receipt') ∈
          asked (requestFromPlan plan) current elevated ++
            [.apply plan.target plan (.ok receipt), .rollback receipt.target receipt answer] →
          receipt' = receipt := by
        simp [asked]
      constructor
      · intro _ receipt' hreceipt
        rw [hsole receipt' hreceipt]
        exact hidentity
      · intro _
        constructor
        · intro receipt' hreceipt _
          rw [hsole receipt' hreceipt]
          exact ⟨answer, by simp [asked, Call.isRollback, hbound.target]⟩
        · intro receipt' hreceipt hrestored
          rw [hsole receipt' hreceipt]
          obtain ⟨rollback, rfl, hrestores⟩ :=
            failedReadback_restored (Option.some.inj hrestored)
          have hstate := hrestores.restoredState.trans hbound.capturedState
          refine ⟨rollback, by simp [hbound.target], ?_, hstate, ?_⟩
          · exact hrestores.planId.trans hbound.planId
          · exact hrestores.readback.trans hstate
  | applied current elevated h receipt hidentity hreadback =>
      have hsole : ∀ receipt', .apply plan.target plan (.ok receipt') ∈
          asked (requestFromPlan plan) current elevated ++
            [.apply plan.target plan (.ok receipt)] → receipt' = receipt := by
        simp [asked]
      constructor
      · intro _ receipt' hreceipt
        rw [hsole receipt' hreceipt]
        exact hidentity
      · intro _
        exact ⟨fun _ _ herror => absurd herror (by simp [errorOf]),
          fun _ _ herror => absurd herror (by simp [errorOf])⟩

end

/-! ## Affinities -/

section

variable {plan : ProcessAffinityPlan} {calls : List Call} {r : Except NorthclockError Value}

theorem compensatesAffinity_iff (h : AffinityRun plan calls r) :
    CompensatesAffinity plan calls (errorOf r) ↔
      ∀ receipt, .applyAffinity plan (.ok receipt) ∈ calls →
        checkAffinityReceipt receipt plan = .ok () := by
  cases h with
  | refused calls hreads e =>
      have hnone : ∀ receipt, .applyAffinity plan (.ok receipt) ∉ calls :=
        fun receipt => not_read_of_mem hreads rfl
      constructor
      · intro _ receipt hreceipt
        exact absurd hreceipt (hnone receipt)
      · intro _
        exact ⟨fun receipt hreceipt => absurd hreceipt (hnone receipt),
          fun receipt hreceipt => absurd hreceipt (hnone receipt)⟩
  | called before hreads answer =>
      have hbefore : ∀ receipt, .applyAffinity plan (.ok receipt) ∉ before :=
        fun receipt => not_read_of_mem hreads rfl
      have hanswer : ∀ receipt, Call.applyAffinity plan (.ok receipt) ∈
          before ++ [Call.applyAffinity plan answer] ↔ answer = .ok receipt := by
        intro receipt
        simp [hbefore receipt, eq_comm]
      have hnone : (before ++ [Call.applyAffinity plan answer]).filter Call.isRollback = [] := by
        rw [List.filter_append, filter_reads hreads]
        rfl
      constructor
      · intro hcompensates receipt hreceipt
        cases hcheck : checkAffinityReceipt receipt plan with
        | ok _ => rfl
        | error e =>
            have herror : errorOf (appliedAffinity plan answer) = some e := by
              rw [(hanswer receipt).mp hreceipt]
              show errorOf (checkAffinityReceipt receipt plan >>= fun _ => _) = some e
              rw [hcheck]
              rfl
            obtain ⟨_, hrollback⟩ := hcompensates.once receipt hreceipt (by rw [herror]; rfl)
            rw [hnone] at hrollback
            cases hrollback
      · intro hall
        have hreturned : ∀ receipt, answer = .ok receipt →
            errorOf (appliedAffinity plan answer) = none := by
          intro receipt hreceipt
          have hcheck := hall receipt ((hanswer receipt).mpr hreceipt)
          rw [hreceipt]
          show errorOf (checkAffinityReceipt receipt plan >>= fun _ => _) = none
          rw [hcheck]
          rfl
        constructor
        · intro receipt hreceipt herror
          rw [hreturned receipt ((hanswer receipt).mp hreceipt)] at herror
          cases herror
        · intro receipt hreceipt herror
          rw [hreturned receipt ((hanswer receipt).mp hreceipt)] at herror
          cases herror

end

/-- **When the writes are compensated**: an operation when its receipt names the plan
and its contents, an affinity when nothing at all is wrong with its receipt. -/
theorem writeCompensation {σ : Type} (backend : BackendBundle σ) (flags : WriteFlags) (s : σ)
    (plan : OperationPlan) (affinity : ProcessAffinityPlan) :
    (Compensates plan (applyCalls backend flags s plan)
        (errorOf (apply backend plan flags s).1) ↔
      ∀ receipt, .apply plan.target plan (.ok receipt) ∈ applyCalls backend flags s plan →
        validateReceiptIdentity receipt plan = .ok ()) ∧
    (CompensatesAffinity affinity (affinityCalls backend flags s affinity)
        ((errorOf (processAffinityApply backend affinity flags s).1).map Prod.snd) ↔
      ∀ receipt, .applyAffinity affinity (.ok receipt) ∈
        affinityCalls backend flags s affinity →
          checkAffinityReceipt receipt affinity = .ok ()) := by
  constructor
  · exact compensates_iff (applyRun backend flags s plan)
  · obtain ⟨r, hrun, herror⟩ := affinityRun backend flags s affinity
    rw [herror]
    exact compensatesAffinity_iff hrun

/-! ## A receipt of another plan -/

private def heldPlan : OperationPlan where
  id := "plan-1"
  target := .cpuCurveOptimizer
  backend := "fixture"
  requestedChanges := Std.ExtTreeMap.ofList [("curve_optimizer", (-10 : Int64))]
  capturedState := Std.ExtTreeMap.ofList [("curve_optimizer", (0 : Int64))]
  boundsValidated := true
  hardwareVerified := false

/-- The receipt of another plan. -/
private def strayReceipt : ApplyReceipt where
  planId := "plan-2"
  target := heldPlan.target
  capturedState := heldPlan.capturedState
  requestedChanges := heldPlan.requestedChanges
  readback := heldPlan.requestedChanges
  validationPassed := true
  rollbackAvailable := true
  backend := heldPlan.backend
  hardwareVerified := heldPlan.hardwareVerified

/-- A backend that applies, and answers with the receipt of another plan. -/
private def strayBackend : BackendBundle Unit where
  capabilities s := ([], s)
  isElevated := pure true
  previewCpuOperation _ := pure heldPlan
  applyCpuOperation _ := pure strayReceipt
  rollbackCpuOperation receipt := pure {
    planId := receipt.planId
    restoredState := receipt.capturedState
    readback := receipt.capturedState
    validationPassed := true
    backend := receipt.backend
    hardwareVerified := receipt.hardwareVerified }
  previewGpuOperation _ := raise (.unavailable "no graphics card")
  applyGpuOperation _ := raise (.unavailable "no graphics card")
  rollbackGpuOperation _ := raise (.unavailable "no graphics card")
  previewProcessAffinity _ _ := raise (.unavailable "no process")
  applyProcessAffinity _ := raise (.unavailable "no process")
  rollbackProcessAffinity _ := raise (.unavailable "no process")

private def allFlags : WriteFlags where
  experimentalHardwareWrites := true
  experimental := true
  apply := true
  riskAcknowledgement := some RISK_ACKNOWLEDGEMENT

/-- The write is applied and reported as an error, and nobody rolls it back. -/
theorem strayReceipt_stays :
    ¬ ∀ {σ : Type} (backend : BackendBundle σ) (flags : WriteFlags) (s : σ)
        (plan : OperationPlan), Compensates plan (applyCalls backend flags s plan)
          (errorOf (apply backend plan flags s).1) := by
  intro h
  have hcalls : (applyCalls strayBackend allFlags () heldPlan).filter Call.isRollback = [] := by
    decide +kernel
  have hmem : .apply heldPlan.target heldPlan (.ok strayReceipt) ∈
      applyCalls strayBackend allFlags () heldPlan := by
    decide +kernel
  have herror : (errorOf (apply strayBackend heldPlan allFlags ()).1).isSome = true := by
    decide +kernel
  obtain ⟨_, hrollback⟩ := (h strayBackend allFlags () heldPlan).once _ hmem herror
  rw [hcalls] at hrollback
  cases hrollback

end FrametimeCfg.Verified.WriteCompensation
