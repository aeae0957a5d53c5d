import FrametimeCfg.Verified.LiveDispatch

/-!
# Verification after a satisfied inspection

A step that is already satisfied is not captured: the engine verifies it at once, on the
backend that inspected it.  Most verifications repeat what the inspection read, or ask
nothing.  Those of the page file, of the GPU preference and of the CFG files of CS2 look up
a binding that only the capture keeps, and a satisfied step has none.

* `verify_of_satisfied` — the steps that verify on the host that was inspected.
* `verify_of_uncaptured` — the steps that do not verify without their capture.
* `verify_satisfied_iff` — which steps of the catalog these are.
-/

namespace FrametimeCfg.Verified.RepeatedVerification

open FrametimeCfg.Domain FrametimeCfg.Windows FrametimeCfg.Windows.LiveBackend
open FrametimeCfg.Lib.Checks
open FrametimeCfg.Lib.Effect
open FrametimeCfg.Lib.OrderedMap
open FrametimeCfg.Verified.InterruptReobservation
open FrametimeCfg.Verified.LiveDispatch

section

variable {σ Session Profile : Type} {n : Native σ Session Profile} {s t : Live σ}
  {operation : Operation} {action : Action}

/-! ## Inspection, read from its answer -/

/-- A question to the host, and what the backend does with the answer. -/
theorem ask_bind_eq_ok {α β : Type} {f : σ → Except String α} {k : α → LiveM σ β} {b : β}
    (h : (ask f >>= k) s = (.ok b, t)) : ∃ a, f s.host = .ok a ∧ k a s = (.ok b, t) :=
  consult_bind_eq_ok h

/-- A satisfied step has a descriptor, and the inspection of its action was satisfied. -/
theorem inspect_satisfied (h : inspect n operation s = (.ok .satisfied, t)) :
    ∃ descriptor, descriptorFor operation.step = .ok descriptor ∧
      inspectSupported n descriptor.action operation s = (.ok .satisfied, t) := by
  obtain ⟨-, -, h⟩ := ask_bind_eq_ok h
  obtain ⟨descriptor, s', hd, h⟩ := bind_eq_ok h
  obtain ⟨hdescriptor, rfl⟩ := Prod.mk.inj hd
  refine ⟨descriptor, hdescriptor, ?_⟩
  cases hcapability : descriptor.capability with
  | advisory reason =>
      rw [hcapability] at h
      cases h
  | supported =>
      rw [hcapability] at h
      obtain ⟨-, -, h⟩ := consult_bind_eq_ok h
      exact h

/-- An action that is not about interrupts and whose evidence is not asked for. -/
theorem inspectSupported_satisfied
    (hinterrupt : inspectInterruptAction n action operation = pure none)
    (hdownload : action ≠ .nvidiaDriverDownloadPreparation)
    (h : inspectSupported n action operation s = (.ok .satisfied, t)) :
    inspectDedicated n action s = (.ok (some .satisfied), t) ∨
      ∃ s', inspectDedicated n action s = (.ok none, s') ∧
        inspectRemaining n action operation s' = (.ok .satisfied, t) := by
  obtain ⟨inapplicable, -, h⟩ := consult_bind_eq_ok h
  cases inapplicable with
  | true => cases h
  | false =>
      simp only [Bool.false_eq_true, if_false, if_neg hdownload, hinterrupt] at h
      obtain ⟨interrupt, s₀, hinterrupt, h⟩ := bind_eq_ok h
      cases hinterrupt
      obtain ⟨answer, s', hanswer, h⟩ := bind_eq_ok h
      cases answer with
      | some inspection =>
          cases h
          exact .inl hanswer
      | none => exact .inr ⟨s', hanswer, h⟩

/-- What the fallback takes for satisfied. -/
theorem inspectRemaining_satisfied
    (h : inspectRemaining n action operation s = (.ok .satisfied, t)) :
    t = s ∧ inspectAction n action s.host = .ok .satisfied := by
  obtain ⟨branch, -, h⟩ := consult_bind_eq_ok h
  by_cases happlicable : (planForStep operation.step branch).applicable = true
  · simp only [happlicable, Bool.not_true, Bool.false_eq_true, if_false] at h
    obtain ⟨hanswer, rfl⟩ := Prod.mk.inj h
    exact ⟨rfl, hanswer⟩
  · simp only [happlicable, Bool.not_false, if_true] at h
    cases h

/-! ## The observations -/

/-- The actions that verification repeats. -/
def isObservation : Action → Bool
  | .observeConfigState | .observeGpuInventory | .observeChipsetDriver
  | .observeMemoryTopology | .baselineBenchmark | .finalBenchmark | .fpsCapInfo => true
  | _ => false

/-- An observation that was satisfied is repeated. -/
theorem verifyObservationAction_of_satisfied
    (hhardware : discoverHardware n s.host = .ok s.hardware)
    (hobservation : isObservation action = true)
    (h : inspectDedicated n action s = (.ok (some .satisfied), t)) :
    verifyObservationAction n action t = .ok (some ()) := by
  cases action with
  | observeConfigState =>
      obtain ⟨inspection, hinspection, h⟩ := consult_bind_eq_ok h
      cases h
      simp only [verifyObservationAction, verifyConfigState, hinspection]
      rfl
  | observeGpuInventory =>
      obtain ⟨inspection, hinspection, h⟩ := consult_bind_eq_ok h
      cases h
      simp only [verifyObservationAction, hhardware, bind_ok, verifyGpuInventory, hinspection,
        ne_eq, not_true_eq_false, decide_false, reject_false]
      rfl
  | baselineBenchmark =>
      have hanswer : (if baselineBenchmarkIsPersisted n s.host then Inspection.satisfied
          else .unsupported) = .satisfied := by
        injection h with h
        injection h with h
        injection h
      have hst : s = t := congrArg Prod.snd h
      by_cases hpersisted : baselineBenchmarkIsPersisted n s.host = true
      · rw [← hst]
        simp only [verifyObservationAction, hpersisted, if_true]
      · rw [if_neg hpersisted] at hanswer
        cases hanswer
  | observeChipsetDriver =>
      obtain ⟨captured, hcaptured, h⟩ := ask_bind_eq_ok h
      cases captured with
      | none => cases h
      | some inventory =>
          cases h
          simp only [verifyObservationAction, okOr_some, bind_ok, verifyChipsetInventory,
            hcaptured, ne_eq, not_true_eq_false, decide_false, reject_false]
          rfl
  | observeMemoryTopology =>
      obtain ⟨captured, hcaptured, h⟩ := ask_bind_eq_ok h
      cases captured with
      | none => cases h
      | some topology =>
          cases h
          simp only [verifyObservationAction, okOr_some, bind_ok, verifyMemoryTopology,
            hcaptured, ne_eq, not_true_eq_false, decide_false, reject_false]
          rfl
  | fpsCapInfo =>
      obtain ⟨inspection, hinspection, h⟩ := consult_bind_eq_ok h
      cases h
      simp only [verifyObservationAction, verifyFpsCapInfo, hinspection]
      rfl
  | finalBenchmark => cases h
  | _ => cases hobservation

/-! ## The interrupt policies -/

/-- P3:2 keeps the batches that it inspected, and they verify. -/
theorem msi_verified (h : inspectSupported n .msiInterrupts operation s = (.ok .satisfied, t)) :
    verifyInterruptAction n .msiInterrupts (key operation) t = some (.ok ()) := by
  obtain ⟨inapplicable, hna, h⟩ := consult_bind_eq_ok h
  cases hna
  obtain ⟨answer, s', hanswer, h⟩ := bind_eq_ok h
  obtain ⟨-, s₁, -, hanswer⟩ := bind_eq_ok hanswer
  obtain ⟨batches, hbatches, hanswer⟩ := ask_bind_eq_ok hanswer
  obtain ⟨satisfied, hsatisfied, hanswer⟩ := ask_bind_eq_ok hanswer
  cases hanswer
  cases satisfied with
  | false => cases h
  | true =>
      cases h
      simp only [verifyInterruptAction, BTreeMap.get_insert, if_true, okOr_some, bind_ok]
      exact congrArg some (verifyNativeMsiBatches_of_satisfied hbatches hsatisfied)

/-- P3:3 keeps the adapter that it inspected, and it verifies. -/
theorem nic_verified
    (h : inspectSupported n .nicInterruptAffinity operation s = (.ok .satisfied, t)) :
    verifyInterruptAction n .nicInterruptAffinity (key operation) t = some (.ok ()) := by
  obtain ⟨inapplicable, hna, h⟩ := consult_bind_eq_ok h
  cases hna
  obtain ⟨answer, s', hanswer, h⟩ := bind_eq_ok h
  obtain ⟨-, s₁, -, hanswer⟩ := bind_eq_ok hanswer
  obtain ⟨binding, hbinding, hanswer⟩ := ask_bind_eq_ok hanswer
  obtain ⟨satisfied, hsatisfied, hanswer⟩ := ask_bind_eq_ok hanswer
  cases hanswer
  cases satisfied with
  | false => cases h
  | true =>
      cases h
      simp only [verifyInterruptAction, BTreeMap.get_insert, if_true, okOr_some, bind_ok]
      exact congrArg some (verifyNativeNicAffinity_of_satisfied hbinding hsatisfied)

/-! ## The call -/

/-- The action that a call verifies. -/
theorem verify_apply [DecidableEq Profile] {descriptor : ActionDescriptor}
    (hdescriptor : descriptorFor operation.step = .ok descriptor) :
    verify n operation s = match verifyObservationAction n descriptor.action s with
      | .ok (some ()) => (.ok (), s)
      | .ok none => verifyMutation n descriptor.action (key operation) s
      | .error e => (.error e, s) := by
  simp only [verify, hdescriptor, bind_apply, ofExcept_apply, consult_apply]
  cases verifyObservationAction n descriptor.action s with
  | error e => rfl
  | ok answer => cases answer <;> rfl

/-- The verification looks up a binding that only the capture keeps. -/
def needsCapture : Action → Bool
  | .pagefile | .cs2Registry _ | .cs2Config => true
  | _ => false

/-- No binding is kept for the step, as before its capture. -/
structure Uncaptured (s : Live σ) (key : String) : Prop where
  pagefile : s.capturedPagefileBindings[key]? = none
  cs2 : s.capturedCs2Bindings[key]? = none
  cs2Config : s.capturedCs2ConfigBindings[key]? = none

/-- A satisfied step that needs no capture verifies on the host that was inspected. -/
theorem verify_of_satisfied [DecidableEq Profile]
    (hhardware : discoverHardware n s.host = .ok s.hardware) {descriptor : ActionDescriptor}
    (hdescriptor : descriptorFor operation.step = .ok descriptor)
    (h : inspectSupported n descriptor.action operation s = (.ok .satisfied, t))
    (hneeds : needsCapture descriptor.action = false) :
    (verify n operation t).1 = .ok () := by
  rw [verify_apply hdescriptor]
  cases haction : descriptor.action with
  | observeConfigState | observeGpuInventory | observeChipsetDriver | observeMemoryTopology
  | baselineBenchmark | finalBenchmark | fpsCapInfo =>
      rw [haction] at h
      rcases inspectSupported_satisfied rfl (by simp) h with h | ⟨s', -, h⟩
      · rw [verifyObservationAction_of_satisfied hhardware rfl h]
      · cases (inspectRemaining_satisfied h).2
  | msiInterrupts =>
      rw [haction] at h
      show (verifyMutation n .msiInterrupts (key operation) t).1 = _
      simp only [verifyMutation, bind_apply, gets_apply, id_eq, msi_verified h]
      rfl
  | nicInterruptAffinity =>
      rw [haction] at h
      show (verifyMutation n .nicInterruptAffinity (key operation) t).1 = _
      simp only [verifyMutation, bind_apply, gets_apply, id_eq, nic_verified h]
      rfl
  | registryBatch changes =>
      rw [haction] at h
      rcases inspectSupported_satisfied rfl (by simp) h with h | ⟨s', -, h⟩
      · cases h
      · obtain ⟨-, h⟩ := check_bind_eq_ok.mp (inspectRemaining_satisfied h).2
        cases h
  | nvidiaDriverRemoval | nvidiaDriverInstall | nvidiaProfileApply | networkStack | tool _
  | advisory _ =>
      rw [haction] at h
      rcases inspectSupported_satisfied rfl (by simp) h with h | ⟨s', -, h⟩
      · cases h
      · cases (inspectRemaining_satisfied h).2
  | pagefile | cs2Registry _ | cs2Config =>
      rw [haction] at hneeds
      cases hneeds
  | gpuDriverCleanPreparation | nvidiaDriverDownloadPreparation | nvidiaProfilePreparation
  | safeModeHandoff | phaseThreeHandoff | msiPreparation | nicAffinityPreparation
  | cs2LaunchVideoGuide | amdRadeonGuide | vramUsageGuide | finalChecklistGuide => rfl

/-- A call of the host changes nothing else. -/
theorem onHost_frame {α : Type} (m : Prog σ String α) (s : Live σ) :
    (onHost m s).2 = { s with host := (onHost m s).2.host } := by
  unfold onHost
  rcases m s.host with ⟨r, host⟩
  rfl

theorem inspectPagefile_frame {state : State} {inspection : Inspection}
    (h : inspectPagefile n state s = (.ok inspection, t)) : t = { s with host := t.host } := by
  obtain ⟨answer, s', hanswer, h⟩ := bind_eq_ok h
  have hs' : s' = (onHost (nativePagefileInventory n) s).2 :=
    congrArg Prod.snd (attempt_eq_ok.mp hanswer).symm
  cases answer with
  | error e =>
      cases h
      rw [hs']
      exact onHost_frame _ s
  | ok inventory =>
      obtain ⟨-, rfl⟩ := Prod.mk.inj h
      rw [hs']
      exact onHost_frame _ s

/-- The inspection of such an action changes the host at most. -/
theorem inspect_frame (hneeds : needsCapture action = true)
    (h : inspectSupported n action operation s = (.ok .satisfied, t)) :
    t = { s with host := t.host } := by
  cases action with
  | pagefile =>
      rcases inspectSupported_satisfied rfl (by simp) h with h | ⟨s', -, h⟩
      · obtain ⟨state, s₁, hstate, h⟩ := bind_eq_ok h
        cases hstate
        obtain ⟨inspection, s₂, hinspection, h⟩ := bind_eq_ok h
        cases h
        exact inspectPagefile_frame hinspection
      · cases (inspectRemaining_satisfied h).2
  | cs2Registry =>
      rcases inspectSupported_satisfied rfl (by simp) h with h | ⟨s', hnone, -⟩
      · obtain ⟨inspection, -, h⟩ := ask_bind_eq_ok h
        cases h
        rfl
      · obtain ⟨inspection, -, hnone⟩ := ask_bind_eq_ok hnone
        cases hnone
  | cs2Config =>
      rcases inspectSupported_satisfied rfl (by simp) h with h | ⟨s', -, h⟩
      · obtain ⟨inspection, -, h⟩ := ask_bind_eq_ok h
        cases h
        rfl
      · cases (inspectRemaining_satisfied h).2
  | _ => cases hneeds

/-- Without its capture, such an action does not verify. -/
theorem verify_of_uncaptured [DecidableEq Profile] {descriptor : ActionDescriptor}
    (hdescriptor : descriptorFor operation.step = .ok descriptor)
    (hneeds : needsCapture descriptor.action = true)
    (huncaptured : Uncaptured s (key operation)) : (verify n operation s).1 ≠ .ok () := by
  rw [verify_apply hdescriptor]
  cases haction : descriptor.action with
  | pagefile =>
      show (orAbandon (key operation) (LiveBackend.verifyPagefileAction n (key operation)) s).1 ≠ _
      simp [orAbandon, onError, LiveBackend.verifyPagefileAction, bind_apply,
        huncaptured.pagefile]
  | cs2Registry action =>
      show (orAbandon (key operation) (ask (verifyAction n (.cs2Registry action)
        s.capturedCs2Bindings[key operation]?)) s).1 ≠ _
      simp [orAbandon, onError, ask, verifyAction, huncaptured.cs2]
  | cs2Config =>
      show (verifyMutation n .cs2Config (key operation) s).1 ≠ _
      simp [verifyMutation, bind_apply, huncaptured.cs2Config]
  | _ =>
      rw [haction] at hneeds
      cases hneeds

/-! ## The steps of the catalog -/

/-- P1:8, P1:30 and P1:34: the page file, the GPU preference and the CFG files of CS2. -/
def capturedSteps : List StepId := [⟨.one, 8⟩, ⟨.one, 30⟩, ⟨.one, 34⟩]

theorem needsCapture_iff_mem {step : Step} (hstep : step ∈ stepCatalog)
    {descriptor : ActionDescriptor} (hdescriptor : descriptorFor step = .ok descriptor) :
    needsCapture descriptor.action = true ↔ step.id ∈ capturedSteps := by
  have hall : stepCatalog.all (fun step => (descriptorFor step).toOption.all fun descriptor =>
      needsCapture descriptor.action = decide (step.id ∈ capturedSteps)) = true := by decide
  have hone := List.all_eq_true.mp hall step hstep
  simp only [hdescriptor, Except.toOption, Option.all_some, decide_eq_true_eq] at hone
  rw [hone, decide_eq_true_eq]

/-- **Which satisfied steps verify.**  On the host that was inspected, the verification of a
satisfied step returns exactly when the step is not P1:8, P1:30 or P1:34. -/
theorem verify_satisfied_iff [DecidableEq Profile] (hstep : operation.step ∈ stepCatalog)
    (hhardware : discoverHardware n s.host = .ok s.hardware)
    (huncaptured : Uncaptured s (key operation))
    (hinspect : inspect n operation s = (.ok .satisfied, t)) :
    (verify n operation t).1 = .ok () ↔ operation.step.id ∉ capturedSteps := by
  obtain ⟨descriptor, hdescriptor, h⟩ := inspect_satisfied hinspect
  rw [← needsCapture_iff_mem hstep hdescriptor]
  by_cases hneeds : needsCapture descriptor.action = true
  · have huncaptured' : Uncaptured t (key operation) := by
      rw [inspect_frame hneeds h]
      exact ⟨huncaptured.pagefile, huncaptured.cs2, huncaptured.cs2Config⟩
    simp only [hneeds, not_true_eq_false, iff_false]
    exact verify_of_uncaptured hdescriptor hneeds huncaptured'
  · simp only [hneeds, Bool.false_eq_true, not_false_eq_true, iff_true]
    exact verify_of_satisfied hhardware hdescriptor h (Bool.eq_false_iff.mpr hneeds)

end

/-- P1:8 on a host whose page file Windows manages, as it does by default. -/
private def pagefileStep : Operation := ⟨stepCatalog.get ⟨7, by decide⟩⟩

/-- The page file is satisfied, and its verification fails. -/
theorem verify_satisfied_pagefile :
    inspect plainNative pagefileStep (plainLive {}) = (.ok .satisfied, plainLive {}) ∧
      ¬ (verify plainNative pagefileStep (plainLive {})).1 = .ok () := by
  have hinspect : inspect plainNative pagefileStep (plainLive {}) =
      (.ok .satisfied, plainLive {}) := by
    have hbranch : (plainLive {}).configuredGpuBranch = some .nvidia := by decide +kernel
    rw [inspect_apply rfl hbranch rfl rfl, inspectSupported_apply hbranch (by decide) (by decide)]
    rfl
  have huncaptured : Uncaptured (plainLive {}) (key pagefileStep) :=
    ⟨Std.ExtTreeMap.getElem?_empty, Std.ExtTreeMap.getElem?_empty, Std.ExtTreeMap.getElem?_empty⟩
  refine ⟨hinspect, fun hverify => ?_⟩
  exact (verify_satisfied_iff (by decide) rfl huncaptured hinspect).mp hverify (by decide)

end FrametimeCfg.Verified.RepeatedVerification
